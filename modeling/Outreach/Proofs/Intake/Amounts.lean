import Outreach.Proofs.Service.Intake
import Outreach.Proofs.Store.Rows

/-!
# Amounts Stay Valid

Customers and orders are taken in by whole calls, one after the other, each at a time
of its own. An amount that was checked when it came in stays valid while orders are
added to it: a sum of numbers that are not negative is not negative, and infinities
of one sign do not cancel.

The checks refuse numbers that are too small, and NaN is not smaller than anything. So
they let it pass, and a spend that NaN was added to stays NaN. That is the only way in
which an amount gets lost, and it takes a call that gives NaN for the very email.

## Main definitions

* `Intake.Request.serve`, `Intake.serveAll`: Calls as a whole, and sequences of them.
* `Intake.Request.GivesNaN`: A call with NaN for an email.
* `Intake.AmountsKept`: What holds of stored amounts.
* `Intake.spending`: A sequence of calls as an example.

## Theorems

* `Double.zero_le_add`: Adding a positive number.
* `Intake.AmountsKept.serve`: One call keeps amounts.
* `Intake.amounts_stay_valid`: So does every sequence of calls.
-/

namespace Outreach

/-! ## Adding to a spend -/

namespace Double

/-- What is not below zero is NaN or not negative. -/
theorem nan_or_zero_le {x : Double} (h : x.lt zero = false) : x = .nan ∨ zero.le x = true := by
  cases x with
  | nan => exact Or.inl rfl
  | number negative rank rank_le =>
      have hplace : ¬signed negative rank < 0 := of_decide_eq_false h
      exact Or.inr (decide_eq_true (Int.not_lt.1 hplace))

/-- What is not zero or below is NaN or positive. -/
theorem nan_or_zero_lt {x : Double} (h : x.le zero = false) : x = .nan ∨ zero.lt x = true := by
  cases x with
  | nan => exact Or.inl rfl
  | number negative rank rank_le =>
      have hplace : ¬signed negative rank ≤ 0 := of_decide_eq_false h
      exact Or.inr (decide_eq_true (Int.not_le.1 hplace))

/-- A number that is not negative stays so when a positive one is added. -/
theorem zero_le_add {x amount : Double} (hx : zero.le x = true) (hamount : zero.lt amount = true) :
    zero.le (x.add amount) = true := by
  cases x with
  | nan => cases hx
  | number s a ha =>
      cases amount with
      | nan => cases hamount
      | number t b hb =>
          have hspend : ¬signed s a < 0 := Int.not_lt.2 (of_decide_eq_true hx)
          have hpositive : ¬signed t b ≤ 0 := Int.not_le.2 (of_decide_eq_true hamount)
          have hadded := @add_of_positive (.number s a ha) (.number t b hb) rfl
            (decide_eq_false hspend) rfl (decide_eq_false hpositive)
          rcases hadded with ⟨rank, hle, hsum, -⟩
          rw [hsum]
          exact decide_eq_true (Int.natCast_nonneg rank)

theorem add_nan (x : Double) : x.add .nan = .nan := by
  cases x <;> rfl

end Double

namespace Intake

/-! ## Calls one after the other -/

/-- The world after a call as a whole. -/
def Request.serve {σ : Type} [Repository σ] : Request → World σ → World σ
  | .customer args => Action.left (Customers.create args)
  | .order args => Action.left (Orders.ingest args)

/-- The world after some calls, each as a whole and at a time of its own. -/
def serveAll {σ : Type} [Repository σ] (calls : List (Timestamp × Request)) (w : World σ) :
    World σ :=
  calls.foldl (fun w x => x.2.serve { w with clock := x.1 }) w

/-- A call that gives NaN as a spend or an amount for an email. -/
def Request.GivesNaN (email : Text) : Request → Prop
  | .customer args => normalEmail args.email = email ∧ args.totalSpends = .nan
  | .order args => normalEmail args.customerEmail = email ∧ args.amount = .nan

/-! ## What is kept -/

/-- What holds of stored amounts, by the calls so far: they are valid, or NaN because a
    call gave NaN for the email. -/
structure AmountsKept (calls : List Request) (t : Tables Customer) : Prop where
  amount : ∀ o ∈ t.orders, Double.zero.lt o.amount = true ∨
    o.amount = .nan ∧ ∃ r ∈ calls, r.GivesNaN o.customerEmail
  spend : ∀ c ∈ t.customers, Double.zero.le c.totalSpends = true ∨
    c.totalSpends = .nan ∧ ∃ r ∈ calls, r.GivesNaN c.email
  visits : ∀ c ∈ t.customers, 0 ≤ c.visits

namespace AmountsKept

variable {calls : List Request} {t : Tables Customer}

theorem empty : AmountsKept [] Tables.empty :=
  ⟨fun _ h => absurd h List.not_mem_nil, fun _ h => absurd h List.not_mem_nil,
    fun _ h => absurd h List.not_mem_nil⟩

/-- Some more calls change nothing about what is stored. -/
theorem more (h : AmountsKept calls t) (others : List Request) :
    AmountsKept (calls ++ others) t := by
  have hmore : ∀ {email}, (∃ r ∈ calls, r.GivesNaN email) →
      ∃ r ∈ calls ++ others, r.GivesNaN email := by
    rintro email ⟨r, hr, hnan⟩
    exact ⟨r, List.mem_append_left _ hr, hnan⟩
  exact ⟨fun o ho => (h.amount o ho).imp_right (.imp_right hmore),
    fun c hc => (h.spend c hc).imp_right (.imp_right hmore), h.visits⟩

/-- A customer that passed the checks is stored. -/
theorem enrol (h : AmountsKept calls t) {args : NewCustomer} {c : Customer}
    (hdrafts : args.Drafts c) : AmountsKept (calls ++ [.customer args]) (t.enrol c) := by
  rcases hdrafts with ⟨id, now, hpasses⟩
  have hkept := h.more [.customer args]
  refine ⟨hkept.amount, fun d hd => ?_, fun d hd => ?_⟩
  · rcases mem_upsert hd with rfl | hd
    · rw [hpasses.spend_eq]
      refine (Double.nan_or_zero_le hpasses.spend).symm.imp_right fun hnan => ⟨hnan, ?_⟩
      exact ⟨_, List.mem_append_right _ List.mem_cons_self, hpasses.email_eq.symm, hnan⟩
    · exact hkept.spend d hd
  · rcases mem_upsert hd with rfl | hd
    · rw [hpasses.visits_eq]
      exact Int.not_lt.1 hpasses.visits
    · exact h.visits d hd

/-- An order that passed the checks is stored and applied. -/
theorem enter (h : AmountsKept calls t) {args : NewOrder} {o : Order} (hdrafts : args.Drafts o)
    (arrival : Timestamp) : AmountsKept (calls ++ [.order args]) (t.enter o arrival) := by
  rcases hdrafts with ⟨id, now, hpasses⟩
  have hkept := h.more [.order args]
  have hemail : normalEmail o.customerEmail = o.customerEmail := by
    rw [hpasses.email_eq]
    exact normalEmail_normalEmail _
  have hamount : Double.zero.lt o.amount = true ∨ o.amount = .nan ∧
      ∃ r ∈ calls ++ [.order args], r.GivesNaN o.customerEmail := by
    rw [hpasses.amount_eq]
    refine (Double.nan_or_zero_lt hpasses.positive).symm.imp_right fun hnan => ⟨hnan, ?_⟩
    exact ⟨_, List.mem_append_right _ List.mem_cons_self, hpasses.email_eq.symm, hnan⟩
  have hchanged : ∀ c : Customer, (c.recordOrder o.amount arrival).1.email = c.email ∧
      (c.recordOrder o.amount arrival).1.totalSpends = c.totalSpends.add o.amount ∧
      (c.recordOrder o.amount arrival).1.visits = c.visits + 1 := by
    intro c
    rw [Customer.recordOrder]
    cases inUtc arrival <;> exact ⟨rfl, rfl, rfl⟩
  refine ⟨fun p hp => ?_, fun c hc => ?_, fun c hc => ?_⟩
  · rcases mem_upsert hp with rfl | hp
    · exact hamount
    · exact hkept.amount p hp
  · rcases Memory.mem_applyTo hc with hc | ⟨d, hd, hown, rfl⟩
    · exact hkept.spend c hc
    · rw [(hchanged d).1, (hchanged d).2.1]
      rcases hkept.spend d hd with hspend | ⟨hspend, hgiven⟩
      · rcases hamount with hpositive | ⟨hnan, hgiven⟩
        · exact Or.inl (Double.zero_le_add hspend hpositive)
        -- The order has the email of the customer that it is applied to.
        · rw [hemail] at hown
          rw [hnan, hown]
          exact Or.inr ⟨Double.add_nan _, hgiven⟩
      · rw [hspend]
        exact Or.inr ⟨rfl, hgiven⟩
  · rcases Memory.mem_applyTo hc with hc | ⟨d, hd, -, rfl⟩
    · exact h.visits c hc
    · rw [(hchanged d).2.2]
      exact Int.le_add_one (h.visits d hd)

/-- One call keeps amounts, whether it succeeds or fails. -/
theorem serve {w : World Memory} (h : AmountsKept calls w.store.tables) (r : Request) :
    AmountsKept (calls ++ [r]) (r.serve w).store.tables := by
  cases r with
  | customer args =>
      refine Action.holds_left (P := fun v => AmountsKept _ v.store.tables)
        ((Customers.ends_create args).mono ?_ ?_)
      · rintro c v ⟨now, -, hpasses, hv⟩
        rw [hv]
        exact h.enrol ⟨_, now, hpasses⟩
      · rintro f v ⟨hv, -⟩
        rw [hv]
        exact h.more _
  | order args =>
      refine Action.holds_left (P := fun v => AmountsKept _ v.store.tables)
        ((Orders.ends_ingest args).mono ?_ ?_)
      · rintro o v ⟨now, -, hpasses, hv⟩
        rw [hv]
        exact h.enter ⟨_, now, hpasses⟩ now
      · rintro f v (⟨hv, -⟩ | ⟨o, now, -, hpasses, hv, -⟩)
        · rw [hv]
          exact h.more _
        · rw [hv]
          exact h.enter ⟨_, now, hpasses⟩ now

theorem serveAll {w : World Memory} (more : List (Timestamp × Request))
    (h : AmountsKept calls w.store.tables) :
    AmountsKept (calls ++ more.map Prod.snd) (serveAll more w).store.tables := by
  induction more generalizing calls w with
  | nil =>
      rw [List.map_nil, List.append_nil]
      exact h
  | cons x rest ih =>
      have hrest := ih (w := x.2.serve { w with clock := x.1 })
        (AmountsKept.serve (w := { w with clock := x.1 }) h x.2)
      rwa [List.append_assoc] at hrest

end AmountsKept

/-- After every sequence of calls from an empty store, stored orders have positive
    amounts, and stored customers spends and visits that are not negative. Only where a
    call has given NaN for an email can an amount be NaN instead. -/
theorem amounts_stay_valid {w : World Memory} (hempty : w.store.tables = Tables.empty)
    (calls : List (Timestamp × Request)) :
    AmountsKept (calls.map Prod.snd) (serveAll calls w).store.tables := by
  have hstart : AmountsKept [] w.store.tables := by
    rw [hempty]
    exact .empty
  exact hstart.serveAll calls

/-! ## Example -/

/-- Ann spends as usual. Bea comes with a spend that is no number, and Cid's order has such
    an amount; Dan's spend and Eve's order are refused. -/
def spending : List (Timestamp × Request) :=
  let customer (name email : Text) (spend : Double) : Request :=
    .customer ⟨name, email, .null, spend, 0, none⟩
  let order (email : Text) (amount : Double) : Request := .order ⟨email, amount, none, []⟩
  [customer "Ann" "ann@example.org" Double.zero, order "ann@example.org" (Double.ofInt 5),
    customer "Bea" "bea@example.org" .nan, order "bea@example.org" (Double.ofInt 1),
    order "cid@example.org" .nan, customer "Dan" "dan@example.org" (Double.ofInt (-1)),
    order "eve@example.org" (Double.infinity true)].map fun r => (⟨⟨2024, 1, 1⟩, 0, some 0⟩, r)

theorem amounts_stay_valid_in_spending :
    let w : World Memory := World.blank ⟨⟨2024, 1, 1⟩, 0, some 0⟩
    let t := (serveAll spending w).store.tables
    w.store.tables = Tables.empty ∧ t.customers.map Customer.totalSpends = [Double.ofInt 5, .nan] ∧
      t.orders.map Order.amount = [Double.ofInt 5, Double.ofInt 1, .nan] ∧
      AmountsKept (spending.map Prod.snd) t := by
  intro w t
  have hempty : w.store.tables = Tables.empty := rfl
  exact ⟨hempty, by decide +kernel, by decide +kernel, amounts_stay_valid hempty spending⟩

/-- NaN passes both checks: after those calls an order is stored that is not positive, and
    a customer whose spend is not at least zero. -/
theorem invalid_amounts_in_spending :
    let t := (serveAll spending (World.blank ⟨⟨2024, 1, 1⟩, 0, some 0⟩)).store.tables
    (∃ o ∈ t.orders, Double.zero.lt o.amount = false) ∧
      ∃ c ∈ t.customers, Double.zero.le c.totalSpends = false := by
  decide +kernel

end Intake

end Outreach
