import Outreach.Proofs.Number.Order
import Outreach.Proofs.Rule.Portable
import Outreach.Proofs.Rule.Wire
import Outreach.Proofs.Text.Normal

/-!
# What Rows Are Loaded As

A row keeps less than the entity that was written. A spend of zero loses its sign,
timestamps lose their zone, and the rules of a campaign are objects. Loading checks
and normalises a row again. For the entities that services store this gives back
what was written: all checks were passed before, every text is in normal form
already, and every timestamp was one of universal time.

Numbers compare the same with and without a sign of zero, so a predicate cannot
tell a customer from the row.

## Main definitions

* `Customer.Storable`, `Order.Storable`: Entities as services store them.
* `Customer.kept`, `Customer.row`: What a row gives back of a customer, and what it
  holds.

## Theorems

* `Customer.Passes.storable`, `Order.Passes.storable`: What passed its checks is one.
* `Customer.loaded_row`, `Order.validated_orderRow`: Loading gives it back.
* `Customer.matches_kept`: A predicate matches what is given back just as the
  customer.
-/

namespace Outreach

/-! ## Spends -/

namespace Double

open Database (storedDouble)

theorem position?_storedDouble (x : Double) : (storedDouble x).position? = x.position? := by
  rw [storedDouble]
  split
  case isTrue h =>
    cases x with
    | nan => cases h
    | number negative rank rank_le => exact congrArg some (of_decide_eq_true h).symm
  case isFalse => rfl

theorem value?_storedDouble (x : Double) : (storedDouble x).value? = x.value? := by
  rw [value?_eq, value?_eq, position?_storedDouble]

theorem isNaN_storedDouble (x : Double) : (storedDouble x).isNaN = x.isNaN := by
  have hposition := position?_storedDouble x
  cases hx : storedDouble x <;> cases x <;> rw [hx] at hposition <;>
    first | rfl | cases hposition

/-- What a column gives back is the same number. -/
theorem eq_storedDouble {x : Double} (hnumber : x.isNaN = false) :
    (storedDouble x).eq x = true := by
  rw [eq, related, position?_storedDouble]
  cases x with
  | nan => cases hnumber
  | number negative rank rank_le => exact decide_eq_true rfl

/-- A number that is not negative: it has no sign, or it is zero. -/
theorem eq_number_of_not_lt {x : Double} (hnumber : x.isNaN = false)
    (h : x.lt Double.zero = false) :
    ∃ negative rank rank_le, x = .number negative rank rank_le ∧ (negative = true → rank = 0) := by
  cases x with
  | nan => cases hnumber
  | number negative rank rank_le =>
      refine ⟨negative, rank, rank_le, rfl, fun hnegative => ?_⟩
      subst hnegative
      have hplace : ¬(-(rank : Int)) < 0 := of_decide_eq_false h
      omega

/-- A positive number has no sign. -/
theorem eq_number_of_not_le {x : Double} (hnumber : x.isNaN = false)
    (h : x.le Double.zero = false) :
    ∃ rank rank_le, x = .number false rank rank_le ∧ 0 < rank := by
  cases x with
  | nan => cases hnumber
  | number negative rank rank_le =>
      have hplace : ¬signed negative rank ≤ 0 := of_decide_eq_false h
      cases negative with
      | true =>
          simp only [signed, if_true] at hplace
          omega
      | false =>
          refine ⟨rank, rank_le, rfl, ?_⟩
          simp only [signed, Bool.false_eq_true, if_false] at hplace
          omega

theorem storedDouble_of_positive (rank : Nat) (rank_le : rank ≤ infinityRank) :
    storedDouble (.number false rank rank_le) = .number false rank rank_le := by
  rw [storedDouble]
  split
  case isTrue h =>
    have hrank : rank = 0 := Int.natCast_eq_zero.1 (of_decide_eq_true h)
    subst hrank
    rfl
  case isFalse => rfl

/-- A positive number added to one that is not negative gives a number without a
    sign, and whether the zero had one does not matter. -/
theorem add_of_positive {x amount : Double} (hx : x.isNaN = false) (hspend : x.lt zero = false)
    (hamount : amount.isNaN = false) (hpositive : amount.le zero = false) :
    ∃ rank rank_le, x.add amount = .number false rank rank_le ∧
      (storedDouble x).add amount = .number false rank rank_le := by
  rcases eq_number_of_not_lt hx hspend with ⟨s, a, ha, rfl, hzero⟩
  rcases eq_number_of_not_le hamount hpositive with ⟨b, hb, rfl, hrank⟩
  have hunits : 0 < units b := by
    have hlt := units_strictMono hrank
    rwa [units_zero] at hlt
  -- Without a sign the sum has none.
  have hsum : ∀ (a : Nat) (ha : a ≤ infinityRank), ∃ rank rank_le,
      (Double.number false a ha).add (.number false b hb) = .number false rank rank_le := by
    intro a ha
    simp only [add]
    split
    case isTrue htop =>
      exact ⟨a, ha, by simp only [ne_eq, not_true_eq_false, and_false, if_false]⟩
    case isFalse =>
      split
      case isTrue => exact ⟨b, hb, rfl⟩
      case isFalse =>
        have hpos : 0 < signed false (units a) + signed false (units b) := by
          simp only [signed, Bool.false_eq_true, if_false]
          omega
        rw [if_neg (by omega), decide_eq_false (by omega)]
        exact ⟨_, Nat.min_le_right _ _, rfl⟩
  cases s with
  | false =>
      rcases hsum a ha with ⟨rank, hle, hadd⟩
      refine ⟨rank, hle, hadd, ?_⟩
      rw [storedDouble_of_positive, hadd]
  | true =>
      cases hzero rfl
      rcases hsum 0 ha with ⟨rank, hle, hadd⟩
      have hzeros : (Double.number true 0 ha).add (.number false b hb) =
          (Double.number false 0 ha).add (.number false b hb) := by
        have hfinite : ¬0 = infinityRank := Nat.ne_of_lt infinityRank_pos
        have hsum : ¬(0 : Int) + units b = 0 := by omega
        simp only [add, units_zero, signed, if_true, Bool.false_eq_true, if_false, hfinite,
          Int.natCast_zero, Int.neg_zero, hsum]
      exact ⟨rank, hle, hzeros.trans hadd, hadd⟩

end Double

/-! ## Timestamps -/

namespace Timestamp

/-- A timestamp in universal time loses nothing with its zone. -/
theorem toUtc?_naive {t : Timestamp} (h : t.ahead = some 0) : t.naive.toUtc? = some t := by
  rcases t with ⟨date, time, ahead⟩
  cases h
  rfl

/-- A timestamp in universal time that is brought there again stays as it is. -/
theorem toUtc?_of_toUtc? {t u : Timestamp} (hahead : t.ahead = some 0) (h : t.toUtc? = some u) :
    u.toUtc? = some u := by
  have hu := ahead_of_toUtc? h
  simp only [toUtc?, hahead] at h
  rw [toUtc?, hu, (wall_ofWall? h).1]
  simp only [Int.sub_zero] at h ⊢
  exact h

end Timestamp

theorem inUtc_naive {t : Timestamp} (h : t.ahead = some 0) : inUtc t.naive = .ok t := by
  rw [inUtc, Timestamp.toUtc?_naive h]

/-! ## Customers -/

/-- What can be stored as a phone number and given back: a text or nothing. -/
def Json.IsPhone : Json → Prop
  | .null => True
  | .text t => t.Whole
  | _ => False

namespace Customer

/-- A customer as services store it: checked, in normal form, with a spend that is
    a number and with texts that have bytes. -/
structure Storable (c : Customer) : Prop where
  named : c.name.isBlankText = false
  strip : c.name.strip = c.name
  wholeName : c.name.Whole
  mailed : c.email.points.contains (.char '@') = true
  normal : normalEmail c.email = c.email
  wholeEmail : c.email.Whole
  phone : c.phone.IsPhone
  number : c.totalSpends.isNaN = false
  spend : c.totalSpends.lt Double.zero = false
  visits : ¬c.visits < 0
  lastVisit : c.lastVisit.ahead = some 0
  createdAt : c.createdAt.ahead = some 0

/-- A customer as a row gives it back: a spend of zero has no sign. -/
def kept (c : Customer) : Customer :=
  { c with totalSpends := Database.storedDouble c.totalSpends }

/-- A customer as a row holds it. -/
def row (c : Customer) : Customer :=
  (Database.customerRow c c.createdAt).customer

variable {c draft : Customer}

theorem storedPhone_eq (h : c.phone.IsPhone) : Database.storedPhone c.phone = c.phone := by
  cases hphone : c.phone with
  | null => rfl
  | text t => rfl
  | _ =>
      rw [hphone] at h
      exact h.elim

/-- The row of a customer is loaded as what was written. -/
theorem loaded_row (h : c.Storable) {r : CustomerRow} (hr : r.customer = c.row) :
    Database.loaded r = .ok c.kept := by
  have hspend : (Database.storedDouble c.totalSpends).lt Double.zero = false := by
    rw [Double.lt, Double.related, Double.position?_storedDouble]
    exact h.spend
  have hmailed := h.mailed
  rw [Database.loaded, hr, row, Database.customerRow, validated]
  simp only [h.named, hspend, hmailed, h.visits, inUtc_naive h.lastVisit, inUtc_naive h.createdAt,
    h.strip, h.normal, storedPhone_eq h.phone, Bool.false_eq_true, Bool.not_true, if_false, bind,
    Except.bind, pure, Except.pure, kept]

/-- A customer that passed its checks can be stored, its spend being a number and
    its texts having bytes. -/
theorem Passes.storable (h : draft.Passes c) (hname : c.name.Whole) (hemail : c.email.Whole)
    (hphone : c.phone.IsPhone) (hnumber : c.totalSpends.isNaN = false) : c.Storable where
  named := h.regular.named
  strip := h.regular.stripped
  wholeName := hname
  mailed := h.regular.mailed
  normal := h.regular.normal
  wholeEmail := hemail
  phone := hphone
  number := hnumber
  spend := by
    rw [h.spend_eq]
    exact h.spend
  visits := Int.not_lt.2 h.regular.visits
  lastVisit := Timestamp.ahead_of_toUtc? (toUtc?_of_inUtc h.lastVisit)
  createdAt := Timestamp.ahead_of_toUtc? (toUtc?_of_inUtc h.createdAt)

/-- An order leaves a customer one that can be stored. -/
theorem Storable.recordOrder (h : c.Storable) {amount : Double} (hamount : amount.isNaN = false)
    (hpositive : amount.le Double.zero = false) {t u : Timestamp} (ht : inUtc t = .ok u) :
    (c.recordOrder amount t).1.Storable := by
  rcases Double.add_of_positive h.number h.spend hamount hpositive with ⟨rank, hle, hadd, -⟩
  have hvisits := h.visits
  rw [Customer.recordOrder, ht]
  exact { h with
    number := by rw [hadd]; rfl
    spend := by
      rw [hadd]
      exact decide_eq_false (Int.not_lt.2 (Int.natCast_nonneg rank))
    visits := by simp only; omega
    lastVisit := Timestamp.ahead_of_toUtc? (toUtc?_of_inUtc ht) }

/-! ## What predicates see -/

/-- Predicates that ask the same facts match the same. -/
theorem standing_kept (c : Customer) (a : Attribute) (v : Operand) :
    (c.kept.fact? a).map (fun fact => fact.standing v) =
      (c.fact? a).map fun fact => fact.standing v := by
  cases a with
  | totalSpends =>
      cases v with
      | int m =>
          simp only [kept, fact?, Option.map_some, Fact.standing, Double.compareInt?_eq,
            Double.value?_storedDouble]
      | double y =>
          simp only [kept, fact?, Option.map_some, Fact.standing, Double.compare?_eq,
            Double.value?_storedDouble]
      | time t => rfl
  | _ => rfl

mutual

/-- A predicate matches what a row gives back just as the customer. -/
theorem matches_kept (c : Customer) : ∀ p : Predicate, p.matches c.kept = p.matches c
  | .all => rfl
  | .compare a x v => by
      have hstanding := standing_kept c a v
      simp only [Predicate.matches]
      cases hc : c.fact? a with
      | none =>
          rw [hc, Option.map_none, Option.map_eq_none_iff] at hstanding
          rw [hstanding]
      | some fact =>
          rw [hc, Option.map_some, Option.map_eq_some_iff] at hstanding
          rcases hstanding with ⟨fact', hkept, heq⟩
          simp only [hkept, heq]
  | .and terms => allMatch_kept c terms
  | .unsupported => rfl

/-- So do all of some predicates. -/
theorem allMatch_kept (c : Customer) : ∀ ps : List Predicate,
    Predicate.allMatch c.kept ps = Predicate.allMatch c ps
  | [] => rfl
  | p :: rest => by
      rw [Predicate.allMatch, Predicate.allMatch, matches_kept c p, allMatch_kept c rest]

end

/-- The conditions of a predicate hold of the row of a customer just if the
    predicate matches the customer. -/
theorem matches_eq_all_conditions (h : c.Storable) {r : CustomerRow} (hr : r.customer = c.row)
    {p : Predicate} (hp : p.Portable) {k : Clause} (hk : k.MadeOf p.comparisons)
    (now : Timestamp) :
    p.matches c = .ok (k.conditions.all fun x => x.holds (SqlRow.column r) now) := by
  have hnaive : r.customer.lastVisit.ahead = none := by
    rw [hr]
    rfl
  have hnumber : r.customer.totalSpends.isNaN = false := by
    rw [hr]
    exact (Double.isNaN_storedDouble _).trans h.number
  have hshows := CustomerRow.shows_of_loaded (loaded_row h hr) hnaive hnumber
  rw [← matches_kept, p.matches_eq_all hshows hp, Clause.all_conditions hk]

end Customer

/-! ## Orders -/

namespace Order

/-- An order as services store it: checked, in normal form, with an amount that is
    a number and with an email that has bytes. -/
structure Storable (o : Order) : Prop where
  normal : normalEmail o.customerEmail = o.customerEmail
  wholeEmail : o.customerEmail.Whole
  number : o.amount.isNaN = false
  positive : o.amount.le Double.zero = false
  date : o.date.ahead = some 0

variable {o draft : Order}

/-- An order that passed its checks can be stored, its amount being a number and its
    email having bytes. -/
theorem Passes.storable (h : draft.Passes o) (hemail : o.customerEmail.Whole)
    (hnumber : o.amount.isNaN = false) : o.Storable where
  normal := by
    rw [h.email_eq]
    exact normalEmail_normalEmail _
  wholeEmail := hemail
  number := hnumber
  positive := by
    rw [h.amount_eq]
    exact h.positive
  date := Timestamp.ahead_of_toUtc? (toUtc?_of_inUtc h.date)

/-- The row of an order is loaded as what was written, but for the zone of its
    creation time. -/
theorem validated_orderRow (h : o.Storable) :
    (Database.orderRow o).validated = .ok { o with createdAt := o.createdAt.naive } := by
  rw [Database.orderRow, validated]
  simp only [h.positive, h.normal, inUtc_naive h.date, Bool.false_eq_true, if_false, bind,
    Except.bind, pure, Except.pure]

end Order

end Outreach
