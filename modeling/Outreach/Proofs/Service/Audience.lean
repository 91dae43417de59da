import Mathlib.Data.List.Nodup
import Mathlib.Data.List.Sort
import Outreach.Proofs.Service.Launch
import Outreach.Store.Tables

/-!
# Audience Queries Agree

One query counts the customers who satisfy a predicate, another one finds them. For rules
that were compiled on an aware clock no customer is left undecided, so both go through all
customers: every one who satisfies the predicate is found once and nobody else, in an order
that only the customers themselves decide, and the count is how many are found. A store
that is not available refuses both queries in the same words.

A preview, the size of a campaign and the audience of a dispatch are read off these
queries. At one instant they are the same number, whatever zones the clocks stand in.

## Main definitions

* `Earlier`: A pair of time and identifier that comes before another.

## Theorems

* `perm_inTimeOrder`: The order loses and adds nothing.
* `pairwise_inTimeOrder`: Entities with different identifiers come strictly one after the
  other.
* `inTimeOrder_of_perm`: Only the entities matter, not the order they came in.
* `Rule.sequential_of_instant`: Only the instant at which rules are read matters.
* `Audience.ends_query_of_ok`, `Audience.ends_query_of_refusal`: How a query of the store
  becomes one of the audience.
* `Audience.queries_agree`: Finding, counting, previewing, creating and resolving.
-/

namespace Outreach

/-! ## Entities in order of time

Entities by time and identifier stand in an order that leaves nothing open: where
identifiers are apart, two entities of one time are told apart by them. What is put in
this order therefore comes out alike whatever order it came in. -/

/-- One pair of time and identifier comes before another. -/
def Earlier (s t : Int × Uuid) : Prop :=
  s.1 < t.1 ∨ s.1 = t.1 ∧ s.2.toNat < t.2.toNat

theorem Uuid.toNat_injective {a b : Uuid} (h : a.toNat = b.toNat) : a = b := by
  rcases a with ⟨a⟩
  rcases b with ⟨b⟩
  exact congrArg Uuid.mk (BitVec.eq_of_toNat_eq h)

theorem noLater_iff {s t : Int × Uuid} :
    noLater s t = true ↔ s.1 < t.1 ∨ s.1 = t.1 ∧ s.2.toNat ≤ t.2.toNat := by
  simp only [noLater, Bool.or_eq_true, Bool.and_eq_true, decide_eq_true_eq]

theorem noLater_trans {s t u : Int × Uuid} (h : noLater s t = true) (h' : noLater t u = true) :
    noLater s u = true := by
  rw [noLater_iff] at h h' ⊢
  omega

theorem noLater_total (s t : Int × Uuid) : (noLater s t || noLater t s) = true := by
  rw [Bool.or_eq_true, noLater_iff, noLater_iff]
  omega

/-- What comes no later and has another identifier comes before. -/
theorem earlier_of_noLater {s t : Int × Uuid} (h : noLater s t = true) (hne : s.2 ≠ t.2) :
    Earlier s t := by
  rcases noLater_iff.1 h with hlt | ⟨heq, hle⟩
  · exact .inl hlt
  · exact .inr ⟨heq, Nat.lt_of_le_of_ne hle fun hsame => hne (Uuid.toNat_injective hsame)⟩

theorem Earlier.asymm {s t : Int × Uuid} (h : Earlier s t) : ¬Earlier t s := by
  rw [Earlier] at h ⊢
  omega

section

variable {α : Type} {time : α → Int} {key : α → Uuid} {xs ys : List α}

/-- The order loses and adds nothing. -/
theorem perm_inTimeOrder (time : α → Int) (key : α → Uuid) (xs : List α) :
    (inTimeOrder time key xs).Perm xs :=
  List.mergeSort_perm xs _

/-- Entities with different identifiers come strictly one after the other. -/
theorem pairwise_inTimeOrder (hkeys : (xs.map key).Nodup) :
    (inTimeOrder time key xs).Pairwise fun a b => Earlier (time a, key a) (time b, key b) := by
  have hsorted : (inTimeOrder time key xs).Pairwise fun a b =>
      noLater (time a, key a) (time b, key b) = true := by
    refine List.pairwise_mergeSort ?_ ?_ xs
    · exact fun _ _ _ => noLater_trans
    · exact fun _ _ => noLater_total _ _
  have hapart : (inTimeOrder time key xs).Pairwise fun a b => key a ≠ key b :=
    List.pairwise_map.1 (((perm_inTimeOrder time key xs).map key).nodup_iff.2 hkeys)
  exact (hsorted.and hapart).imp fun h => earlier_of_noLater h.1 h.2

/-- Only the entities matter, not the order they came in. -/
theorem inTimeOrder_of_perm (h : xs.Perm ys) (hkeys : (xs.map key).Nodup) :
    inTimeOrder time key xs = inTimeOrder time key ys := by
  have hperm : (inTimeOrder time key xs).Perm (inTimeOrder time key ys) :=
    ((perm_inTimeOrder time key xs).trans h).trans (perm_inTimeOrder time key ys).symm
  have hkeys' : (ys.map key).Nodup := (h.map key).nodup_iff.1 hkeys
  -- No two entities could stand either way round.
  exact hperm.eq_of_pairwise (fun _ _ _ _ hab hba => absurd hba hab.asymm)
    (pairwise_inTimeOrder hkeys) (pairwise_inTimeOrder hkeys')

end

/-! ## Audience queries agree -/

open Outreach.Action

/-! ## Rules at one instant -/

/-- Only the instant at which rules are read matters, not the clock that shows it. -/
theorem Rule.sequential_of_instant {now now' : Timestamp} (h : now.instant = now'.instant)
    (c : Customer) (rules : List Rule) : sequential now c rules = sequential now' c rules := by
  have hholds : ∀ r : Rule, r.holds now c = r.holds now' c := by
    rintro ⟨field, operator, value, logic⟩
    cases field with
    | totalSpends => rfl
    | visits => rfl
    | lastVisit => simp only [holds, h]
  rw [sequential_eq_all, sequential_eq_all]
  exact congrArg rules.all (funext hholds)

/-! ## Queries of the store and of the audience -/

namespace Audience

section

variable {α : Type} {w : World Memory} {x : Action Memory α} {p : Predicate}
  {f : Memory → Except Fault α} {ok : α → World Memory → Prop} {bad : Fault → World Memory → Prop}

/-- A query that the store answers is answered. -/
theorem ends_query_of_ok {complaint : Text} {a : α} (h : f w.store = .ok a) :
    Ends (query complaint (Memory.ask f)) w ok bad ↔ ok a w := by
  simp only [query, ends_bind, ends_capture, Memory.ends_unitOfWork, Memory.ends_ask, h,
    Except.ok.injEq, forall_eq', reduceCtorEq, false_implies, implies_true, and_true, ends_pure]

/-- A query that the store refuses is noted and refused. -/
theorem ends_query_of_refusal {complaint : Text} {e : Fault} (he : e.isRepository = true)
    (h : f w.store = .error e) :
    Ends (query complaint (Memory.ask f)) w ok bad ↔ bad (.resolverUnavailable e.message)
      { w with log := ⟨.error, .audience, complaint ++ e.message, w.fields⟩ :: w.log } := by
  simp only [query, ends_bind, ends_capture, Memory.ends_unitOfWork, Memory.ends_ask, h,
    Except.error.injEq, forall_eq', reduceCtorEq, false_implies, implies_true, true_and, he,
    if_true, ends_note, ends_throw]

/-- An audience is resolved as the store finds it. -/
theorem ends_resolve_of_ok {found : List Customer} (h : w.store.findMatching p = .ok found) :
    Ends (resolve p) w (fun cs _ => cs = found) fun _ _ => False := by
  rw [resolve, ends_bind]
  exact (ends_query_of_ok h).2 rfl

theorem ends_resolve_of_refusal {e : Fault} (he : e.isRepository = true)
    (h : w.store.findMatching p = .error e) :
    Ends (resolve p) w (fun _ _ => False) fun f _ => f = .resolverUnavailable e.message := by
  rw [resolve, ends_bind]
  exact (ends_query_of_refusal he h).2 rfl

end

variable {m : Memory} {p : Predicate} {rules : List Rule} {now : Timestamp}

/-- A store that is not available refuses to find and to count in the same words. -/
theorem refused_of_unavailable (h : m.available = false) :
    ∃ reason, m.findMatching p = .error (.storeUnavailable reason) ∧
      m.countMatching p = .error (.storeUnavailable reason) := by
  refine ⟨"In-memory customer store is unavailable", ?_, ?_⟩
  · rw [Memory.findMatching, Memory.ensureAvailable, h]
    rfl
  · rw [Memory.countMatching, Memory.ensureAvailable, h]
    rfl

/-- Who is found and how many are counted is decided by the stored customers, not by the
    order in which they stand. -/
theorem findMatching_of_perm {keep : Customer → Bool} {cs : List Customer}
    (havailable : m.available = true) (hperm : m.tables.customers.Perm cs)
    (hids : (cs.map Customer.id).Nodup) (hmatches : ∀ c ∈ cs, p.matches c = .ok (keep c)) :
    m.findMatching p = .ok (inTimeOrder (·.createdAt.instant) Customer.id (cs.filter keep)) ∧
      m.countMatching p = .ok (cs.countP keep) := by
  have hmatches' : ∀ c ∈ m.tables.customers, p.matches c = .ok (keep c) := fun c hc =>
    hmatches c (hperm.mem_iff.1 hc)
  have hkept : ((m.tables.customers.filter keep).map Customer.id).Nodup :=
    ((hperm.map Customer.id).nodup_iff.2 hids).sublist (List.filter_sublist.map Customer.id)
  rw [Memory.findMatching_of_ok havailable hmatches',
    Memory.countMatching_of_ok havailable hmatches', hperm.countP_eq, inTimeOrder_of_perm (hperm.filter keep) hkept]
  exact ⟨rfl, rfl⟩

/-- Audience queries of a store with distinct customers, by the predicate of some rules that
    were compiled at an aware time.

    A store that is available finds every customer who satisfies the predicate once and
    nobody else, strictly one after the other by creation time and identifier. It counts as
    many, and any store with the same customers in another order answers alike. Asked at the
    instant at which the rules were compiled, a preview counts these customers, a new
    campaign has them for its size and a dispatch resolves just them.

    A store that is not available refuses both queries in the same words, and so do the two
    services on top of them. That the last visits are aware holds of every customer from the
    beginning, by `Customer.isAware_of_validated` and `Customer.isAware_recordOrder`. -/
theorem queries_agree (hnow : now.isAware = true) (hp : Rule.compile rules now = .ok p)
    (hvisits : ∀ c ∈ m.tables.customers, c.lastVisit.isAware = true)
    (hids : (m.tables.customers.map Customer.id).Nodup) :
    (m.available = true → ∃ found, m.findMatching p = .ok found ∧ found.Nodup ∧
      (∀ c, c ∈ found ↔ c ∈ m.tables.customers ∧ p.matches c = .ok true) ∧
      (found.Pairwise fun c d => Earlier (c.createdAt.instant, c.id) (d.createdAt.instant, d.id)) ∧
      m.countMatching p = .ok found.length ∧
      (∀ m' : Memory, m'.available = true → m'.tables.customers.Perm m.tables.customers →
        m'.findMatching p = .ok found ∧ m'.countMatching p = .ok found.length) ∧
      ∀ w : World Memory, w.store = m → inUtc w.clock = .ok w.clock →
        w.clock.instant = now.instant → (∃ q, Rule.compile rules w.clock = .ok q) →
          (∃ v, resolve p w = .ok found v) ∧
          (∃ v, preview rules (some now) w = .ok found.length v) ∧
          (∃ v, preview rules none w = .ok found.length v) ∧
          ∀ name message : Text, name.isBlankText = false → message.isBlankText = false →
            ∃ c v, Campaigns.create name message rules w = .ok c v ∧
              c.audienceSize = found.length) ∧
    (m.available = false → ∃ reason, m.findMatching p = .error (.storeUnavailable reason) ∧
      m.countMatching p = .error (.storeUnavailable reason) ∧
      ∀ w : World Memory, w.store = m → ∃ refusal, (∃ v, resolve p w = .error refusal v) ∧
        ∃ v, count p w = .error refusal v) := by
  have hmatches : ∀ c ∈ m.tables.customers, p.matches c = .ok (Rule.sequential now c rules) := by
    rcases Rule.exists_compile_all hnow hvisits (Rule.exists_compile_iff.1 ⟨p, hp⟩) with ⟨q, hq, h⟩
    cases hp.symm.trans hq
    exact h
  refine ⟨fun havailable => ?_, fun hunavailable => ?_⟩
  · have hsame := fun (m' : Memory) (ha : m'.available = true)
        (hperm : m'.tables.customers.Perm m.tables.customers) =>
      findMatching_of_perm ha hperm hids hmatches
    rcases hsame m havailable (List.Perm.refl _) with ⟨hfind, hcount⟩
    have hkept :
        ((m.tables.customers.filter (Rule.sequential now · rules)).map Customer.id).Nodup :=
      hids.sublist (List.filter_sublist.map Customer.id)
    generalize hfound : inTimeOrder (·.createdAt.instant) Customer.id
      (m.tables.customers.filter (Rule.sequential now · rules)) = found at hfind hsame
    have hperm : found.Perm (m.tables.customers.filter (Rule.sequential now · rules)) :=
      hfound ▸ perm_inTimeOrder _ _ _
    have hlength : m.tables.customers.countP (Rule.sequential now · rules) = found.length := by
      rw [hperm.length_eq, List.countP_eq_length_filter]
    rw [hlength] at hcount hsame
    refine ⟨found, hfind, ?_, fun c => ?_, ?_, hcount, hsame, ?_⟩
    · exact hperm.nodup_iff.2 hkept.of_map
    · rw [hperm.mem_iff, List.mem_filter]
      exact and_congr_right fun hc => by rw [hmatches c hc, Except.ok.injEq]
    · exact hfound ▸ pairwise_inTimeOrder hkept
    · rintro w rfl hclock hinstant hcompiles
      have hreadable : w.Readable rules :=
        ⟨havailable, hclock, hvisits, Rule.exists_compile_iff.1 hcompiles⟩
      have hsize : w.audienceSize rules = found.length := by
        rw [← hlength]
        exact List.countP_congr fun c _ => by rw [Rule.sequential_of_instant hinstant]
      refine ⟨?_, ?_, ?_, fun name message hname hmessage => ?_⟩
      · rcases exists_of_ends (ends_resolve_of_ok hfind) with ⟨_, v, hresolve, rfl⟩
        exact ⟨v, hresolve⟩
      · have hcompile : Rule.compile rules ((some now).getD w.clock) = .ok p := hp
        have hpreview : Ends (preview rules (some now)) w (fun n _ => n = found.length)
            fun _ _ => False := by
          rw [preview, ends_bind, ends_compileAt_of_ok hclock hcompile]
          exact (ends_query_of_ok hcount).2 rfl
        rcases exists_of_ends hpreview with ⟨_, v, hdone, rfl⟩
        exact ⟨v, hdone⟩
      · rcases exists_of_ends (ends_preview hreadable) with ⟨_, v, hdone, rfl⟩
        exact ⟨v, hsize ▸ hdone⟩
      · rcases exists_of_ends (Campaigns.ends_create_of_ok hreadable hname hmessage) with
          ⟨c, v, hdone, hc, -⟩
        exact ⟨c, v, hdone, hc.trans (congrArg _ hsize)⟩
  · rcases refused_of_unavailable (p := p) hunavailable with ⟨reason, hfind, hcount⟩
    refine ⟨reason, hfind, hcount, ?_⟩
    rintro w rfl
    rcases failed_of_ends (ends_resolve_of_refusal rfl hfind) with ⟨_, u, hresolve, rfl⟩
    have hcounting : Ends (count p) w (fun _ _ => False)
        fun f _ => f = .resolverUnavailable (Fault.storeUnavailable reason).message :=
      (ends_query_of_refusal rfl hcount).2 rfl
    rcases failed_of_ends hcounting with ⟨_, v, hdone, rfl⟩
    exact ⟨_, ⟨u, hresolve⟩, v, hdone⟩

/-- Two customers of one creation time and an earlier one who is not asked for, stored in two
    orders: the two are found by their identifiers. -/
theorem queries_agree_sample :
    let now : Timestamp := ⟨⟨2024, 6, 1⟩, 0, some 0⟩
    let rules : List Rule := [⟨.visits, .greaterEqual, "2", .and⟩]
    let customer (n : Nat) (visits : Int) (day : Nat) : Customer :=
      { (default : Customer) with
        id := Uuid.ofNat n
        visits := visits
        lastVisit := now
        createdAt := ⟨⟨2024, 5, day⟩, 0, some 0⟩ }
    let store (cs : List Customer) : Memory := ⟨⟨cs, [], [], []⟩, true, none⟩
    let m := store [customer 7 3 9, customer 5 1 8, customer 4 2 9]
    let m' := store [customer 4 2 9, customer 5 1 8, customer 7 3 9]
    (now.isAware = true ∧ (∀ c ∈ m.tables.customers, c.lastVisit.isAware = true) ∧
      (m.tables.customers.map Customer.id).Nodup) ∧
    ∃ p, Rule.compile rules now = .ok p ∧
      m.findMatching p = .ok [customer 4 2 9, customer 7 3 9] ∧
      m'.findMatching p = .ok [customer 4 2 9, customer 7 3 9] ∧ m'.countMatching p = .ok 2 ∧
      ∃ v, preview rules none { World.blank now with store := m } = .ok 2 v := by
  intro now rules customer store m m'
  have hvisits : ∀ c ∈ m.tables.customers, c.lastVisit.isAware = true := by decide +kernel
  have hids : (m.tables.customers.map Customer.id).Nodup := by decide +kernel
  have hperm : m'.tables.customers.Perm m.tables.customers :=
    List.reverse_perm m.tables.customers
  have hclock : inUtc now = .ok now := inUtc_eq_ok_iff.2 (by decide +kernel)
  have hparses : ∀ r ∈ rules, r.Parses now := by decide +kernel
  rcases Rule.exists_compile_all rfl hvisits hparses with ⟨p, hp, hmatches⟩
  rcases (queries_agree (show now.isAware = true from rfl) hp hvisits hids).1 rfl with
    ⟨found, hfind, -, -, hordered, -, hsame, hservices⟩
  have hasked : (m.tables.customers.filter (Rule.sequential now · rules)).Perm
      [customer 4 2 9, customer 7 3 9] := by
    have hseven : Rule.sequential now (customer 7 3 9) rules = true := by decide +kernel
    have hfive : Rule.sequential now (customer 5 1 8) rules = false := by decide +kernel
    have hfour : Rule.sequential now (customer 4 2 9) rules = true := by decide +kernel
    simp only [m, store, List.filter_cons, hseven, hfive, hfour, Bool.false_eq_true, if_true,
      if_false, List.filter_nil]
    exact List.Perm.swap _ _ _
  have hfound : found = [customer 4 2 9, customer 7 3 9] := by
    cases hfind.symm.trans (Memory.findMatching_of_ok rfl hmatches)
    -- The order of the two is that of their identifiers.
    refine ((perm_inTimeOrder _ _ _).trans hasked).eq_of_pairwise
      (fun _ _ _ _ h h' => absurd h' h.asymm) hordered ?_
    exact List.pairwise_pair.2 (.inr ⟨rfl, by decide⟩)
  subst hfound
  rcases hsame m' rfl hperm with ⟨hfind', hcount'⟩
  rcases hservices { World.blank now with store := m } rfl hclock rfl ⟨p, hp⟩ with
    ⟨-, -, hpreview, -⟩
  exact ⟨⟨rfl, hvisits, hids⟩, p, hp, hfind, hfind', hcount', hpreview⟩

end Audience

end Outreach
