import Mathlib.Data.List.Sort
import Outreach.Proofs.Action
import Outreach.Proofs.Campaign.Counters
import Outreach.Proofs.Store.Tables
import Outreach.Store.Memory

/-!
# The Store in Memory, Operation by Operation

What each operation of the store in memory answers and leaves behind, as one
equation that names every case. A unit of work over this store is its body:
there is nothing to begin, to commit or to give up.

## Theorems

* `Memory.unitOfWork_eq`: A unit of work is its body.
* `Memory.ends_ask`, `Memory.ends_change_of_ok`, `Memory.ends_change_of_error`:
  Asking the store and changing it.
* `Memory.markSending_eq`, `Memory.releaseToPending_eq`,
  `Memory.recordOutcome_eq`, `Memory.completeIfExhausted_eq`,
  `Memory.settleRecord_eq`, `Memory.saveRecords_eq`: The operations on
  campaigns and records.
* `Memory.settleRecord_error`, `Memory.recordOutcome_error`: How two of them fail.
* `Memory.filterM_eq`, `Memory.filterM_of_ok`, `Memory.exists_of_filterM_error`:
  What a test that may fail keeps of a list, and how it fails.
* `Memory.perm_of_findMatching`, `Memory.countP_of_countMatching`: Whom an
  audience query finds and how many it counts.
* `Memory.findMatching_of_ok`, `Memory.findMatching_error`: When it succeeds.
* `Memory.ids_applyTo`: An order leaves the identifiers of customers alone.
* `Memory.mem_applyTo`: It changes customers of its email only.
* `Memory.applyTo_error`: How it fails.
-/

namespace Outreach

namespace Memory

variable {α : Type}

/-- Nothing is begun, committed or given up. -/
theorem unitOfWork_eq (x : Action Memory α) : unitOfWork x = x :=
  Action.capture_rethrow x

section Ends

variable {w : World Memory} {ok : α → World Memory → Prop} {bad : Fault → World Memory → Prop}

@[simp] theorem ends_unitOfWork (x : Action Memory α) :
    Action.Ends (unitOfWork x) w ok bad ↔ Action.Ends x w ok bad := by
  rw [unitOfWork_eq]

@[simp] theorem ends_ask (f : Memory → Except Fault α) :
    Action.Ends (ask f) w ok bad ↔
      (∀ a, f w.store = .ok a → ok a w) ∧ ∀ e, f w.store = .error e → bad e w := by
  simp only [ask, Action.ends_bind, Action.ends_get, Action.ends_ofExcept]

/-- A question that always has an answer. -/
@[simp] theorem ends_ask_ok (f : Memory → α) :
    Action.Ends (ask fun m => .ok (f m)) w ok bad ↔ ok (f w.store) w := Iff.rfl

theorem ends_change_of_ok {f : Memory → Timestamp → Except Fault (Memory × α)} {m : Memory} {a : α}
    (h : f w.store w.time = .ok (m, a)) :
    Action.Ends (change f) w ok bad ↔ ok a { w with store := m } := by
  simp only [change, Action.ends_bind, Action.ends_get, h]
  exact Iff.rfl

theorem ends_change_of_error {f : Memory → Timestamp → Except Fault (Memory × α)} {e : Fault}
    (h : f w.store w.time = .error e) :
    Action.Ends (change f) w ok bad ↔ bad e w := by
  simp only [change, Action.ends_bind, Action.ends_get, h]
  exact Iff.rfl

@[simp] theorem ends_put (f : Memory → Memory) {ok : Unit → World Memory → Prop} :
    Action.Ends (put f) w ok bad ↔ ok () { w with store := f w.store } := Iff.rfl

end Ends

theorem campaign_eq (m : Memory) (id : Uuid) :
    m.campaign id =
      match lookUp Campaign.id id m.tables.campaigns with
      | some c => .ok c
      | none => .error (.entityNotFound .campaign id) := rfl

/-- Only a pending campaign is started. -/
theorem markSending_eq (m : Memory) (id : Uuid) (now : Timestamp) :
    m.markSending id now =
      match lookUp Campaign.id id m.tables.campaigns with
      | none => .error (.entityNotFound .campaign id)
      | some c =>
        if c.status = .pending then
          .ok (m.putCampaign { c with status := .sending, updatedAt := now },
            some { c with status := .sending, updatedAt := now })
        else .ok (m, none) := by
  rw [markSending, campaign_eq]
  cases lookUp Campaign.id id m.tables.campaigns with
  | none => rfl
  | some c =>
      by_cases h : c.status = .pending
      · simp only [bind, Except.bind, Campaign.startSending, h, ne_eq, not_true_eq_false, if_false,
          if_true, pure, Except.pure]
      · simp only [bind, Except.bind, h, ne_eq, not_false_eq_true, if_true, if_false, pure,
          Except.pure]

/-- Only a campaign that is being sent and has no outcomes is put back. -/
theorem releaseToPending_eq (m : Memory) (id : Uuid) (now : Timestamp) :
    m.releaseToPending id now =
      match lookUp Campaign.id id m.tables.campaigns with
      | none => .error (.entityNotFound .campaign id)
      | some c =>
        if c.status = .sending ∧ c.outcomeCount = 0 then
          .ok (m.putCampaign { c with status := .pending, updatedAt := now })
        else .ok m := by
  rw [releaseToPending, campaign_eq]
  cases lookUp Campaign.id id m.tables.campaigns with
  | none => rfl
  | some c =>
      by_cases h : c.status = .sending ∧ c.outcomeCount = 0
      · simp only [bind, Except.bind, Campaign.release, h, and_self, ne_eq, not_true_eq_false,
          if_false, if_true, pure, Except.pure]
      · simp only [bind, Except.bind, h, if_false, pure, Except.pure]

theorem recordOutcome_eq (m : Memory) (id : Uuid) (outcome : DeliveryStatus) (now : Timestamp) :
    m.recordOutcome id outcome now =
      match lookUp Campaign.id id m.tables.campaigns with
      | none => .error (.entityNotFound .campaign id)
      | some c => (c.recordOutcome outcome now).map fun r => (m.putCampaign r.1, r.2) := by
  rw [recordOutcome, campaign_eq]
  cases lookUp Campaign.id id m.tables.campaigns with
  | none => rfl
  | some c =>
      simp only [bind, Except.bind]
      cases c.recordOutcome outcome now <;> rfl

theorem completeIfExhausted_eq (m : Memory) (id : Uuid) (now : Timestamp) :
    m.completeIfExhausted id now =
      match lookUp Campaign.id id m.tables.campaigns with
      | none => .error (.entityNotFound .campaign id)
      | some c =>
        .ok (m.putCampaign (c.completeIfExhausted now).1, (c.completeIfExhausted now).2) := by
  rw [completeIfExhausted, campaign_eq]
  cases lookUp Campaign.id id m.tables.campaigns <;> rfl

/-- Only a state that is an outcome is taken for one. -/
theorem settleRecord_of_not_outcome (m : Memory) (id : Uuid) {outcome : DeliveryStatus}
    (now : Timestamp) (h : ¬outcome.isOutcome) : ∃ f, m.settleRecord id outcome now = .error f := by
  rw [settleRecord]
  cases lookUp DeliveryRecord.id id m.tables.records with
  | none => exact ⟨_, rfl⟩
  | some r =>
      refine ⟨.notAnOutcome outcome.qualified, ?_⟩
      simp only [bind, Except.bind, DeliveryRecord.settle, h, Bool.not_false, if_true]

/-- Only a pending record is settled. -/
theorem settleRecord_eq (m : Memory) (id : Uuid) (outcome : DeliveryStatus) (now : Timestamp)
    (h : outcome.isOutcome) :
    m.settleRecord id outcome now =
      match lookUp DeliveryRecord.id id m.tables.records with
      | none => .error (.entityNotFound .deliveryRecord id)
      | some r =>
        if r.status = .pending then
          .ok (m.putRecord { r with status := outcome, updatedAt := now }, true)
        else .ok (m, false) := by
  rw [settleRecord]
  cases hr : lookUp DeliveryRecord.id id m.tables.records with
  | none => rfl
  | some r =>
      by_cases hp : r.status = .pending
      · simp only [bind, Except.bind, DeliveryRecord.settle, h, Bool.not_true, Bool.false_eq_true,
          if_false, hp, ne_eq, not_true_eq_false, if_true, pure, Except.pure]
      · have hput : m.putRecord r = m := by
          have hself : lookUp DeliveryRecord.id r.id m.tables.records = some r := by
            rw [key_of_lookUp hr]
            exact hr
          rw [putRecord, withTables, upsert_of_lookUp hself]
        simp only [bind, Except.bind, DeliveryRecord.settle, h, Bool.not_true, Bool.false_eq_true,
          if_false, hp, ne_eq, not_false_eq_true, if_true, pure, Except.pure, hput]

/-- Settling a record fails when it is not stored, or with what is no outcome. -/
theorem settleRecord_error {m : Memory} {id : Uuid} {outcome : DeliveryStatus} {now : Timestamp}
    {f : Fault} (h : m.settleRecord id outcome now = .error f) :
    lookUp DeliveryRecord.id id m.tables.records = none ∨ ∃ shown, f = .notAnOutcome shown := by
  cases hr : lookUp DeliveryRecord.id id m.tables.records with
  | none => exact Or.inl rfl
  | some r =>
      by_cases ho : outcome.isOutcome
      · rw [settleRecord_eq _ _ _ _ ho, hr] at h
        simp only at h
        split at h <;> cases h
      · simp only [settleRecord, hr, DeliveryRecord.settle, ho, Bool.not_false, if_true, bind,
          Except.bind] at h
        cases h
        exact Or.inr ⟨_, rfl⟩

/-- Counting an outcome fails in the same two ways. -/
theorem recordOutcome_error {m : Memory} {id : Uuid} {outcome : DeliveryStatus} {now : Timestamp}
    {f : Fault} (h : m.recordOutcome id outcome now = .error f) :
    f = .entityNotFound .campaign id ∨ ∃ shown, f = .notAnOutcome shown := by
  rw [recordOutcome_eq] at h
  cases hc : lookUp Campaign.id id m.tables.campaigns with
  | none =>
      rw [hc] at h
      cases h
      exact Or.inl rfl
  | some c =>
      simp only [hc] at h
      cases ho : c.recordOutcome outcome now with
      | ok r =>
          rw [ho] at h
          cases h
      | error g =>
          rw [Campaign.recordOutcome_of_not_outcome now
            (Campaign.not_isOutcome_of_recordOutcome ho)] at h
          cases h
          exact Or.inr ⟨_, rfl⟩

theorem tables_foldl_putRecord (m : Memory) (rs : List DeliveryRecord) :
    (rs.foldl putRecord m) =
      m.withTables fun t =>
        { t with records := rs.foldl (fun xs r => upsert DeliveryRecord.id r xs) t.records } := by
  induction rs generalizing m with
  | nil => rfl
  | cons r rest ih =>
      rw [List.foldl_cons, ih]
      rfl

/-- A batch is stored as a whole or refused as a whole. -/
theorem saveRecords_eq (m : Memory) (rs : List DeliveryRecord) :
    m.saveRecords rs =
      match m.batchFault with
      | some reason => .error (.storeUnavailable reason)
      | none => .ok (m.withTables fun t => { t with
          records := rs.foldl (fun xs r => upsert DeliveryRecord.id r xs) t.records }) := by
  cases h : m.batchFault with
  | none => simp only [saveRecords, h, tables_foldl_putRecord]
  | some reason => simp only [saveRecords, h]

theorem filterAuxM_eq {β ε : Type} (test : β → Except ε Bool) :
    ∀ (xs acc ys : List β), xs.filterAuxM test acc = .ok ys →
      ys = (xs.filter fun x => (test x).toOption == some true).reverse ++ acc := by
  intro xs
  induction xs with
  | nil =>
      intro acc ys h
      injection h with h
      exact h.symm
  | cons x rest ih =>
      intro acc ys h
      rw [List.filterAuxM] at h
      cases hx : test x with
      | error e =>
          rw [hx] at h
          cases h
      | ok b =>
          rw [hx] at h
          -- What was kept so far stands behind, in reverse.
          rw [ih _ _ h, List.filter_cons, hx]
          cases b
          · rfl
          · simp only [Except.toOption, BEq.rfl, if_true, cond_true, List.reverse_cons,
              List.append_assoc, List.singleton_append]

/-- What a test that may fail keeps of a list is what it accepts. -/
theorem filterM_eq {β ε : Type} {test : β → Except ε Bool} {xs ys : List β}
    (h : xs.filterM test = .ok ys) :
    ys = xs.filter fun x => (test x).toOption == some true := by
  rw [List.filterM] at h
  cases haux : xs.filterAuxM test [] with
  | error e =>
      rw [haux] at h
      cases h
  | ok kept =>
      rw [haux] at h
      injection h with h
      rw [← h, filterAuxM_eq test xs [] kept haux, List.append_nil, List.reverse_reverse]

/-- A test that accepts or rejects every item keeps what it accepts. -/
theorem filterM_of_ok {β ε : Type} {test : β → Except ε Bool} {keep : β → Bool} {xs : List β}
    (h : ∀ x ∈ xs, test x = .ok (keep x)) : xs.filterM test = .ok (xs.filter keep) := by
  have haux : ∀ acc, xs.filterAuxM test acc = .ok ((xs.filter keep).reverse ++ acc) := by
    induction xs with
    | nil => exact fun _ => rfl
    | cons x rest ih =>
        intro acc
        rw [List.filterAuxM, h x List.mem_cons_self]
        refine (ih (fun y hy => h y (List.mem_cons_of_mem _ hy)) _).trans ?_
        rw [List.filter_cons]
        cases keep x with
        | false => rfl
        | true =>
            rw [if_pos rfl, List.reverse_cons, List.append_assoc]
            rfl
  rw [List.filterM, haux]
  simp only [bind, Except.bind, pure, Except.pure, List.append_nil, List.reverse_reverse]

/-- A test of all items fails only if it fails on one. -/
theorem exists_of_filterM_error {β ε : Type} {test : β → Except ε Bool} {e : ε} {xs : List β}
    (h : xs.filterM test = .error e) : ∃ x ∈ xs, test x = .error e := by
  by_contra hnone
  have hok : ∀ x ∈ xs, test x ≠ .error e := fun x hx hfails => hnone ⟨x, hx, hfails⟩
  have haux : ∀ acc, xs.filterAuxM test acc ≠ .error e := by
    clear h hnone
    induction xs with
    | nil => exact fun acc h => nomatch h
    | cons x rest ih =>
        intro acc h
        rw [List.filterAuxM] at h
        cases hx : test x with
        | error e' =>
            rw [hx] at h
            cases h
            exact hok x List.mem_cons_self hx
        | ok b =>
            rw [hx] at h
            exact ih (fun y hy => hok y (List.mem_cons_of_mem _ hy)) _ h
  rw [List.filterM] at h
  cases hkept : xs.filterAuxM test [] with
  | error e' =>
      rw [hkept] at h
      cases h
      exact haux [] hkept
  | ok kept =>
      rw [hkept] at h
      cases h

/-- An audience query finds each stored customer that satisfies the predicate,
    as often as it is stored. -/
theorem perm_of_findMatching {m : Memory} {p : Predicate} {found : List Customer}
    (h : m.findMatching p = .ok found) :
    found.Perm (m.tables.customers.filter fun c => (p.matches c).toOption == some true) := by
  rw [findMatching] at h
  cases ha : m.ensureAvailable with
  | error e =>
      rw [ha] at h
      cases h
  | ok _ =>
      rw [ha] at h
      cases hm : m.matching p with
      | error e =>
          rw [hm] at h
          cases h
      | ok kept =>
          rw [hm] at h
          injection h with h
          -- The answer is sorted, which only changes the order.
          rw [← h, ← filterM_eq hm]
          exact List.mergeSort_perm _ _

/-- An audience is counted as it would be found. -/
theorem countP_of_countMatching {m : Memory} {p : Predicate} {size : Nat}
    (h : m.countMatching p = .ok size) :
    size = m.tables.customers.countP fun c => (p.matches c).toOption == some true := by
  rw [countMatching] at h
  cases ha : m.ensureAvailable with
  | error e =>
      rw [ha] at h
      cases h
  | ok _ =>
      rw [ha] at h
      cases hm : m.matching p with
      | error e =>
          rw [hm] at h
          cases h
      | ok kept =>
          rw [hm] at h
          injection h with h
          rw [← h, filterM_eq hm, List.countP_eq_length_filter]

section

variable {m : Memory} {p : Predicate} {keep : Customer → Bool}

/-- While the store is available and every customer can be matched, audience queries
    succeed. -/
theorem findMatching_of_ok (havailable : m.available = true)
    (h : ∀ c ∈ m.tables.customers, p.matches c = .ok (keep c)) :
    m.findMatching p =
      .ok (inTimeOrder (·.createdAt.instant) Customer.id (m.tables.customers.filter keep)) := by
  rw [findMatching, ensureAvailable, if_pos havailable, matching, filterM_of_ok h]
  rfl

theorem countMatching_of_ok (havailable : m.available = true)
    (h : ∀ c ∈ m.tables.customers, p.matches c = .ok (keep c)) :
    m.countMatching p = .ok (m.tables.customers.countP keep) := by
  rw [countMatching, ensureAvailable, if_pos havailable, matching, filterM_of_ok h,
    List.countP_eq_length_filter]
  rfl

/-- An audience query fails when the store is not available, or because a customer
    cannot be matched. -/
theorem findMatching_error {f : Fault} (h : m.findMatching p = .error f) :
    f.isRepository = true ∨ ∃ c ∈ m.tables.customers, p.matches c = .error f := by
  rw [findMatching, ensureAvailable] at h
  by_cases havailable : m.available = true
  · rw [if_pos havailable] at h
    cases hkept : m.matching p with
    | error e =>
        rw [hkept] at h
        cases h
        exact Or.inr (exists_of_filterM_error hkept)
    | ok kept =>
        rw [hkept] at h
        cases h
  · rw [if_neg havailable] at h
    cases h
    exact Or.inl rfl

end

/-- A customer with a new identifier is stored just if the email is free. -/
theorem saveCustomer_of_new {m : Memory} {c : Customer}
    (hnew : c.id ∉ m.tables.customers.map Customer.id) :
    m.saveCustomer c =
      if c.email ∈ m.tables.customers.map Customer.email then .error (.duplicateEntity c.email)
      else .ok (m.withTables fun t => { t with customers := m.tables.customers ++ [c] }) := by
  have htaken : (m.tables.customers.any fun d => d.email = c.email && d.id != c.id) = true ↔
      c.email ∈ m.tables.customers.map Customer.email := by
    simp only [List.any_eq_true, List.mem_map, Bool.and_eq_true, decide_eq_true_eq, bne_iff_ne]
    refine exists_congr fun d => ⟨fun h => ⟨h.1, h.2.1⟩, fun h => ⟨h.1, h.2, fun hid => ?_⟩⟩
    exact hnew (List.mem_map.2 ⟨d, h.1, hid⟩)
  rw [saveCustomer, withTables, upsert_of_new hnew]
  exact if_congr htaken rfl rfl

/-- An order changes no identifier of a customer. -/
theorem ids_applyTo (email : Text) (amount : Double) (at' : Timestamp) (cs : List Customer) :
    (applyTo email amount at' cs).1.map Customer.id = cs.map Customer.id := by
  induction cs with
  | nil => rfl
  | cons c rest ih =>
      rw [applyTo]
      by_cases h : c.email = email
      · rw [if_pos h, List.map_cons, List.map_cons, Customer.recordOrder]
        cases inUtc at' <;> rfl
      · rw [if_neg h, List.map_cons, List.map_cons, ih]

/-- Only an order of a time without a form in universal time is not applied. -/
theorem applyTo_error {email : Text} {amount : Double} {at' : Timestamp} {cs : List Customer}
    {f : Fault} (h : (applyTo email amount at' cs).2 = .error f) : inUtc at' = .error f := by
  induction cs with
  | nil => cases h
  | cons c rest ih =>
      rw [applyTo] at h
      by_cases hc : c.email = email
      · rw [if_pos hc, Customer.recordOrder] at h
        cases htime : inUtc at' with
        | ok t =>
            rw [htime] at h
            cases h
        | error e =>
            rw [htime] at h
            exact congrArg Except.error (Except.error.inj h)
      · rw [if_neg hc] at h
        exact ih h

/-- An order changes a customer who has its email, and no other one. -/
theorem mem_applyTo {email : Text} {amount : Double} {at' : Timestamp} {c : Customer}
    {cs : List Customer} (h : c ∈ (applyTo email amount at' cs).1) :
    c ∈ cs ∨ ∃ d ∈ cs, d.email = email ∧ c = (d.recordOrder amount at').1 := by
  induction cs with
  | nil => exact Or.inl h
  | cons d rest ih =>
      rw [applyTo] at h
      by_cases hd : d.email = email
      · rw [if_pos hd] at h
        rcases List.mem_cons.1 h with rfl | h
        · exact Or.inr ⟨d, List.mem_cons_self, hd, rfl⟩
        · exact Or.inl (List.mem_cons_of_mem _ h)
      · rw [if_neg hd] at h
        rcases List.mem_cons.1 h with rfl | h
        · exact Or.inl List.mem_cons_self
        · rcases ih h with h | ⟨e, he, hchanged⟩
          · exact Or.inl (List.mem_cons_of_mem _ h)
          · exact Or.inr ⟨e, List.mem_cons_of_mem _ he, hchanged⟩

end Memory

end Outreach
