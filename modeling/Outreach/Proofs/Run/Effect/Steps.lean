import Outreach.Proofs.Campaign.Counters
import Outreach.Proofs.Run.Ledger
import Outreach.Proofs.Run.Stage

/-!
# What a Step of a Call Does

Every way in which a step of a call can end, with the change of the ledger that goes with it.

Where a campaign is started, campaigns change when one is claimed, put back or completed;
records appear when a batch is stored; the sender gets one message at a time. A receipt writes
twice at most: it settles its record, and later counts the outcome for the campaign. Taking
customers and orders in happens aside from campaigns and records. A campaign is stored once,
pending and with nothing counted, under an identifier that was drawn for it.

## Main definitions

* `Dispatch.Effect`, `Receipts.Effect`, `Campaigns.Effect`: The ways in which a step of starting
  a campaign, of recording a receipt and of creating a campaign can end.

## Theorems

* `Dispatch.ends_draft`: The records of a batch, one for each customer, under
  the next identifiers of the supply.
* `Dispatch.advance_effect`, `Receipts.advance_effect`, `Campaigns.advance_effect`: There are no
  other ways.
* `Customers.advance_aside`, `Orders.advance_aside`: Customers and orders.
-/

namespace Outreach

/-! ## Starting a campaign -/

namespace Dispatch

/-- The ways in which a step of a dispatch can end: ledger and stage before,
    ledger and progress after. A failure may have used identifiers up. -/
inductive Effect (args : NewDispatch) :
    Ledger → Stage → Ledger → Progress Stage (List DeliveryRecord) → Prop
  | compiled {k : Ledger} (p : Predicate) :
      Effect args k .compiling k (.underway (.claiming p))
  | claimed {k : Ledger} {p : Predicate} {c : Campaign} (now : Timestamp)
      (stored : k.campaign? args.campaignId = some c)
      (pending : c.status = .pending) :
      Effect args k (.claiming p)
        (k.putCampaign { c with status := .sending, updatedAt := now })
        (.underway (.resolving { c with status := .sending, updatedAt := now } p))
  | declined {k : Ledger} {p : Predicate} {c : Campaign}
      (stored : k.campaign? args.campaignId = some c)
      (started : c.status ≠ .pending) :
      Effect args k (.claiming p) k (.underway .refusing)
  | resolved {k : Ledger} {campaign : Campaign} {p : Predicate} {customers : List Customer}
      (found : customers.Perm
        (k.tables.customers.filter fun c => (p.matches c).toOption == some true)) :
      Effect args k (.resolving campaign p) k (.underway (.drafting campaign customers))
  | unresolved {k : Ledger} {campaign : Campaign} {p : Predicate} (f : Fault) :
      Effect args k (.resolving campaign p) k (.underway (.releasing f))
  | released {k : Ledger} {f : Fault} {c : Campaign} (now : Timestamp)
      (stored : k.campaign? args.campaignId = some c)
      (sending : c.status = .sending) (none_counted : c.outcomeCount = 0) :
      Effect args k (.releasing f) (k.putCampaign { c with status := .pending, updatedAt := now })
        (.raised f)
  | drafted {k : Ledger} {campaign : Campaign} {customers : List Customer}
      {records : List DeliveryRecord}
      (ids : records.map DeliveryRecord.id = k.next customers.length)
      (recipients : records.map DeliveryRecord.customerId = customers.map Customer.id)
      (fresh : ∀ r ∈ records, r.campaignId = args.campaignId ∧ r.status = .pending) :
      Effect args k (.drafting campaign customers) (k.draw customers.length)
        (.underway (.storing customers records))
  | stored {k : Ledger} {customers : List Customer} {records : List DeliveryRecord} :
      Effect args k (.storing customers records) (k.putBatch records)
        (.underway (.handing records (records.zip customers)))
  | unstored {k : Ledger} {customers : List Customer} {records : List DeliveryRecord} (f : Fault) :
      Effect args k (.storing customers records) k (.underway (.releasing f))
  | handed {k : Ledger} {records : List DeliveryRecord} {r : DeliveryRecord} {c : Customer}
      {rest : List (DeliveryRecord × Customer)} (fields : Log.Fields) :
      Effect args k (.handing records ((r, c) :: rest)) (k.hand ⟨r, c, fields⟩)
        (.underway (.handing records rest))
  | closed {k : Ledger} {records : List DeliveryRecord} {c : Campaign} (now : Timestamp)
      (stored : k.campaign? args.campaignId = some c) :
      Effect args k (.handing records []) (k.putCampaign (c.completeIfExhausted now).1)
        (.underway (.closing records (c.completeIfExhausted now).2))
  | finished {k : Ledger} {records : List DeliveryRecord} {completed : Bool} :
      Effect args k (.closing records completed) k (.returned records)
  | failed {k : Ledger} {s : Stage} (f : Fault) (n : Nat) :
      Effect args k s (k.draw n) (.raised f)

variable {args : NewDispatch} {w : World Memory}

/-- A step that fails without having changed the ledger. -/
theorem Effect.raised {k : Ledger} {s : Stage} (f : Fault) : Effect args k s k (.raised f) :=
  .failed f 0

/-- The records of a batch: one for each customer, in order, under the next
    identifiers of the supply. A failure in between has used some of these
    up. -/
theorem ends_draft (id : Uuid) (template : Text) (customers : List Customer) :
    ∀ w : World Memory,
      Action.Ends (draft id template customers) w
        (fun records v => v.ledger = w.ledger.draw customers.length ∧
          records.map DeliveryRecord.id = w.ledger.next customers.length ∧
          records.map DeliveryRecord.customerId = customers.map Customer.id ∧
          ∀ r ∈ records, r.campaignId = id ∧ r.status = .pending)
        (fun _ v => ∃ n, v.ledger = w.ledger.draw n) := by
  induction customers with
  | nil =>
      intro w
      exact ⟨rfl, rfl, rfl, fun _ h => absurd h List.not_mem_nil⟩
  | cons c rest ih =>
      intro w
      -- The first record takes one identifier, and the others those behind it.
      have hsucc : ∀ v : World Memory, ∀ n,
          v.ledger = (World.ledger { w with drawn := w.drawn + 1 }).draw n →
          v.ledger = w.ledger.draw (n + 1) := by
        intro v n h
        rw [h]
        simp only [World.ledger, Ledger.draw, Ledger.mk.injEq, true_and, and_true]
        omega
      simp only [draft, List.mapM_cons, draftOne, Action.ends_bind, Action.ends_freshId,
        Action.ends_now, Action.ends_pure]
      -- Without a time there is no record, but the identifier is gone.
      refine ⟨fun now _ => ?_, fun f _ => ⟨1, rfl⟩⟩
      refine (ih { w with drawn := w.drawn + 1 }).mono ?_ ?_
      · rintro records v ⟨hledger, hids, hcustomers, hfresh⟩
        refine ⟨hsucc v rest.length hledger, ?_, ?_, ?_⟩
        · rw [List.map_cons, hids]
          rfl
        · rw [List.map_cons, hcustomers]
          rfl
        · rintro r hr
          rcases List.mem_cons.1 hr with rfl | hr
          · exact ⟨rfl, rfl⟩
          · exact hfresh r hr
      · rintro f v ⟨n, hn⟩
        exact ⟨n + 1, hsucc v n hn⟩

/-- A step of a dispatch ends in one of these ways. -/
theorem advance_effect (s : Stage) :
    Action.Ends (advance args s) w (fun p v => Effect args w.ledger s v.ledger p)
      (fun f v => Effect args w.ledger s v.ledger (.raised f)) := by
  cases s with
  | compiling =>
      simp only [advance, compileAt, Action.ends_bind, Action.ends_now, Action.ends_ofExcept,
        Action.ends_pure]
      exact ⟨fun _ _ => ⟨fun p _ => .compiled p, fun f _ => .raised f⟩, fun f _ => .raised f⟩
  | claiming p =>
      simp only [advance, mark, Action.ends_bind, Action.ends_capture, Repository.markSending]
      -- The store knows no such campaign, starts it, or declines.
      cases hc : lookUp Campaign.id args.campaignId w.store.tables.campaigns with
      | none =>
          rw [Memory.ends_change_of_error (by rw [Memory.markSending_eq, hc])]
          exact .raised _
      | some c =>
          by_cases hp : c.status = .pending
          · rw [Memory.ends_change_of_ok
              (by rw [Memory.markSending_eq, hc]; exact if_pos hp)]
            exact .claimed _ hc hp
          · rw [Memory.ends_change_of_ok
              (by rw [Memory.markSending_eq, hc]; exact if_neg hp)]
            exact .declined hc hp
  | refusing =>
      simp only [advance, refuse, Action.ends_bind, Repository.campaignById, Memory.ends_ask_ok,
        Action.ends_throw]
      exact .raised _
  | resolving campaign p =>
      simp only [advance, tryResolve, Audience.resolve, Audience.query, Action.ends_bind,
        Action.ends_capture, Memory.ends_unitOfWork, Repository.findMatching, Memory.ends_ask,
        Action.ends_pure, Action.ends_note, Action.ends_ite, Action.ends_throw]
      refine ⟨fun customers h => .resolved (Memory.perm_of_findMatching h),
        fun e _ => ⟨fun _ => .unresolved _, fun _ => ?_⟩⟩
      -- No other failure has the campaign put back.
      cases e with
      | resolverUnavailable reason => exact .unresolved _
      | _ => exact .raised _
  | releasing f =>
      simp only [advance, release, Action.ends_bind, Memory.ends_unitOfWork,
        Repository.releaseToPending]
      cases hc : lookUp Campaign.id args.campaignId w.store.tables.campaigns with
      | none =>
          rw [Memory.ends_change_of_error (by simp only [Memory.releaseToPending_eq, hc]; rfl)]
          exact .raised _
      | some c =>
          -- The call fails in any case, with the fault that made it put back.
          by_cases hp : c.status = .sending ∧ c.outcomeCount = 0
          · rw [Memory.ends_change_of_ok
              (by simp only [Memory.releaseToPending_eq, hc, if_pos hp]; rfl)]
            exact .released _ hc hp.1 hp.2
          · rw [Memory.ends_change_of_ok
              (by simp only [Memory.releaseToPending_eq, hc, if_neg hp]; rfl)]
            exact .raised _
  | drafting campaign customers =>
      simp only [advance, noteChange, Action.ends_bind, Action.ends_ite, Action.ends_note,
        Action.ends_pure]
      -- A warning about the size of the audience does not show on the ledger.
      have hdraft : ∀ v : World Memory, v.ledger = w.ledger →
          Action.Ends (draft args.campaignId args.template customers) v
            (fun records u => Effect args w.ledger (.drafting campaign customers) u.ledger
              (.underway (.storing customers records)))
            (fun f u => Effect args w.ledger (.drafting campaign customers) u.ledger
              (.raised f)) := by
        intro v hv
        refine (ends_draft args.campaignId args.template customers v).mono ?_ ?_
        · rintro records u ⟨hledger, hids, hcustomers, hfresh⟩
          rw [hledger, hv]
          rw [hv] at hids
          exact .drafted hids hcustomers hfresh
        · rintro f u ⟨n, hn⟩
          rw [hn, hv]
          exact .failed f n
      exact ⟨fun _ => hdraft _ rfl, fun _ => hdraft _ rfl⟩
  | storing customers records =>
      simp only [advance, tryStore, announce, Action.ends_bind, Action.ends_capture,
        Memory.ends_unitOfWork, Repository.saveRecords]
      cases hb : w.store.batchFault with
      | none =>
          rw [Memory.ends_change_of_ok (by simp only [Memory.saveRecords_eq, hb]; rfl)]
          exact Effect.stored (k := w.ledger)
      | some reason =>
          rw [Memory.ends_change_of_error (by simp only [Memory.saveRecords_eq, hb]; rfl)]
          exact .unstored _
  | handing records rest =>
      cases rest with
      | nil =>
          simp only [advance, Action.ends_bind, Memory.ends_unitOfWork,
            Repository.completeIfExhausted]
          cases hc : lookUp Campaign.id args.campaignId w.store.tables.campaigns with
          | none =>
              rw [Memory.ends_change_of_error
                (by simp only [Memory.completeIfExhausted_eq, hc]; rfl)]
              exact .raised _
          | some c =>
              rw [Memory.ends_change_of_ok
                (by simp only [Memory.completeIfExhausted_eq, hc]; rfl)]
              exact Effect.closed (k := w.ledger) w.time hc
      | cons x rest =>
          rcases x with ⟨r, c⟩
          simp only [advance, Action.send, Action.ends_bind, Action.ends_get, Action.ends_ite,
            Action.ends_set, Action.ends_throw, Action.ends_pure]
          exact ⟨fun _ => .handed _, fun _ => .raised _⟩
  | closing records completed =>
      simp only [advance, noteCompletion, Action.ends_bind, Action.ends_ite, Action.ends_measure,
        Action.ends_note, Action.ends_pure]
      exact ⟨fun _ => .finished, fun _ => .finished⟩

end Dispatch

/-! ## Recording a receipt -/

namespace Receipts

/-- The ways in which a step of a receipt can end: ledger and stage before,
    ledger and progress after. -/
inductive Effect (args : Receipt) :
    Ledger → Stage → Ledger → Progress Stage ReceiptResult → Prop
  | checked {k : Ledger} (outcome : args.outcome.isOutcome) :
      Effect args k .checking k (.underway .finding)
  | refused {k : Ledger} (f : Fault) (outcome : ¬args.outcome.isOutcome) :
      Effect args k .checking k (.raised f)
  | found {k : Ledger} {r : DeliveryRecord}
      (stored : k.record? args.recordId = some r) :
      Effect args k .finding k (.underway (.settling r))
  | unknown {k : Ledger}
      (unstored : k.record? args.recordId = none) :
      Effect args k .finding k (.raised (.unknownRecord args.recordId))
  | settled {k : Ledger} {record r : DeliveryRecord} (now : Timestamp)
      (outcome : args.outcome.isOutcome)
      (stored : k.record? args.recordId = some r)
      (pending : r.status = .pending) :
      Effect args k (.settling record)
        (k.putRecord { r with status := args.outcome, updatedAt := now })
        (.underway (.counting record))
  | duplicate {k : Ledger} {record r : DeliveryRecord}
      (stored : k.record? args.recordId = some r)
      (settled : r.status ≠ .pending) :
      Effect args k (.settling record) k
        (.returned ⟨args.recordId, record.campaignId, false, false, true⟩)
  | lost {k : Ledger} {record : DeliveryRecord} (f : Fault)
      (unstored : k.record? args.recordId = none ∨
        ¬args.outcome.isOutcome) :
      Effect args k (.settling record) k (.raised f)
  | counted {k : Ledger} {record : DeliveryRecord} {c after : Campaign} {update : CounterUpdate}
      (now : Timestamp)
      (stored : k.campaign? record.campaignId = some c)
      (outcome : c.recordOutcome args.outcome now = .ok (after, update)) :
      Effect args k (.counting record) (k.putCampaign after)
        (.returned ⟨args.recordId, record.campaignId, update.counted, update.completed, false⟩)
  | uncounted {k : Ledger} {record : DeliveryRecord} (f : Fault)
      (unstored : k.campaign? record.campaignId = none ∨
        ¬args.outcome.isOutcome) :
      Effect args k (.counting record) k (.raised f)

variable {args : Receipt} {w : World Memory}

theorem ends_noteUpdate (record : DeliveryRecord) (outcome : DeliveryStatus)
    (update : CounterUpdate) {ok : Unit → World Memory → Prop} {bad : Fault → World Memory → Prop}
    (h : ∀ v : World Memory, v.ledger = w.ledger → ok () v) :
    Action.Ends (noteUpdate record outcome update) w ok bad := by
  simp only [noteUpdate, Action.ends_bind, Action.ends_measure, Action.ends_ite, Action.ends_note,
    Action.ends_pure]
  exact ⟨fun _ => ⟨fun _ => h _ rfl, fun _ => h _ rfl⟩,
    fun _ => ⟨fun _ => h _ rfl, fun _ => h _ rfl⟩⟩

/-- A step of a receipt ends in one of these ways. -/
theorem advance_effect (s : Stage) :
    Action.Ends (advance args s) w (fun p v => Effect args w.ledger s v.ledger p)
      (fun f v => Effect args w.ledger s v.ledger (.raised f)) := by
  cases s with
  | checking =>
      simp only [advance, ensureOutcome, Action.ends_bind, Action.ends_ite, Action.ends_throw,
        Action.ends_pure, Bool.not_eq_true', Bool.not_eq_false]
      exact ⟨fun h => .refused _ (by simp only [h, Bool.false_eq_true, not_false_eq_true]),
        fun h => .checked h⟩
  | finding =>
      simp only [advance, find, Action.ends_bind, Repository.recordById, Memory.ends_ask_ok]
      cases hr : lookUp DeliveryRecord.id args.recordId w.store.tables.records with
      | none => exact .unknown hr
      | some r => exact .found hr
  | settling record =>
      simp only [advance, settle, Action.ends_bind, Action.ends_capture, Repository.settleRecord]
      by_cases ho : args.outcome.isOutcome
      · cases hr : lookUp DeliveryRecord.id args.recordId w.store.tables.records with
        | none =>
            rw [Memory.ends_change_of_error
              (by rw [Memory.settleRecord_eq _ _ _ _ ho, hr])]
            exact .lost _ (Or.inl hr)
        | some r =>
            by_cases hp : r.status = .pending
            · rw [Memory.ends_change_of_ok
                (by rw [Memory.settleRecord_eq _ _ _ _ ho, hr]; exact if_pos hp)]
              exact .settled _ ho hr hp
            · rw [Memory.ends_change_of_ok
                (by rw [Memory.settleRecord_eq _ _ _ _ ho, hr]; exact if_neg hp)]
              exact .duplicate hr hp
      -- No receipt gets here with such a state, but the step alone does not tell.
      · rcases Memory.settleRecord_of_not_outcome w.store args.recordId w.time ho with ⟨f, hf⟩
        rw [Memory.ends_change_of_error hf]
        cases f <;> exact .lost _ (Or.inr ho)
  | counting record =>
      simp only [advance, Action.ends_bind, Repository.recordOutcome]
      cases hc : lookUp Campaign.id record.campaignId w.store.tables.campaigns with
      | none =>
          rw [Memory.ends_change_of_error (by rw [Memory.recordOutcome_eq, hc])]
          exact .uncounted _ (Or.inl hc)
      | some c =>
          cases ho : c.recordOutcome args.outcome w.time with
          | error f =>
              rw [Memory.ends_change_of_error
                (by simp only [Memory.recordOutcome_eq, hc, ho]; rfl)]
              exact .uncounted _ (Or.inr (Campaign.not_isOutcome_of_recordOutcome ho))
          | ok r =>
              rw [Memory.ends_change_of_ok
                (by simp only [Memory.recordOutcome_eq, hc, ho]; rfl)]
              refine ends_noteUpdate _ _ _ fun v hv => ?_
              simp only [Action.ends_pure, hv]
              exact Effect.counted (k := w.ledger) w.time hc ho

end Receipts

/-! ## Taking in and creating -/

variable {w : World Memory}

namespace Customers

/-- Storing a customer happens aside, whether it succeeds or fails. -/
theorem ends_saveCustomer (c : Customer) :
    Action.Ends (Repository.saveCustomer c) w (fun _ v => w.ledger.Aside v.ledger)
      (fun _ v => w.ledger.Aside v.ledger) := by
  simp only [Repository.saveCustomer]
  by_cases h : (w.store.tables.customers.any fun d => d.email = c.email && d.id != c.id) = true
  · rw [Memory.ends_change_of_error (by rw [Memory.saveCustomer, if_pos h]; rfl)]
    exact .refl _
  · rw [Memory.ends_change_of_ok (by rw [Memory.saveCustomer, if_neg h]; rfl)]
    exact ⟨rfl, rfl, rfl, Nat.le_refl _, rfl, nodup_keys_upsert c⟩

theorem advance_aside (args : NewCustomer) (s : Stage) :
    Action.Ends (advance args s) w (fun _ v => w.ledger.Aside v.ledger)
      (fun _ v => w.ledger.Aside v.ledger) := by
  cases s with
  | drafting =>
      simp only [advance, draft, Action.ends_bind, Action.ends_freshId, Action.ends_now,
        Action.ends_ofExcept, Action.ends_pure]
      -- The identifier is gone even if the customer turns out to be invalid.
      have hdraw := Ledger.aside_draw w.ledger 1
      exact ⟨fun _ _ => ⟨fun _ _ => hdraw, fun _ _ => hdraw⟩, fun _ _ => hdraw⟩
  | checking c =>
      simp only [advance, ensureNew, Action.ends_bind, Action.ends_capture,
        Repository.customerByEmail, Memory.ends_ask_ok, Action.ends_ite, Action.ends_throw,
        Action.ends_pure]
      exact ⟨fun _ => .refl _, fun _ => .refl _⟩
  | storing c =>
      simp only [advance, announce, Action.ends_bind, Action.ends_capture, Action.ends_throw,
        Action.ends_note, Action.ends_pure]
      exact ends_saveCustomer c

end Customers

namespace Orders

theorem ends_applyOrder (email : Text) (amount : Double) (arrival : Timestamp) :
    Action.Ends (Repository.applyOrder email amount arrival) w
      (fun _ v => w.ledger.Aside v.ledger) (fun _ v => w.ledger.Aside v.ledger) := by
  -- The customer stays changed when the time of the order has no form.
  have haside : w.ledger.Aside
      (World.ledger { w with store := (w.store.applyOrder email amount arrival).1 }) := by
    refine ⟨rfl, rfl, rfl, Nat.le_refl _, rfl, fun h => ?_⟩
    exact (Memory.ids_applyTo (normalEmail email) amount arrival _).symm ▸ h
  simp only [Repository.applyOrder, Action.ends_bind, Action.ends_get, Action.ends_set,
    Action.ends_ofExcept]
  exact ⟨fun _ _ => haside, fun _ _ => haside⟩

theorem advance_aside (args : NewOrder) (s : Stage) :
    Action.Ends (advance args s) w (fun _ v => w.ledger.Aside v.ledger)
      (fun _ v => w.ledger.Aside v.ledger) := by
  cases s with
  | drafting =>
      simp only [advance, draft, Action.ends_bind, Action.ends_freshId, Action.ends_now,
        Action.ends_ofExcept, Action.ends_pure]
      have hdraw := Ledger.aside_draw w.ledger 1
      exact ⟨fun _ _ => ⟨fun _ _ => ⟨fun _ _ => hdraw, fun _ _ => hdraw⟩, fun _ _ => .refl _⟩,
        fun _ _ => .refl _⟩
  | storing o arrival =>
      simp only [advance, Action.ends_bind, Repository.saveOrder, Memory.ends_put,
        Action.ends_pure]
      exact ⟨rfl, rfl, rfl, Nat.le_refl _, rfl, id⟩
  | applying o stored arrival =>
      simp only [advance, apply, Action.ends_bind, Action.ends_ite, Action.ends_note,
        Action.ends_pure]
      exact (ends_applyOrder stored.customerEmail stored.amount arrival).mono
        (fun _ _ h => ⟨fun _ => h, fun _ => h⟩) fun _ _ h => h

end Orders

namespace Campaigns

/-- The ways in which a step of creating a campaign can end: ledger and stage
    before, ledger and progress after. A failure may have used an identifier
    up. -/
inductive Effect : Ledger → Stage → Ledger → Progress Stage Campaign → Prop
  | compiled {k : Ledger} (p : Predicate) :
      Effect k .compiling k (.underway (.counting p))
  | counted {k : Ledger} {p : Predicate} {size : Nat}
      (found : size = k.tables.customers.countP fun c => (p.matches c).toOption == some true) :
      Effect k (.counting p) k (.underway (.drafting size))
  | drafted {k : Ledger} {size : Nat} {c : Campaign} (id : c.id = k.supply k.drawn)
      (pending : c.status = .pending) (unsent : c.sentCount = 0) (unfailed : c.failedCount = 0)
      (audience : c.audienceSize = size) :
      Effect k (.drafting size) (k.draw 1) (.underway (.storing c size))
  | stored {k : Ledger} {c : Campaign} {size : Nat} :
      Effect k (.storing c size) (k.putCampaign c) (.returned c)
  | failed {k : Ledger} {s : Stage} (f : Fault) (n : Nat) :
      Effect k s (k.draw n) (.raised f)

/-- A step that fails without having changed the ledger. -/
theorem Effect.raised {k : Ledger} {s : Stage} (f : Fault) : Effect k s k (.raised f) :=
  .failed f 0

/-- A step of creating a campaign ends in one of these ways. -/
theorem advance_effect (args : NewCampaign) (s : Stage) :
    Action.Ends (advance args s) w (fun p v => Effect w.ledger s v.ledger p)
      (fun f v => Effect w.ledger s v.ledger (.raised f)) := by
  cases s with
  | compiling =>
      simp only [advance, compileAt, Action.ends_bind, Action.ends_now, Action.ends_ofExcept,
        Action.ends_pure]
      exact ⟨fun _ _ => ⟨fun p _ => .compiled p, fun f _ => .raised f⟩, fun f _ => .raised f⟩
  | counting p =>
      simp only [advance, Audience.count, Audience.query, Action.ends_bind, Action.ends_capture,
        Memory.ends_unitOfWork, Repository.countMatching, Memory.ends_ask, Action.ends_pure,
        Action.ends_note, Action.ends_ite, Action.ends_throw]
      exact ⟨fun size h => .counted (Memory.countP_of_countMatching h),
        fun f _ => ⟨fun _ => .raised _, fun _ => .raised f⟩⟩
  | drafting size =>
      simp only [advance, draft, Action.ends_bind, Action.ends_ofExcept, Action.ends_freshId,
        Action.ends_now, Action.ends_pure]
      exact ⟨fun _ _ => ⟨fun _ _ => .drafted rfl rfl rfl rfl rfl, fun f _ => .failed f 1⟩,
        fun f _ => .raised f⟩
  | storing c size =>
      simp only [advance, announce, Action.ends_bind, Memory.ends_unitOfWork,
        Repository.saveCampaign, Memory.ends_put, Action.ends_pure, Action.ends_measure,
        Action.ends_note]
      exact Effect.stored (k := w.ledger)

end Campaigns

end Outreach
