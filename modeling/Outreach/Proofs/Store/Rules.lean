import Outreach.Proofs.Action
import Outreach.Proofs.Lifecycle.Campaign
import Outreach.Proofs.Rule.Literal
import Outreach.Proofs.Store.Database
import Outreach.Service.Campaigns

/-!
# Rules of Stored Campaigns

The rules of a campaign are stored with it, and no operation of a store changes them but
one that saves the campaign again with other rules. So they are found again whatever
calls have done since, at whatever times, and whether their units of work were committed
or given up.

In a database the rows from before a running transaction have to keep the rules as well,
since a roll-back restores these.

## Main definitions

* `Repository.Operation`: The operations after which a store may hold something else.
* `Repository.runAll`: What some operations leave behind.
* `RuleKeeper`: A store that keeps the rules of its campaigns.

## Theorems

* `RuleKeeper.holds_runAll`: What is kept by each operation is kept by all of them.
* `Campaigns.holds_create`: A new campaign is stored with its rules.
* `Campaigns.exists_campaignById`: It is found again with these rules.
-/

namespace Outreach

open Outreach.Action

/-! ## Operations -/

namespace Repository

/-- An operation after which a store may hold something else. -/
inductive Operation
  | begin
  | commit
  | rollback (f : Fault)
  | saveCustomer (c : Customer)
  | applyOrder (email : Text) (amount : Double) (time : Timestamp)
  | saveCampaign (c : Campaign)
  | markSending (id : Uuid)
  | releaseToPending (id : Uuid)
  | recordOutcome (id : Uuid) (outcome : DeliveryStatus)
  | completeIfExhausted (id : Uuid)
  | saveRecord (r : DeliveryRecord)
  | saveRecords (rs : List DeliveryRecord)
  | settleRecord (id : Uuid) (outcome : DeliveryStatus)
  | saveOrder (o : Order)

namespace Operation

/-- What is done for an operation. -/
def perform {σ : Type} [Repository σ] : Operation → Action σ Unit
  | begin => Repository.begin
  | commit => Repository.commit
  | rollback f => Repository.rollback f
  | saveCustomer c => do let _ ← Repository.saveCustomer c
  | applyOrder email amount time => do let _ ← Repository.applyOrder email amount time
  | saveCampaign c => do let _ ← Repository.saveCampaign c
  | markSending id => do let _ ← Repository.markSending id
  | releaseToPending id => Repository.releaseToPending id
  | recordOutcome id outcome => do let _ ← Repository.recordOutcome id outcome
  | completeIfExhausted id => do let _ ← Repository.completeIfExhausted id
  | saveRecord r => do let _ ← Repository.saveRecord r
  | saveRecords rs => do let _ ← Repository.saveRecords rs
  | settleRecord id outcome => do let _ ← Repository.settleRecord id outcome
  | saveOrder o => do let _ ← Repository.saveOrder o

/-- An operation that saves no campaign with an identifier unless it has some rules. -/
def Keeps (id : Uuid) (rules : List Rule) : Operation → Prop
  | saveCampaign c => c.id = id → c.rules = rules
  | _ => True

end Operation

/-- What some operations leave behind, each of them at a time of its own, whether they
    succeed or fail. -/
def runAll {σ : Type} [Repository σ] (ops : List (Timestamp × Operation)) (w : World σ) : World σ :=
  ops.foldl (fun v op => left op.2.perform { v with clock := op.1 }) w

end Repository

open Repository (Operation)

/-- A store that keeps the rules of its campaigns. -/
class RuleKeeper (σ : Type) [Repository σ] where
  /-- The campaign with an identifier is stored with some rules. -/
  Holds : σ → Uuid → List Rule → Prop
  /-- No operation changes the rules. -/
  ends_perform {w : World σ} {id : Uuid} {rules : List Rule} {op : Operation} :
    Holds w.store id rules → op.Keeps id rules →
      Ends op.perform w (fun _ v => Holds v.store id rules) fun _ v => Holds v.store id rules
  /-- A campaign is stored with its rules. -/
  ends_save (c : Campaign) (w : World σ) :
    Ends (unitOfWork (Repository.saveCampaign c)) w
      (fun saved v => saved = c ∧ Holds v.store c.id c.rules) fun _ _ => True
  /-- It is found with them. -/
  campaignById {w : World σ} {id : Uuid} {rules : List Rule} : Holds w.store id rules →
    ∃ c, Repository.campaignById id w = .ok (some c) w ∧ c.rules = rules

namespace RuleKeeper

variable {σ : Type} [Repository σ] [RuleKeeper σ] {id : Uuid} {rules : List Rule}

/-- What is kept by each operation is kept by all of them. -/
theorem holds_runAll {ops : List (Timestamp × Operation)}
    (hops : ∀ op ∈ ops, op.2.Keeps id rules) {w : World σ} (h : Holds w.store id rules) :
    Holds (Repository.runAll ops w).store id rules := by
  induction ops generalizing w with
  | nil => exact h
  | cons op rest ih =>
      rw [List.forall_mem_cons] at hops
      have hclock : Holds ({ w with clock := op.1 } : World σ).store id rules := h
      exact ih hops.2 (holds_left (ends_perform hclock hops.1))

end RuleKeeper

namespace Campaigns

variable {σ : Type} [Repository σ] [RuleKeeper σ] {w v : World σ} {name message : Text}
  {rules : List Rule} {c : Campaign}

open RuleKeeper

theorem ends_create_of_keeper (name message : Text) (rules : List Rule) (w : World σ) :
    Ends (create name message rules) w
      (fun c v => Holds v.store c.id rules ∧ ∀ r ∈ rules, r.value.Whole) fun _ _ => True := by
  have hcompile : Ends (compileAt rules none) w (fun _ _ => ∀ r ∈ rules, r.value.Whole)
      fun _ _ => True := by
    simp only [compileAt, ends_bind, ends_now, ends_ofExcept, implies_true, and_true]
    exact fun now _ p hp => Rule.whole_of_compile hp
  refine hcompile.bind fun p v hwhole => ?_
  have hcount : Ends (Audience.count p) v (fun _ _ => True) fun _ _ => True :=
    ends_of_forall (fun _ _ => trivial) fun _ _ => trivial
  refine hcount.bind fun size u _ => ?_
  have hdraft : Ends (draft name message rules size) u (fun c _ => c.rules = rules)
      fun _ _ => True := by
    simp only [draft, ends_bind, ends_ofExcept, ends_freshId, ends_now, ends_pure, implies_true,
      and_true]
    exact fun _ _ _ _ => rfl
  refine hdraft.bind ?_
  rintro c t rfl
  refine (ends_save c t).bind ?_
  rintro _ s ⟨rfl, hholds⟩
  simp only [announce, ends_bind, ends_measure, ends_note, ends_pure]
  exact ⟨hholds, hwhole⟩

/-- A new campaign is stored with its rules, whose values have been read. -/
theorem holds_create (h : create name message rules w = .ok c v) :
    Holds v.store c.id rules ∧ ∀ r ∈ rules, r.value.Whole := by
  have hends := ends_create_of_keeper name message rules w
  rwa [Ends, h] at hends

/-- A campaign is found with the rules that it was created with, whatever has been done with
    the store since. -/
theorem exists_campaignById (h : create name message rules w = .ok c v)
    {ops : List (Timestamp × Operation)} (hops : ∀ op ∈ ops, op.2.Keeps c.id rules) :
    ∃ found, Repository.campaignById c.id (Repository.runAll ops v) =
      .ok (some found) (Repository.runAll ops v) ∧ found.rules = rules :=
  campaignById (holds_runAll hops (holds_create h).1)

end Campaigns

/-! ## Tables -/

namespace Tables

variable {κ : Type} {t t' : Tables κ} {id : Uuid} {rules : List Rule}

/-- The rules of the campaign with an identifier, if there is one. -/
def rules? (t : Tables κ) (id : Uuid) : Option (List Rule) :=
  (lookUp Campaign.id id t.campaigns).map Campaign.rules

theorem rules?_congr (h : t'.campaigns = t.campaigns) (id : Uuid) : t'.rules? id = t.rules? id := by
  rw [rules?, rules?, h]

theorem exists_lookUp_of_rules? (h : t.rules? id = some rules) :
    ∃ c, lookUp Campaign.id id t.campaigns = some c ∧ c.rules = rules :=
  Option.map_eq_some_iff.1 h

/-- A campaign is stored with its rules, and the other campaigns keep theirs. -/
theorem rules?_upsert {c : Campaign} (h : t'.campaigns = upsert Campaign.id c t.campaigns)
    (id : Uuid) : t'.rules? id = if c.id = id then some c.rules else t.rules? id := by
  rw [rules?, h, lookUp_upsert, apply_ite (Option.map Campaign.rules)]
  rfl

/-- Storing a campaign with the rules that are expected of it changes none. -/
theorem rules?_upsert_of_keeps {c : Campaign} (h : t'.campaigns = upsert Campaign.id c t.campaigns)
    (hc : c.id = id → c.rules = rules) (hrules : t.rules? id = some rules) :
    t'.rules? id = some rules := by
  rw [rules?_upsert h]
  by_cases hid : c.id = id
  · rw [if_pos hid, hc hid]
  · rw [if_neg hid, hrules]

/-- A change of campaigns one by one that leaves identifiers and rules alone. -/
theorem rules?_map {f : Campaign → Campaign} (h : t'.campaigns = t.campaigns.map f)
    (hf : ∀ c, (f c).id = c.id ∧ (f c).rules = c.rules) (id : Uuid) :
    t'.rules? id = t.rules? id := by
  have hrules : Campaign.rules ∘ f = Campaign.rules := funext fun c => (hf c).2
  rw [rules?, rules?, h, lookUp_map fun c => (hf c).1, Option.map_map, hrules]

end Tables

/-! ## In a database -/

theorem SqlRow.assign_rules (c : Campaign) (column : String) (value : SqlValue) :
    (SqlRow.assign c column value).id = c.id ∧ (SqlRow.assign c column value).rules = c.rules := by
  cases value with
  | text s =>
      simp only [SqlRow.assign]
      split <;> exact ⟨rfl, rfl⟩
  | int n =>
      simp only [SqlRow.assign]
      split
      · exact ⟨rfl, rfl⟩
      · split <;> exact ⟨rfl, rfl⟩
  | time t =>
      simp only [SqlRow.assign]
      split <;> exact ⟨rfl, rfl⟩
  | _ => exact ⟨rfl, rfl⟩

/-- No statement assigns the identifier or the rules of a campaign. -/
theorem SqlUpdate.changed?_rules (u : SqlUpdate) (now : Timestamp) (c : Campaign) :
    ((u.changed? now c).getD c).id = c.id ∧ ((u.changed? now c).getD c).rules = c.rules := by
  have hfold : ∀ values : List (String × SqlValue),
      (values.foldl (fun r v => SqlRow.assign r v.1 v.2) c).id = c.id ∧
        (values.foldl (fun r v => SqlRow.assign r v.1 v.2) c).rules = c.rules := by
    intro values
    induction values using List.reverseRecOn with
    | nil => exact ⟨rfl, rfl⟩
    | append_singleton values v ih =>
        rw [List.foldl_append]
        exact ⟨(SqlRow.assign_rules _ _ _).1.trans ih.1, (SqlRow.assign_rules _ _ _).2.trans ih.2⟩
  rw [changed?]
  split
  · exact hfold _
  · exact ⟨rfl, rfl⟩

namespace Database

variable {d d' : Database} {id : Uuid} {rules : List Rule} {now : Timestamp} {α : Type}
  {w : World Database}

/-- A campaign is stored with some rules, and was so before the running transaction. -/
structure HoldsRules (d : Database) (id : Uuid) (rules : List Rule) : Prop where
  tables : d.tables.rules? id = some rules
  saved : ∀ t ∈ d.saved, t.rules? id = some rules

/-- Rows of customers, records and orders are written without touching a campaign. -/
theorem HoldsRules.beside (h : d.HoldsRules id rules)
    {f : Tables CustomerRow → Tables CustomerRow} (hf : ∀ t, (f t).campaigns = t.campaigns) :
    (d.withTables f).HoldsRules id rules :=
  ⟨(Tables.rules?_congr (hf _) id).trans h.tables, h.saved⟩

theorem HoldsRules.updateCampaigns (h : d.HoldsRules id rules) (u : SqlUpdate) (now : Timestamp) :
    (d.updateCampaigns u now).1.HoldsRules id rules :=
  ⟨(Tables.rules?_map rfl (u.changed?_rules now) id).trans h.tables, h.saved⟩

theorem HoldsRules.restore (h : d.HoldsRules id rules) : d.restore.HoldsRules id rules := by
  refine ⟨?_, nofun⟩
  rw [Database.restore]
  cases hsaved : d.saved with
  | none => exact h.tables
  | some t => exact h.saved t hsaved

/-- A change of the store keeps the rules if what it makes of the store does. -/
theorem ends_change_of_holds {f : Database → Timestamp → Except Fault (Database × α)}
    (h : w.store.HoldsRules id rules)
    (hf : ∀ d a, f w.store w.time = .ok (d, a) → d.HoldsRules id rules) :
    Ends (change f) w (fun _ v => v.store.HoldsRules id rules)
      fun _ v => v.store.HoldsRules id rules := by
  simp only [change, ends_bind, ends_get, ends_ofExcept, ends_set, ends_pure]
  exact ⟨fun r hr => hf r.1 r.2 hr, fun _ _ => h⟩

/-! What is written of other entities. -/

theorem HoldsRules.saveCustomer (h : d.HoldsRules id rules) {c : Customer}
    (hc : d.saveCustomer c now = .ok d') : d'.HoldsRules id rules := by
  simp only [Database.saveCustomer, bind_eq_ok_iff] at hc
  rcases hc with ⟨_, -, hc⟩
  split at hc
  · cases hc
  · cases hc
    exact h.beside fun _ => rfl

theorem HoldsRules.applyOrder (h : d.HoldsRules id rules) {email : Text} {amount : Double}
    {time : Timestamp} {found : Bool}
    (ho : d.applyOrder email amount time now = .ok (d', found)) : d'.HoldsRules id rules := by
  simp only [Database.applyOrder, bind_eq_ok_iff] at ho
  rcases ho with ⟨_, -, ho⟩
  split at ho
  · cases ho
  · cases ho
    exact h.beside fun _ => rfl

theorem HoldsRules.saveRecord (h : d.HoldsRules id rules) {r : DeliveryRecord}
    (hr : d.saveRecord r now = .ok d') : d'.HoldsRules id rules := by
  have hput : ∀ row : DeliveryRecord, (d.putRecord row).HoldsRules id rules :=
    fun row => h.beside fun _ => rfl
  rw [Database.saveRecord] at hr
  split at hr
  · rcases bind_eq_ok_iff.1 hr with ⟨_, -, hr⟩
    split at hr <;> (cases hr; exact hput _)
  · rcases bind_eq_ok_iff.1 hr with ⟨_, -, hr⟩
    cases hr
    exact hput _

theorem HoldsRules.saveRecords (h : d.HoldsRules id rules) {rs : List DeliveryRecord}
    (hrs : d.saveRecords rs = .ok d') : d'.HoldsRules id rules := by
  rw [Database.saveRecords] at hrs
  cases hfault : d.batchFault with
  | some reason =>
      rw [hfault] at hrs
      cases hrs
  | none =>
      simp only [hfault, bind_eq_ok_iff] at hrs
      rcases hrs with ⟨_, -, rows, -, hrs⟩
      cases hrs
      exact h.beside fun _ => rfl

theorem HoldsRules.settleRecord (h : d.HoldsRules id rules) {record : Uuid}
    {outcome : DeliveryStatus} {settled : Bool}
    (hr : d.settleRecord record outcome now = .ok (d', settled)) : d'.HoldsRules id rules := by
  rw [Database.settleRecord] at hr
  split at hr
  · cases hr
  dsimp only at hr
  split at hr
  · cases hr
    exact h.beside fun _ => rfl
  split at hr
  · cases hr
    exact h.beside fun _ => rfl
  · cases hr

theorem HoldsRules.saveOrder (h : d.HoldsRules id rules) {o : Order}
    (ho : d.saveOrder o = .ok d') : d'.HoldsRules id rules := by
  simp only [Database.saveOrder, bind_eq_ok_iff] at ho
  rcases ho with ⟨_, -, ho⟩
  split at ho
  · cases ho
  · rcases bind_eq_ok_iff.1 ho with ⟨rows, -, ho⟩
    cases ho
    exact h.beside fun _ => rfl

/-! What is written of campaigns. -/

/-- A row is written with the rules of the campaign. -/
theorem row_of_saveCampaign {c : Campaign} (h : d.saveCampaign c now = .ok d') :
    ∃ row : Campaign, row.id = c.id ∧ row.rules = c.rules ∧ d' = d.putCampaign row := by
  simp only [saveCampaign, bind_eq_ok_iff] at h
  rcases h with ⟨_, -, _, -, h⟩
  split at h
  · next old hold =>
    have hid : old.id = c.id := key_of_lookUp hold
    cases h
    refine ⟨{ old with
      name := c.name, message := c.message, rules := c.rules, updatedAt := now.naive }, ?_⟩
    exact ⟨hid, rfl, rfl⟩
  · split at h
    · cases h
      exact ⟨campaignRow c, rfl, rfl, rfl⟩
    · cases h

theorem HoldsRules.saveCampaign (h : d.HoldsRules id rules) {c : Campaign}
    (hkeeps : c.id = id → c.rules = rules) (hc : d.saveCampaign c now = .ok d') :
    d'.HoldsRules id rules := by
  rcases row_of_saveCampaign hc with ⟨row, hid, hrules, rfl⟩
  refine ⟨Tables.rules?_upsert_of_keeps rfl ?_ h.tables, h.saved⟩
  rw [hid, hrules]
  exact hkeeps

theorem HoldsRules.markSending (h : d.HoldsRules id rules) {campaign : Uuid}
    {started : Option Campaign} (hc : d.markSending campaign now = .ok (d', started)) :
    d'.HoldsRules id rules := by
  have hafter := h.updateCampaigns (markSendingUpdate campaign) now
  rw [Database.markSending] at hc
  dsimp only at hc
  split at hc
  · rcases bind_eq_ok_iff.1 hc with ⟨_, -, hc⟩
    cases hc
    exact hafter
  · split at hc
    · cases hc
      exact hafter
    · cases hc

theorem HoldsRules.recordOutcome (h : d.HoldsRules id rules) {campaign : Uuid}
    {outcome : DeliveryStatus} {update : CounterUpdate}
    (hc : d.recordOutcome campaign outcome now = .ok (d', update)) : d'.HoldsRules id rules := by
  rw [Database.recordOutcome] at hc
  rcases bind_eq_ok_iff.1 hc with ⟨statement, -, hc⟩
  have hafter := h.updateCampaigns statement now
  dsimp only at hc
  split at hc <;> (cases hc; exact hafter)

theorem ask_of_ok {f : Database → Timestamp → Except Fault α} {a : α}
    (h : f w.store w.time = .ok a) : ask f w = .ok a w := by
  change Action.ofExcept (f w.store w.time) w = _
  rw [h]
  rfl

theorem ends_commit (h : w.store.HoldsRules id rules) :
    Ends commit w (fun _ v => v.store.HoldsRules id rules)
      fun _ v => v.store.HoldsRules id rules := by
  simp only [commit, abandon, ends_bind, ends_get]
  cases w.store.commitFault with
  | none => exact ⟨h.tables, nofun⟩
  | some reason => exact h.restore

instance : RuleKeeper Database where
  Holds := HoldsRules
  ends_perform := by
    intro w id rules op h hop
    cases op with
    | begin =>
        refine ⟨h.tables, fun t ht => ?_⟩
        rw [← Option.some.inj ht]
        exact h.tables
    | commit => exact ends_commit h
    | rollback f => exact h.restore
    | saveCustomer c =>
        refine Ends.discard (ends_change_of_holds h fun d a hd => ?_)
        rcases bind_eq_ok_iff.1 hd with ⟨d', hc, hd⟩
        cases hd
        exact h.saveCustomer hc
    | applyOrder email amount time =>
        exact Ends.discard (ends_change_of_holds h fun d a hd => h.applyOrder hd)
    | saveCampaign c =>
        refine Ends.discard ((ends_change_of_holds h fun d a hd => ?_).bind fun _ _ hv => hv)
        rcases bind_eq_ok_iff.1 hd with ⟨d', hc, hd⟩
        cases hd
        exact h.saveCampaign hop hc
    | markSending campaign =>
        exact Ends.discard (ends_change_of_holds h fun d a hd => h.markSending hd)
    | releaseToPending campaign =>
        change Ends (change fun d now =>
          .ok ((d.updateCampaigns (releaseUpdate campaign) now).1, ())) w _ _
        refine ends_change_of_holds h fun d a hd => ?_
        cases hd
        exact h.updateCampaigns _ _
    | recordOutcome campaign outcome =>
        exact Ends.discard (ends_change_of_holds h fun d a hd => h.recordOutcome hd)
    | completeIfExhausted campaign =>
        refine Ends.discard (ends_change_of_holds h fun d a hd => ?_)
        cases hd
        exact h.updateCampaigns _ _
    | saveRecord r =>
        refine Ends.discard (ends_change_of_holds h fun d a hd => ?_)
        rcases bind_eq_ok_iff.1 hd with ⟨d', hr, hd⟩
        cases hd
        exact h.saveRecord hr
    | saveRecords rs =>
        refine Ends.discard ((ends_change_of_holds h fun d a hd => ?_).bind fun _ _ hv => hv)
        rcases bind_eq_ok_iff.1 hd with ⟨d', hr, hd⟩
        cases hd
        exact h.saveRecords hr
    | settleRecord record outcome =>
        exact Ends.discard (ends_change_of_holds h fun d a hd => h.settleRecord hd)
    | saveOrder o =>
        refine Ends.discard (ends_change_of_holds h fun d a hd => ?_)
        rcases bind_eq_ok_iff.1 hd with ⟨d', ho, hd⟩
        cases hd
        exact h.saveOrder ho
  ends_save := by
    intro c w
    have hsave : Ends (Repository.saveCampaign c) { w with store := w.store.begin }
        (fun saved v => saved = c ∧ v.store.tables.rules? c.id = some c.rules)
        fun _ _ => True := by
      simp only [Repository.saveCampaign, change, ends_bind, ends_get, ends_ofExcept, ends_set,
        ends_pure, ends_note, implies_true, and_true, true_and]
      intro r hr
      rcases bind_eq_ok_iff.1 hr with ⟨d, hd, hr⟩
      rcases row_of_saveCampaign hd with ⟨row, hid, hrules, rfl⟩
      cases hr
      exact (Tables.rules?_upsert rfl c.id).trans (by rw [if_pos hid, hrules])
    simp only [unitOfWork, Repository.begin, Repository.commit, Repository.rollback, ends_bind,
      ends_put, ends_capture]
    refine hsave.mono ?_ fun _ _ _ => ends_of_forall (fun _ _ => trivial) fun _ _ => trivial
    rintro saved v ⟨rfl, hrules⟩
    simp only [commit, ends_bind, ends_get]
    cases v.store.commitFault with
    | none => exact ⟨rfl, hrules, nofun⟩
    | some reason => exact trivial
  campaignById := by
    intro w id rules h
    rcases Tables.exists_lookUp_of_rules? h.tables with ⟨c, hc, hrules⟩
    refine ⟨c, ask_of_ok ?_, hrules⟩
    rw [hc, Option.mapM_some, loadedCampaign_eq]
    rfl

end Database

/-! ## In memory -/

namespace Memory

variable {m m' : Memory} {id : Uuid} {rules : List Rule} {now : Timestamp} {α : Type}
  {w : World Memory}

/-- A campaign is stored with some rules. -/
def HoldsRules (m : Memory) (id : Uuid) (rules : List Rule) : Prop :=
  m.tables.rules? id = some rules

/-- A stored campaign is changed without touching its rules. -/
theorem HoldsRules.change (h : m.HoldsRules id rules) {campaign : Uuid} {c new : Campaign}
    (hc : lookUp Campaign.id campaign m.tables.campaigns = some c) (hkeeps : c.Keeps new) :
    (m.putCampaign new).HoldsRules id rules := by
  refine Tables.rules?_upsert_of_keeps rfl (fun hid => ?_) h
  have hself : id = campaign := by rw [← hid, hkeeps.id, key_of_lookUp hc]
  have hrules : (lookUp Campaign.id id m.tables.campaigns).map Campaign.rules = some rules := h
  rw [hself, hc] at hrules
  exact hkeeps.rules.trans (Option.some.inj hrules)

theorem ends_change_of_holds {f : Memory → Timestamp → Except Fault (Memory × α)}
    (h : w.store.HoldsRules id rules)
    (hf : ∀ m a, f w.store w.time = .ok (m, a) → m.HoldsRules id rules) :
    Ends (change f) w (fun _ v => v.store.HoldsRules id rules)
      fun _ v => v.store.HoldsRules id rules := by
  simp only [Memory.change, ends_bind, ends_get, ends_ofExcept, ends_set, ends_pure]
  exact ⟨fun r hr => hf r.1 r.2 hr, fun _ _ => h⟩

theorem HoldsRules.markSending (h : m.HoldsRules id rules) {campaign : Uuid}
    {started : Option Campaign} (hc : m.markSending campaign now = .ok (m', started)) :
    m'.HoldsRules id rules := by
  rw [markSending_eq] at hc
  split at hc
  · cases hc
  · next c hfound =>
    split at hc
    · cases hc
      exact h.change hfound ((Campaign.Keeps.refl c).of_status _ _)
    · cases hc
      exact h

theorem HoldsRules.releaseToPending (h : m.HoldsRules id rules) {campaign : Uuid}
    (hc : m.releaseToPending campaign now = .ok m') : m'.HoldsRules id rules := by
  rw [releaseToPending_eq] at hc
  split at hc
  · cases hc
  · next c hfound =>
    split at hc
    · cases hc
      exact h.change hfound ((Campaign.Keeps.refl c).of_status _ _)
    · cases hc
      exact h

theorem HoldsRules.recordOutcome (h : m.HoldsRules id rules) {campaign : Uuid}
    {outcome : DeliveryStatus} {update : CounterUpdate}
    (hc : m.recordOutcome campaign outcome now = .ok (m', update)) : m'.HoldsRules id rules := by
  rw [recordOutcome_eq] at hc
  split at hc
  · cases hc
  · next c hfound =>
    cases ho : c.recordOutcome outcome now with
    | error f =>
        rw [ho] at hc
        cases hc
    | ok r =>
        rw [ho] at hc
        cases hc
        have hcall : Campaign.Call.outcome ⟨.record outcome, now⟩ c = .ok (r.1, .update r.2) := by
          simp only [Campaign.Call.outcome, ho]
          rfl
        exact h.change hfound (Campaign.Call.keeps_of_outcome hcall)

theorem HoldsRules.completeIfExhausted (h : m.HoldsRules id rules) {campaign : Uuid}
    {completed : Bool} (hc : m.completeIfExhausted campaign now = .ok (m', completed)) :
    m'.HoldsRules id rules := by
  rw [completeIfExhausted_eq] at hc
  split at hc
  · cases hc
  · next c hfound =>
    cases hc
    have hcall : Campaign.Call.outcome ⟨.complete, now⟩ c =
        .ok ((c.completeIfExhausted now).1, .completed (c.completeIfExhausted now).2) := rfl
    exact h.change hfound (Campaign.Call.keeps_of_outcome hcall)

instance : RuleKeeper Memory where
  Holds := HoldsRules
  ends_perform := by
    intro w id rules op h hop
    cases op with
    | begin => exact h
    | commit => exact h
    | rollback f => exact h
    | saveCustomer c =>
        refine Ends.discard (ends_change_of_holds h fun m a hm => ?_)
        rcases bind_eq_ok_iff.1 hm with ⟨m', hc, hm⟩
        cases hm
        rw [Memory.saveCustomer] at hc
        split at hc
        · cases hc
        · cases hc
          exact h
    | applyOrder email amount time =>
        refine Ends.discard ?_
        simp only [Repository.applyOrder, ends_bind, ends_get, ends_set, ends_ofExcept]
        exact ⟨fun _ _ => h, fun _ _ => h⟩
    | saveCampaign c => exact Tables.rules?_upsert_of_keeps rfl hop h
    | markSending campaign =>
        exact Ends.discard (ends_change_of_holds h fun m a hm => h.markSending hm)
    | releaseToPending campaign =>
        change Ends (change fun m now => return (← m.releaseToPending campaign now, ())) w _ _
        refine ends_change_of_holds h fun m a hm => ?_
        rcases bind_eq_ok_iff.1 hm with ⟨m', hc, hm⟩
        cases hm
        exact h.releaseToPending hc
    | recordOutcome campaign outcome =>
        exact Ends.discard (ends_change_of_holds h fun m a hm => h.recordOutcome hm)
    | completeIfExhausted campaign =>
        exact Ends.discard (ends_change_of_holds h fun m a hm => h.completeIfExhausted hm)
    | saveRecord r => exact h
    | saveRecords rs =>
        refine Ends.discard (ends_change_of_holds h fun m a hm => ?_)
        rcases bind_eq_ok_iff.1 hm with ⟨m', hr, hm⟩
        cases hm
        rw [saveRecords_eq] at hr
        split at hr
        · cases hr
        · cases hr
          exact h
    | settleRecord record outcome =>
        refine Ends.discard (ends_change_of_holds h fun m a hm => ?_)
        rw [Memory.settleRecord] at hm
        split at hm
        · cases hm
        · rcases bind_eq_ok_iff.1 hm with ⟨_, -, hm⟩
          cases hm
          exact h
    | saveOrder o => exact h
  ends_save := by
    intro c w
    rw [unitOfWork_eq]
    exact ⟨rfl, (Tables.rules?_upsert rfl c.id).trans (if_pos rfl)⟩
  campaignById := by
    intro w id rules h
    rcases Tables.exists_lookUp_of_rules? h with ⟨c, hc, hrules⟩
    refine ⟨c, ?_, hrules⟩
    change Action.ofExcept (.ok (lookUp Campaign.id id w.store.tables.campaigns)) w = _
    rw [hc]
    rfl

end Memory

end Outreach
