import Outreach.Proofs.Run.Tokens

/-!
# Identifiers Are Used Once

Every identifier that a campaign, a delivery record or a call on the way to
storing one of these bears was drawn for it alone. A new entity therefore never
takes the place of another one.

## Main definitions

* `Ledger.identifiers`: The identifiers of what is stored.
* `Run.Board.Identified`: Every identifier is in use once.
* `Campaign.target`: A campaign and its size.

## Theorems

* `Run.Board.Reachable.identified`: That is so on every board.
* `Run.Board.Reachable.owned`: What every step passes is held once on every
  board.
* `Run.Task.Effect.created`: Only creating a campaign adds one.
* `Run.Board.Reachable.created`: The stored campaigns are those created.
-/

namespace Outreach

namespace Ledger

variable {k : Ledger} {n : Nat} {id : Uuid}

/-- The identifiers of the stored campaigns and records. -/
def identifiers (k : Ledger) : List Uuid :=
  k.tables.campaigns.map Campaign.id ++ k.tables.records.map DeliveryRecord.id

theorem identifiers_putCampaign {c c' : Campaign} (h : k.campaign? id = some c)
    (hid : c'.id = c.id) : (k.putCampaign c').identifiers = k.identifiers := by
  rw [identifiers, map_putCampaign Campaign.id h hid hid]
  rfl

theorem identifiers_putRecord {r r' : DeliveryRecord} (h : k.record? id = some r)
    (hid : r'.id = r.id) : (k.putRecord r').identifiers = k.identifiers := by
  rw [identifiers, map_putRecord DeliveryRecord.id h hid hid]
  rfl

/-- The identifier of a new campaign is added. -/
theorem identifiers_create {c : Campaign} (h : c.id ∉ k.identifiers) :
    (k.putCampaign c).identifiers.Perm ([c.id] ++ k.identifiers) := by
  have hnew : c.id ∉ k.tables.campaigns.map Campaign.id := fun hm => h (List.mem_append_left _ hm)
  simp only [identifiers, putCampaign, upsert_of_new hnew, List.map_append, List.append_assoc]
  exact List.perm_append_comm_assoc _ _ _

/-- The identifiers of a new batch are added. -/
theorem identifiers_putBatch {rs : List DeliveryRecord}
    (h : (rs.map DeliveryRecord.id ++ k.identifiers).Nodup) :
    (k.putBatch rs).tables.records = k.tables.records ++ rs ∧
      (k.putBatch rs).identifiers.Perm (rs.map DeliveryRecord.id ++ k.identifiers) := by
  have hperm : (rs.map DeliveryRecord.id ++ k.identifiers).Perm
      (k.tables.campaigns.map Campaign.id ++ (k.tables.records ++ rs).map DeliveryRecord.id) := by
    rw [List.map_append, ← List.append_assoc]
    exact List.perm_append_comm
  -- All keys being new, the batch goes to the end of the table.
  have hrecords : (k.putBatch rs).tables.records = k.tables.records ++ rs :=
    foldl_upsert_of_new (hperm.nodup_iff.1 h).of_append_right
  refine ⟨hrecords, ?_⟩
  rw [identifiers, hrecords]
  exact hperm.symm

theorem mem_next : id ∈ k.next n ↔ ∃ i, k.drawn ≤ i ∧ i < k.drawn + n ∧ k.supply i = id := by
  simp only [next, List.mem_map, List.mem_range'_1, and_assoc]

/-- Identifiers drawn at once are apart. -/
theorem nodup_next {k' : Ledger} (h : k'.Distinct) (hsupply : k'.supply = k.supply)
    (hdrawn : k.drawn + n ≤ k'.drawn) : (k.next n).Nodup := by
  refine List.Nodup.map_on ?_ List.nodup_range'
  intro i hi j hj hij
  rw [List.mem_range'_1] at hi hj
  rw [← hsupply] at hij
  exact h i (by omega) j (by omega) hij

end Ledger

namespace Run

/-- With respect to identifiers, a step passes on what its call holds, drops it
    or draws fresh ones. -/
def Task.Draws (k : Ledger) (t : Task) (k' : Ledger) (t' : Task) : Prop :=
  ∃ n, k.drawn + n ≤ k'.drawn ∧
    (t'.reserved ++ k'.identifiers).Subperm (k.next n ++ (t.reserved ++ k.identifiers))

namespace Task

variable {k k' : Ledger} {t t' : Task}

/-- A campaign about to be stored is new. -/
theorem campaign?_of_storing {args : NewCampaign} {c : Campaign} {size : Nat}
    (hapart : ((campaign args (.underway (.storing c size))).reserved ++ k.identifiers).Nodup) :
    k.campaign? c.id = none := by
  refine lookUp_eq_none_iff.2 fun hmem => ?_
  -- Otherwise its identifier would be in use besides being reserved.
  have hused : c.id ∈ k.identifiers := List.mem_append_left _ hmem
  exact (List.nodup_cons.1 hapart).1 hused

/-- Nothing is stored, and the call holds nothing any more. -/
theorem Draws.drop (hk : k'.identifiers = k.identifiers) (ht : t'.reserved = [])
    (hdrawn : k.drawn ≤ k'.drawn) : Draws k t k' t' := by
  refine ⟨0, hdrawn, ?_⟩
  rw [hk, ht]
  exact (List.sublist_append_right _ _).subperm

theorem Draws.of_campaign {args : NewCampaign} {s : Campaigns.Stage}
    {p : Progress Campaigns.Stage Campaign} (h : Campaigns.Effect k s k' p)
    (hapart : ((campaign args (.underway s)).reserved ++ k.identifiers).Nodup) :
    Draws k (.campaign args (.underway s)) k' (.campaign args p) := by
  cases h with
  | compiled p => exact .drop rfl rfl (Nat.le_refl _)
  | counted found => exact .drop rfl rfl (Nat.le_refl _)
  | drafted id =>
      refine ⟨1, Nat.le_refl _, ?_⟩
      simp only [reserved, id]
      exact List.Subperm.refl _
  | stored =>
      -- The token of the call becomes an entry of the table.
      exact ⟨0, Nat.le_refl _,
        (Ledger.identifiers_create (List.nodup_cons.1 hapart).1).subperm⟩
  | failed f n => exact .drop rfl rfl (Nat.le_add_right _ _)

theorem Draws.of_dispatch {args : NewDispatch} {s : Dispatch.Stage}
    {p : Progress Dispatch.Stage (List DeliveryRecord)} (h : Dispatch.Effect args k s k' p)
    (hapart : ((dispatch args (.underway s)).reserved ++ k.identifiers).Nodup) :
    Draws k (.dispatch args (.underway s)) k' (.dispatch args p) := by
  cases h with
  | compiled p => exact .drop rfl rfl (Nat.le_refl _)
  | claimed now stored pending =>
      exact .drop (Ledger.identifiers_putCampaign stored rfl) rfl (Nat.le_refl _)
  | declined stored started => exact .drop rfl rfl (Nat.le_refl _)
  | resolved found => exact .drop rfl rfl (Nat.le_refl _)
  | unresolved f => exact .drop rfl rfl (Nat.le_refl _)
  | released now stored sending none_counted =>
      exact .drop (Ledger.identifiers_putCampaign stored rfl) rfl (Nat.le_refl _)
  | drafted ids recipients fresh =>
      refine ⟨_, Nat.le_refl _, ?_⟩
      simp only [reserved, ids]
      exact List.Subperm.refl _
  | stored => exact ⟨0, Nat.le_refl _, (Ledger.identifiers_putBatch hapart).2.subperm⟩
  | unstored f => exact .drop rfl rfl (Nat.le_refl _)
  | handed fields => exact .drop rfl rfl (Nat.le_refl _)
  | closed now stored =>
      exact .drop (Ledger.identifiers_putCampaign stored
        (Campaign.completeIfExhausted_keeps now).1) rfl (Nat.le_refl _)
  | finished => exact .drop rfl rfl (Nat.le_refl _)
  | failed f n => exact .drop rfl rfl (Nat.le_add_right _ _)

theorem Draws.of_receipt {args : Receipt} {s : Receipts.Stage}
    {p : Progress Receipts.Stage ReceiptResult} (h : Receipts.Effect args k s k' p) :
    Draws k (.receipt args (.underway s)) k' (.receipt args p) := by
  cases h with
  | settled now outcome stored pending =>
      exact .drop (Ledger.identifiers_putRecord stored rfl) rfl (Nat.le_refl _)
  | counted now stored outcome =>
      exact .drop (Ledger.identifiers_putCampaign stored
        (Campaign.recordOutcome_keeps outcome).1) rfl (Nat.le_refl _)
  | _ => exact .drop rfl rfl (Nat.le_refl _)

/-- Every step is of this kind. -/
theorem Effect.draws (h : t.Effect k k' t') (hapart : (t.reserved ++ k.identifiers).Nodup) :
    Draws k t k' t' := by
  cases h with
  | customer aside =>
      exact .drop (by rw [Ledger.identifiers, aside.campaigns, aside.records]; rfl) rfl aside.drawn
  | order aside =>
      exact .drop (by rw [Ledger.identifiers, aside.campaigns, aside.records]; rfl) rfl aside.drawn
  | campaign effect => exact .of_campaign effect hapart
  | dispatch effect => exact .of_dispatch effect hapart
  | receipt effect => exact .of_receipt effect

/-- Customers have identifiers of their own. -/
theorem Effect.customers (h : t.Effect k k' t')
    (hbefore : (k.tables.customers.map Customer.id).Nodup) :
    (k'.tables.customers.map Customer.id).Nodup := by
  cases h with
  | customer aside => exact aside.customers hbefore
  | order aside => exact aside.customers hbefore
  | campaign effect => cases effect <;> exact hbefore
  | dispatch effect => cases effect <;> exact hbefore
  | receipt effect => cases effect <;> exact hbefore

end Task

namespace Board

/-- The identifiers of what is stored and of what is about to be. -/
def identifiers (b : Board) : List Uuid :=
  b.tasks.flatMap Task.reserved ++ b.ledger.identifiers

/-- Every identifier is in use once and was drawn. -/
structure Identified (b : Board) : Prop where
  customers : (b.ledger.tables.customers.map Customer.id).Nodup
  apart : b.identifiers.Nodup
  drawn : ∀ id ∈ b.identifiers, ∃ i < b.ledger.drawn, b.ledger.supply i = id

theorem Identified.issued {b : Board} (inv : Identified b) (r : Request) :
    Identified { b with tasks := b.tasks ++ [r.task] } := by
  have hsame : identifiers { b with tasks := b.tasks ++ [r.task] } = b.identifiers := by
    simp only [identifiers, flatMap_snoc (Task.reserved_task r)]
  refine ⟨inv.customers, ?_, ?_⟩
  · rw [hsame]
    exact inv.apart
  · rw [hsame]
    exact inv.drawn

theorem Identified.advanced {b : Board} {k' : Ledger} {es : List Event} {n : Nat} {t t' : Task}
    (inv : Identified b) (task : b.tasks[n]? = some t) (effect : t.Effect b.ledger k' t')
    (hdistinct : k'.Distinct) : Identified ⟨k', b.tasks.set n t', es⟩ := by
  rcases effect.supply with ⟨hsupply, -⟩
  rcases effect.draws (nodup_of_task task inv.apart) with ⟨m, hm, hex⟩
  have hsub : (Board.mk k' (b.tasks.set n t') es).identifiers.Subperm
      (b.ledger.next m ++ b.identifiers) := subperm_exchange task hex
  -- Identifiers drawn in this step lie beyond those in use.
  have hfresh : List.Disjoint (b.ledger.next m) b.identifiers := by
    intro id hnext hused
    rcases Ledger.mem_next.1 hnext with ⟨i, hi, hi', rfl⟩
    rcases inv.drawn _ hused with ⟨j, hj, hji⟩
    rw [← hsupply] at hji
    have := hdistinct j (by omega) i (by omega) hji
    omega
  refine ⟨effect.customers inv.customers, ?_, fun id hid => ?_⟩
  · exact nodup_of_subperm hsub ((Ledger.nodup_next hdistinct hsupply hm).append inv.apart hfresh)
  · simp only [hsupply]
    rcases List.mem_append.1 (hsub.subset hid) with hnext | hused
    · rcases Ledger.mem_next.1 hnext with ⟨i, hi, hi', rfl⟩
      exact ⟨i, by omega, rfl⟩
    · rcases inv.drawn id hused with ⟨j, hj, hji⟩
      exact ⟨j, by omega, hji⟩

/-- On every board, each identifier is in use once. -/
theorem Reachable.identified {b : Board} (h : Reachable b) : Identified b := by
  induction h with
  | start tables handed =>
      refine ⟨?_, ?_, ?_⟩ <;>
        simp only [identifiers, Ledger.identifiers, tables, Tables.empty, List.map_nil,
          List.flatMap_nil, List.append_nil, List.nodup_nil, List.not_mem_nil, false_implies,
          implies_true]
  | step before step distinct ih =>
      cases step with
      | issued r => exact ih.issued r
      | advanced task effect => exact ih.advanced task effect distinct

/-- Tokens that no new call holds, and that every step passes, are held once on
    every board. -/
theorem Reachable.owned {f : Task → List Uuid} {g : Event → List Uuid}
    {Q : Ledger → Uuid → Prop} {b : Board} (h : Reachable b)
    (hissued : ∀ r : Request, f r.task = [])
    (hadvanced : ∀ {k k' : Ledger} {t t' : Task} {n : Nat}, t.Effect k k' t' →
      (t.reserved ++ k.identifiers).Nodup → Passes Q k k' (f t) (f t' ++ g ⟨n, t, t'⟩)) :
    Owned f g Q b := by
  induction h with
  | start tables handed => exact .start
  | step before step distinct ih =>
      cases step with
      | issued r => exact ih.issued (hissued r)
      | advanced task effect =>
          have hapart := nodup_of_task task before.identified.apart
          exact ih.advanced task (hadvanced effect hapart)

end Board

end Run

/-! ## Campaigns as they were created

The stored campaigns are those that were created, in this order, each of the
size it was created with. -/

/-- The identifier of a campaign with its size. -/
def Campaign.target (c : Campaign) : Uuid × Int :=
  (c.id, c.audienceSize)

namespace Run

variable {k k' : Ledger} {t t' : Task}

theorem Task.created_quiet {e : Event}
    (hsame : k'.tables.campaigns.map Campaign.target = k.tables.campaigns.map Campaign.target)
    (he : e.created? = none) :
    k'.tables.campaigns.map Campaign.target =
      k.tables.campaigns.map Campaign.target ++ e.created?.toList.map Campaign.target := by
  rw [hsame, he]
  exact (List.append_nil _).symm

/-- Only creating a campaign adds one, and no other step changes a size. -/
theorem Task.Effect.created (h : t.Effect k k' t') (n : Nat)
    (hapart : (t.reserved ++ k.identifiers).Nodup) :
    k'.tables.campaigns.map Campaign.target =
      k.tables.campaigns.map Campaign.target ++
        (Event.created? ⟨n, t, t'⟩).toList.map Campaign.target := by
  cases h with
  | customer aside => exact created_quiet (by rw [aside.campaigns]) rfl
  | order aside => exact created_quiet (by rw [aside.campaigns]) rfl
  | campaign effect =>
      cases effect with
      | stored =>
          -- The table does not know the campaign, which goes to its end.
          have hnew := lookUp_eq_none_iff.1 (campaign?_of_storing hapart)
          rw [Ledger.putCampaign, upsert_of_new hnew]
          exact List.map_append
      | failed f m => exact created_quiet rfl Event.created?_raised
      | _ => exact created_quiet rfl rfl
  | dispatch effect =>
      cases effect with
      | claimed now stored pending =>
          refine created_quiet (Ledger.map_putCampaign _ stored ?_ ?_) rfl <;> rfl
      | released now stored sending none_counted =>
          refine created_quiet (Ledger.map_putCampaign _ stored ?_ ?_) rfl <;> rfl
      | closed now stored =>
          rcases Campaign.completeIfExhausted_keeps now with ⟨hid, hsize, -⟩
          refine created_quiet (Ledger.map_putCampaign _ stored hid ?_) rfl
          rw [Campaign.target, Campaign.target, hid, hsize]
      | _ => exact created_quiet rfl rfl
  | receipt effect =>
      cases effect with
      | counted now stored outcome =>
          rcases Campaign.recordOutcome_keeps outcome with ⟨hid, hsize⟩
          refine created_quiet (Ledger.map_putCampaign _ stored hid ?_) rfl
          rw [Campaign.target, Campaign.target, hid, hsize]
      | _ => exact created_quiet rfl rfl

/-- The stored campaigns are those created, of the sizes they were created
    with. -/
theorem Board.Reachable.created {b : Board} (h : Reachable b) :
    b.ledger.tables.campaigns.map Campaign.target =
      (b.events.filterMap Event.created?).map Campaign.target := by
  induction h with
  | start tables handed => rw [tables]; rfl
  | step before step distinct ih =>
      cases step with
      | issued r => exact ih
      | advanced task effect =>
          rw [effect.created _ (nodup_of_task task before.identified.apart), ih, filterMap_snoc,
            List.map_append]

end Run

end Outreach
