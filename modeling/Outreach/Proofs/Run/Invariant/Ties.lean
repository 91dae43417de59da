import Outreach.Proofs.Run.Board

/-!
# Records Belong to Stored Campaigns

Campaigns are never removed, and a batch is stored for a campaign that was claimed
before. So the campaign of every record is stored, whatever identifiers the supply
yields, and a receipt that settles a record finds a campaign to count it for.

## Main definitions

* `Ledger.Tied`: The campaign of every record is stored.
* `Run.Task.Backed`: What a dispatch knows about its campaign and its records.
* `Run.Board.Tied`: Both, for all calls of a board.

## Theorems

* `Run.Task.Effect.holds`: Campaigns stay stored.
* `Run.Board.Tied.step`, `Run.Board.Tied.run`: Every step keeps the ties, and so
  does a run.
-/

namespace Outreach

namespace Ledger

variable {k k' : Ledger} {id : Uuid}

/-- A campaign is stored. -/
def Stores (k : Ledger) (id : Uuid) : Prop := id ∈ k.tables.campaigns.map Campaign.id

/-- The campaign of every record is stored. -/
def Tied (k : Ledger) : Prop := ∀ r ∈ k.tables.records, k.Stores r.campaignId

theorem stores_of_campaign? {c : Campaign} (h : k.campaign? id = some c) : k.Stores id :=
  mem_keys_of_lookUp h

theorem Stores.campaign? (h : k.Stores id) : ∃ c, k.campaign? id = some c :=
  exists_lookUp_of_mem h

theorem Stores.putCampaign (h : k.Stores id) (c : Campaign) : (k.putCampaign c).Stores id :=
  mem_keys_upsert.2 (Or.inr h)

theorem Stores.of_same (h : k.Stores id) (hcampaigns : k'.tables.campaigns = k.tables.campaigns) :
    k'.Stores id := by
  rw [Stores, hcampaigns]
  exact h

theorem Tied.putCampaign (h : k.Tied) (c : Campaign) : (k.putCampaign c).Tied :=
  fun r hr => (h r hr).putCampaign c

theorem Tied.putRecord {r r₀ : DeliveryRecord} (h : k.Tied) (hr : k.record? id = some r)
    (hcampaign : r₀.campaignId = r.campaignId) : (k.putRecord r₀).Tied := by
  intro r₁ h₁
  rcases mem_upsert h₁ with rfl | hold
  · rw [hcampaign]
    exact h r (mem_of_lookUp hr)
  · exact h r₁ hold

theorem Tied.of_same (h : k.Tied) (hcampaigns : k'.tables.campaigns = k.tables.campaigns)
    (hrecords : k'.tables.records = k.tables.records) : k'.Tied := by
  rw [Tied, hrecords]
  exact fun r hr => (h r hr).of_same hcampaigns

end Ledger

namespace Run

namespace Task

variable {k k' : Ledger} {t t' : Task}

/-- What a dispatch knows about the campaign that it has claimed, and about the
    records that it is going to store. -/
def Backed (k : Ledger) : Task → Prop
  | dispatch args (.underway (.resolving _ _)) => k.Stores args.campaignId
  | dispatch args (.underway (.drafting _ _)) => k.Stores args.campaignId
  | dispatch args (.underway (.storing _ records)) =>
    k.Stores args.campaignId ∧ ∀ r ∈ records, r.campaignId = args.campaignId
  | _ => True

/-- Campaigns stay stored. -/
theorem Effect.holds (h : t.Effect k k' t') {id : Uuid} (hid : k.Stores id) : k'.Stores id := by
  cases h with
  | customer aside => exact hid.of_same aside.campaigns
  | order aside => exact hid.of_same aside.campaigns
  | campaign effect =>
      cases effect with
      | stored => exact hid.putCampaign _
      | _ => exact hid
  | dispatch effect =>
      cases effect with
      | claimed now stored pending => exact hid.putCampaign _
      | released now stored sending none_counted => exact hid.putCampaign _
      | closed now stored => exact hid.putCampaign _
      | _ => exact hid
  | receipt effect =>
      cases effect with
      | counted now stored outcome => exact hid.putCampaign _
      | _ => exact hid

/-- Only a dispatch that has claimed its campaign stores records. -/
theorem Effect.tied (h : t.Effect k k' t') (hbacked : t.Backed k) (htied : k.Tied) : k'.Tied := by
  cases h with
  | customer aside => exact htied.of_same aside.campaigns aside.records
  | order aside => exact htied.of_same aside.campaigns aside.records
  | campaign effect =>
      cases effect with
      | stored => exact htied.putCampaign _
      | _ => exact htied
  | dispatch effect =>
      cases effect with
      | claimed now stored pending => exact htied.putCampaign _
      | released now stored sending none_counted => exact htied.putCampaign _
      | closed now stored => exact htied.putCampaign _
      | stored =>
          intro r hr
          rcases mem_foldl_upsert hr with hnew | hold
          · rw [hbacked.2 r hnew]
            exact hbacked.1
          · exact htied r hold
      | _ => exact htied
  | receipt effect =>
      cases effect with
      | settled now outcome stored pending => exact htied.putRecord stored rfl
      | counted now stored outcome => exact htied.putCampaign _
      | _ => exact htied

/-- A dispatch goes on with the campaign that it has claimed. -/
theorem Effect.backed (h : t.Effect k k' t') (hbacked : t.Backed k) : t'.Backed k' := by
  cases h with
  | dispatch effect =>
      cases effect with
      | claimed now stored pending => exact (Ledger.stores_of_campaign? stored).putCampaign _
      | resolved found => exact hbacked
      | drafted ids recipients fresh => exact ⟨hbacked, fun r hr => (fresh r hr).1⟩
      | _ => exact trivial
  | _ => exact trivial

/-- What others do leaves that as it is. -/
theorem Backed.later (h : t.Backed k) (hholds : ∀ id, k.Stores id → k'.Stores id) :
    t.Backed k' := by
  cases t with
  | dispatch args p => cases p with
    | underway s => cases s with
      | resolving campaign p => exact hholds _ h
      | drafting campaign customers => exact hholds _ h
      | storing customers records => exact ⟨hholds _ h.1, h.2⟩
      | _ => exact trivial
    | _ => exact trivial
  | _ => exact trivial

theorem backed_task (r : Request) (k : Ledger) : r.task.Backed k := by cases r <;> exact trivial

end Task

namespace Board

variable {b b' : Board}

/-- The campaign of every record is stored, and that of every batch to come. -/
structure Tied (b : Board) : Prop where
  ledger : b.ledger.Tied
  tasks : ∀ t ∈ b.tasks, t.Backed b.ledger

theorem Tied.step (inv : Tied b) (h : Step b b') : Tied b' := by
  cases h with
  | issued r =>
      refine ⟨inv.ledger, fun t ht => ?_⟩
      rcases List.mem_append.1 ht with hold | hnew
      · exact inv.tasks t hold
      · rw [List.mem_singleton.1 hnew]
        exact Task.backed_task r _
  | advanced task effect =>
      have hbacked := inv.tasks _ (List.mem_of_getElem? task)
      refine ⟨effect.tied hbacked inv.ledger, fun t ht => ?_⟩
      rcases List.mem_or_eq_of_mem_set ht with hold | hnew
      · exact (inv.tasks t hold).later fun id hid => effect.holds hid
      · rw [hnew]
        exact effect.backed hbacked

theorem Tied.move {s : System} (inv : s.board.Tied) (m : Move) : (s.move m).board.Tied := by
  rcases System.board_move s m with heq | hstep
  · rw [heq]
    exact inv
  · exact inv.step hstep

theorem Tied.run (moves : List Move) : ∀ {s : System}, s.board.Tied → (s.run moves).board.Tied := by
  induction moves with
  | nil => exact fun h => h
  | cons m rest ih => exact fun h => ih (h.move m)

end Board

end Run

end Outreach
