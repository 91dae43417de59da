import Outreach.Proofs.Run.Invariant.Stages

/-!
# Who Stored a Batch

A dispatch that has got as far as handing messages over has stored a batch of
records for its campaign before, and hands over nothing else. What the sender
was given is what the events say was handed over.

## Main definitions

* `Run.StoredBy`: A call stored a batch.
* `Run.Task.Traced`: What a dispatch has done before.
* `Run.Board.Traced`: All dispatches have done what they should.
* `Ledger.Stored`: A record is stored.
* `Run.Event.handed`: The record handed over in a step.

## Theorems

* `Run.Board.Reachable.traced`: That is so on every board.
* `Run.Task.Effect.messages`: What every step does to messages.
* `Run.Board.Reachable.messages`: No message is handed over twice.
-/

namespace Outreach

namespace Run

/-- The call with a number stored a batch of records for a campaign. -/
def StoredBy (n : Nat) (id : Uuid) (batch : List DeliveryRecord) (es : List Event) : Prop :=
  ∃ e ∈ es, e.number = n ∧ e.stored? = some (id, batch)

variable {n : Nat} {id : Uuid} {batch : List DeliveryRecord} {es : List Event}

theorem StoredBy.append (h : StoredBy n id batch es) (more : List Event) :
    StoredBy n id batch (es ++ more) := by
  rcases h with ⟨e, he, hnumber, hstored⟩
  exact ⟨e, List.mem_append_left _ he, hnumber, hstored⟩

namespace Task

variable {k k' : Ledger} {t t' : Task}

/-- What the call with a number has done before. -/
def Traced (n : Nat) (es : List Event) : Task → Prop
  | dispatch args (.underway (.handing records rest)) =>
    StoredBy n args.campaignId records es ∧ ∀ x ∈ rest, x.1 ∈ records
  | dispatch args (.underway (.closing records _)) => StoredBy n args.campaignId records es
  | dispatch args (.returned records) => StoredBy n args.campaignId records es
  | _ => True

theorem Traced.append (h : t.Traced n es) (more : List Event) : t.Traced n (es ++ more) := by
  cases t with
  | dispatch args p => cases p with
    | underway s => cases s with
      | handing records rest => exact ⟨h.1.append more, h.2⟩
      | closing records completed => exact StoredBy.append h more
      | _ => exact trivial
    | returned records => exact StoredBy.append h more
    | raised f => exact trivial
  | _ => exact trivial

/-- A step goes on in the same way. -/
theorem Effect.traced (h : t.Effect k k' t') (htraced : t.Traced n es) :
    t'.Traced n (es ++ [⟨n, t, t'⟩]) := by
  cases h with
  | dispatch effect =>
      cases effect with
      | stored =>
          -- The step itself is the one that stored the batch.
          refine ⟨⟨_, List.mem_append_right _ List.mem_cons_self, rfl, rfl⟩, ?_⟩
          exact fun x hx => (List.of_mem_zip hx).1
      | handed fields =>
          exact ⟨htraced.1.append _, fun x hx => htraced.2 x (List.mem_cons_of_mem _ hx)⟩
      | closed now stored => exact htraced.1.append _
      | finished => exact StoredBy.append htraced _
      | _ => exact trivial
  | _ => exact trivial

/-- The sender is given what the event of the step says. -/
theorem Effect.handed (h : t.Effect k k' t') (n : Nat) :
    k'.handed.map Handover.record =
      k.handed.map Handover.record ++ (Event.handed? ⟨n, t, t'⟩).toList := by
  cases h with
  | customer aside => exact (congrArg _ aside.handed).trans (List.append_nil _).symm
  | order aside => exact (congrArg _ aside.handed).trans (List.append_nil _).symm
  | campaign effect => cases effect <;> exact (List.append_nil _).symm
  | dispatch effect =>
      cases effect with
      | handed fields => exact List.map_append
      | failed f m =>
          rw [Event.handed?_raised]
          exact (List.append_nil _).symm
      | _ => exact (List.append_nil _).symm
  | receipt effect => cases effect <;> exact (List.append_nil _).symm

/-- Only a record of the batch that the call itself stored is handed over. -/
theorem Effect.mem_of_handed? (h : t.Effect k k' t') (htraced : t.Traced n es)
    {r : DeliveryRecord} (hr : Event.handed? ⟨n, t, t'⟩ = some r) :
    ∃ id batch, StoredBy n id batch es ∧ r ∈ batch := by
  cases h with
  | dispatch effect =>
      cases effect with
      | handed fields =>
          injection hr with hr
          rw [← hr]
          exact ⟨_, _, htraced.1, htraced.2 _ List.mem_cons_self⟩
      | failed f m =>
          rw [Event.handed?_raised] at hr
          cases hr
      | _ => cases hr
  | _ => cases hr

end Task

namespace Board

/-- All dispatches have done what they should. -/
structure Traced (b : Board) : Prop where
  tasks : ∀ (n : Nat) (t : Task), b.tasks[n]? = some t → t.Traced n b.events
  sender : b.ledger.handed.map Handover.record = b.events.filterMap Event.handed?
  handed : ∀ e ∈ b.events, ∀ r, e.handed? = some r →
    ∃ id batch, StoredBy e.number id batch b.events ∧ r ∈ batch

theorem Traced.issued {b : Board} (inv : Traced b) (r : Request) :
    Traced { b with tasks := b.tasks ++ [r.task] } := by
  refine ⟨fun n t ht => ?_, inv.sender, inv.handed⟩
  rw [List.getElem?_append] at ht
  by_cases hn : n < b.tasks.length
  · rw [if_pos hn] at ht
    exact inv.tasks n t ht
  · rw [if_neg hn] at ht
    -- The new call is at its first stage.
    rw [List.mem_singleton.1 (List.mem_of_getElem? ht)]
    cases r <;> exact trivial

theorem Traced.advanced {b : Board} {k' : Ledger} {n : Nat} {t t' : Task} (inv : Traced b)
    (task : b.tasks[n]? = some t) (effect : t.Effect b.ledger k' t') :
    Traced ⟨k', b.tasks.set n t', b.events ++ [⟨n, t, t'⟩]⟩ := by
  have htraced := inv.tasks n t task
  refine ⟨fun m u hu => ?_, ?_, fun e he r hr => ?_⟩
  -- The call that stepped, or one of those that did not.
  · by_cases hm : n = m
    · subst hm
      rw [List.getElem?_set_self (List.getElem?_eq_some_iff.1 task).1, Option.some.injEq] at hu
      rw [← hu]
      exact effect.traced htraced
    · rw [List.getElem?_set_ne hm] at hu
      exact (inv.tasks m u hu).append _
  · rw [effect.handed n, inv.sender, filterMap_snoc]
  · rcases List.mem_append.1 he with hold | hnew
    · rcases inv.handed e hold r hr with ⟨id, batch, hstored, hmem⟩
      exact ⟨id, batch, hstored.append _, hmem⟩
    · rw [List.mem_singleton.1 hnew] at hr ⊢
      rcases effect.mem_of_handed? htraced hr with ⟨id, batch, hstored, hmem⟩
      exact ⟨id, batch, hstored.append _, hmem⟩

/-- On every board, all dispatches have done what they should. -/
theorem Reachable.traced {b : Board} (h : Reachable b) : Traced b := by
  induction h with
  | start tables handed =>
      refine ⟨fun n t ht => ?_, congrArg _ handed, fun e he => absurd he List.not_mem_nil⟩
      cases ht
  | step before step distinct ih =>
      cases step with
      | issued r => exact ih.issued r
      | advanced task effect => exact ih.advanced task effect

end Board

end Run

/-! ## Messages go out once

The messages of a batch go from the dispatch that stored it to the sender, one
by one. No record is ever among them twice. -/

namespace Ledger

/-- A record is stored. -/
def Stored (k : Ledger) (id : Uuid) : Prop :=
  ∃ r, k.record? id = some r

variable {k k' : Ledger} {id : Uuid}

theorem Stored.later (h : k.Stored id) (hlater : k.Later k') : k'.Stored id := by
  rcases h with ⟨r, hr⟩
  rcases hlater id r hr with ⟨r', hr', -⟩
  exact ⟨r', hr'⟩

/-- The records of a new batch are stored with it and not before. -/
theorem stored_putBatch {rs : List DeliveryRecord}
    (h : (rs.map DeliveryRecord.id ++ k.identifiers).Nodup) (hid : id ∈ rs.map DeliveryRecord.id) :
    ¬k.Stored id ∧ (k.putBatch rs).Stored id := by
  refine ⟨?_, ?_⟩
  · rintro ⟨r, hr⟩
    exact List.disjoint_of_nodup_append h hid (List.mem_append_right _ (mem_keys_of_lookUp hr))
  · refine exists_lookUp_of_mem ?_
    rw [(identifiers_putBatch h).1, List.map_append]
    exact List.mem_append_right _ hid

end Ledger

namespace Run

/-- The record handed over in a step. -/
def Event.handed (e : Event) : List Uuid :=
  e.handed?.toList.map DeliveryRecord.id

theorem ids_zip_sublist (records : List DeliveryRecord) (customers : List Customer) :
    ((records.zip customers).map fun x => x.1.id).Sublist (records.map DeliveryRecord.id) := by
  induction records generalizing customers with
  | nil => exact List.Sublist.refl _
  | cons r rest ih =>
      cases customers with
      | nil => exact List.nil_sublist _
      | cons c others => exact (ih others).cons_cons r.id

namespace Task

variable {k k' : Ledger} {t t' : Task} {n : Nat}

/-- What every step does to messages. -/
theorem Effect.messages (h : t.Effect k k' t') (hapart : (t.reserved ++ k.identifiers).Nodup) :
    Passes Ledger.Stored k k' t.outgoing (t'.outgoing ++ Event.handed ⟨n, t, t'⟩) := by
  have hlater : ∀ id, k.Stored id → k'.Stored id := fun id hid => hid.later (h.later hapart)
  cases h with
  | customer aside => exact .keep (List.Subperm.refl _) hlater
  | order aside => exact .keep (List.Subperm.refl _) hlater
  | campaign effect => cases effect <;> exact .keep (List.Subperm.refl _) hlater
  | dispatch effect =>
      cases effect with
      | @stored customers records =>
          -- The records are new, for their identifiers were only reserved before.
          have hsub := ids_zip_sublist records customers
          exact Passes.take ((records.zip customers).map fun x => x.1.id)
            (List.Subperm.refl _) (hapart.of_append_left.sublist hsub)
            (fun id hid => Ledger.stored_putBatch hapart (hsub.subset hid)) hlater
      | @handed records r c rest fields =>
          -- The message in front goes from the call to the events.
          have hperm : (rest.map (fun x => x.1.id) ++ [r.id]).Perm
              (r.id :: rest.map fun x => x.1.id) := List.perm_append_singleton _ _
          exact .keep hperm.subperm hlater
      | failed f m =>
          rw [Event.handed, Event.handed?_raised]
          exact .keep List.nil_subperm hlater
      | _ => exact .keep (List.Subperm.refl _) hlater
  | receipt effect => cases effect <;> exact .keep (List.Subperm.refl _) hlater

end Task

namespace Board

/-- No message is handed over twice, nor is one still to go out that has already
    been handed over. -/
theorem Reachable.messages {b : Board} (h : Reachable b) :
    Owned Task.outgoing Event.handed Ledger.Stored b :=
  h.owned Task.outgoing_task fun effect hapart => effect.messages hapart

end Board

end Run

end Outreach
