import Mathlib.Data.List.Perm.Subperm
import Outreach.Proofs.Run.Board

/-!
# What Calls Hold

A stage of a call may entitle it to something that no other call may have at
the same time: a claimed campaign, identifiers drawn for entities not stored
yet, messages not handed over yet. Such tokens are read off the stages of the
calls. A step passes tokens from its call on to the ledger or the events,
drops them, or takes fresh ones; only what the one call holds has to be looked
at to see that none of them is ever held twice.

## Main definitions

* `Run.Task.reserved`: The identifiers drawn for entities not stored yet.
* `Run.Task.claims`: The campaign that a dispatch has claimed.
* `Run.Task.outgoing`: The records whose messages are still to be handed over.
* `Run.Task.counting`: The record whose outcome is still to be counted.
* `Run.Passes`: What a step does to tokens.
* `Run.Board.Owned`: No token is held twice.

## Theorems

* `subperm_exchange`, `subperm_advance`: A step, seen from all that is held.
* `Run.Board.Owned.advanced`: Such a step keeps tokens apart.
-/

namespace Outreach

theorem nodup_of_subperm {α : Type} {xs ys : List α} (h : xs.Subperm ys) (hys : ys.Nodup) :
    xs.Nodup := by
  rcases h with ⟨zs, hperm, hsub⟩
  exact hperm.nodup_iff.1 (hys.sublist hsub)

theorem filterMap_snoc {α β : Type} (f : α → Option β) (xs : List α) (a : α) :
    (xs ++ [a]).filterMap f = xs.filterMap f ++ (f a).toList := by
  rw [List.filterMap_append]
  cases h : f a <;> simp only [List.filterMap_cons, h, List.filterMap_nil, Option.toList]

section Exchange

variable {τ α : Type} {f : τ → List α} {t t' : τ}

/-- What a list of calls holds is what one of them holds and the rest. -/
theorem perm_flatMap_set : ∀ {ts : List τ} {n : Nat}, ts[n]? = some t →
    ∃ rest, (ts.flatMap f).Perm (f t ++ rest) ∧
      ∀ t', ((ts.set n t').flatMap f).Perm (f t' ++ rest) := by
  intro ts
  induction ts with
  | nil =>
      intro n h
      cases h
  | cons a ts ih =>
      intro n h
      cases n with
      -- The call is the first one; otherwise the first one is part of the rest.
      | zero =>
          injection h with h
          subst h
          exact ⟨ts.flatMap f, List.Perm.refl _, fun _ => List.Perm.refl _⟩
      | succ n =>
          rcases ih (n := n) h with ⟨rest, hrest, hset⟩
          refine ⟨f a ++ rest, ?_, fun t' => ?_⟩
          · rw [List.flatMap_cons]
            exact (hrest.append_left _).trans (List.perm_append_comm_assoc _ _ _)
          · rw [List.set_cons_succ, List.flatMap_cons]
            exact ((hset t').append_left _).trans (List.perm_append_comm_assoc _ _ _)

/-- If one call, together with what is held elsewhere, holds no more after a
    step than before apart from fresh tokens, then so do all calls together. -/
theorem subperm_exchange {ts : List τ} {n : Nat} {g g' fresh : List α} (h : ts[n]? = some t)
    (hex : (f t' ++ g').Subperm (fresh ++ (f t ++ g))) :
    ((ts.set n t').flatMap f ++ g').Subperm (fresh ++ (ts.flatMap f ++ g)) := by
  rcases perm_flatMap_set (f := f) h with ⟨rest, hrest, hset⟩
  -- On both sides the rest is put in front, where it cancels.
  have hafter : ((ts.set n t').flatMap f ++ g').Perm (rest ++ (f t' ++ g')) := by
    refine ((hset t').append_right g').trans ?_
    rw [List.append_assoc]
    exact List.perm_append_comm_assoc _ _ _
  have hbefore : (fresh ++ (ts.flatMap f ++ g)).Perm (rest ++ (fresh ++ (f t ++ g))) := by
    refine List.Perm.trans ?_ (List.perm_append_comm_assoc _ _ _)
    refine List.Perm.append_left _ ((hrest.append_right g).trans ?_)
    rw [List.append_assoc]
    exact List.perm_append_comm_assoc _ _ _
  exact hafter.subperm.trans (((List.subperm_append_left rest).2 hex).trans hbefore.symm.subperm)

/-- The same where tokens are passed on to the end of a list. -/
theorem subperm_advance {ts : List τ} {n : Nat} {g d fresh : List α} (h : ts[n]? = some t)
    (hex : (f t' ++ d).Subperm (fresh ++ f t)) :
    ((ts.set n t').flatMap f ++ (g ++ d)).Subperm (fresh ++ (ts.flatMap f ++ g)) := by
  refine subperm_exchange h ?_
  have hperm : (f t' ++ (g ++ d)).Perm (f t' ++ d ++ g) := by
    rw [List.append_assoc]
    exact List.perm_append_comm.append_left _
  rw [← List.append_assoc fresh]
  exact hperm.subperm.trans ((List.subperm_append_right g).2 hex)

/-- What one call holds is held together with what is held elsewhere. -/
theorem nodup_of_task {ts : List τ} {n : Nat} {g : List α} (h : ts[n]? = some t)
    (hall : (ts.flatMap f ++ g).Nodup) : (f t ++ g).Nodup := by
  rcases perm_flatMap_set (f := f) h with ⟨rest, hrest, -⟩
  have hsub : (f t ++ g).Subperm (ts.flatMap f ++ g) :=
    (List.subperm_append_right g).2
      ((List.sublist_append_left _ rest).subperm.trans hrest.symm.subperm)
  exact nodup_of_subperm hsub hall

/-- A call that holds nothing adds nothing. -/
theorem flatMap_snoc {ts : List τ} (h : f t = []) : (ts ++ [t]).flatMap f = ts.flatMap f := by
  rw [List.flatMap_append, List.flatMap_singleton, h, List.append_nil]

end Exchange

namespace Run

namespace Task

/-- The identifiers drawn for entities that are not stored yet. -/
def reserved : Task → List Uuid
  | campaign _ (.underway (.storing c _)) => [c.id]
  | dispatch _ (.underway (.storing _ records)) => records.map DeliveryRecord.id
  | _ => []

/-- The campaign that a dispatch has claimed and not yet sent or put back. -/
def claims : Task → List Uuid
  | dispatch args (.underway (.resolving _ _)) => [args.campaignId]
  | dispatch args (.underway (.releasing _)) => [args.campaignId]
  | dispatch args (.underway (.drafting _ _)) => [args.campaignId]
  | dispatch args (.underway (.storing _ _)) => [args.campaignId]
  | _ => []

/-- The records whose messages are still to be handed over. -/
def outgoing : Task → List Uuid
  | dispatch _ (.underway (.handing _ rest)) => rest.map fun x => x.1.id
  | _ => []

/-- The record whose outcome is still to be counted. -/
def counting : Task → List Uuid
  | receipt args (.underway (.counting _)) => [args.recordId]
  | _ => []

variable (r : Request)

/-- A call that was just issued holds nothing. -/
theorem reserved_task : r.task.reserved = [] := by cases r <;> rfl

theorem claims_task : r.task.claims = [] := by cases r <;> rfl

theorem outgoing_task : r.task.outgoing = [] := by cases r <;> rfl

theorem counting_task : r.task.counting = [] := by cases r <;> rfl

end Task

/-- What a step does to tokens that are good for something: those after it are
    from before or fresh, and those that are no longer good are given back. -/
def Passes (Q : Ledger → Uuid → Prop) (k k' : Ledger) (before after : List Uuid) : Prop :=
  ∃ fresh dropped, (after ++ dropped).Subperm (fresh ++ before) ∧ fresh.Nodup ∧
    (∀ id ∈ fresh, ¬Q k id ∧ Q k' id) ∧ ∀ id, id ∉ dropped → Q k id → Q k' id

section Passes

variable {Q : Ledger → Uuid → Prop} {k k' : Ledger} {before after : List Uuid}

/-- Tokens are passed on or dropped. -/
theorem Passes.keep (hsub : after.Subperm before) (hQ : ∀ id, Q k id → Q k' id) :
    Passes Q k k' before after := by
  refine ⟨[], [], ?_, List.nodup_nil, fun id hid => absurd hid List.not_mem_nil, fun id _ => hQ id⟩
  rw [List.append_nil]
  exact hsub

/-- A fresh token is taken. -/
theorem Passes.take (fresh : List Uuid) (hsub : after.Subperm (fresh ++ before))
    (hnodup : fresh.Nodup) (hfresh : ∀ id ∈ fresh, ¬Q k id ∧ Q k' id)
    (hQ : ∀ id, Q k id → Q k' id) : Passes Q k k' before after := by
  refine ⟨fresh, [], ?_, hnodup, hfresh, fun id _ => hQ id⟩
  rw [List.append_nil]
  exact hsub

/-- The token of the call is given back. -/
theorem Passes.give {id : Uuid} (hQ : ∀ id', id' ≠ id → Q k id' → Q k' id') :
    Passes Q k k' [id] [] :=
  ⟨[], [id], List.Subperm.refl _, List.nodup_nil, fun _ hid' => absurd hid' List.not_mem_nil,
    fun id' hid' => hQ id' fun heq => hid' (List.mem_singleton.2 heq)⟩

end Passes

namespace Board

/-- The tokens that calls hold, and those that events used up. -/
def tokens (f : Task → List Uuid) (g : Event → List Uuid) (b : Board) : List Uuid :=
  b.tasks.flatMap f ++ b.events.flatMap g

/-- No token is held twice, and all of them are good for something. -/
structure Owned (f : Task → List Uuid) (g : Event → List Uuid) (Q : Ledger → Uuid → Prop)
    (b : Board) : Prop where
  apart : (b.tokens f g).Nodup
  valid : ∀ id ∈ b.tokens f g, Q b.ledger id

variable {f : Task → List Uuid} {g : Event → List Uuid} {Q : Ledger → Uuid → Prop} {b : Board}

theorem Owned.start {k : Ledger} : Owned f g Q ⟨k, [], []⟩ :=
  ⟨List.nodup_nil, fun _ h => absurd h List.not_mem_nil⟩

theorem Owned.issued {t : Task} (inv : Owned f g Q b) (ht : f t = []) :
    Owned f g Q { b with tasks := b.tasks ++ [t] } := by
  have hsame : tokens f g { b with tasks := b.tasks ++ [t] } = b.tokens f g := by
    simp only [tokens, flatMap_snoc ht]
  refine ⟨?_, ?_⟩
  · rw [hsame]
    exact inv.apart
  · rw [hsame]
    exact inv.valid

/-- A step that passes tokens keeps them apart. -/
theorem Owned.advanced {k' : Ledger} {n : Nat} {t t' : Task} (inv : Owned f g Q b)
    (task : b.tasks[n]? = some t) (h : Passes Q b.ledger k' (f t) (f t' ++ g ⟨n, t, t'⟩)) :
    Owned f g Q ⟨k', b.tasks.set n t', b.events ++ [⟨n, t, t'⟩]⟩ := by
  rcases h with ⟨fresh, dropped, hsub, hnodup, hfresh, hkept⟩
  -- All tokens after the step, with those given back, were held or are fresh.
  have htokens : tokens f g ⟨k', b.tasks.set n t', b.events ++ [⟨n, t, t'⟩]⟩ ++ dropped =
      (b.tasks.set n t').flatMap f ++ (b.events.flatMap g ++ (g ⟨n, t, t'⟩ ++ dropped)) := by
    simp only [tokens, List.flatMap_append, List.flatMap_singleton, List.append_assoc]
  have hall : (tokens f g ⟨k', b.tasks.set n t', b.events ++ [⟨n, t, t'⟩]⟩ ++ dropped).Subperm
      (fresh ++ b.tokens f g) := by
    rw [htokens]
    rw [List.append_assoc] at hsub
    exact subperm_advance task hsub
  -- Fresh tokens were good for nothing before, so they are not among the others.
  have hdisjoint : List.Disjoint fresh (b.tokens f g) :=
    fun id hid hold => (hfresh id hid).1 (inv.valid id hold)
  have happ := nodup_of_subperm hall (hnodup.append inv.apart hdisjoint)
  refine ⟨happ.of_append_left, fun id hid => ?_⟩
  -- What is held is not what was given back, so it is still good.
  have hgiven : id ∉ dropped := fun h => List.disjoint_of_nodup_append happ hid h
  rcases List.mem_append.1 (hall.subset (List.mem_append_left _ hid)) with hnew | hold
  · exact (hfresh id hnew).2
  · exact hkept id hgiven (inv.valid id hold)

end Board

end Run

end Outreach
