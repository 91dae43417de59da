import Outreach.Proofs.Intake.Keeper
import Outreach.Proofs.Run.Tokens

/-!
# The Board of Customers and Orders

Book, calls and events are all that the course of a run is about. A board steps
when a call is issued, when the clock is set, or when a call ends a step in one of
the known ways. What a step keeps holds on every board that can be reached: emails
are there once, identifiers are in use once, and every customer is in normal form.

A step of a call depends on this. That it ends in one of the known ways, and that
what is known goes on to hold, is therefore shown together, move by move.

## Main definitions

* `Intake.Board`, `Intake.Board.Step`: Boards and their steps.
* `Intake.Board.Reachable`: The boards that can be reached from an empty one while
  no identifier is drawn twice.
* `Intake.Board.Orderly`: What holds on each of them.

## Theorems

* `Intake.Board.Reachable.orderly`: It does.
* `Intake.System.exists_board`: Every run leads to a board that can be reached.
-/

namespace Outreach

namespace Intake

variable {K : Keeping}

theorem Keeping.regular_customer (K : Keeping) {c : Customer} (h : c.Regular) :
    (K.customer c).Regular :=
  ⟨h.named, h.stripped, h.mailed, h.normal, h.visits⟩

/-- An order keeps its customer in normal form. -/
theorem Purchase.regular_on (p : Purchase) {c : Customer} (h : c.Regular) : (p.on c).Regular := by
  have hvisits := h.visits
  rw [Purchase.on, Mirror.orderedBy, Customer.recordOrder]
  by_cases he : c.email = normalEmail p.args.customerEmail
  · rw [if_pos he]
    cases inUtc p.arrival <;>
      exact ⟨h.named, h.stripped, h.mailed, h.normal, by simp only; omega⟩
  · rw [if_neg he]
    exact h

/-! ## What a step keeps -/

namespace Book

/-- The identifiers that were drawn. -/
def taken (b : Book) : List Uuid := (List.range b.drawn).map b.supply

/-- No identifier was drawn twice. -/
def Distinct (b : Book) : Prop :=
  ∀ i < b.drawn, ∀ j < b.drawn, b.supply i = b.supply j → i = j

theorem taken_draw (b : Book) : b.draw.taken.Perm ([b.next] ++ b.taken) := by
  simp only [taken, draw, List.range_succ, List.map_append, List.map_singleton]
  exact List.perm_append_comm

theorem Distinct.nodup_taken {b : Book} (h : b.Distinct) : b.taken.Nodup := by
  refine List.Nodup.map_on (fun i hi j hj => ?_) List.nodup_range
  exact h i (List.mem_range.1 hi) j (List.mem_range.1 hj)

end Book

namespace Task

variable {b b' : Book} {t t' : Task}

/-- A step passes on the identifier that its call holds, drops it or draws one. -/
theorem Effect.ids (h : Effect K b t b' t') : ∃ fresh, b'.taken.Perm (fresh ++ b.taken) ∧
    (t'.ids ++ b'.ids).Subperm (fresh ++ (t.ids ++ b.ids)) := by
  have hdropped : b.ids.Subperm (t.ids ++ b.ids) := (List.sublist_append_right _ _).subperm
  cases h with
  | drafted passes =>
      refine ⟨[b.next], b.taken_draw, ?_⟩
      rw [Task.ids, passes.same]
      exact List.Subperm.refl _
  | orderDrafted passes =>
      refine ⟨[b.next], b.taken_draw, ?_⟩
      rw [Task.ids, passes.same]
      exact List.Subperm.refl _
  | invalid fails => exact ⟨[b.next], b.taken_draw, (List.sublist_cons_self _ _).subperm⟩
  | orderInvalid f => exact ⟨[b.next], b.taken_draw, (List.sublist_cons_self _ _).subperm⟩
  | cleared => exact ⟨[], List.Perm.refl _, List.Subperm.refl _⟩
  -- What the call held becomes that of a stored entity.
  | enrolled unknown takes => exact ⟨[], List.Perm.refl _, (b.ids_enrol _).subperm⟩
  | shelved => exact ⟨[], List.Perm.refl _, (b.ids_shelve _).subperm⟩
  | applied =>
      refine ⟨[], List.Perm.refl _, ?_⟩
      rw [Book.ids_apply]
      exact List.Subperm.refl _
  | duplicate | unwritable | orderUnwritable => exact ⟨[], List.Perm.refl _, hdropped⟩

theorem Effect.emails (h : Effect K b t b' t') (hemails : b.emails.Nodup) : b'.emails.Nodup := by
  cases h with
  | enrolled unknown takes =>
      rw [Book.emails_enrol]
      exact hemails.append (List.nodup_singleton _) (List.disjoint_singleton.2 unknown)
  | applied => rwa [Book.emails_apply]
  | _ => exact hemails

theorem Effect.regular (h : Effect K b t b' t') (hready : t.Ready K b)
    (hregular : ∀ c ∈ b.customers, c.Regular) : ∀ c ∈ b'.customers, c.Regular := by
  cases h with
  | enrolled unknown takes =>
      rcases hready with ⟨id, now, hpasses⟩
      rintro c hc
      rcases List.mem_append.1 hc with hc | hc
      · exact hregular c hc
      · rw [List.mem_singleton.1 hc]
        exact K.regular_customer hpasses.regular
  | applied =>
      rintro c hc
      rcases List.mem_map.1 hc with ⟨d, hd, rfl⟩
      exact Purchase.regular_on _ (hregular d hd)
  | _ => exact hregular

/-- Stored orders stay stored. -/
theorem Effect.orders (h : Effect K b t b' t') : b.orders ⊆ b'.orders := by
  cases h with
  | shelved => exact List.subset_append_left _ _
  | _ => exact List.Subset.refl _

/-- What is known of a call is known as long as no order is lost. -/
theorem Ready.later (h : t.Ready K b) (horders : b.orders ⊆ b'.orders) : t.Ready K b' := by
  cases t with
  | customer args p => cases p with
    | underway s => cases s <;> exact h
    | _ => exact h
  | order args p => cases p with
    | underway s => cases s with
      | applying o stored arrival => exact ⟨h.1, h.2.1, horders h.2.2.1, h.2.2.2⟩
      | _ => exact h
    | _ => exact h

theorem Effect.ready (h : Effect K b t b' t') (hclock : inUtc b.clock = .ok b.clock)
    (hready : t.Ready K b) : t'.Ready K b' := by
  cases h with
  | drafted passes => exact ⟨_, _, passes⟩
  | cleared => exact hready
  | enrolled unknown takes => exact hready
  | orderDrafted passes => exact ⟨⟨_, _, passes⟩, hclock⟩
  | shelved =>
      exact ⟨hready.1, rfl, List.mem_append_right _ (List.mem_singleton_self _), hready.2⟩
  | applied => exact hready.1
  | _ => trivial

end Task

/-! ## Boards -/

/-- The book, the calls and what they did. -/
structure Board where
  book : Book
  tasks : List Task
  events : List Event

namespace Board

/-- The steps of a board. -/
inductive Step (K : Keeping) : Board → Board → Prop
  | issued {b : Board} (r : Request) : Step K b { b with tasks := b.tasks ++ [r.task] }
  | set {b : Board} (now : Instant) : Step K b { b with book := { b.book with clock := now } }
  | advanced {b : Board} {k : Book} {n : Nat} {t t' : Task} (task : b.tasks[n]? = some t)
      (effect : Task.Effect K b.book t k t') :
      Step K b ⟨k, b.tasks.set n t', b.events ++ [⟨n, b.book.clock, t, t'⟩]⟩

/-- The boards that can be reached from an empty one while no identifier is drawn
    twice. -/
inductive Reachable (K : Keeping) : Board → Prop
  | start {k : Book} (customers : k.customers = []) (orders : k.orders = [])
      (clock : inUtc k.clock = .ok k.clock) : Reachable K ⟨k, [], []⟩
  | step {b b' : Board} (before : Reachable K b) (step : Step K b b')
      (distinct : b'.book.Distinct) : Reachable K b'

/-- What holds on every board that can be reached. -/
structure Orderly (K : Keeping) (b : Board) : Prop where
  clock : inUtc b.book.clock = .ok b.book.clock
  regular : ∀ c ∈ b.book.customers, c.Regular
  emails : b.book.emails.Nodup
  /-- What is in use was drawn, once for each use. -/
  ids : (b.tasks.flatMap Task.ids ++ b.book.ids).Subperm b.book.taken
  ready : ∀ t ∈ b.tasks, t.Ready K b.book

theorem Orderly.step {b b' : Board} (inv : Orderly K b) (h : Step K b b') : Orderly K b' := by
  cases h with
  | issued r =>
      refine { inv with ids := ?_, ready := fun t ht => ?_ }
      · have hnone : r.task.ids = [] := by cases r <;> rfl
        rw [flatMap_snoc hnone]
        exact inv.ids
      · rcases List.mem_append.1 ht with ht | ht
        · exact inv.ready t ht
        · rw [List.mem_singleton.1 ht]
          cases r <;> trivial
  | set now => exact ⟨now.2, inv.regular, inv.emails, inv.ids,
      fun t ht => (inv.ready t ht).later (List.Subset.refl _)⟩
  | advanced task effect =>
      have hready := inv.ready _ (List.mem_of_getElem? task)
      refine ⟨?_, effect.regular hready inv.regular, effect.emails inv.emails, ?_, fun t ht => ?_⟩
      · rw [effect.supply.2.2]
        exact inv.clock
      · rcases effect.ids with ⟨fresh, htaken, hids⟩
        have hsub := (subperm_exchange task hids).trans ((List.subperm_append_left fresh).2 inv.ids)
        exact hsub.trans htaken.symm.subperm
      · rcases List.mem_or_eq_of_mem_set ht with ht | rfl
        · exact (inv.ready t ht).later effect.orders
        · exact effect.ready inv.clock hready

theorem Reachable.orderly {b : Board} (h : Reachable K b) : Orderly K b := by
  induction h with
  | start customers orders clock =>
      refine ⟨clock, ?_, ?_, ?_, fun t ht => absurd ht List.not_mem_nil⟩
      · rw [customers]
        exact fun c hc => absurd hc List.not_mem_nil
      · rw [Book.emails, customers]
        exact List.nodup_nil
      · rw [Book.ids, customers, orders]
        exact List.nil_subperm
  | step before step distinct ih => exact ih.step step

/-- Identifiers are in use once, besides what a call holds. -/
theorem Orderly.nodup_ids {b : Board} (inv : Orderly K b) (hdistinct : b.book.Distinct) :
    (b.tasks.flatMap Task.ids ++ b.book.ids).Nodup :=
  nodup_of_subperm inv.ids hdistinct.nodup_taken

end Board

/-! ## Runs -/

theorem Shows.distinct {σ : Type} [Keeper σ] {w : World σ} {k : Book} (h : Shows w k)
    (hdistinct : w.DistinctIds) : k.Distinct := by
  intro i hi j hj
  rw [← h.supply]
  exact hdistinct i (h.drawn ▸ hi) j (h.drawn ▸ hj)

namespace System

variable {σ : Type}

/-- The board of a system that has a book. -/
def board (s : System σ) (k : Book) : Board := ⟨k, s.tasks, s.events⟩

variable [Repository σ] [Keeper σ] [LawfulKeeper σ] {s : System σ} {k : Book}

theorem draws_move (s : System σ) (m : Move) : Draws s.world (s.move m).world := by
  cases m with
  | issue r => exact .refl _
  | set now => exact ⟨rfl, Nat.le_refl _⟩
  | advance number =>
      rcases s.move_advance number with hsame | ⟨t, -, -, hstep⟩
      · rw [hsame]
        exact .refl _
      · rw [hstep]
        exact Task.advance_draws t s.world

/-- A call that takes a step takes one of the known ones. -/
theorem exists_effect (hshows : Shows s.world k)
    (hreachable : (s.board k).Reachable (Keeper.keeping σ)) (hdistinct : k.Distinct) {number : Nat}
    {t : Task} (ht : s.tasks[number]? = some t) (hunderway : t.isUnderway = true) :
    ∃ k', Task.Effect (Keeper.keeping σ) k t k' (t.advance s.world).1 ∧
      Shows (s.step number t).world k' := by
  have horderly := hreachable.orderly
  refine Task.advance_effect hshows horderly.clock horderly.emails hunderway ?_ ?_
  · exact horderly.ready t (List.mem_of_getElem? ht)
  · exact nodup_of_task ht (horderly.nodup_ids hdistinct)

theorem exists_board_move (hshows : Shows s.world k)
    (hreachable : (s.board k).Reachable (Keeper.keeping σ)) {m : Move}
    (hdistinct : (s.move m).world.DistinctIds) :
    ∃ k', Shows (s.move m).world k' ∧ ((s.move m).board k').Reachable (Keeper.keeping σ) := by
  have hbefore : k.Distinct := hshows.distinct ((s.draws_move m).distinctIds hdistinct)
  cases m with
  | issue r => exact ⟨k, hshows, hreachable.step (.issued r) hbefore⟩
  | set now =>
      refine ⟨{ k with clock := now }, ⟨hshows.holds, hshows.supply, hshows.drawn, rfl⟩, ?_⟩
      exact hreachable.step (.set now) hbefore
  | advance number =>
      rcases s.move_advance number with hsame | ⟨t, ht, hunderway, hstep⟩
      · rw [hsame]
        exact ⟨k, hshows, hreachable⟩
      · rw [hstep] at hdistinct ⊢
        rcases exists_effect hshows hreachable hbefore ht hunderway with ⟨k', heffect, hafter⟩
        have hboard : (s.step number t).board k' =
            ⟨k', s.tasks.set number (t.advance s.world).1,
              s.events ++ [⟨number, k.clock, t, (t.advance s.world).1⟩]⟩ := by
          rw [← hshows.clock]
          rfl
        refine ⟨k', hafter, ?_⟩
        rw [hboard]
        exact hreachable.step (.advanced (b := s.board k) ht heffect) (hafter.distinct hdistinct)

theorem distinctIds_of_run (moves : List Move) :
    ∀ {s : System σ}, (s.run moves).world.DistinctIds → s.world.DistinctIds := by
  induction moves with
  | nil => exact id
  | cons m rest ih => exact fun h => (draws_move _ m).distinctIds (ih h)

theorem exists_board_run (moves : List Move) : ∀ {s : System σ} {k : Book}, Shows s.world k →
    (s.board k).Reachable (Keeper.keeping σ) → (s.run moves).world.DistinctIds →
      ∃ k', Shows (s.run moves).world k' ∧
        ((s.run moves).board k').Reachable (Keeper.keeping σ) := by
  induction moves with
  | nil => exact fun hshows hreachable _ => ⟨_, hshows, hreachable⟩
  | cons m rest ih =>
      intro s k hshows hreachable hdistinct
      -- Identifiers that are apart at the end were apart all along.
      rcases exists_board_move hshows hreachable (distinctIds_of_run rest hdistinct) with
        ⟨k₁, hshows₁, hreachable₁⟩
      exact ih hshows₁ hreachable₁ hdistinct

/-- Every run from an opening leads to a board that can be reached. -/
theorem exists_board {w : World σ} (hopening : Opening w) (moves : List Move)
    (hdistinct : ((start w).run moves).world.DistinctIds) :
    ∃ k, Shows ((start w).run moves).world k ∧
      (((start w).run moves).board k).Reachable (Keeper.keeping σ) :=
  exists_board_run (s := start w) (k := ⟨[], [], w.supply, w.drawn, w.clock⟩) moves
    ⟨hopening.empty, rfl, rfl, rfl⟩ (.start rfl rfl hopening.clock) hdistinct

end System

end Intake

end Outreach
