import Outreach.Proofs.Run.Effect.Steps
import Outreach.Proofs.Run.System

/-!
# The Board of a Run

Ledger, calls and events are all that the course of a run is about. A board
steps when a call is issued or when one ends a step in one of the ways that
there are for it; a change of the conditions does not show on a board at all.
Every board of a run can be reached by such steps, so that what each of them
preserves holds all along the run.

## Main definitions

* `Run.Task.Effect`: The ways in which a step of any call can end.
* `Run.Board`, `Run.Board.Step`: Boards and their steps.
* `Run.Board.Reachable`: The boards that can be reached from a blank one while
  no identifier is drawn twice.

## Theorems

* `Run.Task.advance_effect`: There are no other ways.
* `Run.System.move_advance`: A call takes a step unless it has ended.
* `Run.System.board_move`: A move is a step of the board, or none.
* `Run.System.reachable_run`: Every board of a run is reachable.
-/

namespace Outreach

namespace Run

/-- The ways in which a step of any call can end: ledger and call before and
    after. -/
inductive Task.Effect : Ledger → Task → Ledger → Task → Prop
  | customer {args : NewCustomer} {k k' : Ledger} {s : Customers.Stage}
      {p : Progress Customers.Stage Customer} (aside : k.Aside k') :
      Effect k (.customer args (.underway s)) k' (.customer args p)
  | order {args : NewOrder} {k k' : Ledger} {s : Orders.Stage}
      {p : Progress Orders.Stage Order} (aside : k.Aside k') :
      Effect k (.order args (.underway s)) k' (.order args p)
  | campaign {args : NewCampaign} {k k' : Ledger} {s : Campaigns.Stage}
      {p : Progress Campaigns.Stage Campaign} (effect : Campaigns.Effect k s k' p) :
      Effect k (.campaign args (.underway s)) k' (.campaign args p)
  | dispatch {args : NewDispatch} {k k' : Ledger} {s : Dispatch.Stage}
      {p : Progress Dispatch.Stage (List DeliveryRecord)} (effect : Dispatch.Effect args k s k' p) :
      Effect k (.dispatch args (.underway s)) k' (.dispatch args p)
  | receipt {args : Receipt} {k k' : Ledger} {s : Receipts.Stage}
      {p : Progress Receipts.Stage ReceiptResult} (effect : Receipts.Effect args k s k' p) :
      Effect k (.receipt args (.underway s)) k' (.receipt args p)

namespace Task

variable {k k' : Ledger} {t t' : Task}

/-- A step of a call that has not ended ends in one of these ways. -/
theorem advance_effect {w : World Memory} (h : t.isUnderway = true) :
    Effect w.ledger t (t.advance w).2.ledger (t.advance w).1 := by
  cases t with
  | customer args p =>
      cases p with
      | underway s =>
          exact .customer (Progress.holds_after (R := fun _ v => w.ledger.Aside v.ledger)
            (Customers.advance_aside args s))
      | returned c => cases h
      | raised f => cases h
  | order args p =>
      cases p with
      | underway s =>
          exact .order (Progress.holds_after (R := fun _ v => w.ledger.Aside v.ledger)
            (Orders.advance_aside args s))
      | returned c => cases h
      | raised f => cases h
  | campaign args p =>
      cases p with
      | underway s =>
          exact .campaign (Progress.holds_after
            (R := fun p v => Campaigns.Effect w.ledger s v.ledger p)
            (Campaigns.advance_effect args s))
      | returned c => cases h
      | raised f => cases h
  | dispatch args p =>
      cases p with
      | underway s =>
          exact .dispatch (Progress.holds_after
            (R := fun p v => Dispatch.Effect args w.ledger s v.ledger p)
            (Dispatch.advance_effect s))
      | returned c => cases h
      | raised f => cases h
  | receipt args p =>
      cases p with
      | underway s =>
          exact .receipt (Progress.holds_after
            (R := fun p v => Receipts.Effect args w.ledger s v.ledger p)
            (Receipts.advance_effect s))
      | returned c => cases h
      | raised f => cases h

/-- The supply stays the same, and what was drawn from it stays drawn. -/
theorem Effect.supply (h : Effect k t k' t') : k'.supply = k.supply ∧ k.drawn ≤ k'.drawn := by
  cases h with
  | customer aside => exact ⟨aside.supply, aside.drawn⟩
  | order aside => exact ⟨aside.supply, aside.drawn⟩
  | campaign effect => cases effect <;> exact ⟨rfl, by simp only [Ledger.draw, Ledger.putCampaign,
      Nat.le_add_right, Nat.le_refl]⟩
  | dispatch effect => cases effect <;> exact ⟨rfl, by simp only [Ledger.draw, Ledger.putCampaign,
      Ledger.putBatch, Ledger.hand, Nat.le_add_right, Nat.le_refl]⟩
  | receipt effect => cases effect <;> exact ⟨rfl, Nat.le_refl _⟩

end Task

/-- What the course of a run is about. -/
structure Board where
  ledger : Ledger
  tasks : List Task
  events : List Event

namespace Board

/-- A call is issued, or the call with some number ends a step. -/
inductive Step : Board → Board → Prop
  | issued {b : Board} (r : Request) : Step b { b with tasks := b.tasks ++ [r.task] }
  | advanced {b : Board} {k' : Ledger} {n : Nat} {t t' : Task} (task : b.tasks[n]? = some t)
      (effect : t.Effect b.ledger k' t') :
      Step b ⟨k', b.tasks.set n t', b.events ++ [⟨n, t, t'⟩]⟩

/-- The boards that can be reached from a blank one while no identifier is drawn
    twice. -/
inductive Reachable : Board → Prop
  | start {k : Ledger} (tables : k.tables = Tables.empty) (handed : k.handed = []) :
      Reachable ⟨k, [], []⟩
  | step {b b' : Board} (before : Reachable b) (step : Step b b') (distinct : b'.ledger.Distinct) :
      Reachable b'

variable {b b' : Board}

theorem Step.distinct_before (h : Step b b') (hdistinct : b'.ledger.Distinct) :
    b.ledger.Distinct := by
  cases h with
  | issued r => exact hdistinct
  | advanced task effect => exact hdistinct.before effect.supply.1 effect.supply.2

/-- What was done stays done. -/
theorem Step.events_prefix (h : Step b b') : b.events <+: b'.events := by
  cases h with
  | issued r => exact List.prefix_refl _
  | advanced task effect => exact List.prefix_append _ _

end Board

namespace System

/-- The board of a system. -/
def board (s : System) : Board := ⟨s.world.ledger, s.tasks, s.events⟩

/-- Of a call that has ended, or that there is not, nothing is left to advance. -/
theorem move_advance (s : System) (n : Nat) :
    s.move (.advance n) = s ∨
      ∃ t, s.tasks[n]? = some t ∧ t.isUnderway = true ∧ s.move (.advance n) = s.step n t := by
  cases ht : s.tasks[n]? with
  | none => exact Or.inl (by simp only [move, ht])
  | some t =>
      by_cases h : t.isUnderway = true
      · exact Or.inr ⟨t, rfl, h, by simp only [move, ht, h, if_true]⟩
      · exact Or.inl (by simp only [move, ht, h, Bool.false_eq_true, if_false])

/-- A move is a step of the board, or none. -/
theorem board_move (s : System) (m : Move) :
    (s.move m).board = s.board ∨ s.board.Step (s.move m).board := by
  cases m with
  | issue r => exact Or.inr (.issued r)
  | turn c => exact Or.inl rfl
  | advance number =>
      rcases s.move_advance number with heq | ⟨t, ht, h, heq⟩
      · exact Or.inl (congrArg board heq)
      · rw [heq]
        exact Or.inr (Board.Step.advanced (b := s.board) ht (Task.advance_effect h))

theorem run_append (s : System) (moves more : List Move) :
    s.run (moves ++ more) = (s.run moves).run more := by
  simp only [run, List.foldl_append]

/-- What was not drawn twice by the end of a move was not before. -/
theorem distinctIds_of_move {s : System} {m : Move} (h : (s.move m).world.DistinctIds) :
    s.world.DistinctIds := by
  have hafter : (s.move m).board.ledger.Distinct := h
  rcases board_move s m with heq | hstep
  · rw [heq] at hafter
    exact hafter
  · exact hstep.distinct_before hafter

theorem distinctIds_of_run (moves : List Move) :
    ∀ {s : System}, (s.run moves).world.DistinctIds → s.world.DistinctIds := by
  induction moves with
  | nil => exact id
  | cons m rest ih => exact fun h => distinctIds_of_move (ih h)

theorem reachable_move {s : System} {m : Move} (hs : s.board.Reachable)
    (hdistinct : (s.move m).world.DistinctIds) : (s.move m).board.Reachable := by
  rcases board_move s m with heq | hstep
  · rw [heq]
    exact hs
  · exact .step hs hstep hdistinct

/-- Along a run without identifiers drawn twice, all boards are reachable if the
    first one is. -/
theorem reachable_of_run (moves : List Move) : ∀ {s : System}, s.board.Reachable →
    (s.run moves).world.DistinctIds → (s.run moves).board.Reachable := by
  induction moves with
  | nil => exact fun hs _ => hs
  | cons m rest ih =>
      intro s hs hdistinct
      -- Identifiers that are apart at the end were apart all along.
      exact ih (reachable_move hs (distinctIds_of_run rest hdistinct)) hdistinct

/-- Every board of a run from a blank world is reachable. -/
theorem reachable_run {w : World Memory} (hblank : w.Blank) (moves : List Move)
    (hdistinct : ((start w).run moves).world.DistinctIds) :
    ((start w).run moves).board.Reachable :=
  reachable_of_run moves (.start hblank.tables hblank.handed) hdistinct

end System

end Run

end Outreach
