import Outreach.Proofs.Action
import Outreach.Proofs.Vendor.Course

/-!
# An Agenda Is a Course of the Loop

What an agenda does with the first item of its queue are steps of the loop: when the queue is
empty, rests are over in the order of their due times; the item is taken; and when it is a
send with a receipt, the sink does what it does at once and has taken the receipt or failed.
Nobody is called off on the way.

## Main definitions

* `Sparing`: A sink that hands over no messages.

## Theorems

* `Send.deliver_ends`: A receipt that is not delivered leaves a line in the log.
* `Loop.steps_advance`: Rests that are over at once are over one after the other.
* `Loop.steps_carryOut`, `Loop.steps_next`: Carrying out an item.
-/

namespace Outreach

open Traffic (Event)

variable {σ : Type}

/-- A sink that hands over no messages. -/
def Sparing (sink : Receipt → Action σ Unit) : Prop :=
  ∀ receipt w, (sink receipt).Ends w (fun _ v => v.sender.handed = w.sender.handed)
    fun _ v => v.sender.handed = w.sender.handed

/-- A sink that is called ends in one of two ways, and a sparing one hands over nothing. -/
theorem ends_sink {sink : Receipt → Action σ Unit} {receipt : Receipt} {w : World σ}
    {ok : Unit → World σ → Prop} {bad : Fault → World σ → Prop}
    (hok : ∀ a v, (Sparing sink → v.sender.handed = w.sender.handed) → ok a v)
    (hbad : ∀ f v, (Sparing sink → v.sender.handed = w.sender.handed) → bad f v) :
    (sink receipt).Ends w ok bad := by
  by_cases hsparing : Sparing sink
  · exact (hsparing receipt w).mono (fun a v hv => hok a v fun _ => hv)
      fun f v hv => hbad f v fun _ => hv
  · exact Action.ends_of_forall (fun a v => hok a v fun h => absurd h hsparing)
      fun f v => hbad f v fun h => absurd h hsparing

/-- A receipt is delivered, or lost with a line in the log. -/
theorem Send.deliver_ends (sink : Receipt → Action σ Unit) (s : Send) (o : DeliveryStatus)
    (w : World σ) : ∃ v : World σ, (Sparing sink → v.sender.handed = w.sender.handed) ∧
      (s.deliver sink o w = .ok .delivered v ∨ ∃ (f : Fault) (fields : Log.Fields),
        s.deliver sink o w = .ok .undelivered { v with log := s.loss f fields :: v.log }) := by
  have hends : (s.deliver sink o).Ends w (fun how u => ∃ v : World σ,
      (Sparing sink → v.sender.handed = w.sender.handed) ∧
      (how = .delivered ∧ u = v ∨ ∃ (f : Fault) (fields : Log.Fields),
        how = .undelivered ∧ u = { v with log := s.loss f fields :: v.log }))
      fun _ _ => False := by
    rw [deliver, Action.ends_within, Action.ends_bind, Action.ends_note, Action.ends_bind,
      Action.ends_capture]
    refine ends_sink (fun _ v hspared => ?_) fun f v hspared => ?_
    · exact ⟨{ v with fields := w.fields }, hspared, .inl ⟨rfl, rfl⟩⟩
    · exact ⟨{ v with fields := w.fields }, hspared, .inr ⟨f, v.fields, rfl, rfl⟩⟩
  rcases Action.exists_of_ends hends with ⟨how, u, hrun, v, hspared, hcase⟩
  refine ⟨v, hspared, hrun ▸ ?_⟩
  rcases hcase with ⟨rfl, rfl⟩ | ⟨f, fields, rfl, rfl⟩
  · exact .inl rfl
  · exact .inr ⟨f, fields, rfl⟩

/-- The rests that are over at once when time passes. -/
theorem Agenda.passTime_eq {a : Agenda σ} {pair : Entry Item × Schedule Item}
    (h : a.rests.next? = some pair) : a.passTime = { a with
      time := pair.1.due
      queue := a.queue ++ (a.rests.dueBefore (pair.1.due.add resolution)).1.map Entry.item
      rests := (a.rests.dueBefore (pair.1.due.add resolution)).2 } := by
  rw [passTime, h]

namespace Loop

variable {a b : Agenda σ}

/-- Rests that are over at the same time. -/
theorem steps_elapse (entries rests : Schedule Item) : ∀ a : Agenda σ, a.rests = entries ++ rests →
    Steps ⟨a, []⟩ []
      ⟨{ a with queue := a.queue ++ entries.map Entry.item, rests := rests }, []⟩ := by
  induction entries with
  | nil =>
      intro a hrests
      rcases a with ⟨_, _, _, _, _, _, _, _, _⟩
      cases hrests
      rw [List.map_nil, List.append_nil]
      exact .refl _
  | cons e more ih =>
      intro a hrests
      have hstep : Step ⟨a, []⟩ [] ⟨{ a with
          queue := a.queue ++ [e.item]
          rests := more ++ rests }, []⟩ := .elapse (.of_eq hrests) a.time
      have hmore := ih { a with queue := a.queue ++ [e.item], rests := more ++ rests } rfl
      rw [List.append_assoc] at hmore
      exact (Steps.single hstep).trans hmore

/-- When nothing else can go on, rests are over in the order of their due times. -/
theorem steps_passTime (hempty : a.queue = []) (h : a.passTime.queue ≠ []) :
    Steps ⟨a, []⟩ [] ⟨a.passTime, []⟩ := by
  cases hnext : a.rests.next? with
  | none =>
      rw [Agenda.passTime, hnext] at h
      exact absurd hempty h
  | some pair =>
      have hperm := Schedule.perm_dueBefore (pair.1.due.add Agenda.resolution) a.rests
      rw [Agenda.passTime_eq hnext] at h ⊢
      cases hending : (a.rests.dueBefore (pair.1.due.add Agenda.resolution)).1 with
      | nil =>
          rw [hending, hempty] at h
          exact absurd rfl h
      | cons e more =>
          rw [hending] at hperm
          have hstep := Step.elapse (l := ⟨a, []⟩) hperm pair.1.due
          have hmore := steps_elapse more _ { a with
            rests := more ++ (a.rests.dueBefore (pair.1.due.add Agenda.resolution)).2
            time := pair.1.due
            queue := a.queue ++ [e.item] } rfl
          rw [List.append_assoc] at hmore
          exact (Steps.single hstep).trans hmore

theorem steps_advance (h : a.advance.queue ≠ []) : Steps ⟨a, []⟩ [] ⟨a.advance, []⟩ := by
  rw [Agenda.advance] at h ⊢
  by_cases hempty : a.queue.isEmpty = true
  · rw [if_pos hempty] at h ⊢
    exact steps_passTime (List.isEmpty_iff.1 hempty) h
  · rw [if_neg hempty]
    exact .refl _

/-- Other things go on, and leave another world behind. -/
theorem perform_eq {α : Type} (x : Action σ α) :
    (a.perform x).2 = a.beside (Action.left x a.world) a.launches := by
  rw [Agenda.perform, Action.left]
  cases x a.world <;> rfl

theorem perform_of_ok {α : Type} {x : Action σ α} {r : α} {w : World σ} (h : x a.world = .ok r w) :
    a.perform x = (.ok r, a.beside w a.launches) := by
  rw [Agenda.perform, h]
  rfl

theorem beside_modifyLaunch (w : World σ) (launches : List Launch) (k : Nat) (f : Launch → Launch) :
    (a.beside w launches).modifyLaunch k f = a.beside w (launches.modify k f) := by
  rw [Agenda.beside, Agenda.beside, Agenda.collect, Agenda.collect]
  split <;> rfl

/-- Only launches change. -/
theorem beside_of_nothing (h : a.world.sender.handed = []) (launches : List Launch) :
    { a with launches := launches } = a.beside a.world launches :=
  (Agenda.collect_of_nothing (a := { a with launches := launches }) h).symm

theorem notMem_accepts {k : Nat} {w : World σ} : .calledOff k ∉ accepts w := fun h => by
  rcases List.mem_map.1 h with ⟨_, -, heq⟩
  cases heq

/-- No item calls a send off. -/
theorem Takes.notMem {l m : Loop σ} {item : Item} {es : List Event} (h : Takes l item es m)
    (j : Nat) : .calledOff j ∉ es := by
  cases h with
  | launched _ _ _ _ => exact notMem_accepts
  | noteLaunch _ _ _ _ => exact notMem_accepts
  | _ => simp

/-- An item that is taken is one step. -/
theorem exists_steps_of_takes {item : Item} {rest : List Item} {es : List Event}
    (hqueue : a.queue = item :: rest) (h : Takes ⟨{ a with queue := rest }, []⟩ item es ⟨b, []⟩) :
    ∃ es, Steps ⟨a, []⟩ es ⟨b, []⟩ ∧ ∀ j, .calledOff j ∉ es :=
  ⟨es, .single (.take hqueue h), h.notMem⟩

/-- A send whose outcome is due reports it and ends. -/
theorem resumeSend_of_delivers {sink : Receipt → Action σ Unit} {k : Nat} {s : Send}
    {o : DeliveryStatus} {how : Ending} (hs : a.vendor.sends[k]? = some s)
    (hstage : s.stage = .responding o) (hcalled : s.isCalledOff = false)
    (hdeliver : { a with vendor := a.vendor.report ⟨s.recordId, o⟩ }.perform (s.deliver sink o) =
      (.ok how, b)) :
    a.resumeSend sink k = { b with vendor := b.vendor.finish k how }.leave (.send k) := by
  have hopen : s.isEnded = false := by rw [Send.isEnded, hstage]
  rw [Agenda.resumeSend]
  simp only [hs, hopen, hcalled, hstage, hdeliver]
  rfl

/-- A send whose outcome is due calls the sink, which does what it does at once. -/
theorem steps_report {sink : Receipt → Action σ Unit} {rest : List Item} {k : Nat} {s : Send}
    {o : DeliveryStatus} (hsim : a.simulates = true) (hqueue : a.queue = .resume (.send k) :: rest)
    (hs : a.vendor.sends[k]? = some s) (hstage : s.stage = .responding o)
    (hcalled : s.isCalledOff = false) : ∃ es,
      Steps ⟨a, []⟩ es ⟨{ a with queue := rest }.resumeSend sink k, []⟩ ∧
        ∀ j, .calledOff j ∉ es := by
  have hopen : s.isEnded = false := by rw [Send.isEnded, hstage]
  rcases s.deliver_ends sink o a.world with ⟨v, -, hrun⟩
  let b : Agenda σ := { a with queue := rest, vendor := a.vendor.report ⟨s.recordId, o⟩ }
  have htake : Step ⟨a, []⟩ [.reported k ⟨s.recordId, o⟩] ⟨b, [k]⟩ :=
    .take hqueue (.report hs hstage hcalled List.not_mem_nil)
  have hbeside : Step ⟨b, [k]⟩ (accepts v) ⟨b.beside v a.launches, [k]⟩ :=
    .beside hsim v a.launches
  have hs' : (b.beside v a.launches).vendor.sends[k]? = some s := by
    rw [Agenda.beside, (collect_eq (a := { b with world := v, launches := a.launches }) hsim).1,
      sends_foldl_accept]
    exact (List.getElem?_append_left (List.getElem?_eq_some_iff.1 hs).1).trans hs
  have hnone : [k].filter (· ≠ k) = [] := by simp
  have hquiet : ∀ j, .calledOff j ∉ [.reported k ⟨s.recordId, o⟩] ++ accepts v := fun j hj =>
    (List.mem_append.1 hj).elim (by simp) notMem_accepts
  rcases hrun with hrun | ⟨f, fields, hrun⟩
  · have hlast := Step.delivered (l := ⟨b.beside v a.launches, [k]⟩) hs' hopen hcalled
      List.mem_cons_self
    rw [hnone] at hlast
    rw [resumeSend_of_delivers (a := { a with queue := rest }) hs hstage hcalled
      (perform_of_ok hrun)]
    refine ⟨_, ((Steps.single htake).step hbeside).step hlast, fun j hj => ?_⟩
    exact (List.mem_append.1 hj).elim (hquiet j) (by simp)
  · have hlast := Step.lost (l := ⟨b.beside v a.launches, [k]⟩) hs' hopen hcalled
      List.mem_cons_self f fields
    rw [hnone] at hlast
    rw [resumeSend_of_delivers (a := { a with queue := rest }) hs hstage hcalled
      (perform_of_ok hrun), Agenda.beside,
      Agenda.collect, if_pos hsim]
    rw [Agenda.beside, Agenda.collect, if_pos (show b.simulates = true from hsim)]
      at hlast hbeside
    refine ⟨_, ((Steps.single htake).step hbeside).step hlast, fun j hj => ?_⟩
    exact (List.mem_append.1 hj).elim (hquiet j) (by simp)

/-- Carrying out a send. -/
theorem steps_resumeSend (sink : Receipt → Action σ Unit) {rest : List Item} {k : Nat}
    (hsim : a.simulates = true) (hqueue : a.queue = .resume (.send k) :: rest) : ∃ es,
      Steps ⟨a, []⟩ es ⟨{ a with queue := rest }.resumeSend sink k, []⟩ ∧
        ∀ j, .calledOff j ∉ es := by
  have hisEnded : { a with queue := rest }.isEnded (.send k) =
      a.vendor.sends[k]?.all Send.isEnded := rfl
  cases hs : a.vendor.sends[k]? with
  | none =>
      rw [hs] at hisEnded
      rw [Agenda.resumeSend, hs]
      exact exists_steps_of_takes hqueue (.skip hisEnded)
  | some s =>
      rw [hs] at hisEnded
      cases hended : s.isEnded with
      | true =>
          rw [Agenda.resumeSend]
          simp only [hs, hended, if_true]
          exact exists_steps_of_takes hqueue (.skip (hisEnded.trans hended))
      | false =>
          cases hcalled : s.isCalledOff with
          | true =>
              rw [Agenda.resumeSend]
              simp only [hs, hended, hcalled, if_true, Bool.false_eq_true, if_false]
              exact exists_steps_of_takes hqueue (.giveUp hs hended hcalled)
          | false =>
              cases hstage : s.stage with
              | waiting =>
                  rw [Agenda.resumeSend]
                  simp only [hs, hended, hcalled, hstage, Bool.false_eq_true, if_false]
                  exact exists_steps_of_takes hqueue (.start hs hstage hcalled)
              | dispatching =>
                  rw [Agenda.resumeSend]
                  simp only [hs, hended, hcalled, hstage, Bool.false_eq_true, if_false]
                  exact exists_steps_of_takes hqueue (.decide hs hstage hcalled)
              | responding o => exact steps_report hsim hqueue hs hstage hcalled
              | ended how =>
                  rw [Send.isEnded, hstage] at hended
                  cases hended

/-- The end of a launch is something that goes on beside the sends. -/
theorem takes_noteLaunch (k : Nat) (hsim : a.simulates = true)
    (hcollected : a.world.sender.handed = []) :
    ∃ es, Takes ⟨a, []⟩ (.noteEnd (.launch k)) es ⟨a.noteLaunch k, []⟩ := by
  cases hl : a.launches[k]? with
  | none =>
      have hnote := Takes.noteLaunch (l := ⟨a, []⟩) hsim k a.world a.launches
      rw [← beside_of_nothing hcollected] at hnote
      rw [Agenda.noteLaunch, hl]
      exact ⟨_, hnote⟩
  | some launch =>
      rw [Agenda.noteLaunch]
      simp only [hl]
      split
      · rw [Agenda.act, perform_eq]
        exact ⟨_, .noteLaunch hsim k _ _⟩
      · rw [Agenda.modifyLaunch, beside_of_nothing hcollected]
        exact ⟨_, .noteLaunch hsim k _ _⟩

section Launches

variable [Repository σ]

/-- So is a launch that runs. -/
theorem takes_resumeLaunch (k : Nat) (hsim : a.simulates = true)
    (hcollected : a.world.sender.handed = []) :
    ∃ es, Takes ⟨a, []⟩ (.resume (.launch k)) es ⟨a.resumeLaunch k, []⟩ := by
  cases hl : a.launches[k]? with
  | none =>
      have hended : a.isEnded (.launch k) = true := by
        rw [Agenda.isEnded, hl]
        rfl
      rw [Agenda.resumeLaunch, hl]
      exact ⟨_, .skip hended⟩
  | some launch =>
      cases hended : launch.ended.isSome with
      | true =>
          have hall : a.isEnded (.launch k) = true := by
            rw [Agenda.isEnded, hl]
            exact hended
          rw [Agenda.resumeLaunch]
          simp only [hl, hended, if_true]
          exact ⟨_, .skip hall⟩
      | false =>
          rw [Agenda.resumeLaunch]
          cases hcalled : launch.isCalledOff with
          | true =>
              simp only [hl, hended, hcalled, if_true, Bool.false_eq_true, if_false]
              rw [Agenda.modifyLaunch, beside_of_nothing hcollected]
              exact ⟨_, .launched hsim k _ _⟩
          | false =>
              simp only [hl, hended, hcalled, Bool.false_eq_true, if_false]
              rw [perform_eq, beside_modifyLaunch]
              exact ⟨_, .launched hsim k _ _⟩

/-- What an agenda does with an item is what happens to it in the loop. -/
theorem steps_carryOut (sink : Receipt → Action σ Unit) {item : Item} {rest : List Item}
    (hsim : a.simulates = true) (hcollected : a.world.sender.handed = [])
    (hqueue : a.queue = item :: rest) (hcaller : item ≠ .caller) (hpart : ∀ k, item ≠ .part k) :
    ∃ es, Steps ⟨a, []⟩ es ⟨{ a with queue := rest }.carryOut sink item, []⟩ ∧
      ∀ j, .calledOff j ∉ es := by
  cases item with
  | resume t =>
      cases t with
      | send k => exact steps_resumeSend sink hsim hqueue
      | launch k =>
          rcases takes_resumeLaunch (a := { a with queue := rest }) k hsim hcollected with
            ⟨es, htakes⟩
          exact exists_steps_of_takes hqueue htakes
  | noteEnd t =>
      cases t with
      | send k => exact exists_steps_of_takes hqueue (.noteSend _ k)
      | launch k =>
          rcases takes_noteLaunch (a := { a with queue := rest }) k hsim hcollected with
            ⟨es, htakes⟩
          exact exists_steps_of_takes hqueue htakes
  | wake t => exact exists_steps_of_takes hqueue (.wake _ t)
  | learn => exact exists_steps_of_takes hqueue (.learn _)
  | alarm => exact exists_steps_of_takes hqueue (.alarm _)
  | caller => exact absurd rfl hcaller
  | part k => exact absurd rfl (hpart k)

/-- The first item of the queue is carried out, after rests are over if the queue is empty. -/
theorem next_eq_some {sink : Receipt → Action σ Unit} {item : Item}
    (h : a.next sink = some (item, b)) : ∃ rest, a.advance.queue = item :: rest ∧
      b = { a.advance with queue := rest }.carryOut sink item := by
  rw [Agenda.next] at h
  cases hqueue : a.advance.queue with
  | nil =>
      simp only [hqueue] at h
      cases h
  | cons first rest =>
      simp only [hqueue, Option.some.injEq, Prod.mk.injEq] at h
      rcases h with ⟨rfl, rfl⟩
      exact ⟨rest, rfl, rfl⟩

theorem next_eq_none {sink : Receipt → Action σ Unit} (h : a.next sink = none) :
    a.advance.queue = [] := by
  rw [Agenda.next] at h
  cases hqueue : a.advance.queue with
  | nil => rfl
  | cons first rest =>
      simp only [hqueue] at h
      cases h

theorem steps_next {sink : Receipt → Action σ Unit} {item : Item}
    (hsound : IsSound ⟨a, []⟩) (hnext : a.next sink = some (item, b)) (hcaller : item ≠ .caller)
    (hpart : ∀ k, item ≠ .part k) :
    ∃ es, Steps ⟨a, []⟩ es ⟨b, []⟩ ∧ ∀ j, .calledOff j ∉ es := by
  rcases next_eq_some hnext with ⟨rest, hqueue, rfl⟩
  have hadvance : Steps ⟨a, []⟩ [] ⟨a.advance, []⟩ :=
    steps_advance (by rw [hqueue]; exact List.cons_ne_nil _ _)
  have hsound' := (hsound.steps hadvance).1
  rcases steps_carryOut sink hsound'.simulates hsound'.collected hqueue hcaller hpart with
    ⟨es, hsteps, hquiet⟩
  exact ⟨es, hadvance.trans hsteps, hquiet⟩

end Launches

end Loop

end Outreach
