import Outreach.Proofs.Vendor.Running

/-!
# Waiting Comes to Its End

Every item that is taken leaves less to do, so that taking items comes to an end. Whoever
waits goes on by then, or the clock stands still before a rest that is so far away that time
does not pass. For sends that were called off nobody waits for the clock.

## Main definitions

* `Agenda.Stalled`: The clock stands still.
* `Agenda.weigh`: What is still to do, with a weight for what the caller does.
* `Agenda.Lighter`, `Agenda.NoHeavier`: Less is to do, and no more is.

## Theorems

* `Agenda.carryOut_lighter`: An item that is carried out leaves less to do.
* `Loop.run_ends`: The caller goes on, or the clock stands still.
* `Loop.Calm.weigh_eq`: A caller that does not wait has nothing to do.
* `Loop.round_ends`: How a round ends.
* `Loop.drain_drains`: Draining an agenda.
* `Loop.closeVendor_closes`: Closing the vendor of an agenda.
-/

namespace Outreach

open Traffic (Event)

variable {σ : Type}

theorem total_perm {xs ys : List Nat} (h : xs.Perm ys) : total xs = total ys := by
  induction h with
  | nil => rfl
  | cons n _ ih => exact congrArg (n + ·) ih
  | swap m n rest => exact Nat.add_left_comm ..
  | trans _ _ ih ih' => exact ih.trans ih'

/-- A total before and after one member is changed. -/
theorem total_map_modify {α : Type} {g : α → Nat} {f : α → α} {xs : List α} {k : Nat} {a : α}
    (h : xs[k]? = some a) :
    total ((xs.modify k f).map g) + g a = total (xs.map g) + g (f a) := by
  induction xs generalizing k with
  | nil => cases h
  | cons b rest ih =>
      cases k with
      | zero =>
          cases h
          rw [List.modify_zero_cons, List.map_cons, List.map_cons, total, total]
          omega
      | succ k =>
          have hrest := ih h
          rw [List.modify_succ_cons, List.map_cons, List.map_cons, total, total]
          omega

namespace Agenda

/-- What an item gives rise to, itself included, with a weight for what the caller does. -/
def Item.weight (c : Nat) : Item → Nat
  | .wake _ => 2
  | .learn => 2 * c
  | .alarm => 1 + c
  | .caller => c
  | _ => 1

/-- What is still to do apart from launches. -/
def weigh (c : Nat) (a : Agenda σ) : Nat :=
  total (a.vendor.sends.map fun s => SendStage.work s.stage) +
    total (a.queue.map (Item.weight c)) + total (a.rests.map fun e => Item.weight c e.item)

/-- Less is to do. -/
def Lighter (c : Nat) (b a : Agenda σ) : Prop :=
  b.launchesLeft < a.launchesLeft ∨
    (b.launchesLeft = a.launchesLeft ∧ b.weigh c < a.weigh c)

/-- Less is to do, or as much as before and nothing has happened to the sends. -/
def NoHeavier (b a : Agenda σ) : Prop :=
  Lighter 0 b a ∨ (b.launchesLeft = a.launchesLeft ∧ b.weigh 0 = a.weigh 0 ∧ b.vendor = a.vendor)

/-- The clock stands still: adding to the time at which the first rest is over does not give
    a later time. -/
def Stalled (a : Agenda σ) : Prop :=
  a.queue = [] ∧ ∃ first rest, a.rests.next? = some (first, rest) ∧
    first.due.lt (first.due.add resolution) = false

variable {c : Nat} {a b d : Agenda σ} {k : Nat} {s : Send}

theorem weigh_one (a : Agenda σ) : a.weigh 1 = a.workLeft := by
  have hitem : Item.weight 1 = Item.work := by
    funext item
    cases item <;> rfl
  rw [weigh, workLeft, hitem]

theorem NoHeavier.trans (h : NoHeavier d b) (h' : NoHeavier b a) : NoHeavier d a := by
  rcases h with h | ⟨hleft, hweigh, hvendor⟩
  · refine .inl ?_
    rcases h' with h' | ⟨hleft', hweigh', -⟩
    · rw [Lighter] at h h' ⊢
      omega
    · rwa [Lighter, hleft', hweigh'] at h
  · rw [NoHeavier, Lighter] at h' ⊢
    rw [hleft, hweigh, hvendor]
    exact h'

theorem weigh_enqueue (a : Agenda σ) (item : Item) :
    (a.enqueue item).weigh c = a.weigh c + Item.weight c item := by
  rw [enqueue, weigh, weigh, List.map_append, total_append]
  simp only [List.map_cons, List.map_nil, total]
  omega

theorem weigh_pop {item : Item} {rest : List Item} (hqueue : a.queue = item :: rest) :
    { a with queue := rest }.weigh c + Item.weight c item = a.weigh c := by
  rw [weigh, weigh, hqueue, List.map_cons, total]
  simp only
  omega

/-- One send changes. -/
theorem weigh_modify {f : Send → Send} (hs : a.vendor.sends[k]? = some s)
    (hsends : b.vendor.sends = a.vendor.sends.modify k f) (hqueue : b.queue = a.queue)
    (hrests : b.rests = a.rests) :
    b.weigh c + SendStage.work s.stage = a.weigh c + SendStage.work (f s).stage := by
  have htotal := total_map_modify (g := fun s => SendStage.work s.stage) (f := f) hs
  rw [weigh, weigh, hsends, hqueue, hrests]
  omega

theorem weigh_leave_le (a : Agenda σ) (t : Task) :
    (a.leave t).weigh c ≤ a.weigh c + 1 + 2 * c := by
  have hnoted := weigh_enqueue (c := c) a (.noteEnd t)
  rw [leave]
  split
  · have hlearn := weigh_enqueue (c := c) (a.enqueue (.noteEnd t)) .learn
    rw [hnoted] at hlearn
    exact Nat.le_of_eq hlearn
  · exact Nat.le_trans (Nat.le_of_eq hnoted) (Nat.le_add_right ..)

theorem weigh_after_le (a : Agenda σ) (seconds : Double) (t : Task) :
    (a.after seconds (.wake t) (.resume t)).weigh c ≤ a.weigh c + 2 := by
  rcases Loop.after_cases a seconds (.wake t) (.resume t) with hafter | ⟨due, hafter⟩ <;>
    rw [hafter]
  · rw [weigh_enqueue]
    exact Nat.le_succ _
  · have hperm := (Schedule.perm_insert a.rests ⟨due, .wake t⟩).map fun e => Item.weight c e.item
    have htotal := total_perm hperm
    rw [List.map_cons, total] at htotal
    rw [weigh, weigh, htotal]
    change _ + (2 + total (a.rests.map fun e => Item.weight c e.item)) ≤ _
    exact Nat.le_of_eq (by rw [Nat.add_comm 2, ← Nat.add_assoc])

theorem launches_leave (a : Agenda σ) (t : Task) : (a.leave t).launches = a.launches := by
  rw [leave]
  split <;> rfl

theorem launches_after (a : Agenda σ) (seconds : Double) (item now : Item) :
    (a.after seconds item now).launches = a.launches := by
  rw [after]
  split <;> rfl

theorem launches_learn (a : Agenda σ) : a.learn.launches = a.launches := by
  rw [learn]
  split <;> rfl

/-- With the last end that it learns of, the caller is to go on. -/
theorem weigh_learn (a : Agenda σ) :
    a.learn.weigh c = a.weigh c + if a.missing - 1 = 0 then c else 0 := by
  rw [learn]
  split
  · exact weigh_enqueue { a with missing := a.missing - 1 } .caller
  · rfl

theorem weigh_remove (a : Agenda σ) (k : Nat) :
    { a with vendor := a.vendor.remove k }.weigh c = a.weigh c := by
  have hsends : (a.vendor.remove k).sends.map (fun s => SendStage.work s.stage) =
      a.vendor.sends.map fun s => SendStage.work s.stage :=
    map_modify (f := fun s : Send => { s with isRemoved := true }) (fun _ => rfl) k _
  rw [weigh, weigh]
  exact congrArg (fun works => total works + _ + _) hsends

theorem le_work_of_open (hopen : s.isEnded = false) : 3 ≤ SendStage.work s.stage := by
  rw [Send.isEnded] at hopen
  cases hstage : s.stage with
  | ended _ =>
      rw [hstage] at hopen
      cases hopen
  | _ => simp [SendStage.work]

/-- A send that ends leaves its removal to do, and what the caller does about it. -/
theorem weigh_finish_le {how : Ending} (hc : c ≤ 1) (hs : a.vendor.sends[k]? = some s)
    (hopen : s.isEnded = false) (hsends : b.vendor.sends = a.vendor.sends)
    (hqueue : b.queue = a.queue) (hrests : b.rests = a.rests) (t : Task) :
    ({ b with vendor := b.vendor.finish k how }.leave t).weigh c ≤ a.weigh c := by
  have hleave := weigh_leave_le (c := c) { b with vendor := b.vendor.finish k how } t
  have hmodify := weigh_modify (c := c) (b := { b with vendor := b.vendor.finish k how }) hs
    (f := fun s => { s with stage := .ended how }) (by rw [← hsends]; rfl) hqueue hrests
  have hwork := le_work_of_open hopen
  change _ = _ + 0 at hmodify
  omega

/-- A send that goes on leaves no more to do than there was without its item. -/
theorem resumeSend_weigh {sink : Receipt → Action σ Unit} (hc : c ≤ 1) (hsparing : Sparing sink)
    (hcollected : a.world.sender.handed = []) (k : Nat) :
    (a.resumeSend sink k).launches = a.launches ∧ (a.resumeSend sink k).weigh c ≤ a.weigh c := by
  rw [resumeSend]
  cases hs : a.vendor.sends[k]? with
  | none => exact ⟨rfl, Nat.le_refl _⟩
  | some s =>
      simp only
      split
      · exact ⟨rfl, Nat.le_refl _⟩
      next hopen =>
        rw [Bool.not_eq_true] at hopen
        split
        · exact ⟨launches_leave .., weigh_finish_le (b := a) hc hs hopen rfl rfl rfl _⟩
        · cases hstage : s.stage with
          | waiting =>
              refine ⟨launches_after .., Nat.le_trans (weigh_after_le ..) ?_⟩
              have hmodify := weigh_modify (b := { a with vendor := (a.vendor.start k).2 }) (c := c)
                hs (f := fun s => { s with stage := .dispatching }) rfl rfl rfl
              rw [hstage] at hmodify
              change _ + 9 = _ + 6 at hmodify
              omega
          | dispatching =>
              refine ⟨launches_after .., Nat.le_trans (weigh_after_le ..) ?_⟩
              have hmodify := weigh_modify (b := { a with vendor := (a.vendor.decide k).2 })
                (c := c) hs (f := fun s => { s with stage := .responding _ }) rfl rfl rfl
              rw [hstage] at hmodify
              change _ + 6 = _ + 3 at hmodify
              omega
          | responding o =>
              rcases s.deliver_ends sink o a.world with ⟨v, hspared, hrun⟩
              have hcollected' := (hspared hsparing).trans hcollected
              simp only [perform]
              rcases hrun with hrun | ⟨f, fields, hrun⟩ <;> simp only [hrun]
              · rw [collect_of_nothing (by exact hcollected')]
                exact ⟨launches_leave .., weigh_finish_le (b := { a with
                  world := v
                  vendor := a.vendor.report ⟨s.recordId, o⟩ }) hc hs hopen rfl rfl rfl _⟩
              · rw [collect_of_nothing (by exact hcollected')]
                exact ⟨launches_leave .., weigh_finish_le (b := { a with
                  world := { v with log := s.loss f fields :: v.log }
                  vendor := a.vendor.report ⟨s.recordId, o⟩ }) hc hs hopen rfl rfl rfl _⟩
          | ended how => exact ⟨rfl, Nat.le_refl _⟩

/-- A launch that runs is one less to run. -/
theorem launchesLeft_modify {launch : Launch} {f : Launch → Launch}
    (hl : a.launches[k]? = some launch) (hopen : launch.ended.isSome = false)
    (hf : (f launch).ended.isSome = true) (hlaunches : b.launches = a.launches.modify k f) :
    b.launchesLeft < a.launchesLeft := by
  have hcount := countP_modify (p := fun l : Launch => l.ended.isNone) (f := f) hl
  rw [Option.isSome_eq_false_iff] at hopen
  have hdone : (f launch).ended.isNone = false := by
    rw [Option.isNone_eq_false_iff, hf]
  rw [hopen, hdone] at hcount
  rw [launchesLeft, launchesLeft, hlaunches]
  exact Nat.lt_of_succ_le (Nat.le_of_eq hcount)

/-- An action that hands over nothing. -/
theorem act_of_nothing (x : Action σ Unit) (h : (Action.left x a.world).sender.handed = []) :
    a.act x = { a with world := Action.left x a.world } := by
  rw [act, Loop.perform_eq, beside]
  exact collect_of_nothing (a := { a with world := Action.left x a.world }) h

/-- Noting the end of a launch leaves as much to do. -/
theorem noteLaunch_weigh (hcollected : a.world.sender.handed = []) (k : Nat) :
    (a.noteLaunch k).launchesLeft = a.launchesLeft ∧ (a.noteLaunch k).weigh c = a.weigh c := by
  rw [noteLaunch]
  cases hl : a.launches[k]? with
  | none => exact ⟨rfl, rfl⟩
  | some launch =>
      have hleft : (a.modifyLaunch k fun l => { l with isRemoved := true }).launchesLeft =
          a.launchesLeft := by
        have hcount := countP_modify (p := fun l : Launch => l.ended.isNone)
          (f := fun l => { l with isRemoved := true }) hl
        exact Nat.add_right_cancel hcount
      simp only
      split
      · rw [act_of_nothing _ (by exact hcollected)]
        exact ⟨hleft, rfl⟩
      · exact ⟨hleft, rfl⟩

section Launches

variable [Repository σ]

theorem resumeLaunch_lighter (a : Agenda σ) (k : Nat) :
    (a.resumeLaunch k).launchesLeft < a.launchesLeft ∨ a.resumeLaunch k = a := by
  rw [resumeLaunch]
  cases hl : a.launches[k]? with
  | none => exact .inr rfl
  | some launch =>
      simp only
      split
      · exact .inr rfl
      next hopen =>
        rw [Bool.not_eq_true] at hopen
        refine .inl ?_
        split
        · exact launchesLeft_modify (f := fun l => { l with ended := some none }) hl hopen rfl
            (launches_leave ..)
        · rw [Loop.perform_eq, Loop.beside_modifyLaunch]
          exact launchesLeft_modify (f := fun l => { l with ended := some (some _) }) hl hopen rfl
            ((launches_leave ..).trans (Loop.collect_keeps _).2.2.1)

/-- An item that is carried out leaves less to do, or the caller only learns of an end. -/
theorem carryOut_lighter {sink : Receipt → Action σ Unit} {item : Item} {rest : List Item}
    (hc : c ≤ 1) (hsparing : Sparing sink) (hcollected : a.world.sender.handed = [])
    (hqueue : a.queue = item :: rest) (hcaller : item ≠ .caller) (hpart : ∀ k, item ≠ .part k) :
    let b := { a with queue := rest }.carryOut sink item
    Lighter c b a ∨ (c = 0 ∧ b.launchesLeft = a.launchesLeft ∧ b.weigh c = a.weigh c ∧
      b.vendor = a.vendor) := by
  have hpop := weigh_pop (c := c) hqueue
  cases item with
  | resume t =>
      change _ + 1 = _ at hpop
      refine .inl ?_
      cases t with
      | send k =>
          rcases resumeSend_weigh (a := { a with queue := rest }) hc hsparing hcollected k with
            ⟨hlaunches, hweigh⟩
          refine .inr ⟨congrArg (List.countP _) hlaunches, ?_⟩
          exact Nat.lt_of_le_of_lt hweigh (Nat.lt_of_succ_le (Nat.le_of_eq hpop))
      | launch k =>
          rcases resumeLaunch_lighter { a with queue := rest } k with hleft | heq
          · exact .inl hleft
          · refine .inr ?_
            rw [carryOut, heq]
            exact ⟨rfl, Nat.lt_of_succ_le (Nat.le_of_eq hpop)⟩
  | noteEnd t =>
      change _ + 1 = _ at hpop
      refine .inl (.inr ?_)
      cases t with
      | send k =>
          have hsame := weigh_remove (c := c) { a with queue := rest } k
          exact ⟨rfl, hsame ▸ Nat.lt_of_succ_le (Nat.le_of_eq hpop)⟩
      | launch k =>
          rcases noteLaunch_weigh (a := { a with queue := rest }) (c := c) hcollected k with
            ⟨hleft, hweigh⟩
          refine ⟨hleft, ?_⟩
          rw [carryOut, hweigh]
          exact Nat.lt_of_succ_le (Nat.le_of_eq hpop)
  | wake t =>
      change _ + 2 = _ at hpop
      refine .inl (.inr ⟨rfl, ?_⟩)
      rw [carryOut, weigh_enqueue]
      change _ + 1 < _
      omega
  | learn =>
      change _ + 2 * c = _ at hpop
      have hlaunches : ({ a with queue := rest }.learn).launchesLeft = a.launchesLeft :=
        congrArg (List.countP _) (launches_learn _)
      have hlearn := weigh_learn (c := c) { a with queue := rest }
      rcases Nat.eq_zero_or_pos c with hzero | hpos
      · refine .inr ⟨hzero, hlaunches, ?_, (Loop.learn_keeps _).2.2.1⟩
        rw [carryOut]
        split at hlearn <;> omega
      · refine .inl (.inr ⟨hlaunches, ?_⟩)
        rw [carryOut]
        split at hlearn <;> omega
  | alarm =>
      change _ + (1 + c) = _ at hpop
      refine .inl (.inr ⟨rfl, ?_⟩)
      rw [carryOut, weigh_enqueue]
      change _ + c < _
      omega
  | caller => exact absurd rfl hcaller
  | part k => exact absurd rfl (hpart k)

end Launches

/-- Time that passes leaves as much to do. -/
theorem weigh_advance (a : Agenda σ) : a.advance.launches = a.launches ∧
    a.advance.vendor = a.vendor ∧ a.advance.weigh c = a.weigh c := by
  rw [advance]
  split
  · cases hnext : a.rests.next? with
    | none =>
        rw [passTime, hnext]
        exact ⟨rfl, rfl, rfl⟩
    | some pair =>
        have hperm := Schedule.perm_dueBefore (pair.1.due.add resolution) a.rests
        have htotal := total_perm (hperm.map fun e => Item.weight c e.item)
        rw [List.map_append, total_append] at htotal
        rw [passTime_eq hnext]
        refine ⟨rfl, rfl, ?_⟩
        rw [weigh, weigh, htotal, List.map_append, total_append, List.map_map, ← Nat.add_assoc,
          ← Nat.add_assoc]
        rfl
  · exact ⟨rfl, rfl, rfl⟩

theorem noHeavier_advance (a : Agenda σ) : a.advance.NoHeavier a := by
  rcases weigh_advance (c := 0) a with ⟨hlaunches, hvendor, hweigh⟩
  exact .inr ⟨congrArg (List.countP _) hlaunches, hweigh, hvendor⟩

theorem lighter_advance_iff : b.Lighter c a.advance ↔ b.Lighter c a := by
  rcases weigh_advance (c := c) a with ⟨hlaunches, -, hweigh⟩
  rw [Lighter, Lighter, hweigh, launchesLeft.eq_def a.advance, hlaunches, launchesLeft.eq_def a]

/-- While the clock stands still nothing is left to take. -/
theorem Stalled.advance_queue (h : a.Stalled) : a.advance.queue = [] := by
  rcases h with ⟨hqueue, first, rest, hnext, hlt⟩
  rw [advance, if_pos (List.isEmpty_iff.2 hqueue), passTime_eq hnext, hqueue]
  exact List.map_eq_nil_iff.2 ((Schedule.dueBefore_eq_nil_iff hnext).2 hlt)

/-- When nothing is left to take, nothing rests either, or the clock stands still. -/
theorem stalled_of_advance (h : a.advance.queue = []) :
    a.queue = [] ∧ (a.rests = [] ∨ a.Stalled) := by
  rw [advance] at h
  split at h
  next hempty =>
    rw [List.isEmpty_iff] at hempty
    refine ⟨hempty, ?_⟩
    cases hnext : a.rests.next? with
    | none => exact .inl (Schedule.eq_nil_of_next? hnext)
    | some pair =>
        refine .inr ⟨hempty, pair.1, pair.2, hnext, ?_⟩
        rw [passTime_eq hnext, hempty] at h
        exact (Schedule.dueBefore_eq_nil_iff hnext).1 (List.map_eq_nil_iff.1 h)
  next hne => exact absurd (List.isEmpty_iff.2 h) hne

end Agenda

namespace Loop

variable {sink : Receipt → Action σ Unit} {ts : List Task} {a b : Agenda σ}

/-- If nothing is ready while the caller waits for sends, one of them rests and was not
    called off. -/
theorem Waits.open_send (h : Waits ts 1 (signals a.queue) a) (hsound : IsSound ⟨a, []⟩)
    (hne : ts ≠ []) (hsends : ∀ t ∈ ts, ∃ k, t = .send k) (hqueue : a.queue = []) :
    ∃ (k : Nat) (s : Send), .send k ∈ ts ∧ a.vendor.sends[k]? = some s ∧ s.isCalledOff = false ∧
      ∃ e ∈ a.rests, e.item = .wake (.send k) := by
  have hgoing := h.going
  rw [hqueue] at hgoing
  rcases hgoing with ⟨-, hpos, hmissing, -⟩ | ⟨hcalls, -⟩
  · rw [hmissing] at hpos
    rcases List.exists_mem_of_length_pos hpos with ⟨t, ht⟩
    rcases hsends t (h.within t ht) with ⟨k, rfl⟩
    rcases h.fresh k ht with ⟨s, hs, hopen⟩
    have hplaced := hsound.placed k s hs
    rw [hqueue] at hplaced
    cases hcalled : s.isCalledOff with
    | true => cases hplaced.hurried hopen hcalled
    | false =>
        refine ⟨k, s, h.within _ ht, hs, hcalled, ?_⟩
        rcases hplaced.token hopen hcalled with hat | hresume | hwake | hrest
        · cases hat
        · cases hresume
        · cases hwake
        · exact hrest
  · rw [calls, h.restless hne] at hcalls
    cases hcalls

section Running

variable [Repository σ]

/-- Taking an item leaves less to do. -/
theorem next_lighter {item : Item} (hsparing : Sparing sink) (hsound : IsSound ⟨a, []⟩)
    (hnext : a.next sink = some (item, b)) (hcaller : item ≠ .caller)
    (hpart : ∀ k, item ≠ .part k) : b.Lighter 1 a ∧ b.NoHeavier a := by
  rcases next_eq_some hnext with ⟨rest, hqueue, rfl⟩
  have hadvance : Steps ⟨a, []⟩ [] ⟨a.advance, []⟩ :=
    steps_advance (by rw [hqueue]; exact List.cons_ne_nil _ _)
  have hcollected := (hsound.steps hadvance).1.collected
  constructor
  · rcases Agenda.carryOut_lighter (Nat.le_refl 1) hsparing hcollected hqueue hcaller hpart with
      hless | ⟨hone, -⟩
    · exact Agenda.lighter_advance_iff.1 hless
    · cases hone
  · refine Agenda.NoHeavier.trans ?_ (Agenda.noHeavier_advance a)
    have hlighter :=
      Agenda.carryOut_lighter (Nat.zero_le 1) hsparing hcollected hqueue hcaller hpart
    exact hlighter.imp_right And.right

/-- The caller goes on, or the clock stands still. -/
theorem run_ends (hsparing : Sparing sink) (hne : ts ≠ []) (hsends : ∀ t ∈ ts, ∃ k, t = .send k)
    (hsound : IsSound ⟨a, []⟩) (h : Waits ts 1 (signals a.queue) a) :
    ∃ es, (∀ j, .calledOff j ∉ es) ∧
      ((Resumes ⟨a, []⟩ es ⟨(a.run sink).2, []⟩ ∧ (a.run sink).2.NoHeavier a) ∨
        (Steps ⟨a, []⟩ es ⟨(a.run sink).2, []⟩ ∧ (a.run sink).2.Stalled)) := by
  fun_induction Agenda.run sink a with
  | case1 a hnext =>
      rcases Agenda.stalled_of_advance (next_eq_none hnext) with ⟨hqueue, hrests | hstalled⟩
      · rcases h.open_send hsound hne hsends hqueue with ⟨-, -, -, -, -, e, he, -⟩
        rw [hrests] at he
        cases he
      · exact ⟨[], nofun, .inr ⟨.refl _, hstalled⟩⟩
  | case2 a b hnext =>
      rcases next_eq_some hnext with ⟨rest, hqueue, rfl⟩
      have hadvance : Steps ⟨a, []⟩ [] ⟨a.advance, []⟩ :=
        steps_advance (by rw [hqueue]; exact List.cons_ne_nil _ _)
      refine ⟨[], nofun, .inl ⟨.mk hadvance hqueue, ?_⟩⟩
      refine Agenda.NoHeavier.trans ?_ (Agenda.noHeavier_advance a)
      have hpop := Agenda.weigh_pop (c := 0) hqueue
      exact .inr ⟨rfl, hpop, rfl⟩
  | case3 a k b hnext =>
      rcases next_eq_some hnext with ⟨rest, hqueue, rfl⟩
      have hadvance : Steps ⟨a, []⟩ [] ⟨a.advance, []⟩ :=
        steps_advance (by rw [hqueue]; exact List.cons_ne_nil _ _)
      have hwhole := (h.steps hsound hadvance).whole k
      rw [hqueue] at hwhole
      exact absurd List.mem_cons_self hwhole
  | case4 a item b hcaller hpart hnext hless ih =>
      rcases next_lighter hsparing hsound hnext hcaller hpart with ⟨-, hheavier⟩
      rcases steps_next hsound hnext hcaller hpart with ⟨es, hsteps, hquiet⟩
      rcases ih (hsound.steps hsteps).1 (h.steps hsound hsteps) with ⟨more, hquiet', hends⟩
      refine ⟨es ++ more, fun j hj => ?_, ?_⟩
      · exact (List.mem_append.1 hj).elim (hquiet j) (hquiet' j)
      · rcases hends with ⟨hresumes, hheavier'⟩ | ⟨hmore, hstalled⟩
        · exact .inl ⟨hresumes.before hsteps, hheavier'.trans hheavier⟩
        · exact .inr ⟨hsteps.trans hmore, hstalled⟩
  | case5 a item b hcaller hpart hnext hless =>
      rcases next_lighter hsparing hsound hnext hcaller hpart with ⟨hlighter, -⟩
      rw [Agenda.Lighter, Agenda.weigh_one, Agenda.weigh_one] at hlighter
      exact absurd hlighter hless

end Running

end Loop

/-! ## An agenda drained and closed

An agenda drains its vendor in rounds, each of which waits for the sends in flight. A round
that comes to its end leaves less to do, so that the last one leaves nothing in flight. While
the clock stands still no round comes to its end. To close the vendor takes one round, for
which the clock is not needed. -/

open Traffic (Event)

variable {σ : Type}

theorem total_eq_zero {xs : List Nat} (h : ∀ n ∈ xs, n = 0) : total xs = 0 := by
  induction xs with
  | nil => rfl
  | cons n rest ih =>
      rw [total, h n List.mem_cons_self, ih fun m hm => h m (List.mem_cons_of_mem n hm)]

namespace Loop

variable {sink : Receipt → Action σ Unit} {a b : Agenda σ}

/-- What the caller is to learn of does not count. -/
theorem weigh_waiting (a : Agenda σ) (ts : List Task) : (a.waiting ts).weigh 0 = a.weigh 0 := by
  have hlearn : total (((ts.filter a.isEnded).map fun _ => Item.learn).map
      (Agenda.Item.weight 0)) = 0 := by
    refine total_eq_zero fun n hn => ?_
    rw [List.map_map, List.mem_map] at hn
    rcases hn with ⟨_, -, rfl⟩
    rfl
  rw [Agenda.weigh, Agenda.weigh, Agenda.waiting, List.map_append, total_append, hlearn]
  rfl

/-- A caller that does not wait has nothing to do. -/
theorem Calm.weigh_eq (h : Calm ⟨a, []⟩) (hsound : IsSound ⟨a, []⟩) :
    a.weigh 0 = a.weigh 1 := by
  rcases h.going with ⟨hturns, -⟩ | ⟨hcalls, hlearn, -⟩
  · cases hturns
  rw [calls, Nat.add_eq_zero_iff, List.countP_eq_zero, List.countP_eq_zero] at hcalls
  have hqueue : a.queue.map (Agenda.Item.weight 0) = a.queue.map (Agenda.Item.weight 1) := by
    refine List.map_congr_left fun item hitem => ?_
    cases item with
    | learn => exact absurd (List.mem_filter.2 ⟨hitem, rfl⟩) (List.count_eq_zero.1 hlearn)
    | alarm => exact absurd rfl (hcalls.1 _ (List.mem_filter.2 ⟨hitem, rfl⟩))
    | caller => exact absurd rfl (hcalls.1 _ (List.mem_filter.2 ⟨hitem, rfl⟩))
    | _ => rfl
  have hrests : a.rests.map (fun e => Agenda.Item.weight 0 e.item) =
      a.rests.map fun e => Agenda.Item.weight 1 e.item := by
    refine List.map_congr_left fun e he => ?_
    rcases hsound.resting e he with hitem | ⟨t, hitem⟩
    · exact absurd (beq_iff_eq.2 hitem) (hcalls.2 e he)
    · rw [hitem]
      rfl
  rw [Agenda.weigh, Agenda.weigh, hqueue, hrests]

/-- What the caller does while it does not wait is a step of the loop. -/
theorem step_act (hsim : a.simulates = true) (x : Action σ Unit) :
    Step ⟨a, []⟩ (accepts (Action.left x a.world)) ⟨a.act x, []⟩ := by
  rw [Agenda.act, perform_eq]
  exact .beside hsim _ _

section Running

variable [Repository σ]

theorem await_eq {ts : List Task} (h : ts ≠ []) :
    a.await sink ts = ((a.waiting ts).run sink).2 := by
  rw [Agenda.await, if_neg (mt List.isEmpty_iff.1 h)]
  rfl

/-- Whoever waits for the sends in flight finds less to do when it goes on, or the clock
    stands still. -/
theorem round_ends (hsparing : Sparing sink) (hsound : IsSound ⟨a, []⟩) (hcalm : Calm ⟨a, []⟩)
    (hopen : a.vendor.inFlight ≠ 0) : ∃ es, (∀ j, .calledOff j ∉ es) ∧
      ((Resumes ⟨a.waiting a.openSends, []⟩ es ⟨a.await sink a.openSends, []⟩ ∧
          (a.await sink a.openSends).Lighter 1 a) ∨
        (IsSound ⟨a.await sink a.openSends, []⟩ ∧ (a.await sink a.openSends).Stalled)) := by
  have hne : a.vendor.pending ≠ [] := mt Vendor.inFlight_of_pending hopen
  have hbegins : Begins ⟨a, []⟩ a.openSends ⟨a.waiting a.openSends, []⟩ :=
    begins_of_perm (l := ⟨a, []⟩) hne (.refl _) rfl
  have hsound' := hsound.begins hbegins
  have hsends : ∀ t ∈ a.openSends, ∃ k, t = .send k := fun t ht => by
    rcases List.mem_map.1 ht with ⟨k, -, rfl⟩
    exact ⟨k, rfl⟩
  have hempty : a.openSends ≠ [] := mt List.map_eq_nil_iff.1 hne
  rw [await_eq hempty]
  rcases run_ends hsparing hempty hsends hsound'
    (hcalm.begins hsound hbegins) with ⟨es, hquiet, ⟨hresumes, hheavier⟩ | ⟨hsteps, hstalled⟩⟩
  · refine ⟨es, hquiet, .inl ⟨hresumes, ?_⟩⟩
    rcases hbegins.resumes hresumes hsound hcalm with
      ⟨hsound'', hcalm', -, hremoved⟩
    rcases hheavier with hless | ⟨-, -, hvendor⟩
    · rwa [Agenda.Lighter, weigh_waiting, hcalm.weigh_eq hsound, hcalm'.weigh_eq hsound''] at hless
    · -- A send that was in flight is removed by now, so something has happened to it.
      rcases List.exists_mem_of_ne_nil _ hne with ⟨k, hk⟩
      rcases Vendor.mem_pending.1 hk with ⟨s, hs, hopen⟩
      rcases hremoved k (List.mem_map.2 ⟨k, hk, rfl⟩) with ⟨s', hs', hremoved'⟩
      simp only [hvendor] at hs'
      cases hs.symm.trans hs'
      cases hopen.symm.trans hremoved'
  · exact ⟨es, hquiet, .inr ⟨(hsound'.steps hsteps).1, hstalled⟩⟩

/-- A clock that stands still does so for good. -/
theorem drain_stalled (hsound : IsSound ⟨a, []⟩) (h : a.Stalled) : (a.drain sink).Stalled := by
  have hqueue := h.1
  have hnone : (a.openSends.filter a.isEnded).map (fun _ => Item.learn) = [] := by
    rw [List.map_eq_nil_iff, List.filter_eq_nil_iff]
    intro t ht hended
    rcases List.mem_map.1 ht with ⟨k, hk, rfl⟩
    rcases Vendor.mem_pending.1 hk with ⟨s, hs, hopen⟩
    rw [Agenda.isEnded, hs] at hended
    have hleaving := (hsound.placed k s hs).leaving hended hopen
    rw [hqueue] at hleaving
    cases hleaving
  have hqueue' : (a.waiting a.openSends).queue = a.queue := by
    rw [Agenda.waiting, hnone, List.append_nil]
  have hstalled : (a.waiting a.openSends).Stalled := ⟨hqueue'.trans hqueue, h.2⟩
  have hrun : (a.waiting a.openSends).run sink = (.idle, a.waiting a.openSends) := by
    rw [Agenda.run, Agenda.next, hstalled.advance_queue]
  have hwork : (a.waiting a.openSends).workLeft = a.workLeft := by
    rw [Agenda.workLeft, hqueue']
    rfl
  rw [Agenda.drain]
  split
  · exact h
  next hopen =>
    have hempty : a.openSends ≠ [] :=
      mt (Vendor.inFlight_of_pending ∘ List.map_eq_nil_iff.1) hopen
    rw [await_eq hempty, hrun]
    simp only [hwork]
    rw [if_neg]
    · exact hstalled
    · exact fun hless => hless.elim (Nat.lt_irrefl _) fun hless => Nat.lt_irrefl _ hless.2

/-- To drain an agenda is to drain the vendor, unless the clock stands still. -/
theorem drain_drains (hsparing : Sparing sink) (hsound : IsSound ⟨a, []⟩) (hcalm : Calm ⟨a, []⟩) :
    (∃ es, Drains ⟨a, []⟩ es ⟨a.drain sink, []⟩ ∧ ∀ j, .calledOff j ∉ es) ∨
      (a.drain sink).Stalled := by
  fun_induction Agenda.drain sink a with
  | case1 a hnone => exact .inl ⟨[], .done hnone, nofun⟩
  | case2 a hopen b hless ih =>
      rcases round_ends hsparing hsound hcalm hopen with
        ⟨es, hquiet, ⟨hresumes, -⟩ | ⟨hsound', hstalled⟩⟩
      · have hbegins : Begins ⟨a, []⟩ a.openSends ⟨a.waiting a.openSends, []⟩ :=
          begins_of_perm (l := ⟨a, []⟩) (mt Vendor.inFlight_of_pending hopen) (.refl _) rfl
        rcases hbegins.resumes hresumes hsound hcalm with ⟨hsound', hcalm', -⟩
        refine (ih hsound' hcalm').imp_left fun ⟨more, hdrains, hquiet'⟩ => ?_
        refine ⟨es ++ more, .round hopen (.refl _) hresumes hdrains, fun j hj => ?_⟩
        exact (List.mem_append.1 hj).elim (hquiet j) (hquiet' j)
      · exact .inr (drain_stalled hsound' hstalled)
  | case3 a hopen b hless =>
      rcases round_ends hsparing hsound hcalm hopen with
        ⟨es, hquiet, ⟨-, hlighter⟩ | ⟨-, hstalled⟩⟩
      · rw [Agenda.Lighter, Agenda.weigh_one, Agenda.weigh_one] at hlighter
        exact absurd hlighter hless
      · exact .inr hstalled

/-- To close the vendor of an agenda is to close the vendor. -/
theorem closeVendor_closes (hsparing : Sparing sink) (hsound : IsSound ⟨a, []⟩)
    (hcalm : Calm ⟨a, []⟩) : ∃ es, Closes ⟨a, []⟩ es ⟨a.closeVendor sink, []⟩ := by
  rw [Agenda.closeVendor]
  by_cases hnone : a.vendor.pending = []
  · have hempty : a.openSends = [] := List.map_eq_nil_iff.2 hnone
    rw [hempty, hnone]
    exact ⟨_, .idle hnone (.single (step_act hsound.simulates _))⟩
  · have hempty : a.openSends ≠ [] := mt List.map_eq_nil_iff.1 hnone
    rw [await_eq hempty]
    have hcalled := steps_foldl_callOff a.vendor.pending ⟨a, []⟩ fun k hk => by
      rcases Vendor.mem_pending.1 hk with ⟨s, hs, -⟩
      exact (List.getElem?_eq_some_iff.1 hs).1
    rcases ((Goes.refl _).steps hcalled).calm hsound hcalm with ⟨hsound', hcalm', -⟩
    have hbegins := begins_of_perm (l := ⟨a, []⟩)
      (m := ⟨a.vendor.pending.foldl Agenda.callOffSend a, []⟩) hnone (.refl _)
      (length_foldl_callOff _ a)
    have hsends : ∀ t ∈ a.openSends, ∃ k, t = .send k := fun t ht => by
      rcases List.mem_map.1 ht with ⟨k, -, rfl⟩
      exact ⟨k, rfl⟩
    rcases run_ends hsparing hempty hsends (hsound'.begins hbegins)
      (hcalm'.begins hsound' hbegins) with ⟨es, -, ⟨hresumes, -⟩ | ⟨hsteps, hstalled⟩⟩
    · rcases hbegins.resumes hresumes hsound' hcalm' with ⟨hsound'', -⟩
      exact ⟨_, .callOff hnone (.refl _) hresumes (.single (step_act hsound''.simulates _))⟩
    · -- Whoever was called off is ready, so nobody waits for the clock.
      have hsound'' := hsound'.begins hbegins
      have hwaits := (hcalm'.begins hsound' hbegins).steps hsound'' hsteps
      rcases hwaits.open_send (hsound''.steps hsteps).1 hempty hsends hstalled.1 with
        ⟨k, s, hk, hs, hopen, -⟩
      rcases List.mem_map.1 hk with ⟨j, hj, heq⟩
      cases heq
      rcases Vendor.mem_pending.1 hj with ⟨before, hbefore, -⟩
      rcases isCalledOff_foldl_callOff _ a before hbefore (.inr hj) with ⟨s', hs', hcalled'⟩
      rcases (hsound''.steps hsteps).2.keeps hs' with ⟨later, hlater, hkept, -⟩
      cases hs.symm.trans hlater
      cases hopen.symm.trans (hkept hcalled')

end Running

end Loop

end Outreach
