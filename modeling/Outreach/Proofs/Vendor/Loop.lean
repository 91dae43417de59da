import Outreach.Proofs.Vendor.Ledger
import Outreach.Proofs.Vendor.Schedule
import Outreach.Vendor.Agenda

/-!
# The Loop That Sends Go On In

An agenda decides what goes on when: its rests are over in the order of their due times, and
a receipt is taken by the sink at once. Here neither is fixed. Rests are over in any order,
a receipt may stay with the sink for as long as it likes, others hand over messages, launch
campaigns and call sends off at any time; only what is ready is still taken in the order in
which it became so. Every schedule of the sends is a sequence of such steps.

Whatever the schedule, something is ready or at rest for each send that has not ended, and
for each send that has ended its removal is. This is what waiting for sends rests on.

## Main definitions

* `Loop`: An agenda, and the sends whose receipt is with the sink.
* `Loop.Takes`, `Loop.Step`, `Loop.Steps`: What happens to an item that is ready, all that can
  happen at a time, and one thing after the other.
* `Send.Placed`, `Loop.Sound`: What is still to come of a send, and of all of them.

## Theorems

* `Loop.Sound.takes`, `Loop.IsSound.step`: Every step keeps the loop sound.
* `Loop.IsSound.step_traffic`: Seen from the vendor, a step of the loop is steps of sends.
* `Loop.IsSound.steps`: Both for one step after the other.
-/

namespace Outreach

open Traffic (Event)

variable {σ : Type}

/-- The line in the log that tells of a receipt that was not delivered. -/
def Send.loss (s : Send) (f : Fault) (fields : Log.Fields) : Log.Line :=
  ⟨.error, .vendor,
    "Receipt for record " ++ s.recordId.text ++ " was not delivered: " ++ f.message, fields⟩

namespace Agenda

/-- Other things go on, and leave another world and other launches behind. -/
def beside (a : Agenda σ) (w : World σ) (launches : List Launch) : Agenda σ :=
  { a with world := w, launches := launches }.collect

/-- Nothing was handed over. -/
theorem collect_of_nothing {a : Agenda σ} (h : a.world.sender.handed = []) : a.collect = a := by
  rcases a with ⟨⟨_, _, _, _, _, _, _, ⟨_, _, handed⟩⟩, _, _, _, queue, _, _, _, _⟩
  cases h
  simp only [collect, List.foldl_nil, List.length_nil, List.range_zero, List.map_nil,
    List.append_nil, ite_self]

end Agenda

/-- An agenda whose receipts may stay with the sink for a while. -/
structure Loop (σ : Type) where
  agenda : Agenda σ
  /-- The sends whose receipt is with the sink. -/
  atSink : List Nat

namespace Loop

/-- The loop as it looks to the sends. -/
def traffic (l : Loop σ) : Traffic := ⟨l.agenda.vendor, l.atSink⟩

/-- The messages that were handed over are accepted. -/
def accepts (w : World σ) : List Event :=
  w.sender.handed.map fun h => .accepted h.record.id

/-- What happens to an item that was taken from the queue. -/
inductive Takes : Loop σ → Item → List Event → Loop σ → Prop
  | wake (l : Loop σ) (t : Task) : Takes l (.wake t) [] ⟨l.agenda.enqueue (.resume t), l.atSink⟩
  | start {l : Loop σ} {k : Nat} {s : Send} (hs : l.agenda.vendor.sends[k]? = some s)
      (hstage : s.stage = .waiting) (hcalled : s.isCalledOff = false) :
      Takes l (.resume (.send k)) []
        ⟨{ l.agenda with vendor := (l.agenda.vendor.start k).2 }.after
          (l.agenda.vendor.start k).1 (.wake (.send k)) (.resume (.send k)), l.atSink⟩
  | decide {l : Loop σ} {k : Nat} {s : Send} (hs : l.agenda.vendor.sends[k]? = some s)
      (hstage : s.stage = .dispatching) (hcalled : s.isCalledOff = false) :
      Takes l (.resume (.send k)) [.drew k (l.agenda.vendor.random l.agenda.vendor.drawn)]
        ⟨{ l.agenda with vendor := (l.agenda.vendor.decide k).2 }.after
          (l.agenda.vendor.decide k).1 (.wake (.send k)) (.resume (.send k)), l.atSink⟩
  /-- The sink is called. -/
  | report {l : Loop σ} {k : Nat} {s : Send} {o : DeliveryStatus}
      (hs : l.agenda.vendor.sends[k]? = some s) (hstage : s.stage = .responding o)
      (hcalled : s.isCalledOff = false) (hk : k ∉ l.atSink) :
      Takes l (.resume (.send k)) [.reported k ⟨s.recordId, o⟩]
        ⟨{ l.agenda with vendor := l.agenda.vendor.report ⟨s.recordId, o⟩ }, k :: l.atSink⟩
  /-- A send that was called off finds out, at a rest or while its receipt is with the sink. -/
  | giveUp {l : Loop σ} {k : Nat} {s : Send} (hs : l.agenda.vendor.sends[k]? = some s)
      (hopen : s.isEnded = false) (hcalled : s.isCalledOff = true) :
      Takes l (.resume (.send k)) [.ended k .calledOff]
        ⟨{ l.agenda with vendor := l.agenda.vendor.finish k .calledOff }.leave (.send k),
          l.atSink.filter (· ≠ k)⟩
  | skip {l : Loop σ} {t : Task} (hended : l.agenda.isEnded t = true) : Takes l (.resume t) [] l
  /-- A launch runs, and hands over messages. -/
  | launched {l : Loop σ} (hsim : l.agenda.simulates = true) (k : Nat) (w : World σ)
      (launches : List Launch) :
      Takes l (.resume (.launch k)) (accepts w)
        ⟨(l.agenda.beside w launches).leave (.launch k), l.atSink⟩
  | noteSend (l : Loop σ) (k : Nat) :
      Takes l (.noteEnd (.send k)) []
        ⟨{ l.agenda with vendor := l.agenda.vendor.remove k }, l.atSink⟩
  | noteLaunch {l : Loop σ} (hsim : l.agenda.simulates = true) (k : Nat) (w : World σ)
      (launches : List Launch) :
      Takes l (.noteEnd (.launch k)) (accepts w) ⟨l.agenda.beside w launches, l.atSink⟩
  | learn (l : Loop σ) : Takes l .learn [] ⟨l.agenda.learn, l.atSink⟩
  | alarm (l : Loop σ) : Takes l .alarm [] ⟨l.agenda.enqueue .caller, l.atSink⟩

/-- All that can happen at a time. -/
inductive Step : Loop σ → List Event → Loop σ → Prop
  | take {l m : Loop σ} {item : Item} {rest : List Item} {es : List Event}
      (hqueue : l.agenda.queue = item :: rest)
      (h : Takes ⟨{ l.agenda with queue := rest }, l.atSink⟩ item es m) : Step l es m
  /-- A rest is over. -/
  | elapse {l : Loop σ} {e : Entry Item} {rests : Schedule Item}
      (h : l.agenda.rests.Perm (e :: rests)) (time : Double) :
      Step l [] ⟨{ l.agenda with
        rests := rests
        time := time
        queue := l.agenda.queue ++ [e.item] }, l.atSink⟩
  /-- The sink has taken a receipt. -/
  | delivered {l : Loop σ} {k : Nat} {s : Send} (hs : l.agenda.vendor.sends[k]? = some s)
      (hopen : s.isEnded = false) (hcalled : s.isCalledOff = false) (hk : k ∈ l.atSink) :
      Step l [.ended k .delivered]
        ⟨{ l.agenda with vendor := l.agenda.vendor.finish k .delivered }.leave (.send k),
          l.atSink.filter (· ≠ k)⟩
  /-- The sink has failed, which leaves a line in the log. -/
  | lost {l : Loop σ} {k : Nat} {s : Send} (hs : l.agenda.vendor.sends[k]? = some s)
      (hopen : s.isEnded = false) (hcalled : s.isCalledOff = false) (hk : k ∈ l.atSink)
      (f : Fault) (fields : Log.Fields) :
      Step l [.ended k .undelivered]
        ⟨{ l.agenda with
          world := { l.agenda.world with log := s.loss f fields :: l.agenda.world.log }
          vendor := l.agenda.vendor.finish k .undelivered }.leave (.send k),
          l.atSink.filter (· ≠ k)⟩
  /-- Somebody calls a send off. -/
  | callOff {l : Loop σ} {k : Nat} {s : Send} (hs : l.agenda.vendor.sends[k]? = some s) :
      Step l [.calledOff k] ⟨l.agenda.callOffSend k, l.atSink⟩
  /-- Somebody hands over messages, or does anything else. -/
  | beside {l : Loop σ} (hsim : l.agenda.simulates = true) (w : World σ)
      (launches : List Launch) :
      Step l (accepts w) ⟨l.agenda.beside w launches, l.atSink⟩
  /-- Somebody launches a campaign in the background. -/
  | launch (l : Loop σ) (k : Nat) : Step l [] ⟨l.agenda.enqueue (.resume (.launch k)), l.atSink⟩

/-- One thing after the other. -/
inductive Steps : Loop σ → List Event → Loop σ → Prop
  | refl (l : Loop σ) : Steps l [] l
  | step {l m n : Loop σ} {es more : List Event} (h : Steps l es m) (hstep : Step m more n) :
      Steps l (es ++ more) n

theorem Steps.single {l m : Loop σ} {es : List Event} (h : Step l es m) : Steps l es m :=
  List.nil_append es ▸ (Steps.refl l).step h

theorem Steps.trans {l m n : Loop σ} {es more : List Event} (h : Steps l es m)
    (h' : Steps m more n) : Steps l (es ++ more) n := by
  induction h' with
  | refl => exact (List.append_nil es).symm ▸ h
  | step _ hstep ih => exact List.append_assoc .. ▸ ih.step hstep

end Loop

/-- What is still to come of a send is ready, at rest or with the sink: its next step, or
    its removal. -/
structure Send.Placed (s : Send) (k : Nat) (ready : List Item) (rests : Schedule Item)
    (atSink : List Nat) : Prop where
  token : s.isEnded = false → s.isCalledOff = false → k ∈ atSink ∨ .resume (.send k) ∈ ready ∨
    .wake (.send k) ∈ ready ∨ ∃ e ∈ rests, e.item = .wake (.send k)
  hurried : s.isEnded = false → s.isCalledOff = true → .resume (.send k) ∈ ready
  leaving : s.isEnded = true → s.isRemoved = false → .noteEnd (.send k) ∈ ready

/-- The task that an item is about. -/
def Item.task? : Item → Option Task
  | .resume t | .wake t | .noteEnd t => some t
  | _ => none

namespace Loop

/-- What always holds, given everything that is ready. -/
structure Sound (ready : List Item) (l : Loop σ) : Prop where
  simulates : l.agenda.simulates = true
  collected : l.agenda.world.sender.handed = []
  placed : ∀ (k : Nat) (s : Send), l.agenda.vendor.sends[k]? = some s →
    s.Placed k ready l.agenda.rests l.atSink
  noted : ∀ k, .noteEnd (.send k) ∈ ready →
    ∃ s, l.agenda.vendor.sends[k]? = some s ∧ s.isEnded = true
  resting : ∀ e ∈ l.agenda.rests, e.item = .alarm ∨ ∃ t, e.item = .wake t

/-- What holds between one step and the next. -/
def IsSound (l : Loop σ) : Prop := Sound l.agenda.queue l

variable {ready : List Item} {l m : Loop σ}

/-- A step that touches some sends, and leaves what is still to come of the others alone. -/
theorem Sound.frame (h : Sound ready l) (K : Nat → Prop)
    (hsim : m.agenda.simulates = l.agenda.simulates)
    (hcollected : m.agenda.world.sender.handed = [])
    (hsends : ∀ k, ¬K k → m.agenda.vendor.sends[k]? = l.agenda.vendor.sends[k]?)
    (hready : ∀ k, ¬K k → ∀ item, item.task? = some (.send k) → item ∈ ready →
      item ∈ m.agenda.queue)
    (hrests : ∀ k, ¬K k → ∀ e ∈ l.agenda.rests, e.item = .wake (.send k) → e ∈ m.agenda.rests)
    (hatSink : ∀ k, ¬K k → k ∈ l.atSink → k ∈ m.atSink)
    (hplaced : ∀ k, K k → ∀ s, m.agenda.vendor.sends[k]? = some s →
      s.Placed k m.agenda.queue m.agenda.rests m.atSink)
    (hnoted : ∀ k, .noteEnd (.send k) ∈ m.agenda.queue →
      (¬K k ∧ .noteEnd (.send k) ∈ ready) ∨
        ∃ s, m.agenda.vendor.sends[k]? = some s ∧ s.isEnded = true)
    (hresting : ∀ e ∈ m.agenda.rests, e.item = .alarm ∨ ∃ t, e.item = .wake t) : m.IsSound where
  simulates := hsim.trans h.simulates
  collected := hcollected
  placed := by
    intro k s hs
    by_cases hk : K k
    · exact hplaced k hk s hs
    · rw [hsends k hk] at hs
      have hold := h.placed k s hs
      refine ⟨fun hopen hcalled => ?_, fun hopen hcalled => ?_, fun hended hremoved => ?_⟩
      · rcases hold.token hopen hcalled with hat | hresume | hwake | ⟨e, he, hitem⟩
        · exact .inl (hatSink k hk hat)
        · exact .inr (.inl (hready k hk _ rfl hresume))
        · exact .inr (.inr (.inl (hready k hk _ rfl hwake)))
        · exact .inr (.inr (.inr ⟨e, hrests k hk e he hitem, hitem⟩))
      · exact hready k hk _ rfl (hold.hurried hopen hcalled)
      · exact hready k hk _ rfl (hold.leaving hended hremoved)
  noted := by
    intro k hk
    rcases hnoted k hk with ⟨hnot, hmem⟩ | hended
    · exact hsends k hnot ▸ h.noted k hmem
    · exact hended
  resting := hresting

/-- A step that changes one send. -/
theorem Sound.changed (h : Sound ready l) {k : Nat} {s : Send} {f : Send → Send}
    (hs : l.agenda.vendor.sends[k]? = some s)
    (hsim : m.agenda.simulates = l.agenda.simulates)
    (hcollected : m.agenda.world.sender.handed = l.agenda.world.sender.handed)
    (hsends : m.agenda.vendor.sends = l.agenda.vendor.sends.modify k f)
    (hready : ∀ j ≠ k, ∀ item, item.task? = some (.send j) →
      (item ∈ m.agenda.queue ↔ item ∈ ready))
    (hrests : ∀ e, e.item ≠ .wake (.send k) → (e ∈ m.agenda.rests ↔ e ∈ l.agenda.rests))
    (hatSink : ∀ j ≠ k, j ∈ l.atSink → j ∈ m.atSink)
    (hplaced : (f s).Placed k m.agenda.queue m.agenda.rests m.atSink)
    (hnoted : .noteEnd (.send k) ∈ m.agenda.queue → (f s).isEnded = true) : m.IsSound := by
  refine h.frame (· = k) hsim (hcollected.trans h.collected) ?_ ?_ ?_ hatSink ?_ ?_ ?_
  · intro j hj
    rw [hsends, List.getElem?_modify_ne f _ (Ne.symm hj)]
  · exact fun j hj item htask hmem => (hready j hj item htask).2 hmem
  · intro j hj e he hitem
    refine (hrests e fun hsame => hj ?_).2 he
    cases hitem.symm.trans hsame
    rfl
  · rintro j rfl s' hs'
    rw [hsends, getElem?_modify_self f hs, Option.some.injEq] at hs'
    exact hs' ▸ hplaced
  · intro j hj
    by_cases hjk : j = k
    · subst hjk
      exact .inr ⟨f s, by rw [hsends, getElem?_modify_self f hs], hnoted hj⟩
    · exact .inl ⟨hjk, (hready j hjk _ rfl).1 hj⟩
  · intro e he
    by_cases hitem : e.item = .wake (.send k)
    · exact .inr ⟨_, hitem⟩
    · exact h.resting e ((hrests e hitem).1 he)

/-- What is ready about another send is still so when an item was taken. -/
theorem mem_cons_ready_iff {item other : Item} {items : List Item} {t : Task}
    (htask : other.task? = some t) (hitem : item.task? ≠ some t) :
    other ∈ items ↔ other ∈ item :: items :=
  ⟨List.mem_cons_of_mem item, fun h => (List.mem_cons.1 h).resolve_left fun hsame =>
    hitem (hsame ▸ htask)⟩

/-- What is ready about another send is still so when an item was taken and others came. -/
theorem mem_ready_iff (item : Item) (items more : List Item) {other : Item} {t : Task}
    (htask : other.task? = some t) (hitem : item.task? ≠ some t)
    (hmore : ∀ new ∈ more, new.task? ≠ some t) :
    other ∈ items ++ more ↔ other ∈ item :: items := by
  rw [← mem_cons_ready_iff htask hitem, List.mem_append]
  exact or_iff_left fun hnew => hmore other hnew htask

/-- A task that rests is ready at once, or as soon as its rest is over. -/
theorem after_cases (a : Agenda σ) (seconds : Double) (item now : Item) :
    a.after seconds item now = a.enqueue now ∨
      ∃ due, a.after seconds item now = { a with rests := a.rests.insert ⟨due, item⟩ } := by
  rw [Agenda.after]
  split
  · exact .inl rfl
  · exact .inr ⟨_, rfl⟩

theorem task_ne {j k : Nat} (h : j ≠ k) : some (Task.send k) ≠ some (.send j) := fun hsame =>
  h (by cases hsame; rfl)

theorem task_ne_launch {j k : Nat} : some (Task.launch k) ≠ some (.send j) := by simp

theorem none_ne_task {t : Task} : none ≠ some t := (Option.some_ne_none t).symm

/-- A send goes on to its next rest. -/
theorem Sound.rested {k : Nat} {s : Send} {v : Vendor} {f : Send → Send}
    (h : Sound (.resume (.send k) :: l.agenda.queue) l)
    (hs : l.agenda.vendor.sends[k]? = some s) (hopen : s.isEnded = false)
    (hv : v.sends = l.agenda.vendor.sends.modify k f) (hf : (f s).isEnded = false)
    (hcalled : (f s).isCalledOff = false) (seconds : Double) :
    IsSound ⟨{ l.agenda with vendor := v }.after seconds (.wake (.send k)) (.resume (.send k)),
      l.atSink⟩ := by
  have hnoted : .noteEnd (.send k) ∉ l.agenda.queue := fun hmem => by
    rcases h.noted k (List.mem_cons_of_mem _ hmem) with ⟨s', hs', hended⟩
    cases hs.symm.trans hs'
    cases hopen.symm.trans hended
  rcases after_cases { l.agenda with vendor := v } seconds (.wake (.send k)) (.resume (.send k))
    with hafter | ⟨due, hafter⟩ <;> rw [hafter]
  · refine h.changed hs rfl rfl hv ?_ (fun _ _ => Iff.rfl) (fun _ _ hat => hat) ?_ ?_
    · intro j hj item htask
      refine mem_ready_iff (.resume (.send k)) _ _ htask (task_ne hj) fun new hnew => ?_
      exact List.mem_singleton.1 hnew ▸ task_ne hj
    · refine ⟨fun _ _ => .inr (.inl (List.mem_append_right _ List.mem_cons_self)), ?_, ?_⟩
      · exact fun _ hcalled' => nomatch hcalled.symm.trans hcalled'
      · exact fun hended => nomatch hf.symm.trans hended
    · exact fun hmem => (hnoted ((List.mem_append.1 hmem).resolve_right (by simp))).elim
  · have hperm := Schedule.perm_insert l.agenda.rests ⟨due, .wake (.send k)⟩
    refine h.changed hs rfl rfl hv ?_ ?_ (fun _ _ hat => hat) ?_ ?_
    · exact fun j hj item htask => mem_cons_ready_iff htask (task_ne hj)
    · intro e he
      refine hperm.mem_iff.trans ⟨fun hmem => ?_, List.mem_cons_of_mem _⟩
      exact (List.mem_cons.1 hmem).resolve_left fun hsame => he (hsame ▸ rfl)
    · refine ⟨fun _ _ => .inr (.inr (.inr ⟨_, hperm.mem_iff.2 List.mem_cons_self, rfl⟩)), ?_, ?_⟩
      · exact fun _ hcalled' => nomatch hcalled.symm.trans hcalled'
      · exact fun hended => nomatch hf.symm.trans hended
    · exact fun hmem => (hnoted hmem).elim

/-- A task that has come to its end is noted. The caller learns of it if it waits for it. -/
theorem queue_leave (a : Agenda σ) (t : Task) :
    (a.leave t).queue = a.queue ++ .noteEnd t :: if t ∈ a.awaited then [.learn] else [] := by
  rw [Agenda.leave]
  simp only [List.contains_iff_mem]
  split
  · exact List.append_assoc ..
  · rfl

theorem awaited_leave (a : Agenda σ) (t : Task) : (a.leave t).awaited = a.awaited.erase t := by
  rw [Agenda.leave]
  simp only [List.contains_iff_mem]
  split
  · rfl
  · exact (List.erase_of_not_mem ‹_›).symm

theorem leave_keeps (a : Agenda σ) (t : Task) :
    (a.leave t).simulates = a.simulates ∧ (a.leave t).world = a.world ∧
      (a.leave t).vendor = a.vendor ∧ (a.leave t).rests = a.rests ∧
      (a.leave t).missing = a.missing := by
  rw [Agenda.leave]
  split <;> exact ⟨rfl, rfl, rfl, rfl, rfl⟩

theorem task_ne_of_learn {c : Prop} [Decidable c] {item : Item} {t : Task}
    (h : item ∈ if c then [Item.learn] else []) : item.task? ≠ some t := by
  split at h
  · cases List.mem_singleton.1 h
    exact nofun
  · cases h

theorem learn_keeps (a : Agenda σ) :
    a.learn.simulates = a.simulates ∧ a.learn.world = a.world ∧ a.learn.vendor = a.vendor ∧
      a.learn.rests = a.rests := by
  rw [Agenda.learn]
  split <;> exact ⟨rfl, rfl, rfl, rfl⟩

/-- A send comes to its end. -/
theorem Sound.left {k : Nat} {s : Send} {f : Send → Send} {a : Agenda σ} {atSink : List Nat}
    (h : Sound ready l) (hs : l.agenda.vendor.sends[k]? = some s)
    (hsim : a.simulates = l.agenda.simulates)
    (hcollected : a.world.sender.handed = l.agenda.world.sender.handed)
    (hsends : a.vendor.sends = l.agenda.vendor.sends.modify k f)
    (hrests : a.rests = l.agenda.rests)
    (hready : ∀ j ≠ k, ∀ item, item.task? = some (.send j) → (item ∈ a.queue ↔ item ∈ ready))
    (hf : (f s).isEnded = true) (hatSink : ∀ j ≠ k, j ∈ l.atSink → j ∈ atSink) :
    IsSound ⟨a.leave (.send k), atSink⟩ := by
  have hqueue := queue_leave a (.send k)
  rcases leave_keeps a (.send k) with ⟨hsim', hworld', hvendor', hrests', -⟩
  refine h.changed (f := f) hs (hsim'.trans hsim) (hworld' ▸ hcollected) (hvendor' ▸ hsends) ?_
    (fun e _ => by rw [hrests', hrests]) hatSink ?_ fun _ => hf
  · intro j hj item htask
    rw [hqueue, List.mem_append, List.mem_cons, ← hready j hj item htask]
    refine or_iff_left fun hnew => ?_
    rcases hnew with rfl | hnew
    · exact task_ne hj htask
    · exact task_ne_of_learn hnew htask
  · refine ⟨?_, ?_, fun _ _ => ?_⟩
    · exact fun hopen => nomatch hf.symm.trans hopen
    · exact fun hopen => nomatch hf.symm.trans hopen
    rw [hqueue]
    exact List.mem_append_right _ List.mem_cons_self

/-- What was handed over by others is accepted, and is ready. -/
theorem collect_eq {a : Agenda σ} (hsim : a.simulates = true) :
    a.collect.vendor = a.world.sender.handed.foldl Vendor.accept a.vendor ∧
      a.collect.queue = a.queue ++ (List.range a.world.sender.handed.length).map fun i =>
        .resume (.send (a.vendor.sends.length + i)) := by
  rw [Agenda.collect, if_pos hsim]
  exact ⟨rfl, rfl⟩

theorem collect_keeps (a : Agenda σ) :
    a.collect.simulates = a.simulates ∧ a.collect.rests = a.rests ∧
      a.collect.launches = a.launches ∧ a.collect.awaited = a.awaited ∧
      a.collect.missing = a.missing := by
  rw [Agenda.collect]
  split <;> exact ⟨rfl, rfl, rfl, rfl, rfl⟩

theorem handed_collect {a : Agenda σ} (hsim : a.simulates = true) :
    a.collect.world.sender.handed = [] := by
  rw [Agenda.collect, if_pos hsim]

theorem sends_foldl_accept (hs : List Handover) : ∀ v : Vendor,
    (hs.foldl Vendor.accept v).sends =
      v.sends ++ hs.map fun h => ⟨h.record.id, h.fields, .waiting, false, false⟩ := by
  induction hs with
  | nil => exact fun v => (List.append_nil _).symm
  | cons h rest ih =>
      intro v
      rw [List.foldl_cons, ih, Vendor.accept, List.append_assoc]
      rfl

/-- Others hand over messages. -/
theorem Sound.collects (h : Sound ready l) {a : Agenda σ}
    (hsim : a.simulates = l.agenda.simulates) (hvendor : a.vendor = l.agenda.vendor)
    (hrests : a.rests = l.agenda.rests)
    (hready : ∀ k item, item.task? = some (.send k) → (item ∈ a.queue ↔ item ∈ ready)) :
    IsSound ⟨a.collect, l.atSink⟩ := by
  have hsim' : a.simulates = true := hsim.trans h.simulates
  rcases collect_eq hsim' with ⟨hvendor', hqueue⟩
  rcases collect_keeps a with ⟨hsimulates, hrests', -⟩
  have hsends : a.collect.vendor.sends = l.agenda.vendor.sends ++
      a.world.sender.handed.map fun h => ⟨h.record.id, h.fields, .waiting, false, false⟩ := by
    rw [hvendor', sends_foldl_accept, hvendor]
  refine h.frame (l.agenda.vendor.sends.length ≤ ·) (hsimulates.trans hsim) (handed_collect hsim')
    ?_ ?_ (fun _ _ e he _ => ?_) (fun _ _ hat => hat) ?_ ?_ ?_
  · exact fun k hk => by rw [hsends, List.getElem?_append_left (Nat.lt_of_not_le hk)]
  · intro k _ item htask hmem
    rw [hqueue]
    exact List.mem_append_left _ ((hready k item htask).2 hmem)
  · rwa [hrests', hrests]
  · intro k hk s hs
    rw [hsends, List.getElem?_append_right hk, List.getElem?_map, Option.map_eq_some_iff] at hs
    rcases hs with ⟨handover, hhandover, rfl⟩
    have hlt := (List.getElem?_eq_some_iff.1 hhandover).1
    refine ⟨fun _ _ => .inr (.inl ?_), fun _ hcalled => ?_, fun hended => ?_⟩
    · rw [hqueue, hvendor]
      refine List.mem_append_right _ (List.mem_map.2 ⟨_, List.mem_range.2 hlt, ?_⟩)
      rw [Nat.add_sub_cancel' hk]
    · cases hcalled
    · cases hended
  · intro k hk
    rw [hqueue] at hk
    rcases List.mem_append.1 hk with hk | hk
    · have hmem := (hready k _ rfl).1 hk
      rcases h.noted k hmem with ⟨s, hs, -⟩
      exact .inl ⟨Nat.not_le_of_lt (List.getElem?_eq_some_iff.1 hs).1, hmem⟩
    · rcases List.mem_map.1 hk with ⟨_, -, hitem⟩
      cases hitem
  · rw [hrests', hrests]
    exact h.resting

/-- A step that touches no send. -/
theorem Sound.quiet (h : Sound ready l) (hsim : m.agenda.simulates = l.agenda.simulates)
    (hcollected : m.agenda.world.sender.handed = l.agenda.world.sender.handed)
    (hsends : m.agenda.vendor.sends = l.agenda.vendor.sends)
    (hrests : m.agenda.rests = l.agenda.rests) (hatSink : m.atSink = l.atSink)
    (hready : ∀ k item, item.task? = some (.send k) → (item ∈ m.agenda.queue ↔ item ∈ ready)) :
    m.IsSound := by
  refine h.frame (fun _ => False) hsim (hcollected.trans h.collected) (fun _ _ => by rw [hsends])
    (fun k _ item htask hmem => (hready k item htask).2 hmem) (fun _ _ e he _ => hrests ▸ he)
    (fun _ _ hat => hatSink ▸ hat) (fun _ hk => hk.elim) ?_ (hrests ▸ h.resting)
  exact fun k hk => .inl ⟨not_false, (hready k _ rfl).1 hk⟩

/-- A task that is no send comes to its end. -/
theorem IsSound.left (h : IsSound l) (k : Nat) :
    IsSound ⟨l.agenda.leave (.launch k), l.atSink⟩ := by
  rcases leave_keeps l.agenda (.launch k) with ⟨hsim, hworld, hvendor, hrests, -⟩
  refine Sound.quiet h hsim (by rw [hworld]) (by rw [hvendor]) hrests rfl fun j item htask => ?_
  rw [queue_leave, List.mem_append]
  refine or_iff_left fun hnew => ?_
  rcases List.mem_cons.1 hnew with rfl | hnew
  · cases htask
  · exact task_ne_of_learn hnew htask

/-- What happens to an item that was taken keeps the loop sound. -/
theorem Sound.takes {item : Item} {es : List Event} (h : Sound (item :: l.agenda.queue) l)
    (htakes : Takes l item es m) : m.IsSound := by
  cases htakes with
  | wake t =>
      refine h.frame (fun k => t = .send k) rfl h.collected (fun _ _ => rfl) ?_
        (fun _ _ e he _ => he) (fun _ _ hat => hat) ?_ ?_ h.resting
      · intro k hk item htask hmem
        have hwake : (Item.wake t).task? ≠ some (.send k) := fun hsame => hk (Option.some.inj hsame)
        exact List.mem_append_left _ ((mem_cons_ready_iff htask hwake).2 hmem)
      · rintro k rfl s hs
        have hresume : .resume (.send k) ∈ l.agenda.queue ++ [.resume (.send k)] :=
          List.mem_append_right _ List.mem_cons_self
        refine ⟨fun _ _ => .inr (.inl hresume), fun _ _ => hresume, fun hended hremoved => ?_⟩
        have hleaving := (h.placed k s hs).leaving hended hremoved
        exact List.mem_append_left _ (List.mem_of_ne_of_mem (by simp) hleaving)
      · intro k hk
        have hmem := (List.mem_append.1 hk).resolve_right (by simp)
        exact .inr (h.noted k (List.mem_cons_of_mem _ hmem))
  | start hs hstage hcalled =>
      exact h.rested hs (by rw [Send.isEnded, hstage]) rfl rfl hcalled _
  | decide hs hstage hcalled =>
      exact h.rested hs (by rw [Send.isEnded, hstage]) rfl rfl hcalled _
  | report hs hstage hcalled hk =>
      rename_i k s o
      have hopen : s.isEnded = false := by rw [Send.isEnded, hstage]
      refine h.changed (f := id) hs rfl rfl (List.modify_id _ _).symm ?_ (fun _ _ => Iff.rfl) ?_ ?_
        ?_
      · exact fun j hj item htask => mem_cons_ready_iff htask (task_ne hj)
      · exact fun j _ hat => List.mem_cons_of_mem k hat
      · refine ⟨fun _ _ => .inl List.mem_cons_self, ?_, ?_⟩
        · exact fun _ hcalled' => absurd hcalled' (Bool.eq_false_iff.1 hcalled)
        · exact fun hended => absurd hended (Bool.eq_false_iff.1 hopen)
      · intro hmem
        rcases h.noted k (List.mem_cons_of_mem _ hmem) with ⟨s', hs', hended⟩
        cases hs.symm.trans hs'
        exact hended
  | giveUp hs hopen hcalled =>
      exact h.left (f := fun s => { s with stage := .ended .calledOff }) hs rfl rfl rfl rfl
        (fun j hj item htask => mem_cons_ready_iff htask (task_ne hj)) rfl
        fun j hj hat => List.mem_filter.2 ⟨hat, decide_eq_true hj⟩
  | skip hended =>
      rename_i t
      refine h.frame (fun k => t = .send k) rfl h.collected (fun _ _ => rfl) ?_
        (fun _ _ e he _ => he) (fun _ _ hat => hat) ?_
        (fun k hk => .inr (h.noted k (List.mem_cons_of_mem _ hk))) h.resting
      · intro k hk item htask hmem
        have hresume : (Item.resume t).task? ≠ some (.send k) := fun hsame =>
          hk (Option.some.inj hsame)
        exact (mem_cons_ready_iff htask hresume).2 hmem
      · rintro k rfl s hs
        rw [Agenda.isEnded, hs, Option.all_some] at hended
        refine ⟨?_, ?_, fun _ hremoved => ?_⟩
        · exact fun hopen => absurd hended (Bool.eq_false_iff.1 hopen)
        · exact fun hopen => absurd hended (Bool.eq_false_iff.1 hopen)
        exact List.mem_of_ne_of_mem (by simp) ((h.placed k s hs).leaving hended hremoved)
  | launched hsim k w launches =>
      refine IsSound.left (l := ⟨l.agenda.beside w launches, l.atSink⟩)
        (h.collects rfl rfl rfl ?_) k
      exact fun j item htask => mem_cons_ready_iff htask task_ne_launch
  | noteSend k =>
      rcases h.noted k List.mem_cons_self with ⟨s, hs, hended⟩
      refine h.changed (f := fun s => { s with isRemoved := true }) hs rfl rfl rfl ?_
        (fun _ _ => Iff.rfl) (fun _ _ hat => hat) ?_ (fun _ => hended)
      · exact fun j hj item htask => mem_cons_ready_iff htask (task_ne hj)
      · refine ⟨?_, ?_, fun _ hremoved => absurd hremoved Bool.false_ne_true.symm⟩
        · exact fun hopen => absurd hended (Bool.eq_false_iff.1 hopen)
        · exact fun hopen => absurd hended (Bool.eq_false_iff.1 hopen)
  | noteLaunch hsim k w launches =>
      exact h.collects rfl rfl rfl fun j item htask => mem_cons_ready_iff htask task_ne_launch
  | learn =>
      have hready : ∀ k item, item.task? = some (.send k) →
          (item ∈ l.agenda.learn.queue ↔ item ∈ .learn :: l.agenda.queue) := by
        intro k item htask
        rw [Agenda.learn]
        split
        · exact mem_ready_iff .learn _ _ htask none_ne_task fun new hnew =>
            List.mem_singleton.1 hnew ▸ none_ne_task
        · exact mem_cons_ready_iff htask none_ne_task
      rcases learn_keeps l.agenda with ⟨hsim, hworld, hvendor, hrests⟩
      exact h.quiet hsim (by rw [hworld]) (by rw [hvendor]) hrests rfl hready
  | alarm =>
      refine h.quiet rfl rfl rfl rfl rfl fun j item htask => ?_
      exact mem_ready_iff .alarm _ _ htask none_ne_task fun new hnew =>
        List.mem_singleton.1 hnew ▸ none_ne_task

/-- A send is called off: it goes on at once. -/
theorem IsSound.callOff (h : l.IsSound) {k : Nat} {s : Send}
    (hs : l.agenda.vendor.sends[k]? = some s) : IsSound ⟨l.agenda.callOffSend k, l.atSink⟩ := by
  have hnoted : .noteEnd (.send k) ∈ l.agenda.queue → s.isEnded = true := fun hmem => by
    rcases h.noted k hmem with ⟨s', hs', hended⟩
    cases hs.symm.trans hs'
    exact hended
  have hended : Agenda.isEnded { l.agenda with vendor := l.agenda.vendor.callOff k } (.send k) =
      s.isEnded := by
    rw [Agenda.isEnded, Vendor.callOff, Vendor.modify, getElem?_modify_self _ hs, Option.all_some]
    rfl
  have hplaced := h.placed k s hs
  rw [Agenda.callOffSend]
  simp only [hended]
  split
  next hcase =>
    refine h.changed (f := fun s => { s with isCalledOff := true }) hs rfl rfl rfl
      (fun _ _ _ _ => Iff.rfl) (fun _ _ => Iff.rfl) (fun _ _ hat => hat) ?_ hnoted
    refine ⟨fun _ hcalled => (nomatch hcalled), fun hopen _ => ?_, hplaced.leaving⟩
    rw [show s.isEnded = false from hopen, Bool.false_or, List.contains_iff_mem] at hcase
    exact hcase
  next hcase =>
    rw [Bool.or_eq_true, not_or, Bool.not_eq_true] at hcase
    refine h.changed (f := fun s => { s with isCalledOff := true }) hs rfl rfl rfl ?_ ?_
      (fun _ _ hat => hat) ?_ ?_
    · intro j hj item htask
      change item ∈ l.agenda.queue.filter _ ++ [_] ↔ _
      have hresume : item ∉ [Item.resume (.send k)] := fun hmem => by
        cases List.mem_singleton.1 hmem
        exact task_ne hj htask
      have hwake : (item != .wake (.send k)) = true := bne_iff_ne.2 fun hsame => by
        cases hsame
        exact task_ne hj htask
      rw [List.mem_append, or_iff_left hresume, List.mem_filter, and_iff_left hwake]
    · intro e he
      refine (Schedule.perm_without _ _).mem_iff.trans ?_
      rw [List.mem_filter, and_iff_left (decide_eq_true he)]
    · refine ⟨fun _ hcalled => (nomatch hcalled), fun _ _ => ?_, fun hended' => ?_⟩
      · exact List.mem_append_right _ List.mem_cons_self
      · exact nomatch hcase.1.symm.trans hended'
    · intro hmem
      have hqueue := (List.mem_append.1 hmem).resolve_right (by simp)
      exact hnoted (List.mem_filter.1 hqueue).1

theorem IsSound.popped (h : l.IsSound) {item : Item} {rest : List Item}
    (hqueue : l.agenda.queue = item :: rest) :
    Sound (item :: rest) (⟨{ l.agenda with queue := rest }, l.atSink⟩ : Loop σ) := by
  rw [IsSound, hqueue] at h
  exact ⟨h.simulates, h.collected, h.placed, h.noted, h.resting⟩

/-- Every step keeps the loop sound. -/
theorem IsSound.step {es : List Event} (h : l.IsSound) (hstep : Step l es m) : m.IsSound := by
  cases hstep with
  | take hqueue htakes => exact (h.popped hqueue).takes htakes
  | elapse hrests time =>
      rename_i e rests
      refine Sound.frame h (fun k => e.item = .wake (.send k)) rfl h.collected (fun _ _ => rfl)
        (fun _ _ _ _ hmem => List.mem_append_left _ hmem) ?_ (fun _ _ hat => hat) ?_ ?_ ?_
      · intro k hk e' he' hitem
        refine (List.mem_cons.1 (hrests.mem_iff.1 he')).resolve_left fun hsame => hk ?_
        exact hsame ▸ hitem
      · intro k hk s hs
        have hplaced := h.placed k s hs
        refine ⟨fun _ _ => ?_, fun hopen hcalled => ?_, fun hended hremoved => ?_⟩
        · exact .inr (.inr (.inl (List.mem_append_right _ (hk ▸ List.mem_cons_self))))
        · exact List.mem_append_left _ (hplaced.hurried hopen hcalled)
        · exact List.mem_append_left _ (hplaced.leaving hended hremoved)
      · intro k hk
        refine .inr (h.noted k ((List.mem_append.1 hk).resolve_right fun hnew => ?_))
        have hitem := List.mem_singleton.1 hnew
        rcases h.resting e (hrests.mem_iff.2 List.mem_cons_self) with halarm | ⟨t, hwake⟩
        · cases hitem.trans halarm
        · cases hitem.trans hwake
      · exact fun e' he' => h.resting e' (hrests.mem_iff.2 (List.mem_cons_of_mem _ he'))
  | delivered hs hopen hcalled hk =>
      exact Sound.left h (f := fun s => { s with stage := .ended .delivered }) hs rfl rfl rfl rfl
        (fun _ _ _ _ => Iff.rfl) rfl fun j hj hat => List.mem_filter.2 ⟨hat, decide_eq_true hj⟩
  | lost hs hopen hcalled hk f fields =>
      exact Sound.left h (f := fun s => { s with stage := .ended .undelivered }) hs rfl rfl rfl rfl
        (fun _ _ _ _ => Iff.rfl) rfl fun j hj hat => List.mem_filter.2 ⟨hat, decide_eq_true hj⟩
  | callOff hs => exact h.callOff hs
  | beside hsim w launches =>
      exact Sound.collects h rfl rfl rfl fun _ _ _ => Iff.rfl
  | launch k =>
      refine Sound.quiet h rfl rfl rfl rfl rfl fun j item htask => ?_
      rw [Agenda.enqueue, List.mem_append]
      refine or_iff_left fun hnew => ?_
      cases List.mem_singleton.1 hnew
      cases htask

/-! ## What sends see of it -/

theorem vendor_after (a : Agenda σ) (seconds : Double) (item now : Item) :
    (a.after seconds item now).vendor = a.vendor := by
  rcases after_cases a seconds item now with hafter | ⟨due, hafter⟩ <;> rw [hafter]
  rfl

theorem vendor_leave (a : Agenda σ) (t : Task) : (a.leave t).vendor = a.vendor :=
  (leave_keeps a t).2.2.1

theorem vendor_callOffSend (a : Agenda σ) (k : Nat) :
    (a.callOffSend k).vendor = a.vendor.callOff k := by
  rw [Agenda.callOffSend]
  split <;> rfl

/-- Messages that others hand over are accepted one after the other. -/
theorem run_beside {a : Agenda σ} (hsim : a.simulates = true) (w : World σ)
    (launches : List Launch) (atSink : List Nat) :
    Traffic.Run ⟨a.vendor, atSink⟩ (accepts w) ⟨(a.beside w launches).vendor, atSink⟩ := by
  have haccepted := Traffic.run_foldl_accept w.sender.handed ⟨a.vendor, atSink⟩
  rw [Agenda.beside, (collect_eq (a := { a with world := w, launches := launches }) hsim).1]
  exact haccepted

theorem Sound.takes_traffic {item : Item} {es : List Event}
    (h : Sound (item :: l.agenda.queue) l) (htakes : Takes l item es m) :
    Traffic.Run l.traffic es m.traffic := by
  cases htakes with
  | start hs hstage _ =>
      simp only [traffic, vendor_after]
      exact .single (.start hs hstage)
  | decide hs hstage _ =>
      simp only [traffic, vendor_after]
      exact .single (.decide hs hstage)
  | report hs hstage _ hk => exact .single (.report hs hstage hk)
  | giveUp hs hopen hcalled =>
      simp only [traffic, vendor_leave]
      exact .single (.giveUp hs hopen hcalled)
  | launched hsim k w launches =>
      simp only [traffic, vendor_leave]
      exact run_beside hsim w launches l.atSink
  | noteSend k =>
      rcases h.noted k List.mem_cons_self with ⟨s, hs, hended⟩
      exact .single (.remove hs hended)
  | noteLaunch hsim k w launches => exact run_beside hsim w launches l.atSink
  | learn =>
      simp only [traffic, (learn_keeps l.agenda).2.2.1]
      exact .refl _
  | _ => exact .refl _

/-- Seen from the vendor, a step of the loop is steps of sends. -/
theorem IsSound.step_traffic {es : List Event} (h : l.IsSound) (hstep : Step l es m) :
    Traffic.Run l.traffic es m.traffic := by
  cases hstep with
  | take hqueue htakes =>
      have hrun := (h.popped hqueue).takes_traffic htakes
      exact hrun
  | delivered hs hopen hcalled hk =>
      simp only [traffic, vendor_leave]
      exact .single (.settle hs hk nofun)
  | lost hs hopen hcalled hk f fields =>
      simp only [traffic, vendor_leave]
      exact .single (.settle hs hk nofun)
  | callOff hs =>
      simp only [traffic, vendor_callOffSend]
      exact .single (.callOff hs)
  | beside hsim w launches => exact run_beside hsim w launches l.atSink
  | _ => exact .refl _

theorem IsSound.steps {es : List Event} (h : l.IsSound) (hsteps : Steps l es m) :
    m.IsSound ∧ Traffic.Run l.traffic es m.traffic := by
  induction hsteps with
  | refl => exact ⟨h, .refl _⟩
  | step _ hstep ih => exact ⟨ih.1.step hstep, ih.2.trans (ih.1.step_traffic hstep)⟩

end Loop

end Outreach
