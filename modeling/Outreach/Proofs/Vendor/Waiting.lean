import Outreach.Proofs.Vendor.Loop

/-!
# Waiting for Sends

Whoever waits for sends learns of the end of each of them, and goes on when no end is
missing. By then every one of these sends is removed: its removal became ready when it
ended, before anyone was told, and what is ready is taken in order.

## Main definitions

* `Agenda.waiting`: The caller begins to wait.
* `Loop.signals`, `Loop.calls`: What the end of waiting depends on.
* `Loop.Told`: A removal that comes before the caller is told.
* `Loop.Waits`: What is known while the caller waits.

## Theorems

* `Loop.Waits.left`, `Loop.Waits.learned`: A send comes to its end, and the caller learns of it.
* `Loop.Waits.step`: What is known is kept by every step.
-/

namespace Outreach

open Traffic (Event)

variable {σ : Type}

namespace Agenda

/-- The caller begins to wait for tasks. -/
def waiting (a : Agenda σ) (ts : List Task) : Agenda σ :=
  { a with
    queue := a.queue ++ (ts.filter a.isEnded).map fun _ => .learn
    awaited := ts.filter fun t => !a.isEnded t
    missing := ts.length }

end Agenda

namespace Loop

/-- Whether the end of waiting depends on an item and its place. -/
def isSignal : Item → Bool
  | .noteEnd (.send _) | .learn | .alarm | .caller | .part _ => true
  | _ => false

/-- The items that the end of waiting depends on, in order. -/
def signals (items : List Item) : List Item := items.filter isSignal

/-- Whether the caller goes on with an item, at once or next. -/
def isCall : Item → Bool
  | .alarm | .caller => true
  | _ => false

/-- How often the caller is to go on. -/
def calls (items : List Item) (rests : Schedule Item) : Nat :=
  items.countP isCall + rests.countP fun e => e.item == .alarm

theorem signals_append (items more : List Item) :
    signals (items ++ more) = signals items ++ signals more :=
  List.filter_append ..

theorem signals_of_plain {more : List Item} (h : ∀ item ∈ more, isSignal item = false)
    (items : List Item) : signals (items ++ more) = signals items := by
  have hnone : signals more = [] :=
    List.filter_eq_nil_iff.2 fun item hitem => Bool.not_eq_true _ ▸ h item hitem
  rw [signals_append, hnone, List.append_nil]

/-- Whether the removal of a send has become ready before the caller is told. -/
def Told (k : Nat) (ready : List Item) : Prop :=
  ∃ before after, ready = before ++ .learn :: after ∧ .noteEnd (.send k) ∈ before

/-- What is known while the caller waits for tasks, and how often it is to go on. While ends
    are missing, each of them is still to come or the caller is about to learn of it. -/
structure Waits (ts : List Task) (turns : Nat) (ready : List Item) (a : Agenda σ) : Prop where
  going : (turns = 1 ∧ 0 < a.missing ∧ a.missing = a.awaited.length + ready.count .learn ∧
      calls ready a.rests = 0) ∨
    (calls ready a.rests = turns ∧ ready.count .learn = 0 ∧ a.awaited = [])
  known : ∀ k, .send k ∈ ts → k < a.vendor.sends.length
  covered : ∀ k, .send k ∈ ts → ∀ s, a.vendor.sends[k]? = some s → s.isRemoved = false →
    .send k ∈ a.awaited ∨ Told k ready
  fresh : ∀ k, .send k ∈ a.awaited → ∃ s, a.vendor.sends[k]? = some s ∧ s.isEnded = false
  nodup : a.awaited.Nodup
  within : ∀ t ∈ a.awaited, t ∈ ts
  /-- The caller does nothing else. -/
  whole : ∀ k, .part k ∉ ready
  /-- The caller does not rest as well. -/
  restless : ts ≠ [] → a.rests.countP (fun e => e.item == .alarm) = 0

variable {ts : List Task} {turns : Nat} {ready : List Item} {a b : Agenda σ}

theorem Told.append {k : Nat} (h : Told k ready) (more : List Item) : Told k (ready ++ more) := by
  rcases h with ⟨before, after, rfl, hmem⟩
  exact ⟨before, after ++ more, List.append_assoc .., hmem⟩

/-- It stays so when another item is taken. -/
theorem Told.tail {k : Nat} {item : Item} (h : Told k (item :: ready))
    (hitem : item ≠ .noteEnd (.send k)) : Told k ready := by
  rcases h with ⟨before, after, heq, hmem⟩
  cases before with
  | nil => cases hmem
  | cons first rest =>
      cases heq
      exact ⟨rest, after, rfl, (List.mem_cons.1 hmem).resolve_left hitem.symm⟩

/-- A step that ends no send. -/
theorem Waits.frame (h : Waits ts turns ready a) (hmissing : b.missing = a.missing)
    (hawaited : b.awaited = a.awaited) (hcalls : calls ready b.rests = calls ready a.rests)
    (hsends : ∀ (k : Nat) (s : Send), a.vendor.sends[k]? = some s →
      ∃ s', b.vendor.sends[k]? = some s' ∧ s'.isEnded = s.isEnded ∧
        (s.isRemoved = true → s'.isRemoved = true)) :
    Waits ts turns ready b where
  going := by
    rw [hmissing, hawaited, hcalls]
    exact h.going
  known := by
    intro k hk
    rcases hsends k _ (List.getElem?_eq_getElem (h.known k hk)) with ⟨s', hs', -⟩
    exact (List.getElem?_eq_some_iff.1 hs').1
  covered := by
    intro k hk s' hs' hremoved
    rcases hsends k _ (List.getElem?_eq_getElem (h.known k hk)) with ⟨s'', hs'', -, hkept⟩
    cases hs'.symm.trans hs''
    rw [hawaited]
    refine h.covered k hk _ (List.getElem?_eq_getElem (h.known k hk)) ?_
    rw [← Bool.not_eq_true]
    exact fun hr => Bool.false_ne_true (hremoved.symm.trans (hkept hr))
  fresh := by
    intro k hk
    rcases h.fresh k (hawaited ▸ hk) with ⟨s, hs, hopen⟩
    rcases hsends k s hs with ⟨s', hs', hended, -⟩
    exact ⟨s', hs', hended.trans hopen⟩
  nodup := hawaited ▸ h.nodup
  within := hawaited ▸ h.within
  whole := h.whole
  restless := fun hne => (Nat.add_left_cancel hcalls).trans (h.restless hne)

/-- The end of a task has no other meaning for the caller. -/
theorem signals_noteEnd (t : Task) : (signals [.noteEnd t]).count .learn = 0 ∧
    (signals [.noteEnd t]).countP isCall = 0 := by
  cases t <;> exact ⟨rfl, rfl⟩

theorem calls_append (items more : List Item) (rests : Schedule Item) :
    calls (items ++ more) rests = calls items rests + more.countP isCall := by
  rw [calls, calls, List.countP_append]
  omega

theorem calls_cons (item : Item) (items : List Item) (rests : Schedule Item) :
    calls (item :: items) rests = calls items rests + (isCall item).toNat := by
  rw [calls, calls, List.countP_cons]
  cases isCall item <;> simp
  omega

/-- A task comes to its end. If the caller waits for it, it is told after the removal. -/
theorem Waits.left (h : Waits ts turns ready a) {t : Task}
    (hmissing : b.missing = a.missing) (hawaited : b.awaited = a.awaited)
    (hrests : b.rests = a.rests) (hready : signals b.queue = ready)
    (hsends : ∀ (k : Nat) (s : Send), a.vendor.sends[k]? = some s →
      ∃ s', b.vendor.sends[k]? = some s' ∧ (.send k ≠ t → s'.isEnded = s.isEnded) ∧
        s'.isRemoved = s.isRemoved) :
    Waits ts turns (signals (b.leave t).queue) (b.leave t) := by
  rcases leave_keeps b t with ⟨-, -, hvendor', hrests', hmissing'⟩
  have hawaited' : (b.leave t).awaited = a.awaited.erase t := by rw [awaited_leave, hawaited]
  have hqueue : signals (b.leave t).queue =
      ready ++ signals [.noteEnd t] ++ if t ∈ a.awaited then [.learn] else [] := by
    rw [queue_leave, hawaited, ← List.singleton_append, ← List.append_assoc, signals_append,
      signals_append, hready]
    split <;> rfl
  rcases signals_noteEnd t with ⟨hlearn, hcall⟩
  rw [hqueue]
  constructor
  case going =>
    rw [hmissing', hmissing, hawaited', hrests', hrests, calls_append, calls_append, hcall,
      List.count_append, List.count_append, hlearn]
    by_cases ht : t ∈ a.awaited
    · have hpos := List.length_pos_of_mem ht
      rw [if_pos ht, List.length_erase_of_mem ht]
      refine h.going.imp (fun ⟨hturns, hmiss, hcount, hcalls⟩ => ?_) fun ⟨_, _, hnil⟩ => ?_
      · refine ⟨hturns, hmiss, ?_, hcalls⟩
        rw [List.count_singleton_self]
        omega
      · rw [hnil] at ht
        cases ht
    · rw [if_neg ht, List.erase_of_not_mem ht]
      exact h.going
  case known =>
    intro k hk
    rcases hsends k _ (List.getElem?_eq_getElem (h.known k hk)) with ⟨s', hs', -⟩
    exact hvendor'.symm ▸ (List.getElem?_eq_some_iff.1 hs').1
  case covered =>
    intro k hk s' hs' hremoved
    rcases hsends k _ (List.getElem?_eq_getElem (h.known k hk)) with ⟨s'', hs'', -, hsame⟩
    rw [hvendor', hs''] at hs'
    cases hs'
    rw [hawaited']
    rcases h.covered k hk _ (List.getElem?_eq_getElem (h.known k hk)) (hsame ▸ hremoved) with
      hmem | htold
    · by_cases hkt : .send k = t
      · subst hkt
        rw [if_pos hmem]
        exact .inr ⟨_, [], rfl, List.mem_append_right _ List.mem_cons_self⟩
      · exact .inl ((List.mem_erase_of_ne hkt).2 hmem)
    · exact .inr ((htold.append _).append _)
  case fresh =>
    intro k hk
    rw [hawaited', h.nodup.mem_erase_iff] at hk
    rcases h.fresh k hk.2 with ⟨s, hs, hopen⟩
    rcases hsends k s hs with ⟨s', hs', hended, -⟩
    exact ⟨s', hvendor'.symm ▸ hs', (hended hk.1).trans hopen⟩
  case nodup => exact hawaited' ▸ h.nodup.erase t
  case within => exact fun t' ht' => h.within t' (List.mem_of_mem_erase (hawaited' ▸ ht'))
  case whole =>
    intro k hk
    rcases List.mem_append.1 hk with hk | hk
    · refine (List.mem_append.1 hk).elim (h.whole k) fun hk => ?_
      cases List.mem_singleton.1 (List.mem_filter.1 hk).1
    · split at hk
      · cases List.mem_singleton.1 hk
      · cases hk
  case restless => exact hrests'.symm ▸ hrests.symm ▸ h.restless

/-- The removal of a send, which has ended. -/
theorem Waits.noted {k : Nat} (h : Waits ts turns (.noteEnd (.send k) :: ready) a) :
    Waits ts turns ready { a with vendor := a.vendor.remove k } where
  going := by
    have hgoing := h.going
    rw [calls_cons, List.count_cons] at hgoing
    exact hgoing
  known := fun j hj => Nat.lt_of_lt_of_eq (h.known j hj) (List.length_modify ..).symm
  covered := by
    intro j hj s' hs' hremoved
    rcases getElem?_of_modify hs' with ⟨s, hs, rfl | ⟨rfl, rfl⟩⟩
    · refine (h.covered j hj s' hs hremoved).imp_right fun htold => htold.tail fun hsame => ?_
      cases hsame
      rw [Vendor.remove, Vendor.modify, getElem?_modify_self _ hs, Option.some.injEq] at hs'
      cases (congrArg Send.isRemoved hs').trans hremoved
    · cases hremoved
  fresh := by
    intro j hj
    rcases h.fresh j hj with ⟨s, hs, hopen⟩
    rcases exists_modify k (fun s => { s with isRemoved := true }) hs with
      ⟨s', hs', rfl | ⟨-, rfl⟩⟩
    · exact ⟨s', hs', hopen⟩
    · exact ⟨_, hs', hopen⟩
  nodup := h.nodup
  within := h.within
  whole := fun j hj => h.whole j (List.mem_cons_of_mem _ hj)
  restless := h.restless

/-- The caller learns of an end, and goes on after the last one. -/
theorem Waits.learned (h : Waits ts turns (.learn :: ready) a) (hready : signals a.queue = ready) :
    Waits ts turns (signals a.learn.queue) a.learn := by
  rcases h.going with ⟨hturns, hpos, hmissing, hcalls⟩ | ⟨-, hnone, -⟩
  · rw [List.count_cons_self] at hmissing
    rw [calls_cons] at hcalls
    have htold : ∀ k, .send k ∈ ts → ∀ s, a.vendor.sends[k]? = some s → s.isRemoved = false →
        .send k ∈ a.awaited ∨ Told k ready := fun k hk s hs hremoved =>
      (h.covered k hk s hs hremoved).imp_right fun htold => htold.tail (by simp)
    rw [Agenda.learn]
    split
    next hzero =>
      have hqueue : signals (a.queue ++ [.caller]) = ready ++ [.caller] := by
        rw [signals_append, hready]
        rfl
      change Waits ts turns (signals (a.queue ++ [.caller])) _
      rw [hqueue]
      refine ⟨.inr ⟨?_, ?_, ?_⟩, h.known, fun k hk s hs hremoved => ?_, h.fresh, h.nodup, h.within,
        fun k hk => ?_, h.restless⟩
      · change calls _ a.rests = _
        rw [calls_append, hturns]
        exact congrArg (· + 1) hcalls
      · rw [List.count_append, List.count_singleton]
        change _ + 0 = 0
        omega
      · have hnil : a.awaited = [] := List.eq_nil_of_length_eq_zero (by omega)
        exact hnil
      · exact (htold k hk s hs hremoved).imp_right fun htold => htold.append _
      · refine (List.mem_append.1 hk).elim (fun hk => h.whole k (List.mem_cons_of_mem _ hk)) ?_
        simp
    next hmore =>
      change Waits ts turns (signals a.queue) _
      rw [hready]
      refine ⟨.inl ⟨hturns, Nat.pos_of_ne_zero hmore, ?_, hcalls⟩, h.known, htold, h.fresh,
        h.nodup, h.within, fun k hk => h.whole k (List.mem_cons_of_mem _ hk), h.restless⟩
      change a.missing - 1 = a.awaited.length + _
      omega
  · rw [List.count_cons_self] at hnone
    cases hnone

/-- The rest of the caller is over. -/
theorem Waits.alarmed (h : Waits ts turns (.alarm :: ready) a) :
    Waits ts turns (ready ++ [.caller]) a where
  going := by
    have hcount : (ready ++ [Item.caller]).count .learn = (Item.alarm :: ready).count .learn := by
      rw [List.count_append, List.count_cons]
      rfl
    have hcalls : calls (ready ++ [Item.caller]) a.rests = calls (.alarm :: ready) a.rests := by
      rw [calls_append, calls_cons]
      rfl
    rw [hcount, hcalls]
    exact h.going
  known := h.known
  covered := fun k hk s hs hremoved =>
    (h.covered k hk s hs hremoved).imp_right fun htold => (htold.tail nofun).append _
  fresh := h.fresh
  nodup := h.nodup
  within := h.within
  whole := fun k hk => by
    rcases List.mem_append.1 hk with hk | hk
    · exact h.whole k (List.mem_cons_of_mem _ hk)
    · cases List.mem_singleton.1 hk
  restless := h.restless

/-- A rest of the caller is over, so that it goes on next. -/
theorem Waits.elapsed (h : Waits ts turns ready a) {e : Entry Item} {rests : Schedule Item}
    (hrests : a.rests.Perm (e :: rests)) (halarm : e.item = .alarm) :
    Waits ts turns (ready ++ [.alarm]) { a with rests := rests } where
  going := by
    have hcount : (ready ++ [Item.alarm]).count .learn = ready.count .learn := by
      rw [List.count_append]
      rfl
    have hcalls : calls (ready ++ [.alarm]) rests = calls ready a.rests := by
      rw [calls_append, calls, calls, hrests.countP_eq, List.countP_cons (l := rests), halarm]
      exact Nat.add_assoc ..
    rw [hcount]
    change _ ∨ calls _ rests = _ ∧ _
    rw [hcalls]
    exact h.going
  known := h.known
  covered := fun k hk s hs hremoved =>
    (h.covered k hk s hs hremoved).imp_right fun htold => htold.append _
  fresh := h.fresh
  nodup := h.nodup
  within := h.within
  whole := fun k hk => by
    rcases List.mem_append.1 hk with hk | hk
    · exact h.whole k hk
    · cases List.mem_singleton.1 hk
  restless := fun hne => by
    have hnone := h.restless hne
    rw [hrests.countP_eq, List.countP_cons] at hnone
    exact Nat.eq_zero_of_add_eq_zero_right hnone

/-- A step that changes one send and does not end it. -/
theorem kept_modify {v w : Vendor} {j : Nat} {s : Send} {f : Send → Send}
    (hw : w.sends = v.sends.modify j f) (hs : v.sends[j]? = some s)
    (hended : (f s).isEnded = s.isEnded) (hremoved : (f s).isRemoved = s.isRemoved) (k : Nat)
    (s' : Send) (hs' : v.sends[k]? = some s') : ∃ s'', w.sends[k]? = some s'' ∧
      s''.isEnded = s'.isEnded ∧ (s'.isRemoved = true → s''.isRemoved = true) := by
  rw [hw]
  rcases exists_modify j f hs' with ⟨s'', hs'', rfl | ⟨rfl, rfl⟩⟩
  · exact ⟨s'', hs'', rfl, id⟩
  · cases hs.symm.trans hs'
    exact ⟨f s, hs'', hended, fun hr => hremoved.trans hr⟩

/-- A send that ends leaves the others as they are. -/
theorem kept_finish {v : Vendor} {j : Nat} {how : Ending} (k : Nat) (s : Send)
    (hs : v.sends[k]? = some s) : ∃ s', (v.finish j how).sends[k]? = some s' ∧
      (Task.send k ≠ .send j → s'.isEnded = s.isEnded) ∧ s'.isRemoved = s.isRemoved := by
  rcases exists_modify j (fun s => { s with stage := .ended how }) hs with
    ⟨s', hs', rfl | ⟨rfl, rfl⟩⟩
  · exact ⟨s', hs', fun _ => rfl, rfl⟩
  · exact ⟨_, hs', fun hne => absurd rfl hne, rfl⟩

/-- A send goes on to its next rest. -/
theorem Waits.rested {v : Vendor} {k : Nat} {seconds : Double}
    (h : Waits ts turns (signals a.queue) a)
    (hsends : ∀ (j : Nat) (s : Send), a.vendor.sends[j]? = some s → ∃ s', v.sends[j]? = some s' ∧
      s'.isEnded = s.isEnded ∧ (s.isRemoved = true → s'.isRemoved = true)) :
    Waits ts turns
      (signals ({ a with vendor := v }.after seconds (.wake (.send k)) (.resume (.send k))).queue)
      ({ a with vendor := v }.after seconds (.wake (.send k)) (.resume (.send k))) := by
  rcases after_cases { a with vendor := v } seconds (.wake (.send k)) (.resume (.send k)) with
    hafter | ⟨due, hafter⟩ <;> rw [hafter]
  · have hqueue : signals (a.queue ++ [.resume (.send k)]) = signals a.queue :=
      signals_of_plain (by simp [isSignal]) _
    change Waits ts turns (signals (a.queue ++ [.resume (.send k)])) _
    rw [hqueue]
    exact h.frame rfl rfl rfl hsends
  · refine h.frame rfl rfl ?_ hsends
    rw [calls, calls, (Schedule.perm_insert _ _).countP_eq, List.countP_cons]
    rfl

/-- Others hand over messages. -/
theorem Waits.besides (h : Waits ts turns (signals a.queue) a) (hsim : a.simulates = true)
    (w : World σ) (launches : List Launch) :
    Waits ts turns (signals (a.beside w launches).queue) (a.beside w launches) := by
  have hcollect := collect_eq (a := { a with world := w, launches := launches }) hsim
  rcases collect_keeps { a with world := w, launches := launches } with
    ⟨-, hrests, -, hawaited, hmissing⟩
  have hqueue : signals (a.beside w launches).queue = signals a.queue := by
    rw [Agenda.beside, hcollect.2]
    exact signals_of_plain (by simp [isSignal]) _
  rw [hqueue]
  refine h.frame hmissing hawaited (congrArg (calls _) hrests) fun k s hs => ⟨s, ?_, rfl, id⟩
  rw [Agenda.beside, hcollect.1, sends_foldl_accept]
  exact (List.getElem?_append_left (List.getElem?_eq_some_iff.1 hs).1).trans hs

/-- What happens to an item that was taken keeps what is known. -/
theorem Waits.takes {l m : Loop σ} {item : Item} {es : List Event}
    (h : Waits ts turns (signals (item :: l.agenda.queue)) l.agenda)
    (htakes : Takes l item es m) : Waits ts turns (signals m.agenda.queue) m.agenda := by
  cases htakes with
  | wake t =>
      have hqueue : signals (l.agenda.queue ++ [.resume t]) = signals (.wake t :: l.agenda.queue) :=
        signals_of_plain (by simp [isSignal]) _
      change Waits ts turns (signals (l.agenda.queue ++ [.resume t])) _
      rw [hqueue]
      exact h.frame rfl rfl rfl fun k s hs => ⟨s, hs, rfl, id⟩
  | start hs hstage _ =>
      exact Waits.rested h (kept_modify rfl hs (by rw [Send.isEnded, Send.isEnded, hstage]) rfl)
  | decide hs hstage _ =>
      exact Waits.rested h (kept_modify rfl hs (by rw [Send.isEnded, Send.isEnded, hstage]) rfl)
  | report _ _ _ _ => exact h.frame rfl rfl rfl fun k s hs => ⟨s, hs, rfl, id⟩
  | giveUp hs hopen _ => exact h.left rfl rfl rfl rfl kept_finish
  | skip _ => exact h
  | launched hsim k w launches =>
      exact (Waits.besides h hsim w launches).left rfl rfl rfl rfl
        fun k s hs => ⟨s, hs, fun _ => rfl, rfl⟩
  | noteSend k => exact h.noted
  | noteLaunch hsim k w launches => exact Waits.besides h hsim w launches
  | learn => exact h.learned rfl
  | alarm =>
      have hqueue : signals (l.agenda.queue ++ [.caller]) = signals l.agenda.queue ++ [.caller] :=
        signals_append _ _
      change Waits ts turns (signals (l.agenda.queue ++ [.caller])) _
      rw [hqueue]
      exact h.alarmed.frame rfl rfl rfl fun k s hs => ⟨s, hs, rfl, id⟩

/-- A send is called off, which ends no rest of the caller. -/
theorem Waits.callOff (h : Waits ts turns (signals a.queue) a) {k : Nat} {s : Send}
    (hs : a.vendor.sends[k]? = some s) :
    Waits ts turns (signals (a.callOffSend k).queue) (a.callOffSend k) := by
  have hkept := kept_modify (w := a.vendor.callOff k) (f := fun s => { s with isCalledOff := true })
    rfl hs rfl rfl
  rw [Agenda.callOffSend]
  simp only
  split
  · exact h.frame rfl rfl rfl hkept
  · have hqueue : signals (a.queue.filter (fun item => item != .wake (.send k)) ++
        [.resume (.send k)]) = signals a.queue := by
      rw [signals_of_plain (by simp [isSignal]), signals, signals, List.filter_filter]
      refine List.filter_congr fun item _ => ?_
      cases item <;> simp [isSignal]
    change Waits ts turns (signals (a.queue.filter (fun item => item != .wake (.send k)) ++
      [.resume (.send k)])) _
    rw [hqueue]
    refine h.frame rfl rfl (congrArg (List.countP isCall (signals a.queue) + ·) ?_) hkept
    change List.countP _ (Schedule.without (.wake (.send k)) a.rests) = _
    rw [(Schedule.perm_without _ _).countP_eq, List.countP_filter]
    refine List.countP_congr fun e _ => ?_
    cases e.item <;> simp

/-- Every step keeps what is known. -/
theorem Waits.step {l m : Loop σ} {es : List Event} (hsound : l.IsSound)
    (h : Waits ts turns (signals l.agenda.queue) l.agenda) (hstep : Step l es m) :
    Waits ts turns (signals m.agenda.queue) m.agenda := by
  cases hstep with
  | take hqueue htakes =>
      rename_i item rest
      rw [hqueue] at h
      refine Waits.takes (l := ⟨{ l.agenda with queue := rest }, l.atSink⟩) ?_ htakes
      exact h.frame rfl rfl rfl fun k s hs => ⟨s, hs, rfl, id⟩
  | elapse hrests time =>
      rename_i e rests
      change Waits ts turns (signals (l.agenda.queue ++ [e.item])) _
      rcases hsound.resting e (hrests.mem_iff.2 List.mem_cons_self) with halarm | ⟨t, hwake⟩
      · rw [signals_append, halarm]
        exact (h.elapsed hrests halarm).frame rfl rfl rfl fun k s hs => ⟨s, hs, rfl, id⟩
      · rw [hwake, signals_of_plain (by simp [isSignal])]
        refine h.frame rfl rfl ?_ fun k s hs => ⟨s, hs, rfl, id⟩
        rw [calls, calls, hrests.countP_eq, List.countP_cons, hwake]
        rfl
  | delivered hs hopen _ _ =>
      exact h.left rfl rfl rfl rfl kept_finish
  | lost hs hopen _ _ f fields =>
      exact h.left rfl rfl rfl rfl kept_finish
  | callOff hs => exact h.callOff hs
  | beside hsim w launches => exact h.besides hsim w launches
  | launch k =>
      have hqueue : signals (l.agenda.queue ++ [.resume (.launch k)]) = signals l.agenda.queue :=
        signals_of_plain (by simp [isSignal]) _
      change Waits ts turns (signals (l.agenda.queue ++ [.resume (.launch k)])) _
      rw [hqueue]
      exact h.frame rfl rfl rfl fun k s hs => ⟨s, hs, rfl, id⟩

end Loop

end Outreach
