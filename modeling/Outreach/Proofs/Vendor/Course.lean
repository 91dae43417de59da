import Mathlib.Data.List.Nodup
import Outreach.Proofs.Vendor.Waiting

/-!
# Draining and Closing

The caller waits for tasks, or for some time to pass, and goes on. In between, the loop takes
its steps. To drain the vendor is to wait for the sends in flight until there are none; to
close it is to call them off and to wait for them once.

## Main definitions

* `Loop.Calm`: The caller does not wait.
* `Loop.Begins`, `Loop.Resumes`: The caller begins to wait, and goes on.
* `Loop.Goes`, `Loop.Reaches`: A course of the loop between two moments at which the caller
  does not wait, and to any moment.
* `Loop.Drains`, `Loop.Closes`: Draining and closing.

## Theorems

* `Loop.Waits.resumed`: When the caller goes on, the sends that it waited for are removed.
* `Loop.Goes.calm`, `Loop.Reaches.run`: Every course is a run of sends.
* `Loop.Drains.goes`, `Loop.Closes.goes`: Draining and closing are courses.
* `Loop.Closes.removed`: Closing leaves no send in flight that was in flight before.
-/

namespace Outreach

open Traffic (Event)

variable {σ : Type}

namespace Vendor

variable {v : Vendor} {k : Nat}

theorem mem_pending : k ∈ v.pending ↔ ∃ s, v.sends[k]? = some s ∧ s.isRemoved = false := by
  rw [pending, List.mem_map]
  refine ⟨fun ⟨⟨s, j⟩, hmem, hj⟩ => ?_, fun ⟨s, hs, hremoved⟩ => ⟨(s, k), ?_, rfl⟩⟩
  · cases hj
    rcases List.mem_filter.1 hmem with ⟨hmem, hremoved⟩
    exact ⟨s, List.mk_mem_zipIdx_iff_getElem?.1 hmem, Bool.not_eq_true' .. ▸ hremoved⟩
  · exact List.mem_filter.2 ⟨List.mk_mem_zipIdx_iff_getElem?.2 hs, by rw [hremoved]; rfl⟩

theorem nodup_pending (v : Vendor) : v.pending.Nodup := by
  have hsub : (v.sends.zipIdx.filter fun s => !s.1.isRemoved).Sublist v.sends.zipIdx :=
    List.filter_sublist
  refine (hsub.map Prod.snd).nodup ?_
  rw [List.zipIdx_map_snd]
  exact List.nodup_range'

theorem inFlight_eq_zero_iff :
    v.inFlight = 0 ↔ ∀ (k : Nat) (s : Send), v.sends[k]? = some s → s.isRemoved = true := by
  rw [inFlight, List.countP_eq_zero]
  refine ⟨fun h k s hs => ?_, fun h s hs => ?_⟩
  · simpa using h s (List.mem_of_getElem? hs)
  · rcases List.getElem?_of_mem hs with ⟨k, hk⟩
    simp [h k s hk]

theorem inFlight_of_pending (h : v.pending = []) : v.inFlight = 0 :=
  inFlight_eq_zero_iff.2 fun k s hs => Bool.not_eq_false _ ▸ fun hremoved => by
    cases h ▸ mem_pending.2 ⟨s, hs, hremoved⟩

end Vendor

namespace Loop

variable {ts : List Task} {l m n : Loop σ} {es more : List Event}

/-- The caller does not wait, and is not about to go on. -/
def Calm (l : Loop σ) : Prop := Waits [] 0 (signals l.agenda.queue) l.agenda

/-- The caller begins to wait: until tasks have come to their ends, or for some time. -/
inductive Begins (l : Loop σ) : List Task → Loop σ → Prop
  | await {ts : List Task} (hne : ts ≠ []) (hnodup : ts.Nodup)
      (hknown : ∀ k, .send k ∈ ts → k < l.agenda.vendor.sends.length) :
      Begins l ts ⟨l.agenda.waiting ts, l.atSink⟩
  | rest (seconds : Double) : Begins l [] ⟨l.agenda.after seconds .alarm .caller, l.atSink⟩

/-- Steps are taken until the caller goes on. -/
inductive Resumes (l : Loop σ) : List Event → Loop σ → Prop
  | mk {m : Loop σ} {rest : List Item} {es : List Event} (h : Steps l es m)
      (hqueue : m.agenda.queue = .caller :: rest) :
      Resumes l es ⟨{ m.agenda with queue := rest }, m.atSink⟩

theorem Resumes.before (hsteps : Steps l es m) (h : Resumes m more n) :
    Resumes l (es ++ more) n := by
  cases h with
  | mk h hqueue => exact .mk (hsteps.trans h) hqueue

theorem IsSound.begins (h : l.IsSound) (hbegins : Begins l ts m) : m.IsSound := by
  cases hbegins with
  | await hne hnodup hknown =>
      refine Sound.quiet h rfl rfl rfl rfl rfl fun k item htask => ?_
      rw [Agenda.waiting, List.mem_append]
      refine or_iff_left fun hlearn => ?_
      rcases List.mem_map.1 hlearn with ⟨_, -, rfl⟩
      cases htask
  | rest seconds =>
      rcases after_cases l.agenda seconds .alarm .caller with hafter | ⟨due, hafter⟩ <;> rw [hafter]
      · refine Sound.quiet h rfl rfl rfl rfl rfl fun k item htask => ?_
        rw [Agenda.enqueue, List.mem_append]
        refine or_iff_left fun hnew => ?_
        cases List.mem_singleton.1 hnew
        cases htask
      · have hperm := Schedule.perm_insert l.agenda.rests ⟨due, .alarm⟩
        refine Sound.frame h (fun _ => False) rfl h.collected (fun _ _ => rfl)
          (fun _ _ _ _ hmem => hmem) (fun k _ e he _ => ?_) (fun _ _ hat => hat)
          (fun _ hk => hk.elim) (fun k hk => .inl ⟨not_false, hk⟩) fun e he => ?_
        · exact hperm.mem_iff.2 (List.mem_cons_of_mem _ he)
        · rcases List.mem_cons.1 (hperm.mem_iff.1 he) with rfl | he
          · exact .inl rfl
          · exact h.resting e he

/-- Whoever begins to wait for a send that has ended finds its removal ready. -/
theorem Calm.waiting (hcalm : l.Calm) (hsound : l.IsSound) (hne : ts ≠ []) (hnodup : ts.Nodup)
    (hknown : ∀ k, .send k ∈ ts → k < l.agenda.vendor.sends.length) :
    Waits ts 1 (signals (l.agenda.waiting ts).queue) (l.agenda.waiting ts) := by
  rcases hcalm.going with ⟨hturns, -⟩ | ⟨hcalls, hlearn, -⟩
  · cases hturns
  have hqueue : signals (l.agenda.waiting ts).queue =
      signals l.agenda.queue ++ (ts.filter l.agenda.isEnded).map fun _ => .learn := by
    refine (signals_append _ _).trans (congrArg (signals l.agenda.queue ++ ·) ?_)
    refine List.filter_eq_self.2 fun item hitem => ?_
    rcases List.mem_map.1 hitem with ⟨_, -, rfl⟩
    rfl
  rw [hqueue]
  constructor
  case going =>
    refine .inl ⟨rfl, List.length_pos_of_ne_nil hne, ?_, ?_⟩
    · change ts.length = (ts.filter fun t => !l.agenda.isEnded t).length + _
      rw [List.count_append, hlearn, List.map_const', List.count_replicate_self, Nat.zero_add,
        Nat.add_comm]
      exact List.length_eq_length_filter_add l.agenda.isEnded
    · rw [calls_append, List.map_const', List.countP_replicate]
      exact hcalls
  case known => exact hknown
  case covered =>
    intro k hk s hs hremoved
    change l.agenda.vendor.sends[k]? = some s at hs
    have hall : l.agenda.isEnded (.send k) = s.isEnded := by
      rw [Agenda.isEnded, hs, Option.all_some]
    cases hended : s.isEnded with
    | true =>
        have hleaving := (hsound.placed k s hs).leaving hended hremoved
        have hmem : Task.send k ∈ ts.filter l.agenda.isEnded :=
          List.mem_filter.2 ⟨hk, hall.trans hended⟩
        refine .inr ?_
        cases hfilter : ts.filter l.agenda.isEnded with
        | nil => cases hfilter ▸ hmem
        | cons t rest => exact ⟨_, _, rfl, List.mem_filter.2 ⟨hleaving, rfl⟩⟩
    | false => exact .inl (List.mem_filter.2 ⟨hk, by rw [hall, hended]; rfl⟩)
  case fresh =>
    intro k hk
    have hopen := (List.mem_filter.1 hk).2
    change (!l.agenda.vendor.sends[k]?.all Send.isEnded) = true at hopen
    cases hs : l.agenda.vendor.sends[k]? with
    | none => rw [hs] at hopen; cases hopen
    | some s => exact ⟨s, hs, by rw [hs] at hopen; simpa using hopen⟩
  case nodup => exact hnodup.filter _
  case within => exact fun t ht => (List.mem_filter.1 ht).1
  case whole =>
    intro k hk
    refine (List.mem_append.1 hk).elim (hcalm.whole k) fun hk => ?_
    rcases List.mem_map.1 hk with ⟨_, -, hitem⟩
    cases hitem
  case restless => exact fun _ => Nat.eq_zero_of_add_eq_zero_left hcalls

/-- Whoever rests goes on once. -/
theorem Calm.resting (hcalm : l.Calm) (seconds : Double) :
    Waits [] 1 (signals (l.agenda.after seconds .alarm .caller).queue)
      (l.agenda.after seconds .alarm .caller) := by
  rcases hcalm.going with ⟨hturns, -⟩ | ⟨hcalls, hlearn, hawaited⟩
  · cases hturns
  rcases after_cases l.agenda seconds .alarm .caller with hafter | ⟨due, hafter⟩ <;> rw [hafter]
  · have hqueue : signals (l.agenda.enqueue .caller).queue =
        signals l.agenda.queue ++ [.caller] := signals_append _ _
    rw [hqueue]
    refine ⟨.inr ⟨?_, ?_, hawaited⟩, nofun, nofun, hcalm.fresh, hcalm.nodup, hcalm.within,
      fun k hk => ?_, nofun⟩
    · exact (calls_append _ _ _).trans (congrArg (· + 1) hcalls)
    · exact List.count_append.trans hlearn
    · refine (List.mem_append.1 hk).elim (hcalm.whole k) fun hk => ?_
      cases List.mem_singleton.1 hk
  · refine ⟨.inr ⟨?_, hlearn, hawaited⟩, nofun, nofun, hcalm.fresh, hcalm.nodup, hcalm.within,
      hcalm.whole, nofun⟩
    change calls _ (l.agenda.rests.insert _) = 1
    rw [calls, (Schedule.perm_insert _ _).countP_eq, List.countP_cons, ← Nat.add_assoc]
    exact congrArg (· + 1) hcalls

theorem Calm.begins (hcalm : l.Calm) (hsound : l.IsSound) (h : Begins l ts m) :
    Waits ts 1 (signals m.agenda.queue) m.agenda := by
  cases h with
  | await hne hnodup hknown => exact hcalm.waiting hsound hne hnodup hknown
  | rest seconds => exact hcalm.resting seconds

theorem Begins.traffic_eq (h : Begins l ts m) : m.traffic = l.traffic := by
  cases h with
  | await _ _ _ => rfl
  | rest seconds => simp only [traffic, vendor_after]

theorem Waits.steps {turns : Nat} (h : Waits ts turns (signals l.agenda.queue) l.agenda)
    (hsound : l.IsSound) (hsteps : Steps l es m) :
    Waits ts turns (signals m.agenda.queue) m.agenda := by
  induction hsteps with
  | refl => exact h
  | step hbefore hstep ih => exact ih.step (hsound.steps hbefore).1 hstep

/-- When the caller goes on, the sends that it waited for are removed. -/
theorem Waits.resumed {rest : List Item}
    (h : Waits ts 1 (signals l.agenda.queue) l.agenda) (hqueue : l.agenda.queue = .caller :: rest) :
    Calm ⟨{ l.agenda with queue := rest }, l.atSink⟩ ∧
      ∀ k, .send k ∈ ts → ∃ s, l.agenda.vendor.sends[k]? = some s ∧ s.isRemoved = true := by
  have hsignals : signals l.agenda.queue = .caller :: signals rest := by rw [hqueue]; rfl
  rw [hsignals] at h
  have hgoing := h.going
  rw [calls_cons, List.count_cons_of_ne (by decide)] at hgoing
  rcases hgoing with ⟨-, -, -, hcalls⟩ | ⟨hcalls, hlearn, hawaited⟩
  · cases hcalls
  refine ⟨⟨.inr ⟨Nat.succ.inj hcalls, hlearn, hawaited⟩, nofun, nofun, h.fresh, h.nodup,
    fun t ht => ?_, fun k hk => h.whole k (List.mem_cons_of_mem _ hk), nofun⟩, ?_⟩
  · cases hawaited ▸ ht
  intro k hk
  have hs := List.getElem?_eq_getElem (h.known k hk)
  refine ⟨_, hs, Bool.not_eq_false _ ▸ fun hremoved => ?_⟩
  rcases h.covered k hk _ hs hremoved with hmem | ⟨before, after, heq, -⟩
  · cases hawaited ▸ hmem
  · have hmem : Item.learn ∈ .caller :: signals rest := heq ▸ by simp
    exact List.count_eq_zero.1 hlearn ((List.mem_cons.1 hmem).resolve_left nofun)

/-- The caller waits and goes on. -/
theorem Begins.resumes (h : Begins l ts m) (hresumes : Resumes m es n) (hsound : l.IsSound)
    (hcalm : l.Calm) : n.IsSound ∧ n.Calm ∧ Traffic.Run l.traffic es n.traffic ∧
      ∀ k, .send k ∈ ts → ∃ s, n.agenda.vendor.sends[k]? = some s ∧ s.isRemoved = true := by
  cases hresumes with
  | mk hsteps hqueue =>
      have hsound' := hsound.begins h
      rcases hsound'.steps hsteps with ⟨hlast, hrun⟩
      have hresumed := ((hcalm.begins hsound h).steps hsound' hsteps).resumed hqueue
      refine ⟨?_, hresumed.1, h.traffic_eq ▸ hrun, hresumed.2⟩
      refine Sound.quiet (hlast.popped hqueue) rfl rfl rfl rfl rfl fun k item htask => ?_
      exact mem_cons_ready_iff htask nofun

/-- A course of the loop: steps, and the caller waiting now and then. -/
inductive Goes : Loop σ → List Event → Loop σ → Prop
  | refl (l : Loop σ) : Goes l [] l
  | step {l m n : Loop σ} {es more : List Event} (h : Goes l es m) (hstep : Step m more n) :
      Goes l (es ++ more) n
  | wait {l m m' n : Loop σ} {es more : List Event} {ts : List Task} (h : Goes l es m)
      (hbegins : Begins m ts m') (hresumes : Resumes m' more n) : Goes l (es ++ more) n

/-- A course of the loop up to any moment, at which the caller may wait. -/
inductive Reaches (l : Loop σ) : List Event → Loop σ → Prop
  | calm {m : Loop σ} {es : List Event} (h : Goes l es m) : Reaches l es m
  | waiting {m m' n : Loop σ} {es more : List Event} {ts : List Task} (h : Goes l es m)
      (hbegins : Begins m ts m') (hsteps : Steps m' more n) : Reaches l (es ++ more) n

theorem Goes.steps (h : Goes l es m) (hsteps : Steps m more n) : Goes l (es ++ more) n := by
  induction hsteps with
  | refl => exact (List.append_nil es).symm ▸ h
  | step _ hstep ih => exact List.append_assoc .. ▸ ih.step hstep

theorem Goes.trans (h : Goes l es m) (h' : Goes m more n) : Goes l (es ++ more) n := by
  induction h' with
  | refl => exact (List.append_nil es).symm ▸ h
  | step _ hstep ih => exact List.append_assoc .. ▸ ih.step hstep
  | wait _ hbegins hresumes ih => exact List.append_assoc .. ▸ ih.wait hbegins hresumes

/-- Every course keeps the loop sound and the caller calm, and is a run of sends. -/
theorem Goes.calm (h : Goes l es m) (hsound : l.IsSound) (hcalm : l.Calm) :
    m.IsSound ∧ m.Calm ∧ Traffic.Run l.traffic es m.traffic := by
  induction h with
  | refl => exact ⟨hsound, hcalm, .refl _⟩
  | step _ hstep ih =>
      rcases ih with ⟨hsound', hcalm', hrun⟩
      exact ⟨hsound'.step hstep, hcalm'.step hsound' hstep,
        hrun.trans (hsound'.step_traffic hstep)⟩
  | wait _ hbegins hresumes ih =>
      rcases ih with ⟨hsound', hcalm', hrun⟩
      rcases hbegins.resumes hresumes hsound' hcalm' with ⟨hsound'', hcalm'', hmore, -⟩
      exact ⟨hsound'', hcalm'', hrun.trans hmore⟩

theorem Reaches.run (h : Reaches l es m) (hsound : l.IsSound) (hcalm : l.Calm) :
    Traffic.Run l.traffic es m.traffic := by
  cases h with
  | calm h => exact (h.calm hsound hcalm).2.2
  | waiting h hbegins hsteps =>
      rcases h.calm hsound hcalm with ⟨hsound', -, hrun⟩
      exact hrun.trans (hbegins.traffic_eq ▸ ((hsound'.begins hbegins).steps hsteps).2)

/-- The sends in flight are waited for, in any order, until there are none. -/
inductive Drains : Loop σ → List Event → Loop σ → Prop
  | done {l : Loop σ} (h : l.agenda.vendor.inFlight = 0) : Drains l [] l
  | round {l m n : Loop σ} {ks : List Nat} {es more : List Event}
      (h : l.agenda.vendor.inFlight ≠ 0) (hks : ks.Perm l.agenda.vendor.pending)
      (hresumes : Resumes ⟨l.agenda.waiting (ks.map .send), l.atSink⟩ es m)
      (hmore : Drains m more n) : Drains l (es ++ more) n

/-- The sends in flight are called off, in any order, and then waited for. Before closing
    comes to its end, other steps may be taken. -/
inductive Closes (l : Loop σ) : List Event → Loop σ → Prop
  | idle {m : Loop σ} {es : List Event} (h : l.agenda.vendor.pending = []) (hsteps : Steps l es m) :
      Closes l es m
  | callOff {m n : Loop σ} {ks : List Nat} {es more : List Event} (hne : ks ≠ [])
      (hks : ks.Perm l.agenda.vendor.pending)
      (hresumes : Resumes
        ⟨(ks.foldl Agenda.callOffSend l.agenda).waiting (ks.map .send), l.atSink⟩ es m)
      (hsteps : Steps m more n) : Closes l (ks.map .calledOff ++ (es ++ more)) n

/-- Sends in flight can be waited for. -/
theorem begins_of_perm {ks : List Nat} (hne : ks ≠ []) (hks : ks.Perm l.agenda.vendor.pending)
    (hlength : m.agenda.vendor.sends.length = l.agenda.vendor.sends.length) :
    Begins m (ks.map .send) ⟨m.agenda.waiting (ks.map .send), m.atSink⟩ := by
  refine .await (by simpa using hne) ?_ fun k hk => ?_
  · refine List.Nodup.map (fun _ _ heq => Task.send.inj heq) ?_
    exact hks.nodup_iff.2 (Vendor.nodup_pending _)
  · rcases List.mem_map.1 hk with ⟨_, hmem, heq⟩
    cases heq
    rcases Vendor.mem_pending.1 (hks.mem_iff.1 hmem) with ⟨s, hs, -⟩
    exact hlength ▸ (List.getElem?_eq_some_iff.1 hs).1

/-- Draining comes to its end when no send is in flight. -/
theorem Drains.goes (h : Drains l es m) : Goes l es m ∧ m.agenda.vendor.inFlight = 0 := by
  induction h with
  | done h => exact ⟨.refl _, h⟩
  | round h hks hresumes _ ih =>
      have hne := mt (fun hnil =>
        Vendor.inFlight_of_pending (hks.symm.trans (.of_eq hnil)).eq_nil) h
      exact ⟨(Goes.wait (.refl _) (begins_of_perm hne hks rfl) hresumes).trans ih.1, ih.2⟩

theorem length_foldl_callOff (ks : List Nat) : ∀ a : Agenda σ,
    (ks.foldl Agenda.callOffSend a).vendor.sends.length = a.vendor.sends.length := by
  induction ks with
  | nil => exact fun a => rfl
  | cons k rest ih =>
      intro a
      rw [List.foldl_cons, ih, vendor_callOffSend]
      exact List.length_modify ..

/-- A send that somebody has called off, or does now. -/
theorem isCalledOff_foldl_callOff {k : Nat} (ks : List Nat) : ∀ (a : Agenda σ) (s : Send),
    a.vendor.sends[k]? = some s → s.isCalledOff = true ∨ k ∈ ks →
    ∃ s', (ks.foldl Agenda.callOffSend a).vendor.sends[k]? = some s' ∧ s'.isCalledOff = true := by
  induction ks with
  | nil => exact fun a s hs hcalled => ⟨s, hs, hcalled.resolve_right List.not_mem_nil⟩
  | cons j rest ih =>
      intro a s hs hcalled
      have hvendor : (a.callOffSend j).vendor.sends =
          a.vendor.sends.modify j fun s => { s with isCalledOff := true } := by
        rw [vendor_callOffSend]
        rfl
      by_cases hjk : j = k
      · subst hjk
        refine ih _ { s with isCalledOff := true } ?_ (.inl rfl)
        rw [hvendor, getElem?_modify_self _ hs]
      · refine ih _ s ?_ (hcalled.imp_right fun hk => ?_)
        · rw [hvendor, List.getElem?_modify_ne _ _ hjk, hs]
        · exact (List.mem_cons.1 hk).resolve_left (Ne.symm hjk)

theorem steps_foldl_callOff (ks : List Nat) : ∀ l : Loop σ,
    (∀ k ∈ ks, k < l.agenda.vendor.sends.length) →
    Steps l (ks.map .calledOff) ⟨ks.foldl Agenda.callOffSend l.agenda, l.atSink⟩ := by
  induction ks with
  | nil => exact fun l _ => .refl l
  | cons k rest ih =>
      intro l hks
      have hs := List.getElem?_eq_getElem (hks k List.mem_cons_self)
      refine (Steps.single (.callOff hs)).trans (ih ⟨l.agenda.callOffSend k, l.atSink⟩ ?_)
      exact fun j hj => length_foldl_callOff [k] l.agenda ▸ hks j (List.mem_cons_of_mem k hj)

theorem Closes.goes (h : Closes l es m) : Goes l es m := by
  cases h with
  | idle _ hsteps => exact (Goes.refl l).steps hsteps
  | callOff hne hks hresumes hsteps =>
      rename_i ks _ _
      have hknown : ∀ k ∈ ks, k < l.agenda.vendor.sends.length := fun k hk => by
        rcases Vendor.mem_pending.1 (hks.mem_iff.1 hk) with ⟨s, hs, -⟩
        exact (List.getElem?_eq_some_iff.1 hs).1
      have hbegins := begins_of_perm
        (m := ⟨ks.foldl Agenda.callOffSend l.agenda, l.atSink⟩) hne hks
        (length_foldl_callOff ks l.agenda)
      have hcalled := (Goes.refl l).steps (steps_foldl_callOff ks l hknown)
      exact hcalled.trans ((Goes.wait (.refl _) hbegins hresumes).steps hsteps)

/-- Closing removes every send that was handed over before. -/
theorem Closes.removed (h : Closes l es m) (hsound : l.IsSound) (hcalm : l.Calm) {k : Nat}
    {s : Send} (hs : l.agenda.vendor.sends[k]? = some s) :
    ∃ s', m.agenda.vendor.sends[k]? = some s' ∧ s'.isRemoved = true := by
  cases hremoved : s.isRemoved with
  | true =>
      rcases (h.goes.calm hsound hcalm).2.2.keeps hs with ⟨s', hs', -, hkept⟩
      exact ⟨s', hs', hkept hremoved⟩
  | false =>
      have hpending := Vendor.mem_pending.2 ⟨s, hs, hremoved⟩
      cases h with
      | idle hnone _ => cases hnone ▸ hpending
      | callOff hne hks hresumes hsteps =>
          rename_i ks _ _
          have hcalled := (Goes.refl l).steps (steps_foldl_callOff ks l fun j hj => by
            rcases Vendor.mem_pending.1 (hks.mem_iff.1 hj) with ⟨s', hs', -⟩
            exact (List.getElem?_eq_some_iff.1 hs').1)
          rcases hcalled.calm hsound hcalm with ⟨hsound', hcalm', -⟩
          have hbegins := begins_of_perm
            (m := ⟨ks.foldl Agenda.callOffSend l.agenda, l.atSink⟩) hne hks
            (length_foldl_callOff ks l.agenda)
          rcases hbegins.resumes hresumes hsound' hcalm' with ⟨hsound'', -, -, hremoved'⟩
          rcases hremoved' k (List.mem_map.2 ⟨k, hks.mem_iff.2 hpending, rfl⟩) with
            ⟨s', hs', hr⟩
          rcases (hsound''.steps hsteps).2.keeps hs' with ⟨s'', hs'', -, hkept⟩
          exact ⟨s'', hs'', hkept hr⟩

end Loop

end Outreach
