import Outreach.Log.Record
import Outreach.Proofs.Json.Named
import Outreach.Proofs.Rule.Wire

/-!
# Contexts Nest

Tasks enter contexts, create records, leave contexts and create other tasks, interleaved in any
order. As long as each task leaves the contexts that it entered from the inside out, and no
context is entered while it is open, the contexts of a task are a stack: a record carries just
the fields of the contexts that are open in its task or were so where the task was created, the
innermost counting where a name repeats. What the tasks share, the contexts with their tokens
and the one merged list of fields for each task, is related to these stacks by an invariant.

A field may have any name but one: the one under which all attributes of a record are replaced
at once.

## Main definitions

* `Log.Move`, `Contexts.step`, `Contexts.run`: What tasks do.
* `Log.Nest`, `Nest.Step`, `Nest.Steps`: The stacks of the tasks.
* `inForceOf`, `field?`: The fields of some contexts.
* `Contexts.Agrees`: The invariant.

## Theorems

* `value?_inForceOf`: The innermost context with a field counts.
* `Agrees.enter`, `Agrees.leave`, `Agrees.spawn`: One step keeps the invariant.
* `Agrees.run`: A run keeps it and does not fail.
* `Nest.Steps.kept_below`: What is below an open context stays.
* `Entry.attributes_of_record`, `Entry.carries_of_record`: The attributes of a record.
* `contexts_nest`: What the contexts of all tasks amount to.
* `contexts_replaced`: What one name does.
-/

namespace Outreach

namespace Log

/-! ## Moves of tasks -/

/-- A call that creates a record. -/
structure Entry where
  created : Double
  level : Int
  logger : Text
  template : Json
  args : List Json
  exception : Option Text
  further : Fields

namespace Entry

/-- The record of a call, apart from the fields of contexts and of its own. -/
def own (e : Entry) : Record :=
  .ofCall e.created e.level e.logger e.template e.args e.exception

/-- The record of a call in a context. -/
def record (e : Entry) (context : Named Value) : Except Fault Record :=
  Record.create e.created e.level e.logger e.template e.args e.exception context e.further

end Entry

/-- What a task does. -/
inductive Move
  | enter (task context : Nat)
  /-- A context is left, because of a fault or normally. -/
  | leave (task context : Nat) (fault : Option Fault)
  | record (task : Nat) (entry : Entry)
  | spawn (task child : Nat)

namespace Contexts

/-- A move of a task. -/
def step (s : Contexts) : Move → Except Fault Contexts
  | .enter task context => .ok (s.enter task context)
  | .leave task context _ => s.leave task context
  | .record _ _ => .ok s
  | .spawn task child => .ok (s.spawn task child)

/-- Moves of tasks, one after the other. -/
def run (s : Contexts) (moves : List Move) : Except Fault Contexts :=
  moves.foldlM step s

/-- The record of a call in a task. -/
def record (s : Contexts) (task : Nat) (e : Entry) : Except Fault Record :=
  e.record (s.carried task)

theorem run_cons (s : Contexts) (m : Move) (moves : List Move) :
    s.run (m :: moves) = s.step m >>= fun s' => s'.run moves := List.foldlM_cons

end Contexts

/-! ## Stacks of contexts -/

/-- The contexts that a task has entered and not left and those that it has inherited, both
    innermost first. -/
structure Nest where
  opened : List Nat
  inherited : List Nat

namespace Nest

/-- All contexts whose fields are in force, innermost first. -/
def all (n : Nest) : List Nat := n.opened ++ n.inherited

/-- The stacks of the tasks that there are. -/
abbrev Tasks := Nat → Option Nest

/-- A single task, which has entered nothing. -/
def single (task : Nat) : Tasks := fun t => if t = task then some ⟨[], []⟩ else none

/-- A move that keeps the contexts nested: a context that is entered is open nowhere, and one that
    is left is the innermost of its task. -/
inductive Step (tasks : Tasks) : Move → Tasks → Prop
  | enter {t c : Nat} {n : Nest} (ht : tasks t = some n)
      (hc : ∀ u m, tasks u = some m → c ∉ m.opened) :
      Step tasks (.enter t c) (Contexts.set tasks t (some ⟨c :: n.opened, n.inherited⟩))
  | leave {t c : Nat} {opened inherited : List Nat} (ht : tasks t = some ⟨c :: opened, inherited⟩)
      (fault : Option Fault) :
      Step tasks (.leave t c fault) (Contexts.set tasks t (some ⟨opened, inherited⟩))
  | record {t : Nat} {n : Nest} (ht : tasks t = some n) (e : Entry) :
      Step tasks (.record t e) tasks
  | spawn {t u : Nat} {n : Nest} (ht : tasks t = some n) (hu : tasks u = none) :
      Step tasks (.spawn t u) (Contexts.set tasks u (some ⟨[], n.all⟩))

/-- Moves that keep the contexts nested. -/
inductive Steps : Tasks → List Move → Tasks → Prop
  | nil (tasks : Tasks) : Steps tasks [] tasks
  | cons {tasks next last : Tasks} {m : Move} {moves : List Move} (hstep : Step tasks m next)
      (hrest : Steps next moves last) : Steps tasks (m :: moves) last

theorem steps_append {tasks last : Tasks} {moves more : List Move} :
    Steps tasks (moves ++ more) last ↔ ∃ next, Steps tasks moves next ∧ Steps next more last := by
  induction moves generalizing tasks with
  | nil =>
      refine ⟨fun h => ⟨tasks, .nil tasks, h⟩, ?_⟩
      rintro ⟨next, hnil, h⟩
      cases hnil
      exact h
  | cons m rest ih =>
      constructor
      · intro h
        cases h with
        | cons hstep hrest =>
            rcases ih.1 hrest with ⟨next, hmoves, hmore⟩
            exact ⟨next, .cons hstep hmoves, hmore⟩
      · rintro ⟨next, hmoves, hmore⟩
        cases hmoves with
        | cons hstep hrest => exact .cons hstep (ih.2 ⟨next, hrest, hmore⟩)

end Nest

/-! ## Fields in force -/

/-- The fields of some contexts put over each other, innermost first. -/
def inForceOf (fields : Nat → Named Value) : List Nat → Named Value
  | [] => []
  | c :: rest => Named.merge (inForceOf fields rest) (fields c)

/-- The field of the innermost of some contexts that has one with a name. -/
def field? (fields : Nat → Named Value) (cs : List Nat) (name : Text) : Option Value :=
  cs.findSome? fun c => Named.value? (fields c) name

section

variable {fields : Nat → Named Value} (hnames : ∀ c, (Named.names (fields c)).Nodup)

include hnames in
/-- Of the fields in force, the innermost with a name counts. -/
theorem value?_inForceOf (cs : List Nat) (name : Text) :
    Named.value? (inForceOf fields cs) name = field? fields cs name := by
  induction cs with
  | nil => rfl
  | cons c rest ih =>
      rw [inForceOf, Named.value?_merge (hnames c), ih, field?, field?, List.findSome?_cons]
      cases Named.value? (fields c) name with
      | none => rw [Option.none_or]
      | some v => rw [Option.some_or]

theorem nodup_names_inForceOf (cs : List Nat) : (Named.names (inForceOf fields cs)).Nodup := by
  induction cs with
  | nil => exact List.nodup_nil
  | cons c rest ih => exact Named.nodup_merge ih

end

/-! ## The invariant -/

namespace Contexts

variable {fields : Nat → Named Value} {s : Contexts} {tasks : Nest.Tasks}

theorem set_same {α : Type} (f : Nat → α) (n : Nat) (a : α) : set f n a n = a := if_pos rfl

theorem set_other {α : Type} (f : Nat → α) {n m : Nat} (a : α) (h : m ≠ n) :
    set f n a m = f m := if_neg h

/-- A task is the one that moved or stands as before. -/
theorem set_eq_some {f : Nest.Tasks} {t u : Nat} {n m : Nest}
    (h : set f t (some n) u = some m) : u = t ∧ m = n ∨ u ≠ t ∧ f u = some m := by
  by_cases hu : u = t
  · rw [hu, set_same, Option.some.injEq] at h
    exact .inl ⟨hu, h.symm⟩
  · rw [set_other _ _ hu] at h
    exact .inr ⟨hu, h⟩

/-- The contexts are as the stacks of the tasks say. -/
structure Agrees (fields : Nat → Named Value) (s : Contexts) (tasks : Nest.Tasks) : Prop where
  /-- Contexts keep their fields. -/
  fields_eq : ∀ c, (s.contexts c).fields = fields c
  /-- In force are the fields of the stack. -/
  inForce_eq : ∀ {t n}, tasks t = some n → s.inForce t = inForceOf fields n.all
  /-- The token of an open context holds the fields of what is below it. -/
  token_eq : ∀ {t n above c below}, tasks t = some n → n.opened = above ++ c :: below →
    (s.contexts c).token = some ⟨t, inForceOf fields (below ++ n.inherited)⟩
  /-- No context is open twice in a task. -/
  distinct : ∀ {t n}, tasks t = some n → n.opened.Nodup
  /-- Records are given fields from the first context on. -/
  installed : s.installed = true ∨ ∀ {t n}, tasks t = some n → n.all = []

/-- No context is open in two tasks, for its token names the task. -/
theorem Agrees.apart (h : s.Agrees fields tasks) {t u c : Nat} {n m : Nest}
    (ht : tasks t = some n) (hu : tasks u = some m) (hn : c ∈ n.opened) (hm : c ∈ m.opened) :
    t = u := by
  rcases List.append_of_mem hn with ⟨above, below, hopened⟩
  rcases List.append_of_mem hm with ⟨above', below', hopened'⟩
  have htoken := (h.token_eq ht hopened).symm.trans (h.token_eq hu hopened')
  exact congrArg Token.task (Option.some.inj htoken)

theorem eq_of_single {task t : Nat} {n : Nest} (h : Nest.single task t = some n) :
    n = ⟨[], []⟩ := by
  rcases set_eq_some (f := fun _ => none) h with ⟨-, rfl⟩ | ⟨-, h⟩
  · rfl
  · cases h

theorem agrees_start (contexts : Nat → Context) (task : Nat) :
    (start contexts).Agrees (fun c => (contexts c).fields) (Nest.single task) := by
  refine ⟨fun _ => rfl, fun h => ?_, fun h hopened => ?_, fun h => ?_, .inr fun h => ?_⟩
  · rw [eq_of_single h]
    rfl
  · rw [eq_of_single h] at hopened
    exact absurd hopened.symm (List.append_ne_nil_of_right_ne_nil _ (List.cons_ne_nil _ _))
  · rw [eq_of_single h]
    exact List.nodup_nil
  · rw [eq_of_single h]
    rfl

/-- A context that is entered is open nowhere, so no token of an open one is lost. -/
theorem Agrees.enter (h : s.Agrees fields tasks) {t c : Nat} {n : Nest} (ht : tasks t = some n)
    (hc : ∀ u m, tasks u = some m → c ∉ m.opened) :
    (s.enter t c).Agrees fields (set tasks t (some ⟨c :: n.opened, n.inherited⟩)) := by
  have hother : ∀ {u m above c' below}, tasks u = some m → m.opened = above ++ c' :: below →
      ((s.enter t c).contexts c').token = (s.contexts c').token := by
    intro u m above c' below hu hopened
    have hne : c' ≠ c := fun heq => hc u m hu
      (hopened ▸ List.mem_append_right above (heq ▸ List.mem_cons_self))
    exact congrArg Context.token (set_other _ _ hne)
  refine ⟨fun c' => ?_, fun {u m} hu => ?_, fun {u m above c' below} hu hopened => ?_,
    fun {u m} hu => ?_, .inl rfl⟩
  · by_cases hc' : c' = c
    · rw [hc']
      exact (congrArg Context.fields (set_same _ _ _)).trans (h.fields_eq c)
    · exact (congrArg Context.fields (set_other _ _ hc')).trans (h.fields_eq c')
  · rcases set_eq_some hu with ⟨rfl, rfl⟩ | ⟨hne, hu'⟩
    · refine (set_same _ _ _).trans ?_
      rw [h.inForce_eq ht, h.fields_eq]
      rfl
    · exact (set_other _ _ hne).trans (h.inForce_eq hu')
  · rcases set_eq_some hu with ⟨rfl, rfl⟩ | ⟨-, hu'⟩
    · cases above with
      | nil =>
          -- The context that was entered: its token holds what was in force.
          cases hopened
          refine (congrArg Context.token (set_same _ _ _)).trans ?_
          rw [h.inForce_eq ht]
          rfl
      | cons a above =>
          have hbelow : n.opened = above ++ c' :: below := (List.cons.inj hopened).2
          exact (hother ht hbelow).trans (h.token_eq (n := n) ht hbelow)
    · exact (hother hu' hopened).trans (h.token_eq hu' hopened)
  · rcases set_eq_some hu with ⟨-, rfl⟩ | ⟨-, hu'⟩
    · exact List.nodup_cons.2 ⟨hc t n ht, h.distinct ht⟩
    · exact h.distinct hu'

/-- The innermost context of a task can be left there. -/
theorem Agrees.leave (h : s.Agrees fields tasks) {t c : Nat} {opened inherited : List Nat}
    (ht : tasks t = some ⟨c :: opened, inherited⟩) :
    ∃ s', s.leave t c = .ok s' ∧
      s'.Agrees fields (set tasks t (some ⟨opened, inherited⟩)) := by
  have htoken : (s.contexts c).token = some ⟨t, inForceOf fields (opened ++ inherited)⟩ :=
    h.token_eq ht (List.nil_append _).symm
  rcases List.nodup_cons.1 (h.distinct ht) with ⟨hc, hopened⟩
  refine ⟨_, by rw [Contexts.leave, htoken]; exact if_pos rfl, fun c' => ?_, fun {u m} hu => ?_,
    fun {u m above c' below} hu hbelow => ?_, fun {u m} hu => ?_, ?_⟩
  · by_cases hc' : c' = c
    · rw [hc']
      exact (congrArg Context.fields (set_same _ _ _)).trans (h.fields_eq c)
    · exact (congrArg Context.fields (set_other _ _ hc')).trans (h.fields_eq c')
  · rcases set_eq_some hu with ⟨rfl, rfl⟩ | ⟨hne, hu'⟩
    · exact set_same _ _ _
    · exact (set_other _ _ hne).trans (h.inForce_eq hu')
  · have hmem : c' ∈ m.opened := hbelow ▸ List.mem_append_right above List.mem_cons_self
    rcases set_eq_some hu with ⟨rfl, rfl⟩ | ⟨hne, hu'⟩
    · have hne : c' ≠ c := fun heq => hc (heq ▸ hmem)
      have hbelow' : (Nest.mk (c :: opened) inherited).opened = (c :: above) ++ c' :: below :=
        congrArg (c :: ·) hbelow
      have htoken' := h.token_eq ht hbelow'
      exact (congrArg Context.token (set_other _ _ hne)).trans htoken'
    · -- A context that is open in another task is not the one that is left.
      have hne' : c' ≠ c := fun heq =>
        hne (h.apart hu' ht hmem (heq ▸ List.mem_cons_self))
      exact (congrArg Context.token (set_other _ _ hne')).trans (h.token_eq hu' hbelow)
  · rcases set_eq_some hu with ⟨-, rfl⟩ | ⟨-, hu'⟩
    · exact hopened
    · exact h.distinct hu'
  · rcases h.installed with hinstalled | hempty
    · exact .inl hinstalled
    · cases hempty ht

/-- A new task inherits all contexts of the task that creates it. -/
theorem Agrees.spawn (h : s.Agrees fields tasks) {t u : Nat} {n : Nest} (ht : tasks t = some n) :
    (s.spawn t u).Agrees fields (set tasks u (some ⟨[], n.all⟩)) := by
  refine ⟨h.fields_eq, fun {w m} hw => ?_, fun {w m above c below} hw hopened => ?_,
    fun {w m} hw => ?_, h.installed.imp_right fun hempty w m hw => ?_⟩
  · rcases set_eq_some hw with ⟨rfl, rfl⟩ | ⟨hne, hw'⟩
    · exact (set_same _ _ _).trans (h.inForce_eq (n := n) ht)
    · exact (set_other _ _ hne).trans (h.inForce_eq hw')
  · rcases set_eq_some hw with ⟨-, rfl⟩ | ⟨-, hw'⟩
    · exact absurd hopened.symm (List.append_ne_nil_of_right_ne_nil _ (List.cons_ne_nil _ _))
    · exact h.token_eq hw' hopened
  · rcases set_eq_some hw with ⟨-, rfl⟩ | ⟨-, hw'⟩
    · exact List.nodup_nil
    · exact h.distinct hw'
  · rcases set_eq_some hw with ⟨-, rfl⟩ | ⟨-, hw'⟩
    · exact hempty (n := n) ht
    · exact hempty hw'

/-- A move that keeps the contexts nested does not fail. -/
theorem Agrees.step (h : s.Agrees fields tasks) {m : Move} {next : Nest.Tasks}
    (hstep : Nest.Step tasks m next) : ∃ s', s.step m = .ok s' ∧ s'.Agrees fields next := by
  cases hstep with
  | enter ht hc => exact ⟨_, rfl, h.enter ht hc⟩
  | leave ht fault => exact h.leave ht
  | record ht e => exact ⟨s, rfl, h⟩
  | spawn ht hu => exact ⟨_, rfl, h.spawn ht⟩

/-- Neither do moves one after the other. -/
theorem Agrees.run (h : s.Agrees fields tasks) {moves : List Move} {last : Nest.Tasks}
    (hsteps : Nest.Steps tasks moves last) :
    ∃ s', s.run moves = .ok s' ∧ s'.Agrees fields last := by
  -- By induction on the moves: each of them keeps the invariant, on which the next one rests.
  induction hsteps generalizing s with
  | nil tasks => exact ⟨s, rfl, h⟩
  | cons hstep hrest ih =>
      rcases h.step hstep with ⟨s', hs', h'⟩
      rcases ih h' with ⟨s'', hs'', h''⟩
      refine ⟨s'', ?_, h''⟩
      rw [run_cons, hs']
      exact hs''

/-- Records are given just the fields of the stack of their task. -/
theorem Agrees.carried_eq (h : s.Agrees fields tasks) {t : Nat} {n : Nest}
    (ht : tasks t = some n) : s.carried t = inForceOf fields n.all := by
  rw [carried]
  rcases h.installed with hinstalled | hempty
  · rw [if_pos hinstalled, h.inForce_eq ht]
  · rw [h.inForce_eq ht, hempty ht]
    exact ite_self _

end Contexts

/-! ## What moves leave alone -/

/-- The task whose contexts a move may change. -/
def Move.subject : Move → Nat
  | .enter t _ => t
  | .leave t _ _ => t
  | .record t _ => t
  | .spawn _ u => u

namespace Nest

open Contexts (set_same set_other)

/-- A move leaves all other tasks alone. -/
theorem Step.other {tasks next : Tasks} {m : Move} (h : Step tasks m next) {t : Nat}
    (ht : m.subject ≠ t) : next t = tasks t := by
  cases h with
  | enter _ _ => exact set_other _ _ ht.symm
  | leave _ fault => exact set_other _ _ ht.symm
  | record _ e => rfl
  | spawn _ _ => exact set_other _ _ ht.symm

theorem Steps.other {tasks last : Tasks} {moves : List Move} (h : Steps tasks moves last) {t : Nat}
    (ht : ∀ m ∈ moves, m.subject ≠ t) : last t = tasks t := by
  induction h with
  | nil tasks => rfl
  | cons hstep _ ih =>
      rw [List.forall_mem_cons] at ht
      rw [ih ht.2, hstep.other ht.1]

/-- What is below an open context stays until that is left. -/
theorem Step.kept_below {tasks next : Tasks} {m : Move} (h : Step tasks m next) {t c : Nat}
    {n : Nest} {above below : List Nat} (ht : tasks t = some n)
    (hopened : n.opened = above ++ c :: below) (hm : ∀ fault, m ≠ .leave t c fault) :
    ∃ above', next t = some ⟨above' ++ c :: below, n.inherited⟩ := by
  have hn : n = ⟨above ++ c :: below, n.inherited⟩ := by rw [← hopened]
  by_cases hsubject : m.subject = t
  · -- Only a move of the task itself can touch its stack, and only at the top.
    cases h with
    | @enter u c' n' hu hc =>
        cases (hsubject : u = t)
        cases hu.symm.trans ht
        exact ⟨c' :: above, (set_same _ _ _).trans (by rw [hopened]; rfl)⟩
    | @leave u c' opened inherited hu fault =>
        cases (hsubject : u = t)
        cases hu.symm.trans ht
        cases above with
        | nil =>
            cases (List.cons.inj hopened).1
            exact absurd rfl (hm fault)
        | cons a above =>
            refine ⟨above, (set_same _ _ _).trans ?_⟩
            rw [(List.cons.inj hopened).2]
            rfl
    | record hu e => exact ⟨above, ht.trans (congrArg some hn)⟩
    | @spawn u w n' hu hw =>
        cases (hsubject : w = t)
        cases hw.symm.trans ht
  · exact ⟨above, (h.other hsubject).trans (ht.trans (congrArg some hn))⟩

theorem Steps.kept_below {tasks last : Tasks} {moves : List Move} (h : Steps tasks moves last)
    {t c : Nat} {n : Nest} {above below : List Nat} (ht : tasks t = some n)
    (hopened : n.opened = above ++ c :: below) (hmoves : ∀ fault, .leave t c fault ∉ moves) :
    ∃ above', last t = some ⟨above' ++ c :: below, n.inherited⟩ := by
  induction h generalizing n above with
  | nil tasks => exact ⟨above, ht.trans (by rw [← hopened])⟩
  | cons hstep _ ih =>
      simp only [List.mem_cons, not_or] at hmoves
      rcases hstep.kept_below ht hopened fun fault h => (hmoves fault).1 h.symm with ⟨above', hnext⟩
      exact ih (n := ⟨above' ++ c :: below, n.inherited⟩) hnext rfl fun fault => (hmoves fault).2

end Nest

/-! ## Records -/

namespace Record

variable {r r' : Record} {name : Text} {v : Value}

/-- Whatever is set on a record becomes an attribute, unless it replaces all of them. -/
theorem put_of_set (hname : name ≠ allName) (h : r.set name v = .ok r') : r' = r.put name v := by
  unfold set at h
  rw [if_neg hname] at h
  by_cases hclass : name = ("__class__" : Text)
  · rw [if_pos hclass] at h
    cases h
  · rw [if_neg hclass] at h
    by_cases hweak : name = ("__weakref__" : Text)
    · rw [if_pos hweak] at h
      cases h
    · rw [if_neg hweak] at h
      exact (Except.ok.inj h).symm

theorem set_eq_put (hall : name ≠ allName) (hclass : name ≠ ("__class__" : Text))
    (hweak : name ≠ ("__weakref__" : Text)) : r.set name v = .ok (r.put name v) := by
  unfold set
  rw [if_neg hall, if_neg hclass, if_neg hweak]

theorem put_of_setFurther (h : r.setFurther name v = .ok r') : r' = r.put name v := by
  rw [setFurther] at h
  split at h
  · cases h
  · exact (Except.ok.inj h).symm

theorem has_eq_isSome : r.has name = (Named.value? r.attributes name).isSome := by
  rw [has, Bool.eq_iff_iff, Named.any_iff_mem_names, Named.isSome_value?_iff]

theorem setFurther_eq_put (hmessage : name ≠ ("message" : Text)) (htime : name ≠ ("asctime" : Text))
    (hnew : Named.value? r.attributes name = none) : r.setFurther name v = .ok (r.put name v) := by
  rw [setFurther, has_eq_isSome, hnew, decide_eq_false hmessage, decide_eq_false htime]
  rfl

/-- Fields that become attributes one by one are put over the attributes. -/
theorem attributes_of_foldlM {α : Type} (value : α → Value)
    {put : Record → Text × α → Except Fault Record} {fields : Named α}
    (hput : ∀ r r', ∀ f ∈ fields, put r f = .ok r' → r' = r.put f.1 (value f.2))
    (h : fields.foldlM put r = .ok r') :
    r'.attributes = Named.merge r.attributes (fields.map fun f => (f.1, .value (value f.2))) := by
  induction fields generalizing r with
  | nil =>
      cases h
      rfl
  | cons f rest ih =>
      rw [List.foldlM_cons] at h
      rcases bind_eq_ok_iff.1 h with ⟨next, hnext, hrest⟩
      rw [ih (fun r r' f hf => hput r r' f (List.mem_cons_of_mem _ hf)) hrest,
        hput r next f List.mem_cons_self hnext]
      rfl

end Record

namespace Entry

variable {e : Entry} {context : Named Value}

/-- A record carries just some fields: apart from them and the fields of its call, it has the
    attributes of every record. -/
def Carries (e : Entry) (r : Record) (field? : Text → Option Value) : Prop :=
  ∀ name, Named.value? r.attributes name =
    ((((Named.value? e.further name).map FieldValue.value).or (field? name)).map
      AttributeValue.value).or (Named.value? e.own.attributes name)

/-- A record of a call can be created: no field changes what a record is, and no field of the call
    repeats the name of an attribute. -/
structure Fits (e : Entry) (field? : Text → Option Value) : Prop where
  kind : field? "__class__" = none ∧ field? "__weakref__" = none
  further : ∀ f ∈ e.further, f.1 ≠ ("message" : Text) ∧ f.1 ≠ ("asctime" : Text) ∧
    Named.value? e.own.attributes f.1 = none ∧ field? f.1 = none

/-- What a record holds is put together from the attributes of its own, the fields of the context
    and those of its call, each over the former. -/
theorem attributes_of_record {r : Record} (hall : Record.allName ∉ Named.names context)
    (h : e.record context = .ok r) :
    r.attributes = Named.merge
      (Named.merge e.own.attributes (context.map fun f => (f.1, .value f.2)))
      (e.further.map fun f => (f.1, .value f.2.value)) := by
  rw [record, Record.create] at h
  rcases bind_eq_ok_iff.1 h with ⟨inContext, hinContext, hr⟩
  rw [Record.attributes_of_foldlM FieldValue.value
      (fun _ _ f _ => Record.put_of_setFurther) hr,
    Record.attributes_of_foldlM (fun v => v) (fun _ _ f hf =>
      Record.put_of_set fun hname => hall (hname ▸ List.mem_map_of_mem hf)) hinContext]
  rfl

theorem carries_of_record {r : Record} (hcontext : (Named.names context).Nodup)
    (hfurther : (Named.names e.further).Nodup) (hall : Record.allName ∉ Named.names context)
    (h : e.record context = .ok r) : e.Carries r (Named.value? context) := by
  intro name
  rw [attributes_of_record hall h,
    Named.value?_merge
      (by rwa [Named.names_map fun v : FieldValue => AttributeValue.value v.value]),
    Named.value?_merge (by rwa [Named.names_map AttributeValue.value]),
    Named.value?_map fun v : FieldValue => AttributeValue.value v.value,
    Named.value?_map AttributeValue.value, Option.map_or, Option.map_map, Option.or_assoc]
  rfl

/-- A record holds one value under each name. -/
theorem nodup_names_of_record {r : Record} (hall : Record.allName ∉ Named.names context)
    (h : e.record context = .ok r) : (Named.names r.attributes).Nodup := by
  have hown : (ownNames.map Text.ofString).Nodup := by decide +kernel
  rw [attributes_of_record hall h]
  refine Named.nodup_merge (Named.nodup_merge ?_)
  rwa [Named.names, own, Record.ofCall, List.map_map]

/-- The fields of a context can all be set if none of them changes what a record is. -/
theorem exists_inContext (r : Record) (h : ∀ f ∈ context, f.1 ≠ Record.allName ∧
    f.1 ≠ ("__class__" : Text) ∧ f.1 ≠ ("__weakref__" : Text)) :
    ∃ r', context.foldlM (fun r f => Record.set r f.1 f.2) r = .ok r' := by
  induction context generalizing r with
  | nil => exact ⟨r, rfl⟩
  | cons f rest ih =>
      rw [List.forall_mem_cons] at h
      rcases h with ⟨⟨hall, hclass, hweak⟩, hrest⟩
      rcases ih (r.put f.1 f.2) hrest with ⟨r', hr'⟩
      refine ⟨r', ?_⟩
      rw [List.foldlM_cons, Record.set_eq_put hall hclass hweak]
      exact hr'

/-- The fields of a call can all be set if they are new. -/
theorem exists_further {further : Fields} (r : Record) (hnames : (Named.names further).Nodup)
    (h : ∀ f ∈ further, f.1 ≠ ("message" : Text) ∧ f.1 ≠ ("asctime" : Text) ∧
      Named.value? r.attributes f.1 = none) :
    ∃ r', further.foldlM (fun r f => Record.setFurther r f.1 f.2.value) r = .ok r' := by
  induction further generalizing r with
  | nil => exact ⟨r, rfl⟩
  | cons f rest ih =>
      rw [List.forall_mem_cons] at h
      rcases h with ⟨⟨hmessage, htime, hnew⟩, hrest⟩
      rcases List.nodup_cons.1 hnames with ⟨hf, hnames⟩
      rcases ih (r.put f.1 f.2.value) hnames fun f' hf' => by
        rcases hrest f' hf' with ⟨hmessage', htime', hnew'⟩
        have hne : f'.1 ≠ f.1 := fun heq => hf (heq ▸ List.mem_map_of_mem hf')
        exact ⟨hmessage', htime', Named.value?_put.trans ((if_neg hne).trans hnew')⟩
        with ⟨r', hr'⟩
      refine ⟨r', ?_⟩
      rw [List.foldlM_cons, Record.setFurther_eq_put hmessage htime hnew]
      exact hr'

/-- A record of a call that fits a context is created there. -/
theorem exists_record (hcontext : (Named.names context).Nodup)
    (hfurther : (Named.names e.further).Nodup) (hall : Record.allName ∉ Named.names context)
    (h : e.Fits (Named.value? context)) : ∃ r, e.record context = .ok r := by
  have hset : ∀ f ∈ context, f.1 ≠ Record.allName ∧ f.1 ≠ ("__class__" : Text) ∧
      f.1 ≠ ("__weakref__" : Text) := by
    intro f hf
    have hmem : f.1 ∈ Named.names context := List.mem_map_of_mem hf
    exact ⟨fun heq => hall (heq ▸ hmem),
      fun heq => Named.value?_eq_none_iff.1 h.kind.1 (heq ▸ hmem),
      fun heq => Named.value?_eq_none_iff.1 h.kind.2 (heq ▸ hmem)⟩
  rcases exists_inContext e.own hset with ⟨inContext, hinContext⟩
  have hattributes := Record.attributes_of_foldlM (fun v => v) (fun _ _ f hf =>
    Record.put_of_set (hset f hf).1) hinContext
  rcases exists_further inContext hfurther fun f hf => by
    rcases h.further f hf with ⟨hmessage, htime, hown, hfield⟩
    refine ⟨hmessage, htime, ?_⟩
    rw [hattributes, Named.value?_merge (by rwa [Named.names_map AttributeValue.value]),
      Named.value?_map AttributeValue.value, hfield, hown]
    rfl
    with ⟨r, hr⟩
  refine ⟨r, ?_⟩
  rw [record, Record.create]
  exact (congrArg (· >>= _) hinContext).trans hr

end Entry

/-! ## Contexts nest -/

section

variable {contexts : Nat → Context} {task : Nat} {moves : List Move} {tasks : Nest.Tasks}
  (hnames : ∀ c, (Named.names (contexts c).fields).Nodup)
  (hplain : ∀ c, Record.allName ∉ Named.names (contexts c).fields)

/-- The fields of the contexts that are open for a task. -/
def openField? (contexts : Nat → Context) (n : Nest) : Text → Option Value :=
  field? (fun c => (contexts c).fields) n.all

include hnames hplain in
/-- A record that a task creates carries the fields of its stack. -/
theorem Contexts.Agrees.record {s : Contexts} (h : s.Agrees (fun c => (contexts c).fields) tasks)
    {t : Nat} {n : Nest} (ht : tasks t = some n) {e : Entry}
    (hfurther : (Named.names e.further).Nodup) :
    (∀ r, s.record t e = .ok r → e.Carries r (openField? contexts n)) ∧
      (e.Fits (openField? contexts n) → ∃ r, s.record t e = .ok r) := by
  have hfield : Named.value? (s.carried t) = openField? contexts n := by
    rw [h.carried_eq ht]
    exact funext fun name => value?_inForceOf hnames n.all name
  have hdistinct : (Named.names (s.carried t)).Nodup := by
    rw [h.carried_eq ht]
    exact nodup_names_inForceOf n.all
  have hall : Record.allName ∉ Named.names (s.carried t) := by
    rw [← Named.value?_eq_none_iff, hfield, openField?, field?, List.findSome?_eq_none_iff]
    exact fun c _ => Named.value?_eq_none_iff.2 (hplain c)
  rw [← hfield]
  exact ⟨fun r hr => e.carries_of_record hdistinct hfurther hall hr,
    fun hfits => e.exists_record hdistinct hfurther hall hfits⟩

/-- Leaving a context brings back the stack from before it was entered. -/
theorem Nest.Steps.left_eq {start last : Nest.Tasks} {before inside : List Move} {t c : Nat}
    {fault : Option Fault} {s : Contexts} {fields : Nat → Named Value}
    (hstart : s.Agrees fields start)
    (h : Steps start (before ++ .enter t c :: (inside ++ [.leave t c fault])) last)
    (hinside : ∀ fault', .leave t c fault' ∉ inside) :
    ∃ opened n, Steps start before opened ∧ opened t = some n ∧ last t = some n := by
  rcases steps_append.1 h with ⟨opened, hbefore, hrest⟩
  cases hrest with
  | @cons _ entered _ _ _ henter hrest =>
      rcases steps_append.1 hrest with ⟨inner, hinner, hleave⟩
      have hwhole : Steps start (before ++ .enter t c :: inside) inner :=
        steps_append.2 ⟨opened, hbefore, .cons henter hinner⟩
      rcases hstart.run hwhole with ⟨_, -, hagrees⟩
      cases henter with
      | @enter _ _ n ht _ =>
          have hopened : (Nest.mk (c :: n.opened) n.inherited).opened = [] ++ c :: n.opened := rfl
          rcases hinner.kept_below (Contexts.set_same _ _ _) hopened hinside with ⟨above, habove⟩
          cases hleave with
          | cons hstep hnil =>
              cases hnil
              cases hstep with
              | @leave _ _ left inherited ht' _ =>
                  refine ⟨opened, n, hbefore, ht, (Contexts.set_same _ _ _).trans ?_⟩
                  have hsame := Option.some.inj (ht'.symm.trans habove)
                  cases above with
                  | nil =>
                      cases hsame
                      rfl
                  | cons a above =>
                      -- Otherwise the context would be open twice.
                      rcases Nest.mk.inj hsame with ⟨hopened, -⟩
                      have hmem : c ∈ left :=
                        (List.cons.inj hopened).2 ▸ List.mem_append_right above List.mem_cons_self
                      exact absurd hmem (List.nodup_cons.1 (hagrees.distinct ht')).1

include hnames hplain in
/-- Contexts nest like a stack. Moves of any number of tasks that keep them nested do not fail.
    A record that is created then carries just the fields of the contexts that are open for its
    task, the innermost counting, and it is created if its call fits them. Once a context is left,
    normally or because of a fault, records carry what they carried before it was entered. What
    other tasks do changes nothing for a task. -/
theorem contexts_nest (h : Nest.Steps (Nest.single task) moves tasks) :
    ∃ s, (Contexts.start contexts).run moves = .ok s ∧
      (∀ t n e, tasks t = some n → (Named.names e.further).Nodup →
        (∀ r, s.record t e = .ok r → e.Carries r (openField? contexts n)) ∧
          (e.Fits (openField? contexts n) → ∃ r, s.record t e = .ok r)) ∧
      (∀ before t c inside fault, moves = before ++ .enter t c :: (inside ++ [.leave t c fault]) →
        (∀ fault', .leave t c fault' ∉ inside) →
        ∃ s₀, (Contexts.start contexts).run before = .ok s₀ ∧ s.carried t = s₀.carried t) ∧
      ∀ before others t n, moves = before ++ others → tasks t = some n →
        (∀ m ∈ others, m.subject ≠ t) →
        ∃ s₀, (Contexts.start contexts).run before = .ok s₀ ∧ s.carried t = s₀.carried t := by
  have hstart := Contexts.agrees_start contexts task
  rcases hstart.run h with ⟨s, hs, hagrees⟩
  refine ⟨s, hs, fun t n e ht hfurther => hagrees.record hnames hplain ht hfurther, ?_, ?_⟩
  · rintro before t c inside fault rfl hinside
    rcases h.left_eq hstart hinside with ⟨opened, n, hbefore, hopened, hlast⟩
    rcases hstart.run hbefore with ⟨s₀, hs₀, hagrees₀⟩
    exact ⟨s₀, hs₀, (hagrees.carried_eq hlast).trans (hagrees₀.carried_eq hopened).symm⟩
  · rintro before others t n rfl ht hothers
    rcases Nest.steps_append.1 h with ⟨opened, hbefore, hrest⟩
    rcases hstart.run hbefore with ⟨s₀, hs₀, hagrees₀⟩
    have hopened : opened t = some n := (hrest.other hothers).symm.trans ht
    exact ⟨s₀, hs₀, (hagrees.carried_eq ht).trans (hagrees₀.carried_eq hopened).symm⟩

end

theorem not_mem_opened_single (c : Nat) {task : Nat} (u : Nat) (m : Nest)
    (h : Nest.single task u = some m) : c ∉ m.opened := by
  rw [Contexts.eq_of_single h]
  exact List.not_mem_nil

/-- The call of a message without fields of its own. -/
def plainEntry : Entry := ⟨Double.zero, 20, "app", .text "m", [], none, []⟩

/-- A context for a request of a user, and one that replaces the request. -/
def sampleContexts (c : Nat) : Context :=
  if c = 0 then ⟨[("request", .json (.text "first")), ("user", .json (.int 7))], none⟩
  else ⟨[("request", .json (.text "second"))], none⟩

/-- A task is created in a context and enters one of its own before the outer one is left because
    of a fault. -/
def sampleMoves : List Move :=
  [.enter 0 0, .spawn 0 1, .enter 1 1, .leave 0 0 (some .wrongType)]

theorem contexts_nest_sample : ∃ s, (Contexts.start sampleContexts).run sampleMoves = .ok s ∧
    (∃ r, s.record 1 plainEntry = .ok r ∧
      Named.value? r.attributes "request" = some (.value (.json (.text "second"))) ∧
      Named.value? r.attributes "user" = some (.value (.json (.int 7)))) ∧
    s.carried 0 = (Contexts.start sampleContexts).carried 0 := by
  have hnames : ∀ c, (Named.names (sampleContexts c).fields).Nodup := by
    intro c
    rw [sampleContexts]
    split <;> decide
  have hplain : ∀ c, Record.allName ∉ Named.names (sampleContexts c).fields := by
    intro c
    rw [sampleContexts]
    split <;> decide
  have hsteps : ∃ tasks, Nest.Steps (Nest.single 0) sampleMoves tasks ∧
      tasks 1 = some ⟨[1], [0]⟩ := by
    refine ⟨_, .cons (.enter rfl (not_mem_opened_single 0)) (.cons (.spawn rfl rfl)
      (.cons (.enter rfl fun u m hu => ?_) (.cons (.leave rfl _) (.nil _)))), rfl⟩
    rcases Contexts.set_eq_some hu with ⟨-, rfl⟩ | ⟨-, hu'⟩
    · exact List.not_mem_nil
    · rcases Contexts.set_eq_some hu' with ⟨-, rfl⟩ | ⟨-, hu''⟩
      · decide
      · exact not_mem_opened_single 1 u m hu''
  rcases hsteps with ⟨tasks, hsteps, htask⟩
  rcases contexts_nest hnames hplain hsteps with ⟨s, hs, hrecord, hleft, -⟩
  refine ⟨s, hs, ?_, ?_⟩
  · rcases hrecord 1 ⟨[1], [0]⟩ plainEntry htask List.nodup_nil with ⟨hcarries, hcreated⟩
    rcases hcreated ⟨⟨rfl, rfl⟩, fun f hf => absurd hf List.not_mem_nil⟩ with ⟨r, hr⟩
    exact ⟨r, hr, hcarries r hr "request", hcarries r hr "user"⟩
  · rcases hleft [] 0 0 [.spawn 0 1, .enter 1 1] (some .wrongType) rfl (by simp) with
      ⟨s₀, hs₀, hsame⟩
    cases hs₀
    exact hsame

/-- A field named like all attributes together replaces them, and with them the fields of the
    outer contexts. -/
theorem contexts_replaced : ∃ (contexts : Nat → Context) (tasks : Nest.Tasks) (n : Nest)
    (s : Contexts) (r : Record), Nest.Steps (Nest.single 0) [.enter 0 0, .enter 0 1] tasks ∧
      tasks 0 = some n ∧ (Contexts.start contexts).run [.enter 0 0, .enter 0 1] = .ok s ∧
      s.record 0 plainEntry = .ok r ∧ openField? contexts n "a" = some (.json (.int 1)) ∧
      Named.value? r.attributes "a" = none := by
  refine ⟨fun c => if c = 0 then ⟨[("a", .json (.int 1))], none⟩
    else ⟨[(Record.allName, .json (.record [("msg", .text "m")]))], none⟩, _, _, _, _,
    .cons (.enter rfl (not_mem_opened_single 0)) (.cons (.enter rfl fun u m hu => ?_) (.nil _)),
    rfl, rfl, rfl, rfl, rfl⟩
  rcases Contexts.set_eq_some hu with ⟨-, rfl⟩ | ⟨-, hu'⟩
  · decide
  · exact not_mem_opened_single 1 u m hu'

end Log

end Outreach
