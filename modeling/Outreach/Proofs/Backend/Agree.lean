import Outreach.Proofs.Backend.Grows
import Outreach.Proofs.Store.Mirror.Delivery
import Outreach.Proofs.Store.Mirror.Intake

/-!
# One Call over Two Stores

A call is written once for every kind of store. Run over the store in memory and
over one in a database that mirrors it, it comes to the same end, step by step:
`Action.Agree` relates two actions in two worlds, and has one rule for each way in
which calls are put together.

Fresh identifiers are only known to be fresh from the end of a run, when none was
drawn twice. What is promised of an action is therefore promised only if its last world
is within bounds, and the rule for one action after another asks that the later one
leads on to later worlds.

A unit of work of the database may be rolled back, and one in memory cannot. The two
agree as long as an action only fails in a unit of work that has changed nothing.

## Main definitions

* `World.Mirrors`: Worlds whose stores mirror each other.
* `World.Untouched`: The same within a unit of work that has changed nothing yet.
* `World.Draws`: Drawing an identifier that was not drawn before.
* `Action.Agree`: Two actions that come to the same end.

## Theorems

* `Action.Agree.bind`: One action after another.
* `Action.agree_ask`, `Action.agree_change`, `Action.agree_refusal`: Asking the stores and
  changing them.
* `Action.agree_unitOfWork`, `Action.agree_unitOfWork_total`: Units of work.
-/

namespace Outreach

namespace World

/-! ## Worlds that mirror each other -/

/-- An identifier was drawn. -/
def Drew {σ : Type} (w : World σ) (id : Uuid) : Prop :=
  ∃ i < w.drawn, w.supply i = id

/-- Worlds whose stores mirror each other: with one clock in universal time, one supply
    of identifiers, and senders that both take messages or both refuse them. Whatever
    is stored has an identifier that was drawn. -/
structure Mirrors (w : World Memory) (v : World Database) : Prop where
  clock : v.clock = w.clock
  supply : v.supply = w.supply
  drawn : v.drawn = w.drawn
  bound : v.sender.bound = w.sender.bound
  utc : w.clock.ahead = some 0
  store : Mirror w.store v.store
  ids : ∀ id ∈ w.store.tables.ids, w.Drew id

/-- A unit of work that has changed nothing yet. -/
structure Untouched (w : World Memory) (v : World Database) : Prop where
  mirrors : w.Mirrors v
  saved : v.store.saved = some v.store.tables

/-- An identifier is drawn that was not drawn before. -/
structure Draws (w : World Memory) (id : Uuid) (w' : World Memory) : Prop where
  store : w'.store = w.store
  fresh : ¬w.Drew id
  drew : w'.Drew id
  keeps : ∀ x, w.Drew x → w'.Drew x

variable {w w' : World Memory} {v : World Database}

/-- What is drawn now is not in use. -/
theorem Draws.notMem_ids {id : Uuid} (hdraws : w.Draws id w') (h : w.Mirrors v) :
    id ∉ w'.store.tables.ids := by
  rw [hdraws.store]
  exact fun hid => hdraws.fresh (h.ids id hid)

/-- Stores that mirror each other are put in the place of the stores. -/
theorem Mirrors.withStores (h : w.Mirrors v) {m : Memory} {d : Database} (hstore : Mirror m d)
    (hids : ∀ id ∈ m.tables.ids, w.Drew id) :
    World.Mirrors { w with store := m } { v with store := d } :=
  { h with store := hstore, ids := hids }

/-- Stores without new identifiers. -/
theorem Mirrors.changed (h : w.Mirrors v) {m : Memory} {d : Database} (hstore : Mirror m d)
    (hids : m.tables.ids ⊆ w.store.tables.ids) :
    World.Mirrors { w with store := m } { v with store := d } :=
  h.withStores hstore fun id hid => h.ids id (hids hid)

/-- Stores with a new identifier that was drawn. -/
theorem Mirrors.added (h : w.Mirrors v) {m : Memory} {d : Database} (hstore : Mirror m d)
    {id : Uuid} (hids : m.tables.ids ⊆ id :: w.store.tables.ids) (hdrew : w.Drew id) :
    World.Mirrors { w with store := m } { v with store := d } :=
  h.withStores hstore fun x hx => List.forall_mem_cons.2 ⟨hdrew, h.ids⟩ x (hids hx)

theorem Mirrors.time (h : w.Mirrors v) : v.time = w.time := by
  rw [World.time, World.time, h.clock]

end World

namespace Action

/-! ## Actions that come to the same end -/

variable {α β γ δ : Type}

/-- Two actions come to the same end if they return what corresponds, or fail with one
    failure, in worlds that correspond. -/
def Agree (x : Action Memory α) (y : Action Database β) (w : World Memory) (v : World Database)
    (ok : α → β → World Memory → World Database → Prop)
    (bad : Fault → World Memory → World Database → Prop) : Prop :=
  Ends x w (fun a w' => w'.Bounded → Ends y v (fun b v' => ok a b w' v') fun _ _ => False)
    fun f w' => w'.Bounded → Ends y v (fun _ _ => False) fun g v' => g = f ∧ bad f w' v'

variable {x : Action Memory α} {y : Action Database β} {w : World Memory} {v : World Database}
  {ok ok' : α → β → World Memory → World Database → Prop}
  {bad bad' : Fault → World Memory → World Database → Prop}

theorem Agree.mono (h : Agree x y w v ok bad) (hok : ∀ a b w' v', ok a b w' v' → ok' a b w' v')
    (hbad : ∀ f w' v', bad f w' v' → bad' f w' v') : Agree x y w v ok' bad' := by
  refine Ends.mono h (fun a w' ha hw => ?_) fun f w' hf hw => ?_
  · exact (ha hw).mono (fun b v' => hok a b w' v') fun _ _ => id
  · exact (hf hw).mono (fun _ _ => id) fun g v' hg => ⟨hg.1, hbad f w' v' hg.2⟩

theorem Agree.mono_ok (h : Agree x y w v ok bad)
    (hok : ∀ a b w' v', ok a b w' v' → ok' a b w' v') : Agree x y w v ok' bad :=
  h.mono hok fun _ _ _ h => h

/-- One action after another that leads on to later worlds. -/
theorem Agree.bind_of_grows {f : α → Action Memory γ} {g : β → Action Database δ}
    (hgrows : ∀ a, Grows (f a)) {mid : α → β → World Memory → World Database → Prop}
    {ok : γ → δ → World Memory → World Database → Prop} (hx : Agree x y w v mid bad)
    (hf : ∀ a b w' v', w'.Bounded → mid a b w' v' → Agree (f a) (g b) w' v' ok bad) :
    Agree (x >>= f) (y >>= g) w v ok bad := by
  rw [Agree, ends_bind]
  refine Ends.mono hx (fun a w' h => ?_) fun e w' h hw => ?_
  · -- What comes later ends within bounds only if the world in between is.
    by_cases hw' : w'.Bounded
    · rcases exists_of_ends (h hw') with ⟨b, v', hy, hmid⟩
      refine Ends.mono (hf a b w' v' hw' hmid) (fun c w'' hc hw'' => ?_) fun e w'' he hw'' => ?_
      · rw [ends_bind, Ends, hy]
        exact hc hw''
      · rw [ends_bind, Ends, hy]
        exact he hw''
    · refine ((hgrows a).precedes w').mono (fun c w'' hlater hw'' => ?_)
        fun e w'' hlater hw'' => ?_
      · exact absurd (hw''.of_precedes hlater) hw'
      · exact absurd (hw''.of_precedes hlater) hw'
  · rw [ends_bind]
    exact (h hw).mono (fun _ _ => False.elim) fun _ _ => id

/-- One action after another. -/
theorem Agree.bind {f : α → Action Memory γ} {g : β → Action Database δ} [hgrows : ∀ a, Grows (f a)]
    {mid : α → β → World Memory → World Database → Prop}
    {ok : γ → δ → World Memory → World Database → Prop} (hx : Agree x y w v mid bad)
    (hf : ∀ a b w' v', w'.Bounded → mid a b w' v' → Agree (f a) (g b) w' v' ok bad) :
    Agree (x >>= f) (y >>= g) w v ok bad :=
  hx.bind_of_grows hgrows hf

theorem agree_pure {a : α} {b : β} (h : ok a b w v) : Agree (pure a) (pure b) w v ok bad :=
  fun _ => h

theorem agree_throw {f : Fault} (h : bad f w v) :
    Agree (throw f : Action Memory α) (throw f : Action Database β) w v ok bad :=
  fun _ => ⟨rfl, h⟩

/-- One action after another, where the later one looks at what the first one found. -/
theorem Agree.bind_option {x : Action Memory (Option α)} {y : Action Database (Option β)}
    {f : Option α → Action Memory γ} {g : Option β → Action Database δ} [hnone : Grows (f none)]
    [hsome : ∀ a, Grows (f (some a))]
    {mid : Option α → Option β → World Memory → World Database → Prop}
    {ok : γ → δ → World Memory → World Database → Prop} (hx : Agree x y w v mid bad)
    (hf : ∀ a b w' v', w'.Bounded → mid a b w' v' → Agree (f a) (g b) w' v' ok bad) :
    Agree (x >>= f) (y >>= g) w v ok bad := by
  refine hx.bind_of_grows (fun a => ?_) hf
  cases a with
  | none => exact hnone
  | some a => exact hsome a

/-- One action after another, where the later one looks at how the first one ended. -/
theorem Agree.bind_capture {f : Except Fault α → Action Memory γ}
    {g : Except Fault β → Action Database δ} [hok : ∀ a, Grows (f (.ok a))]
    {ok : γ → δ → World Memory → World Database → Prop}
    {mid : α → β → World Memory → World Database → Prop} (hx : Agree x y w v mid bad')
    (herror : ∀ e, Grows (f (.error e)))
    (hreturned : ∀ a b w' v', w'.Bounded → mid a b w' v' →
      Agree (f (.ok a)) (g (.ok b)) w' v' ok bad)
    (hraised : ∀ e w' v', bad' e w' v' → Agree (f (.error e)) (g (.error e)) w' v' ok bad) :
    Agree (x.capture >>= f) (y.capture >>= g) w v ok bad := by
  have hcapture : Agree x.capture y.capture w v
      (fun r s w' v' => w'.Bounded → Agree (f r) (g s) w' v' ok bad) bad := by
    rw [Agree, ends_capture]
    refine Ends.mono hx (fun a w' ha hw => ?_) fun e w' he hw => ?_
    · rw [ends_capture]
      refine (ha hw).mono (fun b v' hmid hw' => hreturned a b w' v' hw' hmid) fun _ _ => False.elim
    · rw [ends_capture]
      refine (he hw).mono (fun _ _ => False.elim) fun e' v' he' _ => ?_
      rw [he'.1]
      exact hraised e w' v' he'.2
  refine hcapture.bind_of_grows (fun r => ?_) fun r s w' v' hw' hagree => hagree hw'
  cases r with
  | ok a => exact hok a
  | error e => exact herror e

/-- An outcome that was computed elsewhere. -/
theorem agree_ofExcept {e : Except Fault α} (hbad : ∀ f, bad f w v) :
    Agree (ofExcept e) (ofExcept e) w v
      (fun a b w' v' => b = a ∧ e = .ok a ∧ w' = w ∧ v' = v) bad := by
  cases e with
  | ok a => exact agree_pure ⟨rfl, rfl, rfl, rfl⟩
  | error f => exact agree_throw (hbad f)

/-- The clocks show one time, in universal time. -/
theorem agree_now (h : w.Mirrors v) (hbad : ∀ f, bad f w v) :
    Agree now now w v (fun t t' w' v' => t' = t ∧ t.ahead = some 0 ∧ inUtc t = .ok t ∧
      w' = w ∧ v' = v) bad := by
  have hread : ∀ t, inUtc w.clock = .ok t → t.ahead = some 0 ∧ inUtc t = .ok t := by
    intro t ht
    have hutc := toUtc?_of_inUtc ht
    refine ⟨Timestamp.ahead_of_toUtc? hutc, ?_⟩
    rw [inUtc, Timestamp.toUtc?_of_toUtc? h.utc hutc]
  have hboth : Agree (ofExcept (inUtc w.clock)) (ofExcept (inUtc w.clock)) w v _ bad :=
    agree_ofExcept hbad
  rw [Agree, now, now, ends_bind, ends_get]
  refine Ends.mono hboth (fun t w' ht hw => ?_) fun f w' hf hw => ?_
  · rw [ends_bind, ends_get, h.clock]
    refine (ht hw).mono (fun t' v' hsame => ?_) fun _ _ => id
    exact ⟨hsame.1, (hread t hsame.2.1).1, (hread t hsame.2.1).2, hsame.2.2⟩
  · rw [ends_bind, ends_get, h.clock]
    exact hf hw

/-- The next identifier is none of those that were drawn. -/
theorem agree_freshId (h : w.Mirrors v) :
    Agree freshId freshId w v (fun id id' w' v' => id' = id ∧ w'.Mirrors v' ∧ w.Draws id w')
      bad := by
  intro hw
  have hnext : v.supply v.drawn = w.supply w.drawn := by rw [h.supply, h.drawn]
  rw [ends_freshId, hnext]
  have hkeeps : ∀ id, w.Drew id → World.Drew { w with drawn := w.drawn + 1 } id := by
    rintro id ⟨i, hi, hid⟩
    exact ⟨i, Nat.lt_succ_of_lt hi, hid⟩
  refine ⟨rfl, { h with drawn := congrArg (· + 1) h.drawn, ids := fun id hid => ?_ }, rfl, ?_,
    ⟨w.drawn, Nat.lt_succ_self _, rfl⟩, hkeeps⟩
  · exact hkeeps id (h.ids id hid)
  · rintro ⟨i, hi, hid⟩
    have hsame := hw.distinct i (Nat.lt_succ_of_lt hi) w.drawn (Nat.lt_succ_self _) hid
    omega

/-- Two actions that only change log and metrics. -/
theorem agree_quiet {x : Action Memory Unit} {y : Action Database Unit} [Quiet x] [Quiet y]
    (h : w.Mirrors v) :
    Agree x y w v (fun _ _ w' v' => w'.Mirrors v' ∧ w'.store = w.store ∧ v'.store = v.store)
      bad := by
  rcases Quiet.ends (x := x) w with ⟨log, metrics, hx⟩
  rcases Quiet.ends (x := y) v with ⟨log', metrics', hy⟩
  rw [Agree, Ends, hx]
  intro _
  rw [Ends, hy]
  exact ⟨{ h with }, rfl, rfl⟩

/-- Fields of log lines make no difference. -/
theorem agree_within {fields fields' : Log.Fields}
    (h : Agree x y { w with fields := w.fields.merge fields }
      { v with fields := v.fields.merge fields' } ok bad)
    (hok : ∀ a b w' v', ok a b w' v' →
      ok a b { w' with fields := w.fields } { v' with fields := v.fields })
    (hbad : ∀ f w' v', bad f w' v' →
      bad f { w' with fields := w.fields } { v' with fields := v.fields }) :
    Agree (within fields x) (within fields' y) w v ok bad := by
  rw [Agree, ends_within]
  refine Ends.mono h (fun a w' ha hw => ?_) fun f w' hf hw => ?_
  · rw [ends_within]
    exact (ha ⟨hw.distinct, hw.countable⟩).mono (fun b v' => hok a b w' v') fun _ _ => id
  · rw [ends_within]
    exact (hf ⟨hw.distinct, hw.countable⟩).mono (fun _ _ => id)
      fun g v' hg => ⟨hg.1, hbad f w' v' hg.2⟩

/-! ## Stores -/

theorem agree_of_ok {a : α} {b : β} {w' : World Memory} {v' : World Database} (hx : x w = .ok a w')
    (hy : y v = .ok b v') (h : ok a b w' v') : Agree x y w v ok bad := by
  rw [Agree, Ends, hx]
  intro _
  rw [Ends, hy]
  exact h

/-- Both stores are asked. -/
theorem agree_ask {f : Memory → Except Fault α} {g : Database → Timestamp → Except Fault β} {a : α}
    {b : β} (hm : f w.store = .ok a) (hd : g v.store v.time = .ok b) (h : ok a b w v) :
    Agree (Memory.ask f) (Database.ask g) w v ok bad := by
  have hx : Memory.ask f w = .ok a w := by
    change ofExcept (f w.store) w = _
    rw [hm]
    rfl
  have hy : Database.ask g v = .ok b v := by
    change ofExcept (g v.store v.time) v = _
    rw [hd]
    rfl
  exact agree_of_ok hx hy h

/-- Both stores give the same answer. -/
theorem agree_answer {f : Memory → Except Fault α} {g : Database → Timestamp → Except Fault α}
    {a : α} (hm : f w.store = .ok a) (hd : g v.store v.time = .ok a) :
    Agree (Memory.ask f) (Database.ask g) w v (fun b c w' v' => c = b ∧ w' = w ∧ v' = v) bad :=
  agree_ask hm hd ⟨rfl, rfl, rfl⟩

section Change

variable {f : Memory → Timestamp → Except Fault (Memory × α)}
  {g : Database → Timestamp → Except Fault (Database × β)} (htime : v.time = w.time)

include htime

/-- Both stores are changed. -/
theorem agree_change {m : Memory} {d : Database} {a : α} {b : β}
    (hm : f w.store v.time = .ok (m, a)) (hd : g v.store v.time = .ok (d, b))
    (h : ok a b { w with store := m } { v with store := d }) :
    Agree (Memory.change f) (Database.change g) w v ok bad := by
  rw [htime] at hm
  rw [Agree, Memory.ends_change_of_ok hm]
  intro _
  rw [Ends, Database.change_of_ok hd]
  exact h

/-- Both stores refuse a change. -/
theorem agree_refusal {e : Fault} (hm : f w.store v.time = .error e)
    (hd : g v.store v.time = .error e) (h : bad e w v) :
    Agree (Memory.change f) (Database.change g) w v ok bad := by
  rw [htime] at hm
  rw [Agree, Memory.ends_change_of_error hm]
  intro _
  rw [Ends, Database.change_of_error hd]
  exact ⟨rfl, h⟩

end Change

/-- Units of work agree if what is done in them agrees, and fails only before anything
    was changed. -/
theorem agree_transaction {q : α → β → World Memory → Prop} {r : Fault → Prop} (h : w.Mirrors v)
    (hbody : ∀ v₁, w.Untouched v₁ → Agree x y w v₁ (fun a b w' v' => w'.Mirrors v' ∧ q a b w')
      fun f w' v' => r f ∧ w'.Untouched v') :
    Agree (unitOfWork x) (unitOfWork y) w v (fun a b w' v' => w'.Mirrors v' ∧ q a b w')
      fun f w' v' => r f ∧ w'.Mirrors v' := by
  have hbegun : w.Untouched { v with store := v.store.begin } :=
    ⟨{ h with store := { h.store with } }, rfl⟩
  rw [Memory.unitOfWork_eq]
  refine Ends.mono (hbody _ hbegun) (fun a w' ha hw => ?_) fun f w' hf hw => ?_
  · refine Database.ends_unitOfWork ((ha hw).mono (fun b v' hb => ?_) fun _ _ => False.elim)
    exact ⟨hb.1.store.commits, fun log => ⟨{ hb.1 with store := { hb.1.store with } }, hb.2⟩⟩
  · refine Database.ends_unitOfWork ((hf hw).mono (fun _ _ => False.elim) fun g v' hg log => ?_)
    rcases hg with ⟨hsame, hr, huntouched⟩
    -- The rows from before are those that are there.
    have hrows : v'.store.restore = { v'.store with saved := none } := by
      rw [Database.restore, huntouched.saved]
      rfl
    have hstore := huntouched.mirrors.store
    rw [hrows]
    exact ⟨hsame, hr, { huntouched.mirrors with store := { hstore with } }⟩

/-- A unit of work that may fail before it has changed anything. -/
theorem agree_unitOfWork {q : α → β → World Memory → Prop} (h : w.Mirrors v)
    (hbody : ∀ v₁, w.Untouched v₁ → Agree x y w v₁ (fun a b w' v' => w'.Mirrors v' ∧ q a b w')
      fun _ => World.Untouched) :
    Agree (unitOfWork x) (unitOfWork y) w v (fun a b w' v' => w'.Mirrors v' ∧ q a b w')
      fun _ => World.Mirrors := by
  have htransaction := agree_transaction (r := fun _ => True) h fun v₁ h₁ =>
    (hbody v₁ h₁).mono (fun _ _ _ _ h => h) fun _ _ _ h => ⟨trivial, h⟩
  exact htransaction.mono (fun _ _ _ _ h => h) fun _ _ _ h => h.2

/-- A unit of work that does not fail. -/
theorem agree_unitOfWork_total {q : α → β → World Memory → Prop} (h : w.Mirrors v)
    (hbody : ∀ v₁, w.Untouched v₁ → Agree x y w v₁ (fun a b w' v' => w'.Mirrors v' ∧ q a b w')
      fun _ _ _ => False) :
    Agree (unitOfWork x) (unitOfWork y) w v (fun a b w' v' => w'.Mirrors v' ∧ q a b w') bad := by
  have htransaction := agree_transaction (r := fun _ => False) h fun v₁ h₁ =>
    (hbody v₁ h₁).mono (fun _ _ _ _ h => h) fun _ _ _ => False.elim
  exact htransaction.mono (fun _ _ _ _ h => h) fun _ _ _ h => h.1.elim

end Action

end Outreach
