import Outreach.Proofs.Intake.Board
import Outreach.Proofs.Intake.Database
import Outreach.Proofs.Intake.Memory

/-!
# Every Email Is Registered Once

Looking an email up and storing the customer are two steps of a call, so that calls
for one email can all find it free. The store decides between them: it takes the
first customer that reaches it and refuses the others. Whatever the order of the
steps, the emails of the calls that have returned are those of the stored customers,
and each of them is there once.

A valid call that does not win is told that the email is taken, and so it is. The
winner need not be a valid call, though, where a store takes spends that are no
numbers, as the one in memory does.

## Main definitions

* `NewCustomer.Valid`: What a caller may give.
* `Intake.System.Registers`: A call that has registered an email.
* `Intake.EmailsApart`: What holds of emails in a run.
* `Intake.racing`, `Intake.racingWithoutNumber`: Runs as examples.

## Theorems

* `Intake.Board.Reachable.registered`: The emails of calls that have returned are
  those of the stored customers.
* `Intake.Board.Reachable.answered`: What is known of calls that have ended.
* `Intake.emails_registered_once`: Every email is registered once.
* `Intake.valid_call_without_winner`: Not always by a valid call.
-/

namespace Outreach

/-- What a caller may give for a new customer: a name, an email, numbers that are not
    negative, and a time that has a form in universal time. -/
structure NewCustomer.Valid (args : NewCustomer) : Prop where
  named : args.name.isBlankText = false
  mailed : args.email.points.contains (.char '@') = true
  spend : args.totalSpends.lt Double.zero = false
  number : args.totalSpends.isNaN = false
  visits : 0 ≤ args.visits
  lastVisit : ∀ t ∈ args.lastVisit, ∃ u, inUtc t = .ok u

namespace NewCustomer

variable {args : NewCustomer}

instance : Decidable args.Valid :=
  decidable_of_iff (args.name.isBlankText = false ∧
    args.email.points.contains (.char '@') = true ∧ args.totalSpends.lt Double.zero = false ∧
    args.totalSpends.isNaN = false ∧ 0 ≤ args.visits ∧
    ∀ t ∈ args.lastVisit, t.toUtc?.isSome = true) <| by
  simp only [Option.isSome_iff_exists, ← inUtc_eq_ok_iff]
  refine ⟨fun h => ?_, fun h => ⟨h.named, h.mailed, h.spend, h.number, h.visits, h.lastVisit⟩⟩
  rcases h with ⟨named, mailed, spend, number, visits, lastVisit⟩
  exact ⟨named, mailed, spend, number, visits, lastVisit⟩

/-- What is valid passes the checks. -/
theorem Valid.exists_passes (h : args.Valid) (id : Uuid) {now : Timestamp}
    (hnow : inUtc now = .ok now) : ∃ c, (args.asked id now).Passes c := by
  have hvisit : ∃ u, inUtc (args.lastVisit.getD now) = .ok u := by
    cases ht : args.lastVisit with
    | none => exact ⟨now, hnow⟩
    | some t => exact h.lastVisit t ht
  rcases hvisit with ⟨u, hu⟩
  have hvisits : ¬(args.asked id now).visits < 0 := Int.not_lt.2 h.visits
  exact Customer.exists_passes h.named h.mailed h.spend hvisits hu hnow

/-- What passes the checks is valid, if the spend is a number. -/
theorem Drafts.valid {c : Customer} (h : args.Drafts c) (hnumber : args.totalSpends.isNaN = false) :
    args.Valid := by
  rcases h with ⟨id, now, h⟩
  refine ⟨h.named, h.mailed, h.spend, hnumber, Int.not_lt.1 h.visits, fun t ht => ?_⟩
  have hvisit := h.lastVisit
  simp only [asked, Option.mem_def.1 ht, Option.getD_some] at hvisit
  exact ⟨_, hvisit⟩

theorem Drafts.email_eq {c : Customer} (h : args.Drafts c) : c.email = normalEmail args.email := by
  rcases h with ⟨id, now, h⟩
  exact h.email_eq

end NewCustomer

namespace Intake

variable {K : Keeping} {b b' : Book} {t t' : Task}

/-! ## Calls that have ended -/

namespace Task

/-- The email of a customer that a call has stored. -/
def registered : Task → List Text
  | customer _ (.returned c) => [c.email]
  | _ => []

/-- Whether a call is a valid one for an email. -/
def Asks (email : Text) : Task → Prop
  | customer args _ => args.Valid ∧ normalEmail args.email = email
  | order _ _ => False

instance (email : Text) (t : Task) : Decidable (t.Asks email) := by
  cases t <;> unfold Asks <;> infer_instance

/-- What is known of a call that has ended. A valid one that failed was told that the
    email is taken, and it is. -/
def Answered (K : Keeping) (b : Book) : Task → Prop
  | customer args (.returned _) => K.Takes args
  | customer args (.raised f) => args.Valid → K.Takes args →
    f = .duplicateCustomer (normalEmail args.email) ∧ normalEmail args.email ∈ b.emails
  | _ => True

theorem Effect.emails_subset (h : Effect K b t b' t') : b.emails ⊆ b'.emails := by
  cases h with
  | enrolled unknown takes =>
      rw [Book.emails_enrol]
      exact List.subset_append_left _ _
  | applied =>
      rw [Book.emails_apply]
      exact List.Subset.refl _
  | _ => exact List.Subset.refl _

/-- What a call registers is an email of a stored customer, and the other way round. -/
theorem Effect.registered (h : Effect K b t b' t') {rest : List Text}
    (hbefore : (t.registered ++ rest).Perm b.emails) : (t'.registered ++ rest).Perm b'.emails := by
  cases h with
  | enrolled unknown takes =>
      rw [Book.emails_enrol]
      exact List.perm_append_comm.trans (hbefore.append_right [_])
  | applied =>
      rw [Book.emails_apply]
      exact hbefore
  | _ => exact hbefore

theorem Answered.later (h : t.Answered K b) (hemails : b.emails ⊆ b'.emails) :
    t.Answered K b' := by
  cases t with
  | order args p => trivial
  | customer args p => cases p with
    | underway s => trivial
    | returned c => exact h
    | raised f => exact fun hvalid htakes => (h hvalid htakes).imp_right fun hmem => hemails hmem

theorem Effect.answered (h : Effect K b t b' t') (hclock : inUtc b.clock = .ok b.clock)
    (hready : t.Ready K b) : t'.Answered K b' := by
  cases h with
  | invalid fails =>
      intro hvalid
      rcases hvalid.exists_passes b.next hclock with ⟨c, hc⟩
      rw [Customer.validated_eq_ok_iff.2 hc] at fails
      cases fails
  | enrolled unknown takes => exact takes
  | @duplicate args s c stage known =>
      have hdrafts : args.Drafts c := by rcases stage with rfl | rfl <;> exact hready
      intro hvalid htakes
      rw [← hdrafts.email_eq]
      exact ⟨rfl, known⟩
  | unwritable f stage beyond => exact fun _ htakes => absurd htakes beyond
  | _ => trivial

end Task

namespace Board

variable {b : Board}

/-- The emails of calls that have returned are those of the stored customers. -/
theorem Reachable.registered (h : Reachable K b) :
    (b.tasks.flatMap Task.registered).Perm b.book.emails := by
  induction h with
  | start customers orders clock =>
      rw [Book.emails, customers]
      exact List.Perm.refl _
  | step before step distinct ih =>
      cases step with
      | issued r =>
          have hnone : r.task.registered = [] := by cases r <;> rfl
          rw [flatMap_snoc hnone]
          exact ih
      | set now => exact ih
      | advanced task effect =>
          -- What the other calls have registered stays as it is.
          rcases perm_flatMap_set (f := Task.registered) task with ⟨rest, hrest, hset⟩
          exact (hset _).trans (effect.registered (hrest.symm.trans ih))

theorem Reachable.answered (h : Reachable K b) : ∀ t ∈ b.tasks, t.Answered K b.book := by
  induction h with
  | start customers orders clock => exact fun t ht => absurd ht List.not_mem_nil
  | step before step distinct ih =>
      intro t ht
      cases step with
      | issued r =>
          rcases List.mem_append.1 ht with ht | ht
          · exact ih t ht
          · rw [List.mem_singleton.1 ht]
            cases r <;> trivial
      | set now => exact (ih t ht).later (List.Subset.refl _)
      | advanced task effect =>
          rcases List.mem_or_eq_of_mem_set ht with ht | rfl
          · exact (ih t ht).later effect.emails_subset
          · have hready := before.orderly.ready _ (List.mem_of_getElem? task)
            exact effect.answered before.orderly.clock hready

end Board

/-! ## Runs -/

namespace System

variable {σ : Type}

/-- The call with a number has registered an email. -/
def Registers (s : System σ) (email : Text) (number : Nat) : Prop :=
  ∃ args c, s.tasks[number]? = some (.customer args (.returned c)) ∧ normalEmail args.email = email

variable {s : System σ} {k : Book} {email : Text} {n m : Nat}

theorem Registers.mem_registered (h : s.Registers email n)
    (hready : ∀ t ∈ s.tasks, t.Ready K k) :
    ∃ t, s.tasks[n]? = some t ∧ email ∈ t.registered := by
  rcases h with ⟨args, c, htask, rfl⟩
  have hdrafts : args.Drafts c := hready _ (List.mem_of_getElem? htask)
  exact ⟨_, htask, List.mem_singleton.2 hdrafts.email_eq.symm⟩

/-- An email that is taken was registered by a call. -/
theorem exists_registers (h : (s.board k).Reachable K) (hemail : email ∈ k.emails) :
    ∃ n, s.Registers email n := by
  rcases List.mem_flatMap.1 (h.registered.mem_iff.2 hemail) with ⟨t, ht, hregistered⟩
  rcases List.mem_iff_getElem?.1 ht with ⟨n, hn⟩
  have hready := h.orderly.ready t ht
  cases t with
  | order args p => cases hregistered
  | customer args p => cases p with
    | returned c =>
        have hdrafts : args.Drafts c := hready
        rw [List.mem_singleton.1 hregistered]
        exact ⟨n, args, c, hn, hdrafts.email_eq.symm⟩
    | underway s => cases hregistered
    | raised f => cases hregistered

/-- No two calls have registered one email. -/
theorem Registers.unique (h : (s.board k).Reachable K) (hn : s.Registers email n)
    (hm : s.Registers email m) : n = m := by
  rcases hn.mem_registered h.orderly.ready with ⟨t, ht, htemail⟩
  rcases hm.mem_registered h.orderly.ready with ⟨u, hu, huemail⟩
  have hnodup : (s.tasks.flatMap Task.registered).Nodup :=
    h.registered.nodup_iff.2 h.orderly.emails
  have hdisjoint := (List.nodup_flatMap.1 hnodup).2
  rw [List.pairwise_iff_getElem] at hdisjoint
  rcases List.getElem?_eq_some_iff.1 ht with ⟨hn, rfl⟩
  rcases List.getElem?_eq_some_iff.1 hu with ⟨hm, rfl⟩
  rcases Nat.lt_trichotomy n m with hlt | heq | hlt
  · exact absurd huemail (hdisjoint n m hn hm hlt htemail)
  · exact heq
  · exact absurd htemail (hdisjoint m n hm hn hlt huemail)

end System

variable {σ : Type} [Repository σ] [Keeper σ]

/-- What holds of emails in a run. -/
structure EmailsApart (s : System σ) : Prop where
  /-- Stored customers are in normal form, and no two of them share an email. -/
  stored : ∃ cs, Keeper.customers s.world.store = .ok cs ∧ (∀ c ∈ cs, c.Regular) ∧
    (cs.map Customer.email).Nodup
  /-- At most one call has registered an email. -/
  once : ∀ {email : Text} {n m : Nat}, s.Registers email n → s.Registers email m → n = m
  /-- Once a valid call for an email has ended, just one call has registered the email.
      Either it is that call, or that call was told that the email is taken. -/
  ended : ∀ {n : Nat} {args : NewCustomer} {p : Progress Customers.Stage Customer},
    s.tasks[n]? = some (.customer args p) → p.isUnderway = false → args.Valid →
      (Keeper.keeping σ).Takes args → (∃! m, s.Registers (normalEmail args.email) m) ∧
        (s.Registers (normalEmail args.email) n ∨
          p = .raised (.duplicateCustomer (normalEmail args.email)))
  /-- A call that has registered an email can be written, and is valid if its spend is a
      number. -/
  winner : ∀ {n : Nat} {args : NewCustomer} {c : Customer},
    s.tasks[n]? = some (.customer args (.returned c)) →
      (Keeper.keeping σ).Takes args ∧ (args.totalSpends.isNaN = false → args.Valid)
  /-- A step of a call that does not return leaves the customers alone. -/
  spared : ∀ {n : Nat} {args : NewCustomer} {p : Progress Customers.Stage Customer},
    (s.move (.advance n)).tasks[n]? = some (.customer args p) → (∀ c, p ≠ .returned c) →
      Keeper.customers (s.move (.advance n)).world.store = Keeper.customers s.world.store

variable [LawfulKeeper σ]

theorem emailsApart_of_board {s : System σ} {k : Book} (hshows : Shows s.world k)
    (h : (s.board k).Reachable (Keeper.keeping σ)) (hdistinct : k.Distinct) : EmailsApart s where
  stored := ⟨k.customers, LawfulKeeper.customers_eq hshows.holds, h.orderly.regular,
    h.orderly.emails⟩
  once := fun hn hm => hn.unique h hm
  ended := by
    intro n args p hn hended hvalid htakes
    have hanswered := h.answered _ (List.mem_of_getElem? hn)
    have hunique : ∀ {m}, s.Registers (normalEmail args.email) m →
        ∃! m, s.Registers (normalEmail args.email) m :=
      fun hm => ⟨_, hm, fun _ hm' => hm'.unique h hm⟩
    cases p with
    | underway s => cases hended
    | returned c =>
        have hregisters : s.Registers (normalEmail args.email) n := ⟨args, c, hn, rfl⟩
        exact ⟨hunique hregisters, Or.inl hregisters⟩
    | raised f =>
        rcases hanswered hvalid htakes with ⟨rfl, hknown⟩
        rcases System.exists_registers h hknown with ⟨m, hm⟩
        exact ⟨hunique hm, Or.inr rfl⟩
  winner := by
    intro n args c hn
    have hdrafts : args.Drafts c := h.orderly.ready _ (List.mem_of_getElem? hn)
    exact ⟨h.answered _ (List.mem_of_getElem? hn), hdrafts.valid⟩
  spared := by
    intro n args p hafter hp
    rcases s.move_advance n with hsame | ⟨t, ht, hunderway, hstep⟩
    · rw [hsame]
    · rw [hstep] at hafter ⊢
      rcases System.exists_effect hshows h hdistinct ht hunderway with ⟨k', heffect, hshows'⟩
      have htask : (t.advance s.world).1 = .customer args p := by
        rw [System.step, List.getElem?_set_self (List.getElem?_eq_some_iff.1 ht).1] at hafter
        exact Option.some.inj hafter
      rw [htask] at heffect
      rw [LawfulKeeper.customers_eq hshows'.holds, LawfulKeeper.customers_eq hshows.holds]
      exact congrArg Except.ok (heffect.customers_eq hp)

/-- In every run, whatever the order of the steps and whichever store it is, every
    email is registered once. -/
theorem emails_registered_once {w : World σ} (hopening : Opening w) (moves : List Move)
    (hdistinct : ((System.start w).run moves).world.DistinctIds) :
    EmailsApart ((System.start w).run moves) := by
  rcases System.exists_board hopening moves hdistinct with ⟨k, hshows, hreachable⟩
  exact emailsApart_of_board hshows hreachable (hshows.distinct hdistinct)

/-! ## Examples -/

/-- What a caller gives for Ann. -/
def ann (email : Text) (spend : Double) : NewCustomer := ⟨"Ann", email, .null, spend, 0, none⟩

/-- A run in which two calls for one email, in two spellings, both find it free. The
    second one is the first to store its customer. A third call comes when the email
    is taken. -/
def racing : List Move :=
  [.issue (.customer (ann "ann@example.org" Double.zero)),
    .issue (.customer (ann " Ann@Example.org" Double.zero)),
    .advance 0, .advance 1, .advance 0, .advance 1, .advance 1, .advance 0,
    .issue (.customer (ann "ANN@example.org" Double.zero)), .advance 2, .advance 2]

/-- The three calls are valid and have ended, and the second one has registered the
    email, in either store. -/
theorem emails_registered_once_in_racing :
    let midnight : Timestamp := ⟨⟨2024, 1, 1⟩, 0, some 0⟩
    let inMemory := (System.start (World.blank midnight)).run racing
    let inRows := (System.start (World.blankDatabase midnight)).run racing
    (inMemory.world.DistinctIds ∧ (∀ t ∈ inMemory.tasks, t.Asks "ann@example.org") ∧
      inMemory.tasks.map Task.registered = [[], [("ann@example.org" : Text)], []] ∧
      EmailsApart inMemory) ∧
    inRows.world.DistinctIds ∧ (∀ t ∈ inRows.tasks, t.Asks "ann@example.org") ∧
      inRows.tasks.map Task.registered = [[], [("ann@example.org" : Text)], []] ∧
      EmailsApart inRows := by
  intro midnight inMemory inRows
  have hclock : inUtc midnight = .ok midnight := inUtc_eq_ok_iff.2 (by decide +kernel)
  have hmemory : inMemory.world.DistinctIds ∧ (∀ t ∈ inMemory.tasks, t.Asks "ann@example.org") ∧
      inMemory.tasks.map Task.registered = [[], [("ann@example.org" : Text)], []] := by
    decide +kernel
  have hrows : inRows.world.DistinctIds ∧ (∀ t ∈ inRows.tasks, t.Asks "ann@example.org") ∧
      inRows.tasks.map Task.registered = [[], [("ann@example.org" : Text)], []] := by
    decide +kernel
  exact ⟨⟨hmemory.1, hmemory.2.1, hmemory.2.2,
      emails_registered_once (World.opening_blank hclock) racing hmemory.1⟩,
    hrows.1, hrows.2.1, hrows.2.2,
      emails_registered_once (World.opening_blankDatabase hclock) racing hrows.1⟩

/-- A run in which a call whose spend is no number comes before a valid one. -/
def racingWithoutNumber : List Move :=
  [.issue (.customer (ann "ann@example.org" .nan)), .advance 0, .advance 0, .advance 0,
    .issue (.customer (ann "ann@example.org" Double.zero)), .advance 1, .advance 1]

/-- The store in memory takes the spend that is no number, so that no valid call for
    the email registers it, although there is one and all calls have ended. -/
theorem valid_call_without_winner :
    let midnight : Timestamp := ⟨⟨2024, 1, 1⟩, 0, some 0⟩
    let s := (System.start (World.blank midnight)).run racingWithoutNumber
    Opening (World.blank midnight) ∧ s.world.DistinctIds ∧
      (∀ t ∈ s.tasks, t.isUnderway = false) ∧ (∃ t ∈ s.tasks, t.Asks "ann@example.org") ∧
      ∀ t ∈ s.tasks, t.Asks "ann@example.org" → t.registered = [] := by
  intro midnight s
  have hclock : inUtc midnight = .ok midnight := inUtc_eq_ok_iff.2 (by decide +kernel)
  refine ⟨World.opening_blank hclock, ?_⟩
  decide +kernel

end Intake

end Outreach
