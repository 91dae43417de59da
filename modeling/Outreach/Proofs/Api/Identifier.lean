import Outreach.Proofs.Api.Acceptance

/-!
# Responses Name Their Requests

The identifier of a request is settled before anything else happens and set as a header
when everything is done. What happens in between may fail, and then an internal error
takes the place of the response that the header would have been set on. Every other
response carries it: successes and refusals, pages and redirections, and the answers to
requests of other origins that only ask.

Which of the two it is shows in the status, since no response but an internal error has
the status 500.

## Main definitions

* `Api.Identified`: A response that carries the identifier of its request.
* `Api.Unhandled`: A response that was put together after a failure.

## Theorems

* `Api.Call.ends_perform_status`, `Api.App.ends_answer`: What is done for a request is no
  internal error, unless it fails.
* `Api.App.ends_identified`: A response with its header.
* `Api.responses_carry_identifier`: Every response to every request.
* `Api.internal_error_without_identifier`: An internal error.
-/

namespace Outreach

open Outreach.Action

namespace Action

/-! ## What grows -/

namespace Grows

instance (page : Page) : Grows (Customers.list page : Action Memory _) :=
  inferInstanceAs (Grows (unitOfWork (Memory.ask _)))

instance (page : Page) : Grows (Orders.list page : Action Memory _) :=
  inferInstanceAs (Grows (unitOfWork (Memory.ask _)))

instance (page : Page) : Grows (Campaigns.list page : Action Memory _) :=
  inferInstanceAs (Grows (unitOfWork (Memory.ask _)))

instance (id : Uuid) (page : Page) (status : Option DeliveryStatus) :
    Grows (Campaigns.deliveries id page status : Action Memory _) := by
  have hrecords : Grows (Repository.recordsOf id page status : Action Memory _) :=
    inferInstanceAs (Grows (Memory.ask _))
  unfold Campaigns.deliveries
  exact inferInstance

instance (app : Api.App) (call : Api.Call) : Grows (call.perform app) := by
  cases call with
  | totals =>
      unfold Api.Call.perform Api.App.totals
      cases app.totalsFault <;> exact inferInstance
  | _ =>
      unfold Api.Call.perform
      exact inferInstance

instance (f : Fault) : Grows (Api.App.answerOf f) := by
  unfold Api.App.answerOf
  split <;> exact inferInstance

instance (app : Api.App) (r : Api.Request) : Grows (app.answer r) := by
  unfold Api.App.answer
  split
  · exact inferInstance
  refine .bind ?_ fun _ => inferInstance
  unfold Api.App.outcome
  split
  · unfold Api.App.follow
    split <;> exact inferInstance
  all_goals exact inferInstance

end Grows

end Action

namespace Api

/-! ## Headers -/

theorem filter_others {headers : List (String × String)} {name : String} :
    (headers.filter fun h => h.1 != name).filter (fun h => h.1 == name) = [] := by
  refine List.filter_eq_nil_iff.2 fun h hmem => ?_
  have hne := (List.mem_filter.1 hmem).2
  simp only [bne_iff_ne, ne_eq] at hne
  simp only [beq_iff_eq, hne, not_false_eq_true]

/-- A header that is set stands there once. -/
theorem filter_withHeader (response : Response) (name value : String) :
    (response.withHeader name value).headers.filter (fun h => h.1 == name) = [(name, value)] := by
  simp only [Response.withHeader, List.filter_append, filter_others, List.nil_append,
    List.filter_cons_of_pos, beq_self_eq_true, List.filter_nil]

/-- The values of a header, as often as it stands there. -/
def Response.valuesOf (response : Response) (name : String) : List String :=
  (response.headers.filter fun h => h.1 == name).map Prod.snd

@[simp] theorem valuesOf_withHeader (response : Response) (name value : String) :
    (response.withHeader name value).valuesOf name = [value] := by
  rw [Response.valuesOf, filter_withHeader]
  rfl

theorem headers_sent (r : Request) (response : Response) :
    (App.sent r response).headers = response.headers := by
  unfold App.sent
  split <;> rfl

/-! ## Statuses -/

/-- A failure that is answered is no internal error. -/
theorem status_of_answer? {f : Fault} {status : Nat} {label : String}
    (h : f.answer? = some (status, label)) : status ≠ 500 := by
  unfold Fault.answer? at h
  split at h
  case h_9 =>
    split at h <;> cases h
    decide
  all_goals
    cases h
    decide

theorem succeed_ne {status : Nat} (h : status ≠ 500) (value : Json) :
    (succeed status value).status ≠ 500 := by
  rcases status_succeed status value with hstatus | hstatus
  · rwa [hstatus]
  · rw [hstatus]
    decide

theorem whole_ne {status : Nat} (h : status ≠ 500) (document : Json) :
    (whole status document).status ≠ 500 := by
  rcases status_whole status document with hstatus | hstatus
  · rwa [hstatus]
  · rw [hstatus]
    decide

theorem inquiry_ne {s : SecuritySettings} {r : Request} {response : Response}
    (h : inquiry? s r = some response) : response.status ≠ 500 := by
  have hresponse : ∀ origin method, (inquiryResponse s r origin method).status ≠ 500 := by
    intro origin method
    have hplain : ∀ (status : Nat) (s : String), status ≠ 500 →
        (Response.plain status s).status ≠ 500 := fun _ _ hne => hne
    simp only [inquiryResponse]
    split <;> simp only [status_withHeader, status_withHeaders] <;> split <;>
      exact hplain _ _ (by decide)
  unfold inquiry? at h
  split at h
  · split at h <;> cases h
    exact hresponse _ _
  · cases h

/-- Whatever is done for a call, its response is no internal error. -/
theorem Call.ends_perform_status (app : App) (call : Call) (w : World Memory) :
    Ends (call.perform app) w (fun o _ => o.response.status ≠ 500) fun _ _ => True := by
  -- What was found out before does not matter for the status.
  have hafter : ∀ {α : Type} {x : Action Memory α} {f : α → Action Memory Outcome}
      {v : World Memory}, (∀ a u, Ends (f a) u (fun o _ => o.response.status ≠ 500)
        fun _ _ => True) →
      Ends (x >>= f) v (fun o _ => o.response.status ≠ 500) fun _ _ => True := by
    intro α x f v hf
    rw [ends_bind]
    exact ends_of_forall hf fun _ _ => trivial
  cases call with
  | health => exact whole_ne (by decide) _
  | ready => exact hafter fun v _ => succeed_ne (by split <;> decide) _
  | createCampaign | listCampaigns | showCampaign =>
      exact hafter fun _ _ => hafter fun _ _ => succeed_ne (by decide) _
  | _ => exact hafter fun _ _ => succeed_ne (by decide) _

namespace App

variable {app : App} {r : Request} {w : World Memory}

/-- A failure is answered, or it is none that an answer is known for. -/
theorem ends_answerOf_unknown (f : Fault) :
    Ends (answerOf f) w (fun o _ => o.response.status ≠ 500) fun f _ => f.answer? = none := by
  unfold answerOf
  cases hanswer : f.answer? with
  | none => exact hanswer
  | some answer => exact status_of_answer? hanswer

/-- What is done for a request is no internal error, unless it fails in a way that no
    answer is known for. -/
theorem ends_answer (app : App) (r : Request) (w : World Memory) :
    Ends (app.answer r) w (fun o _ => o.response.status ≠ 500) fun f _ => f.answer? = none := by
  have houtcome : Ends (app.outcome r) w (fun o _ => o.response.status ≠ 500)
      fun f _ => f.answer? = none := by
    unfold outcome
    split
    · unfold follow
      split
      · exact fun h => absurd ((status_refuseInput _ _).symm.trans h) (by decide)
      · exact (by decide : (400 : Nat) ≠ 500)
      · exact ends_answerOf_unknown _
      · rw [ends_bind, ends_capture]
        exact (Call.ends_perform_status app _ w).mono (fun _ _ h => h) fun f _ _ =>
          ends_answerOf_unknown f
    · exact (by decide : (200 : Nat) ≠ 500)
    · exact (by decide : (200 : Nat) ≠ 500)
    · exact (by decide : (405 : Nat) ≠ 500)
    · exact (by decide : (307 : Nat) ≠ 500)
    · exact (by decide : (404 : Nat) ≠ 500)
  unfold answer
  split
  · rename_i response hinquiry
    exact inquiry_ne hinquiry
  · refine houtcome.bind fun o v ho => ?_
    rwa [ends_pure, status_grant]

end App

/-! ## Identifiers -/

/-- The identifier of a request that came in at a world, and the world after it: the one
    that the caller gave, word for word, if it can be read as one, and otherwise the next
    of the supply, which is then used up. -/
structure IdentifierOf (r : Request) (w v : World Memory) (id : String) : Prop where
  given : ∀ text, r.header? identifierHeader = some text →
    (Uuid.readLoose text).isOk = true → id = text
  fresh : (∀ text, r.header? identifierHeader = some text →
    (Uuid.readLoose text).isOk = false) → id = (w.supply w.drawn).text ∧ w.drawn < v.drawn

/-- A response that carries the identifier of its request. -/
def Identified (r : Request) (w v : World Memory) (response : Response) : Prop :=
  ∃ id, IdentifierOf r w v id ∧ response.valuesOf identifierHeader = [id]

/-- A response that was put together after a failure that no answer is known for. -/
def Unhandled (app : App) (r : Request) (response : Response) : Prop :=
  ∃ f : Fault, f.answer? = none ∧
    response = App.sent r (internalError app.settings.debug f)

theorem IdentifierOf.later {r : Request} {w v u : World Memory} {id : String}
    (h : IdentifierOf r w v id) (hdrawn : v.drawn ≤ u.drawn) : IdentifierOf r w u id :=
  ⟨h.given, fun hnone => ⟨(h.fresh hnone).1, (h.fresh hnone).2.trans_le hdrawn⟩⟩

theorem ends_identify (r : Request) (w : World Memory) :
    Ends (identify r) w (fun id v => IdentifierOf r w v id) fun _ _ => False := by
  unfold identify givenIdentifier?
  cases hheader : r.header? identifierHeader with
  | none =>
      refine ⟨fun text htext => ?_, fun _ => ⟨rfl, Nat.lt_succ_self _⟩⟩
      cases hheader.symm.trans htext
  | some given =>
      by_cases hok : (Uuid.readLoose given).isOk = true
      · simp only [hok, if_true]
        refine ⟨fun text htext _ => Option.some.inj (hheader.symm.trans htext), fun hnone => ?_⟩
        exact absurd hok (by rw [hnone given hheader]; decide)
      · simp only [hok, Bool.false_eq_true, if_false]
        refine ⟨fun text htext hread => ?_, fun _ => ⟨rfl, Nat.lt_succ_self _⟩⟩
        cases hheader.symm.trans htext
        exact absurd hread hok

namespace App

variable {app : App} {r : Request} {w : World Memory}

/-- A request that does not fail gets a response with its identifier. -/
theorem ends_identified (app : App) (r : Request) (w : World Memory) :
    Ends (app.identified r) w
      (fun o v => o.response.status ≠ 500 ∧ Identified r w v o.response)
      fun f _ => f.answer? = none := by
  refine ((ends_identify r w).mono (fun _ _ h => h) fun _ _ h => h.elim).bind fun id v hid => ?_
  rw [ends_within]
  simp only [ends_bind, count, ends_measure, ends_pure]
  refine ((ends_answer app r _).and (Grows.precedes (x := app.answer r) _)).mono ?_
    fun _ _ h => h.1
  rintro o u ⟨hstatus, hprecedes⟩
  exact ⟨hstatus, id, hid.later hprecedes.drawn, valuesOf_withHeader _ _ _⟩

/-- What comes after a response draws no identifiers. -/
theorem handle_eq (app : App) (r : Request) (a : Agenda Memory) :
    (app.handle r a).1 = (app.respond r a.world).1.response ∧
      (app.handle r a).2.world.drawn = (app.respond r a.world).2.drawn := by
  have hcollect : ∀ b : Agenda Memory, b.collect.world.drawn = b.world.drawn := by
    intro b
    unfold Agenda.collect
    split <;> rfl
  rcases hrespond : app.respond r a.world with ⟨o, v⟩
  simp only [handle, hrespond]
  cases o.launch <;> exact ⟨rfl, hcollect _⟩

/-- A request is answered with its identifier, or with an internal error. -/
theorem respond_identified (app : App) (r : Request) (w : World Memory) :
    ((app.respond r w).1.response.status ≠ 500 ∧
        Identified r w (app.respond r w).2 (app.respond r w).1.response) ∨
      ((app.respond r w).1.response.status = 500 ∧
        Unhandled app r (app.respond r w).1.response ∧
        (app.respond r w).1.response.valuesOf identifierHeader = []) := by
  have hends := app.ends_identified r w
  unfold Ends at hends
  unfold respond
  cases hrun : app.identified r w with
  | ok o v =>
      rw [hrun] at hends
      rcases hends with ⟨hstatus, id, hid, hvalues⟩
      refine Or.inl ⟨?_, id, hid, ?_⟩
      · rwa [status_sent]
      · rwa [Response.valuesOf, headers_sent]
  | error f v =>
      rw [hrun] at hends
      refine Or.inr ⟨status_sent _ _, ⟨f, hends, rfl⟩, ?_⟩
      simp only [Outcome.done, Response.valuesOf, headers_sent]
      rfl

end App

/-- Every response of the service carries the identifier of its request, once, whatever the
    request and the state of the service, unless it is an internal error. The internal
    errors are the responses after failures that no answer is known for, and carry no
    identifier. -/
theorem responses_carry_identifier (app : App) (r : Request) (a : Agenda Memory) :
    ((app.handle r a).1.status ≠ 500 →
        Identified r a.world (app.handle r a).2.world (app.handle r a).1) ∧
      ((app.handle r a).1.status = 500 →
        Unhandled app r (app.handle r a).1 ∧
          (app.handle r a).1.valuesOf identifierHeader = []) := by
  rcases app.handle_eq r a with ⟨hresponse, hdrawn⟩
  rw [hresponse]
  rcases app.respond_identified r a.world with ⟨hstatus, id, hid, hvalues⟩ | ⟨hstatus, hfailed⟩
  · exact ⟨fun _ => ⟨id, hid.later hdrawn.ge, hvalues⟩, fun h => absurd h hstatus⟩
  · exact ⟨fun h => absurd hstatus h, fun _ => hfailed⟩

/-! ## Example -/

/-- The service at the start, with nothing going on beside it. -/
def sampleAgenda : Agenda Memory :=
  let still : Double × Double := (Double.zero, Double.zero)
  .idle Run.sampleWorld (.idle ⟨Double.zero, still, still⟩ fun _ => Double.zero) false

/-- An identifier that a caller gives. -/
def sampleIdentifier : String := "\x7b0F8FAD5B-d9cb-469f-a165-70867728950e\x7d"

/-- A request with that identifier. -/
def Request.named (r : Request) : Request :=
  { r with headers := (identifierHeader, sampleIdentifier) :: r.headers }

/-- A customer is taken in under the identifier that the caller gave, in braces and with
    capital letters as it is; a request without one gets the first of the supply. -/
theorem responses_carry_identifier_in_sample :
    (sampleApp.handle (newcomer "555").named sampleAgenda).1.valuesOf identifierHeader =
        [sampleIdentifier] ∧
      (sampleApp.handle (newcomer "555") sampleAgenda).1.valuesOf identifierHeader =
        [(Uuid.ofNat 0).text] := by
  have hfacts : (sampleApp.handle (newcomer "555").named sampleAgenda).1.status = 201 ∧
      (sampleApp.handle (newcomer "555") sampleAgenda).1.status = 201 ∧
      (newcomer "555").named.header? identifierHeader = some sampleIdentifier ∧
      (Uuid.readLoose sampleIdentifier).isOk = true ∧
      (newcomer "555").header? identifierHeader = none := by
    decide +kernel
  rcases hfacts with ⟨hnamed, hplain, hgiven, hread, hnone⟩
  have hne : (201 : Nat) ≠ 500 := by decide
  rcases (responses_carry_identifier sampleApp (newcomer "555").named sampleAgenda).1
    (hnamed ▸ hne) with ⟨id, hid, hvalues⟩
  rcases (responses_carry_identifier sampleApp (newcomer "555") sampleAgenda).1
    (hplain ▸ hne) with ⟨id', hid', hvalues'⟩
  refine ⟨?_, ?_⟩
  · rw [hvalues, hid.given _ hgiven hread]
  · rw [hvalues', (hid'.fresh fun text htext => ?_).1]
    · rfl
    · cases hnone.symm.trans htext

/-- A request with an identifier of its own that ends in an internal error is answered
    without it. -/
theorem internal_error_without_identifier :
    sampleApp.Reachable (.start sampleAgenda.world) ∧
      earlyVisitor.named.header? identifierHeader = some sampleIdentifier ∧
      (Uuid.readLoose sampleIdentifier).isOk = true ∧
      (sampleApp.handle earlyVisitor.named sampleAgenda).1.status = 500 ∧
      (sampleApp.handle earlyVisitor.named sampleAgenda).1.header? identifierHeader = none := by
  refine ⟨.start rfl, ?_⟩
  decide +kernel

end Api

end Outreach
