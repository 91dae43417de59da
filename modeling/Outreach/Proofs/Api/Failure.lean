import Outreach.Api.Server
import Outreach.Proofs.Api.Call
import Outreach.Proofs.Run.Alone

/-!
# Refused Requests

Whatever state the service has come to, a request that is refused leaves every
table as it was, so long as what the caller gave can travel back. A phone number
or an item of an order with a lone half of a surrogate pair cannot: the entity is
stored, and the answer with it is refused.

## Main definitions

* `Api.App.call?`: What a request asks for.
* `Api.Plain`, `Api.Absorbs`: What is not affected by headers, log, metrics and
  identifiers.
* `Api.App.Reachable`: The states of the service.

## Theorems

* `Api.App.respond_of_answer`, `Api.App.absorbed`: What holds of every call holds of
  every answered request.
* `Api.App.kept_respond`: What the calls that change the tables keep, every request
  keeps.
* `Api.App.Reachable.tied`: Records belong to stored campaigns in every state.
* `Api.refused_request_changes_nothing`: Refused requests.
* `Api.refused_customer_is_stored`: A customer that is refused and stored.
-/

namespace Outreach

namespace Api

/-- What a request asks for, if anything. -/
def App.call? (app : App) (r : Request) : Option Call :=
  match app.targetOf r with
  | .place (.route route) parts => (Call.read r route parts).toOption
  | _ => none

/-- A condition on how a request ends that depends on the status of its response, on what
    is launched and on the tables only. -/
def Plain (ok : Outcome → World Memory → Prop) : Prop :=
  ∀ {o o' : Outcome} {v v' : World Memory}, o'.response.status = o.response.status →
    o'.launch = o.launch → v.Same v' → ok o v → ok o' v'

/-- Such a condition that a failure satisfies as well as any answer without a launch. -/
structure Absorbs (ok : Outcome → World Memory → Prop) (bad : World Memory → Prop) : Prop where
  failed : ∀ {v v' : World Memory}, v.Same v' → bad v → bad v'
  answered : Plain ok
  refused : ∀ {o : Outcome} {v : World Memory}, o.launch = none → bad v → ok o v

theorem status_withHeader (response : Response) (name value : String) :
    (response.withHeader name value).status = response.status := rfl

theorem status_withHeaders (headers : List (String × String)) :
    ∀ response : Response, (response.withHeaders headers).status = response.status := by
  induction headers with
  | nil => exact fun _ => rfl
  | cons h rest ih => exact fun response => ih (response.withHeader h.1 h.2)

theorem status_grant (s : SecuritySettings) (r : Request) (response : Response) :
    (grant s r response).status = response.status := by
  unfold grant
  cases r.header? "origin" with
  | none => rfl
  | some origin => exact status_withHeaders _ _

theorem status_sent (r : Request) (response : Response) :
    (App.sent r response).status = response.status := by
  unfold App.sent
  split <;> rfl

namespace App

variable {app : App} {r : Request} {w : World Memory} {ok : Outcome → World Memory → Prop}
  {bad : World Memory → Prop}

theorem ends_answerOf (h : Absorbs ok bad) (f : Fault) (hw : bad w) :
    Action.Ends (answerOf f) w ok fun _ v => bad v := by
  unfold answerOf
  split
  · exact h.refused rfl hw
  · exact hw

theorem ends_outcome (h : Absorbs ok bad) (hw : bad w)
    (hcall : ∀ call, app.call? r = some call →
      Action.Ends (call.perform app) w ok fun _ v => bad v) :
    Action.Ends (app.outcome r) w ok fun _ v => bad v := by
  unfold outcome
  cases htarget : app.targetOf r with
  | place p parts =>
      cases p with
      | route route =>
          simp only [follow]
          cases hread : Call.read r route parts with
          | error refusal =>
              cases refusal with
              | input whole issues => exact h.refused rfl hw
              | unreadable => exact h.refused rfl hw
              | fault f => exact ends_answerOf h f hw
          | ok call =>
              simp only [Action.ends_bind, Action.ends_capture]
              refine (hcall call ?_).mono (fun _ _ hok => hok) fun f v hv => ends_answerOf h f hv
              simp only [call?, htarget, hread, Except.toOption]
      | manual type => exact h.refused rfl hw
      | metrics => exact h.refused rfl hw
  | otherMethod first => exact h.refused rfl hw
  | moved path => exact h.refused rfl hw
  | nothing => exact h.refused rfl hw

/-- What holds of what is done for a request holds of the answered request, whatever is
    done besides. A failure becomes an internal error. -/
theorem respond_of_answer (h : Plain ok)
    (hanswer : ∀ v : World Memory, v.store = w.store → v.clock = w.clock →
      Action.Ends (app.answer r) v ok
        fun f v => ok (.done (internalError app.settings.debug f)) v) :
    ok (app.respond r w).1 (app.respond r w).2 := by
  have hidentified : Action.Ends (app.identified r) w ok
      fun f v => ok (.done (internalError app.settings.debug f)) v := by
    have hid : Action.Ends (identify r) w (fun _ v => v.store = w.store ∧ v.clock = w.clock)
        fun f v => ok (.done (internalError app.settings.debug f)) v := by
      unfold identify
      split
      · exact ⟨rfl, rfl⟩
      · exact ⟨rfl, rfl⟩
    refine hid.bind ?_
    rintro id v ⟨hstore, hclock⟩
    rw [Action.ends_within]
    simp only [Action.ends_bind, count, Action.ends_measure, Action.ends_pure]
    refine (hanswer { v with fields := v.fields.merge [("request_id", .json (.string id))] } hstore
      hclock).mono (fun o u ho => ?_) fun _ u hu => h (v := u) rfl rfl rfl hu
    exact h (v := u) (status_withHeader _ _ _) rfl rfl ho
  unfold Action.Ends at hidentified
  unfold respond
  cases hrun : app.identified r w with
  | ok o v =>
      rw [hrun] at hidentified
      exact h (status_sent _ _) rfl rfl hidentified
  | error f v =>
      rw [hrun] at hidentified
      exact h (o := .done (internalError app.settings.debug f)) (status_sent _ _) rfl rfl
        hidentified

/-- What holds of the call of a request holds of the request. -/
theorem absorbed (h : Absorbs ok bad) (hw : bad w)
    (hcall : ∀ call v, app.call? r = some call → w.Same v → v.clock = w.clock → bad v →
      Action.Ends (call.perform app) v ok fun _ v => bad v) :
    ok (app.respond r w).1 (app.respond r w).2 := by
  refine respond_of_answer h.answered fun v hstore hclock => ?_
  have hsame : w.Same v := congrArg Memory.tables hstore
  have hv := h.failed hsame hw
  unfold answer
  cases inquiry? app.settings.security r with
  | some response => exact h.refused rfl hv
  | none =>
      have houtcome := ends_outcome h hv fun call heq => hcall call v heq hsame hclock hv
      refine (houtcome.mono (fun _ _ ho => ho) fun _ _ hu => h.refused rfl hu).bind fun o u ho => ?_
      exact h.answered (status_grant _ _ _) rfl rfl ho

/-- The states of the service: calls go on in the background, conditions turn, and
    requests are answered in between. -/
inductive Reachable (app : App) : Run.System → Prop
  | start {w : World Memory} (tables : w.store.tables = Tables.empty) : Reachable app (.start w)
  | moved {s : Run.System} (before : Reachable app s) (m : Run.Move) : Reachable app (s.move m)
  | answered {s : Run.System} (before : Reachable app s) (r : Request) :
      Reachable app { s with world := (app.respond r s.world).2 }

end App

/-- A call that is served as a whole keeps the ties, whatever is going on besides. -/
theorem tied_serve {s : Run.System} (h : s.board.Tied) (r : Run.Request) :
    Run.Board.Tied { s.board with ledger := (r.serve s.world).2.ledger } := by
  rcases s.run_alone r with ⟨n, htasks, hworld⟩
  have hrun := h.run (.issue r :: List.replicate n (.advance s.tasks.length))
  have hledger : (s.run (.issue r :: List.replicate n (.advance s.tasks.length))).board.ledger =
      (r.serve s.world).2.ledger := congrArg World.ledger hworld
  refine ⟨hledger ▸ hrun.ledger, fun t ht => hledger ▸ hrun.tasks t ?_⟩
  change t ∈ (s.run _).tasks
  rw [htasks]
  exact List.mem_append_left _ ht

theorem tied_of_same {b : Run.Board} {v v' : World Memory} (hsame : v.Same v')
    (h : Run.Board.Tied { b with ledger := v.ledger }) :
    Run.Board.Tied { b with ledger := v'.ledger } := by
  have hcampaigns : v'.ledger.tables.campaigns = v.ledger.tables.campaigns :=
    congrArg Tables.campaigns hsame
  refine ⟨h.ledger.of_same hcampaigns (congrArg Tables.records hsame), fun t ht => ?_⟩
  exact (h.tasks t ht).later fun id hid => hid.of_same hcampaigns

/-- A call as a whole ends as its action does. -/
theorem ended_eq {S α : Type} (x : Action Memory α) (w : World Memory) :
    (Progress.ended x w : Progress S α × World Memory) =
      match x w with
      | .ok a v => (.returned a, v)
      | .error f v => (.raised f, v) := by
  change Progress.after (EStateM.bind x _) w = _
  unfold Progress.after EStateM.bind
  cases x w <;> rfl

/-- What holds at the end of a call as a whole holds however it ends. -/
theorem ends_of_ended {S α : Type} {x : Action Memory α} {w : World Memory}
    {P : World Memory → Prop} (h : P (Progress.ended x w : Progress S α × World Memory).2) :
    Action.Ends x w (fun _ v => P v) fun _ v => P v := by
  rw [ended_eq] at h
  unfold Action.Ends
  cases hx : x w <;>
  · rw [hx] at h
    exact h

/-- What depends on the tables only and is kept by the calls that change them is kept by
    every call of the interface. -/
theorem Call.ends_kept (app : App) (call : Call) {P : World Memory → Prop}
    (hsame : ∀ {v v' : World Memory}, v.Same v' → P v → P v')
    (hserve : ∀ (r : Run.Request) {v : World Memory}, P v → P (r.serve v).2) {v : World Memory}
    (h : P v) : Action.Ends (call.perform app) v (fun _ u => P u) fun _ u => P u := by
  have hreads : ∀ {α : Type} (x : Action Memory α) [Action.Reads x],
      Action.Ends x v (fun _ u => P u) fun _ u => P u :=
    fun x _ => (Action.Reads.same (x := x) v).mono (fun _ _ hv => hsame hv h) fun _ _ hv =>
      hsame hv h
  cases call with
  | health => exact h
  | ready => exact h
  | preview rules => exact (hreads (Audience.preview rules none)).bind fun _ _ hu => hu
  | listCampaigns page =>
      refine (hreads (Campaigns.list page)).bind fun cs u hu => ?_
      simp only [Action.ends_bind, Action.ends_ofExcept, Action.ends_pure]
      exact ⟨fun _ _ => hu, fun _ _ => hu⟩
  | showCampaign id =>
      refine (hreads (Campaigns.find id)).bind fun c u hu => ?_
      simp only [Action.ends_bind, Action.ends_ofExcept, Action.ends_pure]
      exact ⟨fun _ _ => hu, fun _ _ => hu⟩
  | listDeliveries id status page =>
      exact (hreads (Campaigns.deliveries id page status)).bind fun _ _ hu => hu
  | listCustomers page => exact (hreads (Customers.list page)).bind fun _ _ hu => hu
  | listOrders page => exact (hreads (Orders.list page)).bind fun _ _ hu => hu
  | totals =>
      cases hfault : app.totalsFault with
      | none =>
          simp only [Call.perform, App.totals, hfault]
          exact (hreads (dashboard none)).bind fun _ _ hu => hu
      | some f =>
          simp only [Call.perform, App.totals, hfault]
          exact h
  | createCampaign args =>
      refine (ends_of_ended (hserve (.campaign ⟨args.name, args.message, args.rules⟩) h)).bind
        fun c u hu => ?_
      simp only [Action.ends_bind, Action.ends_ofExcept, Action.ends_pure]
      exact ⟨fun _ _ => hu, fun _ _ => hu⟩
  | receive receipt =>
      exact (ends_of_ended (hserve (.receipt ⟨receipt.recordId, receipt.status⟩) h)).bind
        fun _ _ hu => hu
  | createCustomer args => exact (ends_of_ended (hserve (.customer args) h)).bind fun _ _ hu => hu
  | createOrder args => exact (ends_of_ended (hserve (.order args) h)).bind fun _ _ hu => hu

/-- It is kept by every request. -/
theorem App.kept_respond (app : App) (r : Request) {P : World Memory → Prop}
    (hsame : ∀ {v v' : World Memory}, v.Same v' → P v → P v')
    (hserve : ∀ (r : Run.Request) {v : World Memory}, P v → P (r.serve v).2) {w : World Memory}
    (h : P w) : P (app.respond r w).2 := by
  have habsorbs : Absorbs (fun _ v => P v) P := ⟨hsame, fun _ _ => hsame, fun _ hv => hv⟩
  exact absorbed habsorbs h fun call _ _ _ _ hv => Call.ends_kept app call hsame hserve hv

/-- In every state of the service, the campaign of every record is stored. -/
theorem App.Reachable.tied {app : App} {s : Run.System} (h : app.Reachable s) : s.board.Tied := by
  induction h with
  | start tables =>
      refine ⟨fun r hr => ?_, fun t ht => absurd ht List.not_mem_nil⟩
      simp only [Run.System.board, Run.System.start, World.ledger, tables] at hr
      cases hr
  | moved before m ih => exact ih.move m
  | @answered s before r ih =>
      exact app.kept_respond r (P := fun v => Run.Board.Tied { s.board with ledger := v.ledger })
        tied_of_same (fun r v hv => tied_serve (s := { s with world := v }) hv r) ih

/-- A request that is refused leaves customers, orders, campaigns and delivery
    records as they were in any state of the service, and has nothing launched,
    unless what its caller gave cannot travel. -/
theorem refused_request_changes_nothing {app : App} {s : Run.System} (h : app.Reachable s)
    (hclock : s.world.clock.isAware = true) (r : Request)
    (htravels : ∀ call, app.call? r = some call → call.Travels)
    (hrefused : 400 ≤ (app.respond r s.world).1.response.status) :
    (app.respond r s.world).2.store.tables = s.world.store.tables ∧
      (app.respond r s.world).1.launch = none := by
  have habsorbs : Absorbs (Spares s.world) s.world.Same := by
    refine ⟨fun hsame h => Eq.trans hsame h, fun hstatus hlaunch hsame h hrefused => ?_,
      fun hlaunch h _ => ⟨h, hlaunch⟩⟩
    rw [hstatus] at hrefused
    rw [hlaunch]
    exact ⟨Eq.trans hsame (h hrefused).1, (h hrefused).2⟩
  refine App.absorbed habsorbs rfl (fun call v hcall _ hvclock hv => ?_) hrefused
  have hwhole : call.Whole := by
    unfold App.call? at hcall
    split at hcall
    · rename_i route parts htarget
      cases hread : Call.read r route parts with
      | error refusal =>
          rw [hread] at hcall
          cases hcall
      | ok read =>
          rw [hread] at hcall
          cases hcall
          exact Call.whole_of_read hread
    · cases hcall
  have htied : v.ledger.Tied := (tied_of_same (b := s.board) hv h.tied).ledger
  refine (Call.ends_perform app call (hvclock ▸ hclock) htied hwhole (htravels call hcall)).mono
    (fun o u ho hstatus => ?_) fun _ u hu => Eq.trans hu hv
  exact ⟨Eq.trans (ho hstatus).1 hv, (ho hstatus).2⟩

/-- The settings of a service as an example. -/
def sampleSettings : Settings where
  environment := "test"
  debug := false
  appName := "Outreach"
  appVersion := "1.0.0"
  apiPrefix := "/api"
  host := "0.0.0.0"
  port := 8000
  database := default
  vendor := default
  observability := ⟨false, "/metrics", "INFO", "text", none⟩
  security := ⟨[], false⟩

/-- The service with these settings. -/
def sampleApp : App := (App.create sampleSettings).toOption.getD default

/-- A request to take a customer in, with a phone number as it is written in the
    document. -/
def newcomer (phone : String) : Request where
  method := "POST"
  scheme := "http"
  host := "engine.test"
  path := "/api/v1/customers"
  query := ""
  parameters := []
  headers := [("content-type", "application/json")]
  body := "\x7b\"name\":\"Ann\",\"email\":\"ann@example.org\",\"phone\":\"" ++ phone ++ "\"\x7d"

/-- The state of the service after one such request. -/
def sampleState : Run.System :=
  { Run.System.start Run.sampleWorld with
    world := (sampleApp.respond (newcomer "555") Run.sampleWorld).2 }

/-- The same request once more is refused because of the email. -/
theorem refused_request_changes_nothing_in_sample :
    sampleApp.Reachable sampleState ∧
      (sampleApp.respond (newcomer "555") sampleState.world).1.response.status = 409 ∧
      (sampleApp.respond (newcomer "555") sampleState.world).2.store.tables =
        sampleState.world.store.tables ∧
      (sampleApp.respond (newcomer "555") sampleState.world).1.launch = none := by
  have hreachable : sampleApp.Reachable sampleState := .answered (.start rfl) (newcomer "555")
  have hfacts : (sampleApp.respond (newcomer "555") sampleState.world).1.response.status = 409 ∧
      sampleState.world.clock.isAware = true ∧
      (sampleApp.call? (newcomer "555")).all (fun call => decide call.Travels) = true := by
    decide +kernel
  rcases hfacts with ⟨hstatus, hclock, htravels⟩
  refine ⟨hreachable, hstatus, refused_request_changes_nothing hreachable hclock (newcomer "555")
    (fun call hcall => ?_) (hstatus ▸ by decide)⟩
  rw [hcall] at htravels
  exact of_decide_eq_true htravels

/-- A phone number with one half of a surrogate pair: the customer is refused, and
    stored. -/
theorem refused_customer_is_stored :
    sampleApp.Reachable (.start Run.sampleWorld) ∧
      (sampleApp.respond (newcomer "\\ud800") Run.sampleWorld).1.response.status = 422 ∧
      Run.sampleWorld.store.tables.customers.length = 0 ∧
      (sampleApp.respond (newcomer "\\ud800") Run.sampleWorld).2.store.tables.customers.length =
        1 := by
  refine ⟨.start rfl, ?_⟩
  decide +kernel

end Api

end Outreach
