import Outreach.Proofs.Run.System
import Outreach.Proofs.Vendor.Progress

/-!
# Sends Are Accounted For

Every send reports at most once, for its own record and with the outcome that its draw means;
and every send is in flight, was delivered, was lost with a line in the log, or was called
off. This holds for every course of the loop from a vendor without sends. Draining leaves
nothing in flight and calls nothing off; closing leaves nothing in flight of what was there,
and none of it reports any more.

## Main definitions

* `Vendor.Accounted`: What the events of a course say about the sends of a vendor.

## Theorems

* `Traffic.Ledger.accounted`: A ledger accounts for the sends.
* `Loop.Drains.ends`, `Loop.Closes.ends`: What draining and closing leave.
* `Loop.sends_accounted`: All of it, for the loop and for an agenda.
-/

namespace Outreach

open Traffic (Event)

variable {σ : Type}

/-- What the events of a course say about the sends of a vendor. -/
structure Vendor.Accounted (profile : Vendor.Profile) (random : Nat → Double) (es : List Event)
    (v : Vendor) : Prop where
  /-- There is a send for each message that was handed over, in order. -/
  accepted : v.sends.map Send.recordId = es.filterMap Event.accepted?
  /-- The sink was called with these receipts. -/
  reports : v.reports = es.filterMap Event.receipt?
  /-- A send calls the sink once or never, after it has drawn a number. -/
  once : ∀ k, es.filterMap (Event.receiptOf? k) = [] ∨ ∃ (s : Send) (n : Nat) (o : DeliveryStatus),
    v.sends[k]? = some s ∧ es.filterMap (Event.receiptOf? k) = [⟨s.recordId, o⟩] ∧
      es.filterMap (Event.drawOf? k) = [random n] ∧
      (o = .sent ↔ (random n).lt profile.successRate = true) ∧
      (o = .failed ↔ (random n).lt profile.successRate = false)
  /-- When no send that has ended is still to be removed, each is in one place. -/
  balance : (∀ s ∈ v.sends, s.isEnded = true → s.isRemoved = true) →
    (es.filterMap Event.accepted?).length =
      es.countP (Event.isEnding .delivered) + es.countP (Event.isEnding .undelivered) +
        es.countP (Event.isEnding .calledOff) + v.inFlight

theorem Double.lt_eq_false_of_le {x y : Double} (h : x.le y = true) : y.lt x = false := by
  rw [le, related] at h
  rw [lt, related]
  cases hx : x.position? with
  | none =>
      rw [hx] at h
      cases h
  | some a =>
      cases hy : y.position? with
      | none => rfl
      | some b =>
          rw [hx, hy] at h
          exact decide_eq_false (Int.not_lt.2 (of_decide_eq_true h))

/-- The outcome of a receipt depends on a draw. -/
theorem Vendor.Accounted.outcome_of {profile : Vendor.Profile} {random : Nat → Double}
    {es : List Event} {v : Vendor} (h : v.Accounted profile random es) {k : Nat} {receipt : Receipt}
    (hreported : .reported k receipt ∈ es) : ∃ n,
      (receipt.outcome = .sent ↔ (random n).lt profile.successRate = true) ∧
      (receipt.outcome = .failed ↔ (random n).lt profile.successRate = false) := by
  have hmem : receipt ∈ es.filterMap (Event.receiptOf? k) :=
    List.mem_filterMap.2 ⟨_, hreported, if_pos rfl⟩
  rcases h.once k with hnone | ⟨s, n, o, -, hreceipt, -, hsent, hfailed⟩
  · rw [hnone] at hmem
    cases hmem
  · rw [hreceipt] at hmem
    cases List.mem_singleton.1 hmem
    exact ⟨n, hsent, hfailed⟩

namespace Traffic

variable {profile : Vendor.Profile} {random : Nat → Double} {es : List Event} {t : Traffic}

theorem Ledger.accounted (h : Ledger profile random es t) :
    t.vendor.Accounted profile random es where
  accepted := h.accepted
  reports := h.reports
  balance := h.balance
  once := by
    intro k
    rw [← filterMap_past Event.number?_of_receiptOf? es,
      ← filterMap_past Event.number?_of_drawOf? es]
    cases hs : t.vendor.sends[k]? with
    | none =>
        rw [(h.strangers k (List.getElem?_eq_none_iff.1 hs)).1]
        exact .inl rfl
    | some s =>
        refine (h.lives k s hs).reported_once.imp_right fun ⟨n, hreceipt, hdraw⟩ => ?_
        refine ⟨s, n, _, rfl, hreceipt, hdraw, ?_⟩
        rw [Vendor.outcomeOf]
        cases (random n).lt profile.successRate <;> simp

end Traffic

namespace Loop

variable {l m n : Loop σ} {es more : List Event} {profile : Vendor.Profile} {random : Nat → Double}

theorem isSound_idle {world : World σ} (h : world.sender.handed = []) (v : Vendor)
    (hv : v.sends = []) : IsSound ⟨.idle world v true, []⟩ where
  simulates := rfl
  collected := h
  placed := fun k s hs => by
    change v.sends[k]? = some s at hs
    rw [hv] at hs
    cases hs
  noted := nofun
  resting := nofun

theorem calm_idle (world : World σ) (v : Vendor) : Calm ⟨.idle world v true, []⟩ :=
  ⟨.inr ⟨rfl, rfl, rfl⟩, nofun, nofun, nofun, .nil, nofun, nofun, nofun⟩

/-- A loop in which nothing has gone on yet. -/
def start (world : World σ) (profile : Vendor.Profile) (random : Nat → Double) : Loop σ :=
  ⟨.idle world (.idle profile random) true, []⟩

variable {world : World σ}

theorem Goes.good (h : Goes (start world profile random) es l)
    (hhanded : world.sender.handed = []) :
    l.IsSound ∧ l.Calm ∧ Traffic.Ledger profile random es l.traffic := by
  rcases h.calm (isSound_idle hhanded _ rfl) (calm_idle _ _) with ⟨hsound, hcalm, hrun⟩
  exact ⟨hsound, hcalm, (Traffic.Ledger.idle profile random).run hrun⟩

theorem Reaches.ledger (h : Reaches (start world profile random) es l)
    (hhanded : world.sender.handed = []) : Traffic.Ledger profile random es l.traffic :=
  (Traffic.Ledger.idle profile random).run
    (h.run (isSound_idle hhanded _ rfl) (calm_idle _ _))

/-- A receipt that is lost leaves a line in the log. -/
theorem Step.logged {k : Nat} (h : Step l es m) (hend : .ended k .undelivered ∈ es) :
    ∃ (s : Send) (f : Fault) (fields : Log.Fields), l.agenda.vendor.sends[k]? = some s ∧
      m.agenda.world.log = s.loss f fields :: l.agenda.world.log := by
  cases h with
  | take _ htakes =>
      cases htakes with
      | launched _ _ _ _ => simp [accepts] at hend
      | noteLaunch _ _ _ _ => simp [accepts] at hend
      | _ => simp at hend
  | lost hs _ _ _ f fields =>
      cases List.mem_singleton.1 hend
      exact ⟨_, f, fields, hs, congrArg World.log (leave_keeps _ _).2.1⟩
  | beside _ _ _ => simp [accepts] at hend
  | _ => simp at hend

/-- Draining leaves nothing in flight, and what ends called off on the way was called off by
    others. -/
theorem Drains.ends (h : Drains l es m) (hsound : l.IsSound) (hcalm : l.Calm) :
    m.agenda.vendor.inFlight = 0 ∧
      ∀ k, .ended k .calledOff ∈ es → Traffic.CalledOff l.traffic es k :=
  ⟨h.goes.2, fun _ hend => (h.goes.1.calm hsound hcalm).2.2.calledOff_of_ended hend⟩

/-- If no message is handed over meanwhile, closing leaves nothing in flight, and no send that
    there was reports any more. -/
theorem Closes.ends {before : List Event} (h : Closes l es m) (hsound : l.IsSound)
    (hcalm : l.Calm) (hledger : Traffic.Ledger profile random before l.traffic)
    (hnone : es.filterMap Event.accepted? = []) :
    m.agenda.vendor.inFlight = 0 ∧ ∀ {n : Loop σ} {later : List Event}, Reaches m later n →
      ∀ k < m.agenda.vendor.sends.length, ∀ receipt, .reported k receipt ∉ later := by
  rcases h.goes.calm hsound hcalm with ⟨hsound', hcalm', hrun⟩
  have hledger' := hledger.run hrun
  have hlength : m.agenda.vendor.sends.length = l.agenda.vendor.sends.length := by
    have hbefore := congrArg List.length hledger.accepted
    have hafter := congrArg List.length hledger'.accepted
    rw [List.filterMap_append, hnone, List.append_nil, ← hbefore, List.length_map,
      List.length_map] at hafter
    exact hafter
  have hremoved : ∀ k < m.agenda.vendor.sends.length,
      ∃ s, m.agenda.vendor.sends[k]? = some s ∧ s.isRemoved = true := fun k hk =>
    h.removed hsound hcalm (List.getElem?_eq_getElem (hlength ▸ hk))
  refine ⟨Vendor.inFlight_eq_zero_iff.2 fun k s hs => ?_, fun hreaches k hk receipt hmem => ?_⟩
  · rcases hremoved k (List.getElem?_eq_some_iff.1 hs).1 with ⟨s', hs', hr⟩
    cases hs.symm.trans hs'
    exact hr
  · rcases hremoved k hk with ⟨s, hs, hr⟩
    have hended := hledger'.removed s (List.mem_of_getElem? hs) hr
    have hlater := hledger'.run (hreaches.run hsound' hcalm')
    have hquiet := hledger'.quiet_of_ended hlater hs hended
    have hpast : .reported k receipt ∈ Traffic.past k _ :=
      List.mem_filter.2 ⟨hmem, decide_eq_true rfl⟩
    rw [hquiet] at hpast
    cases hpast

theorem send_eq (record : DeliveryRecord) (customer : Customer) (w : World σ) :
    Action.send record customer w =
      if w.sender.bound then .ok () { w with sender := { w.sender with
        handed := w.sender.handed ++ [⟨record, customer, w.fields⟩] } }
      else .error .noSink w := by
  change (if w.sender.bound then set _ else throw .noSink : Action σ Unit) w = _
  split <;> rfl

/-- A message that is handed to a sender becomes a send; an unbound sender refuses it. -/
theorem perform_send {a : Agenda σ} (hsim : a.simulates = true)
    (hcollected : a.world.sender.handed = []) (record : DeliveryRecord) (customer : Customer)
    (atSink : List Nat) :
    (a.world.sender.bound = true →
      (a.perform (Action.send record customer)).1 = .ok () ∧
      Step ⟨a, atSink⟩ [.accepted record.id]
        ⟨(a.perform (Action.send record customer)).2, atSink⟩) ∧
    (a.world.sender.bound = false →
      a.perform (Action.send record customer) = (.error .noSink, a)) := by
  constructor
  · intro hbound
    let w : World σ := { a.world with sender := { a.world.sender with
      handed := a.world.sender.handed ++ [⟨record, customer, a.world.fields⟩] } }
    have hsend : Action.send record customer a.world = .ok () w :=
      (send_eq record customer a.world).trans (if_pos hbound)
    have haccepts : accepts w = [.accepted record.id] := by
      rw [accepts]
      change (a.world.sender.handed ++ _).map _ = _
      rw [hcollected]
      rfl
    rw [Agenda.perform, hsend, ← haccepts]
    exact ⟨rfl, .beside hsim w a.launches⟩
  · intro hbound
    have hsend : Action.send record customer a.world = .error .noSink a.world :=
      (send_eq record customer a.world).trans (if_neg (by rw [hbound]; exact Bool.false_ne_true))
    rw [Agenda.perform, hsend]
    exact congrArg (Prod.mk _) (Agenda.collect_of_nothing hcollected)

/-- Simulated sends are accounted for. Whatever the draws are, and in whatever order things
    happen, from a vendor without sends to any moment

    * each send reports at most once, for its own record and with the outcome that its draw
      means, and each of them is in flight, delivered, lost or called off;
    * what is lost leaves a line in the log;
    * draining leaves nothing in flight and calls nothing off;
    * closing leaves nothing in flight if there were no new sends meanwhile, and of the sends
      that there are none reports any more;
    * an agenda whose sink hands over nothing drains and closes in this sense, but for a rest
      before which its clock stands still;
    * a message that is handed over becomes a send, but not at a sender without a sink;
    * with draws from zero to below one, a success rate of one or zero leaves only one outcome. -/
theorem sends_accounted [Repository σ] (hhanded : world.sender.handed = []) :
    (∀ {l : Loop σ} {es : List Event}, Reaches (start world profile random) es l →
      l.agenda.vendor.Accounted profile random es) ∧
    (∀ {l m : Loop σ} {es : List Event} {k : Nat}, Step l es m → .ended k .undelivered ∈ es →
      ∃ (s : Send) (f : Fault) (fields : Log.Fields), l.agenda.vendor.sends[k]? = some s ∧
        m.agenda.world.log = s.loss f fields :: l.agenda.world.log) ∧
    (∀ {l m : Loop σ} {before es : List Event}, Goes (start world profile random) before l →
      Drains l es m → m.agenda.vendor.inFlight = 0 ∧
        ∀ k, .ended k .calledOff ∈ es → Traffic.CalledOff l.traffic es k) ∧
    (∀ {l m : Loop σ} {before es : List Event}, Goes (start world profile random) before l →
      Closes l es m → es.filterMap Event.accepted? = [] →
        m.agenda.vendor.inFlight = 0 ∧ ∀ {n : Loop σ} {later : List Event}, Reaches m later n →
          ∀ k < m.agenda.vendor.sends.length, ∀ receipt, .reported k receipt ∉ later) ∧
    (∀ {a : Agenda σ} {before : List Event} {sink : Receipt → Action σ Unit},
      Goes (start world profile random) before ⟨a, []⟩ → Sparing sink →
        ((∃ es, Drains ⟨a, []⟩ es ⟨a.drain sink, []⟩ ∧ ∀ k, .calledOff k ∉ es) ∨
          (a.drain sink).Stalled) ∧
        ∃ es, Closes ⟨a, []⟩ es ⟨a.closeVendor sink, []⟩) ∧
    (∀ {l : Loop σ} {before : List Event} (record : DeliveryRecord) (customer : Customer),
      Goes (start world profile random) before l →
        (l.agenda.world.sender.bound = true →
          (l.agenda.perform (Action.send record customer)).1 = .ok () ∧
          Step l [.accepted record.id]
            ⟨(l.agenda.perform (Action.send record customer)).2, l.atSink⟩) ∧
        (l.agenda.world.sender.bound = false →
          l.agenda.perform (Action.send record customer) = (.error .noSink, l.agenda))) ∧
    ((∀ n, Double.zero.le (random n) = true ∧ (random n).lt (Double.ofInt 1) = true) →
      ∀ {l : Loop σ} {es : List Event}, Reaches (start world profile random) es l →
        (profile.successRate = Double.ofInt 1 → ∀ k receipt, .reported k receipt ∈ es →
          receipt.outcome = .sent) ∧
        (profile.successRate = Double.zero → ∀ k receipt, .reported k receipt ∈ es →
          receipt.outcome = .failed)) := by
  refine ⟨fun h => (h.ledger hhanded).accounted, fun h hend => h.logged hend,
    fun h hdrains => ?_, fun h hcloses hnone => ?_, fun h hsparing => ?_,
    fun {l} _ record customer h => ?_, fun hdraws l es h => ?_⟩
  · rcases h.good hhanded with ⟨hsound, hcalm, -⟩
    exact hdrains.ends hsound hcalm
  · rcases h.good hhanded with ⟨hsound, hcalm, hledger⟩
    exact hcloses.ends hsound hcalm hledger hnone
  · rcases h.good hhanded with ⟨hsound, hcalm, -⟩
    exact ⟨drain_drains hsparing hsound hcalm, closeVendor_closes hsparing hsound hcalm⟩
  · rcases h.good hhanded with ⟨hsound, -, -⟩
    exact perform_send hsound.simulates hsound.collected record customer l.atSink
  · have haccounted := (h.ledger hhanded).accounted
    refine ⟨fun hrate k receipt hmem => ?_, fun hrate k receipt hmem => ?_⟩
    · rcases haccounted.outcome_of hmem with ⟨n, hsent, -⟩
      exact hsent.2 (hrate ▸ (hdraws n).2)
    · rcases haccounted.outcome_of hmem with ⟨n, -, hfailed⟩
      exact hfailed.2 (hrate ▸ Double.lt_eq_false_of_le (hdraws n).1)

/-! ## Example -/

/-- A vendor that never fails and never rests. -/
def prompt : Vendor.Profile :=
  ⟨Double.ofInt 1, (Double.zero, Double.zero), (Double.zero, Double.zero)⟩

def letter : DeliveryRecord := { (default : DeliveryRecord) with id := Uuid.ofNat 1 }

def postOffice : World Memory := .blank ⟨⟨2024, 6, 1⟩, 0, some 0⟩

/-- The moments in the life of one send. -/
def moment (stage : SendStage) (removed : Bool) (drawn : Nat) (reports : List Receipt)
    (queue : List Item) (awaited : List Task) (missing : Nat) : Agenda Memory :=
  ⟨postOffice,
    ⟨prompt, fun _ => Double.zero, drawn, [⟨letter.id, [], stage, false, removed⟩], reports⟩,
    true, [], queue, [], Double.zero, awaited, missing⟩

theorem after_of_le {a : Agenda σ} {seconds : Double} {item now : Item}
    (h : seconds.le Double.zero = true) : a.after seconds item now = a.enqueue now :=
  if_pos h

/-- The send starts, draws its number, reports and ends while the caller waits for it. -/
theorem resumes_single : ∃ m, Resumes
    ⟨(moment .waiting false 0 [] [.resume (.send 0)] [] 0).waiting [.send 0], []⟩
    [.drew 0 Double.zero, .reported 0 ⟨letter.id, .sent⟩, .ended 0 .delivered] m ∧
    m.agenda.vendor.inFlight = 0 := by
  have hsent : Vendor.outcomeOf prompt Double.zero = .sent := by decide +kernel
  have hstart : Step ⟨moment .waiting false 0 [] [.resume (.send 0)] [.send 0] 1, []⟩ []
      ⟨moment .dispatching false 1 [] [.resume (.send 0)] [.send 0] 1, []⟩ := by
    have hstep := Step.take
      (l := ⟨moment .waiting false 0 [] [.resume (.send 0)] [.send 0] 1, []⟩) rfl
      (.start rfl rfl rfl)
    rw [after_of_le] at hstep
    · exact hstep
    · decide +kernel
  have hdecide : Step ⟨moment .dispatching false 1 [] [.resume (.send 0)] [.send 0] 1, []⟩
      [.drew 0 Double.zero]
      ⟨moment (.responding .sent) false 3 [] [.resume (.send 0)] [.send 0] 1, []⟩ := by
    have hstep := Step.take
      (l := ⟨moment .dispatching false 1 [] [.resume (.send 0)] [.send 0] 1, []⟩) rfl
      (.decide rfl rfl rfl)
    rw [after_of_le] at hstep
    · rw [← hsent]
      exact hstep
    · decide +kernel
  have hreport := Step.take
    (l := ⟨moment (.responding .sent) false 3 [] [.resume (.send 0)] [.send 0] 1, []⟩) rfl
    (.report rfl rfl rfl List.not_mem_nil)
  have hend := Step.delivered
    (l := ⟨moment (.responding .sent) false 3 [⟨letter.id, .sent⟩] [] [.send 0] 1, [0]⟩) rfl rfl
    rfl List.mem_cons_self
  have hremove := Step.take (l := ⟨moment (.ended .delivered) false 3 [⟨letter.id, .sent⟩]
    [.noteEnd (.send 0), .learn] [] 1, []⟩) rfl (.noteSend _ 0)
  have hlearn := Step.take (l := ⟨moment (.ended .delivered) true 3 [⟨letter.id, .sent⟩]
    [.learn] [] 1, []⟩) rfl (.learn _)
  exact ⟨_, .mk (((((Steps.single hstart).step hdecide).step hreport).step hend).step hremove
    |>.step hlearn) rfl, rfl⟩

/-- A message is handed over, sent without a rest and reported, and the vendor is drained. -/
theorem sends_accounted_single :
    let random : Nat → Double := fun _ => Double.zero
    let a := ((Agenda.idle postOffice (.idle prompt random) true).perform
      (Action.send letter default)).2
    let es : List Event :=
      [.drew 0 Double.zero, .reported 0 ⟨letter.id, .sent⟩, .ended 0 .delivered]
    let sink : Receipt → Action Memory Unit := fun _ => pure ()
    postOffice.sender.handed = [] ∧
      Goes (start postOffice prompt random) [.accepted letter.id] ⟨a, []⟩ ∧
      (∃ m : Loop Memory, Drains ⟨a, []⟩ es m ∧ m.agenda.vendor.inFlight = 0 ∧
        m.agenda.vendor.Accounted prompt random (.accepted letter.id :: es)) ∧
      ∃ more, Closes ⟨a, []⟩ more ⟨a.closeVendor sink, []⟩ := by
  intro random a es sink
  rcases @sends_accounted Memory prompt random postOffice _ rfl with
    ⟨hreaches, -, hdrains, -, hruns, hsends, -⟩
  have hgoes : Goes (start postOffice prompt random) [.accepted letter.id] ⟨a, []⟩ :=
    (Goes.refl _).step ((hsends letter default (Goes.refl _)).1 rfl).2
  have hsparing : Sparing sink := fun _ _ => (Action.ends_pure ()).2 rfl
  rcases resumes_single with ⟨m, hresumes, hnone⟩
  have hdrained : Drains ⟨a, []⟩ es m :=
    .round (l := ⟨a, []⟩) Nat.one_ne_zero (List.Perm.refl [0]) hresumes (.done hnone)
  refine ⟨rfl, hgoes, ⟨m, hdrained, (hdrains hgoes hdrained).1, ?_⟩, ?_⟩
  · exact hreaches (.calm (hgoes.trans hdrained.goes.1))
  · exact (hruns hgoes hsparing).2

end Loop

end Outreach
