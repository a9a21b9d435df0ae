import Telecontrol.Proofs.Ft12.Exchange

/-!
# Turns of a primary station with one secondary

`Stage` is what such a station is doing, without the times and without what it is doing it for. Each
turn is described by the stage that it leads to and by what it writes, hands out and answers.
-/

namespace Telecontrol.Primary

open Telecontrol.Turn (Yields done report answer)

/-- What a station with one secondary is doing. An exchange may be repeated so many times. -/
inductive Stage
  | idle (active : Bool)
  | asking (step : HandshakeStep)
  | exchanging (d : Demand) (repeats : Nat)

/-- The request of a step of a handshake. -/
def HandshakeStep.frame (address : Nat) : HandshakeStep → LinkFrame
  | .status => .request .requestLinkStatus false address
  | .reset => .request .resetRemoteLink false address

lemma request_frame (h : Handshake) (address : Nat) :
    LinkFrame.request h.function false address = h.step.frame address := by
  unfold Handshake.function
  cases h.step <;> rfl

/-- The activity is of the stage. The link to the secondary is up during exchanges, and while it is
brought up it is not. -/
inductive Activity.At (peer : Peer) : Activity → Stage → Prop
  | idle (active : Bool) (hactive : peer.state = .active ↔ active = true) :
    At peer .idle (.idle active)
  | asking (h : Handshake) (occasion : Occasion) (hindex : h.index = 0)
    (hinactive : peer.state ≠ .active) : At peer (.handshake h occasion) (.asking h.step)
  | deliver (x : Exchange) (request : Nat) (asdu : Asdu) (payload : Octets) (hindex : x.index = 0)
    (hactive : peer.state = .active)
    (hframe : x.frame = (Demand.deliver request asdu payload).frame peer.address peer.fcb) :
    At peer (.exchange x (.userData request)) (.exchanging (.deliver request asdu payload) x.repeats)
  | poll (x : Exchange) (dataClass : DataClass) (hindex : x.index = 0)
    (hactive : peer.state = .active)
    (hframe : x.frame = (Demand.fetch dataClass).frame peer.address peer.fcb) :
    At peer (.exchange x .poll) (.exchanging (.fetch dataClass) x.repeats)
  | drain (x : Exchange) (more : Nat) (context : Context) (hindex : x.index = 0)
    (hactive : peer.state = .active)
    (hframe : x.frame = (Demand.fetch .class1).frame peer.address peer.fcb) :
    At peer (.exchange x (.drain more context)) (.exchanging (.fetch .class1) x.repeats)

/-- The station has one secondary, with the given address and frame count bit, and is at the
stage. -/
structure Shows (link : LinkParameters) (widths : FieldWidths) (address : Nat) (fcb : Bool)
    (stage : Stage) (p : Primary) : Prop where
  link : p.link = link
  widths : p.widths = widths
  peer : ∃ peer, p.peers = [peer] ∧ peer.address = address ∧ peer.fcb = fcb ∧
    p.activity.At peer stage

/-- The turn leads to a stage. -/
def Leads (link : LinkParameters) (widths : FieldWidths) (address : Nat) (fcb : Bool)
    (stage : Stage) (frames : List LinkFrame) (asdus : List Asdu)
    (answers : List (Nat × Answer)) (t : Turn) : Prop :=
  ∃ p, p.Shows link widths address fcb stage ∧ t.Yields link.addressLength p frames asdus answers

variable {p : Primary} {m : Moment} {link : LinkParameters} {widths : FieldWidths}
  {address : Nat} {fcb : Bool} {stage : Stage} {peer : Peer} {frame : LinkFrame}
  {frames frames' : List LinkFrame} {asdus asdus' : List Asdu}
  {answers answers' : List (Nat × Answer)} {t : Turn}

lemma leads_done (h : p.Shows link widths address fcb stage) :
    Leads link widths address fcb stage [] [] [] (done p) :=
  ⟨p, h, Turn.yields_done p⟩

lemma leads_answer (h : p.Shows link widths address fcb stage) (request : Nat) (a : Answer) :
    Leads link widths address fcb stage [] [] [(request, a)] (answer request a p) :=
  ⟨p, h, Turn.yields_answer request a p⟩

lemma Leads.of_yields {next : Primary → Turn} (h : t.Yields link.addressLength p frames asdus answers)
    (h' : Leads link widths address fcb stage frames' asdus' answers' (next p)) :
    Leads link widths address fcb stage (frames ++ frames') (asdus ++ asdus')
      (answers ++ answers') (t.andThen next) := by
  obtain ⟨p', hshows, hyields⟩ := h'
  exact ⟨p', hshows, h.andThen hyields⟩

lemma yields_transmit (hm : m.writeFault = none)
    (h : ∃ octets, frame.encode p.link.addressLength = .ok octets) :
    (transmit m frame p).Yields p.link.addressLength p [frame] [] [] := by
  obtain ⟨octets, hencode⟩ := h
  have hline : m.transmit (frame.encode p.link.addressLength) = .ok octets := by
    simp [Moment.transmit, hencode, hm]
  simp only [transmit, hline]
  exact Turn.yields_wrote hencode p

lemma yields_setLinkState {addressLength : Nat} {state : LinkState} (hpeers : p.peers = [peer]) :
    (setLinkState 0 state p).Yields addressLength { p with peers := [{ peer with state }] }
      [] [] [] := by
  obtain ⟨link, widths, peers, activity, pollDue⟩ := p
  obtain rfl : peers = [peer] := hpeers
  by_cases hsame : peer.state = state
  · subst hsame
    simpa [setLinkState] using Turn.yields_done _
  · simp only [setLinkState, List.getElem?_cons_zero, hsame, if_false]
    exact Turn.yields_report _

/-! ## Handshakes -/

lemma leads_sendRequest {h : Handshake} {occasion : Occasion} (hm : m.writeFault = none)
    (hlink : p.link = link) (hwidths : p.widths = widths)
    (hfits : peer.address ≤ maxLinkAddress link.addressLength) (hpeers : p.peers = [peer])
    (hindex : h.index = 0) (hinactive : peer.state ≠ .active) :
    Leads link widths peer.address peer.fcb (.asking h.step) [h.step.frame peer.address] [] []
      (sendRequest m h occasion peer.address p) := by
  subst hlink
  let later : Handshake := { h with
    retryAt := min h.deadline (m.now + p.link.ackTimeout), paused := false }
  let q : Primary := { p with activity := .handshake later occasion }
  have hshows : q.Shows p.link widths peer.address peer.fcb (.asking h.step) :=
    ⟨rfl, hwidths, peer, hpeers, rfl, rfl, .asking later occasion hindex hinactive⟩
  have hwritten : ∃ octets, (h.step.frame peer.address).encode q.link.addressLength = .ok octets := by
    cases h.step <;> exact LinkFrame.encode_fixed _ hfits
  refine ⟨q, hshows, ?_⟩
  change (transmit m (.request later.function false peer.address) q).Yields _ _ _ _ _
  rw [request_frame]
  exact yields_transmit hm hwritten

lemma leads_beginHandshake (step : HandshakeStep) (occasion : Occasion) (hm : m.writeFault = none)
    (hlink : p.link = link) (hwidths : p.widths = widths)
    (hfits : peer.address ≤ maxLinkAddress link.addressLength) (hpeers : p.peers = [peer])
    (hinactive : peer.state ≠ .active) :
    Leads link widths peer.address peer.fcb (.asking step) [step.frame peer.address] [] []
      (beginHandshake m 0 step occasion peer.address p) :=
  leads_sendRequest (h := ⟨0, step, _, _, _⟩) hm hlink hwidths hfits hpeers rfl hinactive

/-! ## Exchanges -/

/-- A station that has just begun an exchange with its secondary. -/
def inExchange (m : Moment) (peer : Peer) (d : Demand) (purpose : Purpose) (p : Primary) :
    Primary where
  link := p.link
  widths := p.widths
  peers := [{ peer with fcb := !peer.fcb }]
  activity := .exchange ⟨0, d.frame peer.address (!peer.fcb), p.link.retries,
    m.now + p.link.ackTimeout⟩ purpose
  pollDue := p.pollDue

lemma yields_beginExchange (d : Demand) (purpose : Purpose) (hm : m.writeFault = none)
    (hlink : p.link = link) (hfits : peer.address ≤ maxLinkAddress link.addressLength)
    (hproper : d.Proper link.addressLength widths) (hpeers : p.peers = [peer]) :
    (beginExchange m 0 peer d.function d.payload? purpose p).Yields link.addressLength
      (p.inExchange m peer d purpose) [d.frame peer.address (!peer.fcb)] [] [] := by
  subst hlink
  obtain ⟨link, widths', peers, activity, pollDue⟩ := p
  obtain rfl : peers = [peer] := hpeers
  have hwritten := Demand.written hproper hfits (!peer.fcb)
  have hyields := yields_transmit (p := Primary.inExchange m peer d purpose
    ⟨link, widths', [peer], activity, pollDue⟩) hm hwritten
  cases d <;> exact hyields

lemma leads_beginExchange {purpose : Purpose} (d : Demand) (hm : m.writeFault = none)
    (hlink : p.link = link) (hwidths : p.widths = widths)
    (hfits : peer.address ≤ maxLinkAddress link.addressLength)
    (hproper : d.Proper link.addressLength widths) (hpeers : p.peers = [peer])
    (hat : (p.inExchange m peer d purpose).activity.At { peer with fcb := !peer.fcb }
      (.exchanging d p.link.retries)) :
    Leads link widths peer.address (!peer.fcb) (.exchanging d link.retries)
      [d.frame peer.address (!peer.fcb)] [] []
      (beginExchange m 0 peer d.function d.payload? purpose p) := by
  have hyields := yields_beginExchange d purpose hm hlink hfits hproper hpeers
  rw [hlink] at hat
  exact ⟨p.inExchange m peer d purpose, ⟨hlink, hwidths, _, rfl, rfl, rfl, hat⟩, hyields⟩

lemma leads_deliver {request : Nat} {asdu : Asdu} {payload : Octets} (hm : m.writeFault = none)
    (hlink : p.link = link) (hwidths : p.widths = widths)
    (hfits : peer.address ≤ maxLinkAddress link.addressLength)
    (hproper : (Demand.deliver request asdu payload).Proper link.addressLength widths)
    (hpeers : p.peers = [peer]) (hactive : peer.state = .active) :
    Leads link widths peer.address (!peer.fcb)
      (.exchanging (.deliver request asdu payload) link.retries)
      [(Demand.deliver request asdu payload).frame peer.address (!peer.fcb)] [] []
      (beginExchange m 0 peer .userDataConfirmed (some payload) (.userData request) p) :=
  leads_beginExchange (.deliver request asdu payload) hm hlink hwidths hfits hproper hpeers
    (.deliver _ request asdu payload rfl hactive rfl)

lemma leads_drain (more : Nat) (context : Context) (hm : m.writeFault = none)
    (hlink : p.link = link) (hwidths : p.widths = widths)
    (hfits : peer.address ≤ maxLinkAddress link.addressLength) (hpeers : p.peers = [peer])
    (hactive : peer.state = .active) :
    Leads link widths peer.address (!peer.fcb) (.exchanging (.fetch .class1) link.retries)
      [(Demand.fetch .class1).frame peer.address (!peer.fcb)] [] []
      (beginExchange m 0 peer .requestClass1 none (.drain more context) p) :=
  leads_beginExchange (.fetch .class1) hm hlink hwidths hfits trivial hpeers
    (.drain _ more context rfl hactive rfl)

lemma leads_poll (hm : m.writeFault = none) (hlink : p.link = link) (hwidths : p.widths = widths)
    (hfits : peer.address ≤ maxLinkAddress link.addressLength) (hpeers : p.peers = [peer])
    (hactive : peer.state = .active) :
    Leads link widths peer.address (!peer.fcb) (.exchanging (.fetch peer.nextPoll) link.retries)
      [(Demand.fetch peer.nextPoll).frame peer.address (!peer.fcb)] [] []
      (beginPoll m 0 peer p) := by
  let polled : Peer := { peer with nextPoll := otherClass peer.nextPoll }
  let q : Primary := p.setPeer 0 ({ · with nextPoll := otherClass peer.nextPoll })
  have hpolled : q.peers = [polled] := by simp [q, setPeer, hpeers, polled]
  have hat : (q.inExchange m polled (.fetch peer.nextPoll) .poll).activity.At
      { polled with fcb := !polled.fcb } (.exchanging (.fetch peer.nextPoll) q.link.retries) :=
    .poll _ peer.nextPoll rfl hactive rfl
  have hqlink : q.link = link := hlink
  have hqwidths : q.widths = widths := hwidths
  have hleads : Leads link widths polled.address _ _ _ _ _ _ :=
    leads_beginExchange (.fetch peer.nextPoll) hm hqlink hqwidths hfits trivial hpolled hat
  exact hleads

/-! ## What the station does next -/

lemma leads_rest {active : Bool} (hlink : p.link = link) (hwidths : p.widths = widths)
    (hpeers : p.peers = [peer]) (hactive : peer.state = .active ↔ active = true) :
    Leads link widths peer.address peer.fcb (.idle active) [] [] [] (rest p) :=
  leads_done ⟨hlink, hwidths, peer, hpeers, rfl, rfl, .idle active hactive⟩

lemma leads_resume {active : Bool} (context : Context) (hlink : p.link = link)
    (hwidths : p.widths = widths) (hpeers : p.peers = [peer])
    (hactive : peer.state = .active ↔ active = true) :
    Leads link widths peer.address peer.fcb (.idle active) [] [] [] (resume m 0 context p) := by
  have hrest := leads_rest hlink hwidths hpeers hactive
  cases context with
  | afterData => exact hrest
  | inCycle => simpa [resume, cycleFrom, hpeers] using hrest

lemma leads_after (more : Nat) (context : Context) (announced : Bool) (hm : m.writeFault = none)
    (hlink : p.link = link) (hwidths : p.widths = widths)
    (hfits : peer.address ≤ maxLinkAddress link.addressLength) (hpeers : p.peers = [peer])
    (hactive : peer.state = .active) :
    let t := if announced = true then drain m 0 more context p else resume m 0 context p
    Leads link widths peer.address peer.fcb (.idle true) [] [] [] t ∨
      Leads link widths peer.address (!peer.fcb) (.exchanging (.fetch .class1) link.retries)
        [(Demand.fetch .class1).frame peer.address (!peer.fcb)] [] [] t := by
  have hup : peer.state = .active ↔ true = true := by simp [hactive]
  have hresume := leads_resume (m := m) context hlink hwidths hpeers hup
  cases announced with
  | false => exact .inl hresume
  | true =>
    cases more with
    | zero => exact .inl hresume
    | succ more =>
      refine .inr ?_
      simpa [drain, hpeers] using
        leads_drain more context hm hlink hwidths hfits hpeers hactive

/-! ## What each thing that happens leads to -/

theorem step_send {active : Bool} {request : Nat} {asdu : Asdu} {payload : Octets}
    (receiver : Nat) (hm : m.writeFault = none) (hfits : address ≤ maxLinkAddress link.addressLength)
    (hproper : (Demand.deliver request asdu payload).Proper link.addressLength widths)
    (h : p.Shows link widths address fcb (.idle active)) :
    let t := p.step m (.command (.userData receiver payload request))
    (active = true ∧
      Leads link widths address (!fcb) (.exchanging (.deliver request asdu payload) link.retries)
        [(Demand.deliver request asdu payload).frame address (!fcb)] [] [] t) ∨
    ∃ fault, (fault = .notActive ∨ fault = .domain (.noSecondary receiver)) ∧
      Leads link widths address fcb (.idle active) [] [] [(request, .refused fault)] t := by
  have hshows := h
  obtain ⟨hlink, hwidths, peer, hpeers, rfl, rfl, hat⟩ := h
  generalize hactivity : p.activity = activity at hat
  obtain ⟨_, hactive⟩ := hat
  dsimp only [step, onCommand]
  by_cases hreceiver : peer.address = receiver
  · have hindex : p.indexOf? receiver = some 0 := by
      simp [indexOf?, hpeers, hreceiver, List.findIdx?_cons]
    simp only [hindex, hpeers, List.getElem?_cons_zero]
    by_cases hup : peer.state = .active
    · rw [if_pos hup]
      exact .inl ⟨hactive.1 hup, leads_deliver hm hlink hwidths hfits hproper hpeers hup⟩
    · rw [if_neg hup]
      exact .inr ⟨_, .inl rfl, leads_answer hshows request _⟩
  · have hindex : p.indexOf? receiver = none := by
      simp [indexOf?, hpeers, hreceiver, List.findIdx?_cons]
    simp only [hindex]
    exact .inr ⟨_, .inr rfl, leads_answer hshows request _⟩

theorem step_dropped {active : Bool} (h : p.Shows link widths address fcb (.idle active)) :
    Leads link widths address fcb (.idle active) [] [] [] (p.step m (.frame frame)) := by
  have hshows := h
  obtain ⟨hlink, hwidths, peer, hpeers, rfl, rfl, hat⟩ := h
  generalize hactivity : p.activity = activity at hat
  obtain ⟨_, hactive⟩ := hat
  simpa [step, onFrame, hactivity] using leads_done hshows

lemma leads_handshakeAnswered {h : Handshake} {occasion : Occasion} (hm : m.writeFault = none)
    (hlink : p.link = link) (hwidths : p.widths = widths)
    (hfits : peer.address ≤ maxLinkAddress link.addressLength) (hpeers : p.peers = [peer])
    (hindex : h.index = 0) :
    let t := handshakeAnswered m h occasion peer.address p
    (h.step = .status ∧ Leads link widths peer.address false (.asking .reset)
      [HandshakeStep.reset.frame peer.address] [] [] t) ∨
    h.step = .reset ∧ ∃ answers,
      Leads link widths peer.address peer.fcb (.idle true) [] [] answers t := by
  subst hlink hwidths
  obtain ⟨link, widths, peers, activity, pollDue⟩ := p
  obtain rfl : peers = [peer] := hpeers
  dsimp only [handshakeAnswered]
  cases hstep : h.step with
  | status =>
    refine .inl ⟨rfl, ?_⟩
    dsimp only
    rw [hindex]
    refine Leads.of_yields (yields_setLinkState rfl) ?_
    let known : Peer := { peer with state := .statusKnown, fcb := false }
    have hinactive : known.state ≠ .active := by simp [known]
    have hpeers : (⟨link, widths, [known], activity, pollDue⟩ : Primary).peers = [known] := rfl
    have hleads : Leads link widths known.address _ _ _ _ _ _ :=
      leads_beginHandshake .reset occasion hm rfl rfl hfits hpeers hinactive
    exact hleads
  | reset =>
    refine .inr ⟨rfl, ?_⟩
    dsimp only [linkEstablished]
    rw [hindex]
    let up : Peer := { peer with state := .active, nextPoll := .class1 }
    have hup : up.state = .active ↔ true = true := by simp [up]
    let q : Primary := ⟨link, widths, [{ peer with nextPoll := .class1 }], activity, pollDue⟩
    have hq : q.peers = [{ peer with nextPoll := .class1 }] := rfl
    have hyields : (setLinkState 0 .active q).Yields link.addressLength _ [] [] [] :=
      yields_setLinkState hq
    cases occasion with
    | opening request =>
      let opened : Primary := ⟨link, widths, [up], .idle, some (m.now + link.pollInterval)⟩
      have hready : Leads link widths peer.address peer.fcb (.idle true) [] [] []
          (report .ready opened) :=
        ⟨opened, ⟨rfl, rfl, up, rfl, rfl, rfl, .idle true hup⟩, Turn.yields_report _⟩
      exact ⟨_, Leads.of_yields hyields
        (Leads.of_yields (Turn.yields_answer request .done _) hready)⟩
    | cycle =>
      have hpeers : (⟨link, widths, [up], activity, pollDue⟩ : Primary).peers = [up] := rfl
      have hrest : Leads link widths up.address _ _ _ _ _ _ := leads_rest rfl rfl hpeers hup
      exact ⟨[], Leads.of_yields hyields hrest⟩

theorem step_answered {s : HandshakeStep} (hm : m.writeFault = none)
    (hfits : address ≤ maxLinkAddress link.addressLength)
    (hframe : frame.Answers link.addressLength address)
    (h : p.Shows link widths address fcb (.asking s)) :
    let t := p.step m (.frame frame)
    Leads link widths address fcb (.asking s) [] [] [] t ∨
      (s = .status ∧
        Leads link widths address false (.asking .reset) [HandshakeStep.reset.frame address] [] []
          t) ∨
      s = .reset ∧ ∃ answers, Leads link widths address fcb (.idle true) [] [] answers t := by
  obtain ⟨hlink, hwidths, peer, hpeers, rfl, rfl, hat⟩ := h
  generalize hactivity : p.activity = activity at hat
  cases hat with
  | asking h occasion hindex hinactive =>
    have hpeer : p.peers[h.index]? = some peer := by simp [hindex, hpeers]
    simp only [step, onFrame, hactivity, hpeer, hframe.heeded, Bool.not_true, Bool.false_eq_true,
      if_false]
    by_cases haccepts : h.accepts frame = true
    · rw [if_pos haccepts]
      exact .inr (leads_handshakeAnswered hm hlink hwidths hfits hpeers hindex)
    · rw [if_neg haccepts]
      exact .inl (leads_done ⟨hlink, hwidths, peer, hpeers, rfl, rfl,
        .asking { h with paused := true } occasion hindex hinactive⟩)

lemma yields_reportData {addressLength : Nat} (response : LinkFrame) (p : Primary) :
    (reportData response p).Yields addressLength p [] (response.asdus p.widths) [] := by
  cases response with
  | userData control address payload =>
    cases hdecode : Asdu.decode p.widths payload with
    | ok asdu =>
      simp only [reportData, hdecode, LinkFrame.asdus, Except.toOption]
      exact Turn.yields_report p
    | error fault =>
      simp only [reportData, hdecode, LinkFrame.asdus, Except.toOption]
      exact Turn.yields_done p
  | fixed => exact Turn.yields_done p
  | singleAck => exact Turn.yields_done p
  | singleNack => exact Turn.yields_done p

lemma leads_conclude (more : Nat) (context : Context) (announced : Bool) (hm : m.writeFault = none)
    (hlink : p.link = link) (hwidths : p.widths = widths)
    (hfits : peer.address ≤ maxLinkAddress link.addressLength) (hpeers : p.peers = [peer])
    (hactive : peer.state = .active) (h : t.Yields link.addressLength p [] asdus answers) :
    let u := t.andThen fun p =>
      if announced = true then drain m 0 more context p else resume m 0 context p
    Leads link widths peer.address peer.fcb (.idle true) [] asdus answers u ∨
      Leads link widths peer.address (!peer.fcb) (.exchanging (.fetch .class1) link.retries)
        [(Demand.fetch .class1).frame peer.address (!peer.fcb)] asdus answers u := by
  rw [← List.append_nil asdus, ← List.append_nil answers]
  rcases leads_after more context announced hm hlink hwidths hfits hpeers hactive with h' | h'
  · exact .inl (Leads.of_yields h h')
  · exact .inr (Leads.of_yields h h')

theorem step_responded {d : Demand} {repeats : Nat} (hm : m.writeFault = none)
    (hfits : address ≤ maxLinkAddress link.addressLength)
    (hframe : frame.Answers link.addressLength address)
    (h : p.Shows link widths address fcb (.exchanging d repeats)) :
    let t := p.step m (.frame frame)
    Leads link widths address fcb (.idle true) [] (d.reported widths frame) (d.concluded frame) t ∨
      Leads link widths address (!fcb) (.exchanging (.fetch .class1) link.retries)
        [(Demand.fetch .class1).frame address (!fcb)] (d.reported widths frame) (d.concluded frame)
        t := by
  obtain ⟨hlink, hwidths, peer, hpeers, rfl, rfl, hat⟩ := h
  generalize hactivity : p.activity = activity at hat
  let q : Primary := { p with activity := .idle }
  have hqlink : q.link = link := hlink
  have hqwidths : q.widths = widths := hwidths
  have hqpeers : q.peers = [peer] := hpeers
  have hdata : (reportData frame q).Yields link.addressLength q [] (frame.asdus widths) [] := by
    rw [← hqwidths]
    exact yields_reportData frame q
  cases hat with
  | deliver x request asdu payload hindex hactive hx =>
    have haddress : x.frame.address?.getD 0 = peer.address := by
      rw [hx]
      rfl
    simp only [step, onFrame, hactivity, haddress, hframe.heeded, hframe.accepting, Bool.not_true,
      Bool.false_eq_true, if_false, exchangeAnswered, hindex, Demand.concluded]
    by_cases hack : frame.isAck = true
    · rw [if_pos hack, if_pos hack]
      exact leads_conclude maxDrain .afterData (announcesData frame) hm hqlink hqwidths hfits hqpeers
        hactive (Turn.yields_answer request .done q)
    · rw [if_neg hack, if_neg hack]
      refine .inl (leads_answer ⟨hqlink, hqwidths, peer, hqpeers, rfl, rfl, ?_⟩ request _)
      exact .idle true (by simp [hactive])
  | poll x dataClass hindex hactive hx =>
    have haddress : x.frame.address?.getD 0 = peer.address := by
      rw [hx]
      rfl
    simp only [step, onFrame, hactivity, haddress, hframe.heeded, hframe.accepting, Bool.not_true,
      Bool.false_eq_true, if_false, exchangeAnswered, hindex]
    exact leads_conclude maxDrain .inCycle (announcesData frame) hm hqlink hqwidths hfits hqpeers
      hactive hdata
  | drain x more context hindex hactive hx =>
    have haddress : x.frame.address?.getD 0 = peer.address := by
      rw [hx]
      rfl
    simp only [step, onFrame, hactivity, haddress, hframe.heeded, hframe.accepting, Bool.not_true,
      Bool.false_eq_true, if_false, exchangeAnswered, hindex]
    exact leads_conclude more context (announcesData frame) hm hqlink hqwidths hfits hqpeers
      hactive hdata

/-! ## What the clock leads to -/

theorem step_cycle {active : Bool} {due : Nat} (hm : m.writeFault = none)
    (hfits : address ≤ maxLinkAddress link.addressLength) (hdue : p.deadline = some due)
    (h : p.Shows link widths address fcb (.idle active)) :
    let t := p.step m .deadline
    (active = true ∧ ∃ dataClass,
      Leads link widths address (!fcb) (.exchanging (.fetch dataClass) link.retries)
        [(Demand.fetch dataClass).frame address (!fcb)] [] [] t) ∨
      active = false ∧ Leads link widths address fcb (.asking .status)
        [HandshakeStep.status.frame address] [] [] t := by
  obtain ⟨hlink, hwidths, peer, hpeers, rfl, rfl, hat⟩ := h
  generalize hactivity : p.activity = activity at hat
  obtain ⟨_, hactive⟩ := hat
  have hpoll : p.pollDue = some due := by simpa [deadline, hactivity] using hdue
  let late := due + pollTolerance < m.now
  let q : Primary := { p with
    pollDue := some ((if late then m.now else due) + p.link.pollInterval) }
  have hqlink : q.link = link := hlink
  have hqpeers : q.peers = [peer] := hpeers
  have hcycle : p.step m .deadline = if peer.state = .active then beginPoll m 0 peer q
      else beginHandshake m 0 .status .cycle peer.address q := by
    simp [step, onDeadline, hactivity, hpoll, beginCycle, cycleFrom, hpeers, q, late]
  rw [hcycle]
  by_cases hup : peer.state = .active
  · rw [if_pos hup]
    exact .inl ⟨hactive.1 hup, peer.nextPoll, leads_poll hm hqlink hwidths hfits hqpeers hup⟩
  · rw [if_neg hup]
    exact .inr ⟨by simpa [hup] using hactive,
      leads_beginHandshake .status .cycle hm hqlink hwidths hfits hqpeers hup⟩

/-- When a step of a handshake is not answered its request is repeated, or the link is given up. A
link that is brought up to open the station is not given up alone: the station ends. -/
theorem step_unanswered {s : HandshakeStep} (hm : m.writeFault = none)
    (hfits : address ≤ maxLinkAddress link.addressLength)
    (h : p.Shows link widths address fcb (.asking s)) :
    let t := p.step m .deadline
    Leads link widths address fcb (.asking s) [s.frame address] [] [] t ∨
      Leads link widths address fcb (.idle false) [] [] [] t ∨
      ∃ answers, t.ending.isSome ∧
        Leads link widths address fcb (.asking s) [] [] answers { t with ending := none } := by
  obtain ⟨hlink, hwidths, peer, hpeers, rfl, rfl, hat⟩ := h
  generalize hactivity : p.activity = activity at hat
  cases hat with
  | asking h occasion hindex hinactive =>
    have hpeer : p.peers[h.index]? = some peer := by simp [hindex, hpeers]
    simp only [step, onDeadline, hactivity, hpeer, handshakeExpired]
    by_cases hover : h.deadline ≤ m.now
    · rw [if_pos hover]
      refine .inr ?_
      let q : Primary := { p with peers := [{ peer with state := .disconnected }] }
      have hqlink : q.link = link := hlink
      have hqpeers : q.peers = [{ peer with state := .disconnected }] := rfl
      have hdown : (setLinkState 0 .disconnected p).Yields link.addressLength q [] [] [] :=
        yields_setLinkState hpeers
      rw [hindex]
      cases occasion with
      | opening request =>
        let fault : Fault := .linkTimeout (.initialization peer.address)
        have hbroken : linkFailed m 0 (.opening request) peer.address p =
            ⟨q, (setLinkState 0 .disconnected p).output ++ [.answered request (.refused fault)],
              some (.ofFault fault)⟩ := by
          simp [linkFailed, Turn.andThen, hdown.ending, hdown.state, breakOff, q, hactivity, fault]
        have hasking : q.Shows link widths peer.address peer.fcb (.asking h.step) :=
          ⟨hlink, hwidths, _, rfl, rfl, rfl, by
            rw [show q.activity = .handshake h (.opening request) from hactivity]
            exact .asking h _ hindex (by simp)⟩
        have hanswer : ((setLinkState 0 .disconnected p).andThen
            (answer request (.refused fault))).Yields link.addressLength q [] []
              [(request, .refused fault)] :=
          hdown.andThen (Turn.yields_answer request (.refused fault) q)
        rw [hbroken]
        refine .inr ⟨[(request, .refused fault)], rfl, q, hasking, ?_⟩
        simpa [Turn.andThen, hdown.ending, hdown.state, answer] using hanswer
      | cycle =>
        have hdisconnected : LinkState.disconnected = .active ↔ false = true := by simp
        have hrest : Leads link widths _ _ (.idle false) [] [] [] (rest q) :=
          leads_rest hqlink hwidths hqpeers hdisconnected
        exact .inl (Leads.of_yields hdown hrest)
    · rw [if_neg hover]
      exact .inl (leads_sendRequest hm hlink hwidths hfits hpeers hindex hinactive)

lemma leads_exchangeMissed {d : Demand} {x : Exchange} {purpose : Purpose}
    (hm : m.writeFault = none) (hlink : p.link = link) (hwidths : p.widths = widths)
    (hpeers : p.peers = [peer])
    (hwritten : ∃ octets, x.frame.encode link.addressLength = .ok octets)
    (hat : ∀ y : Exchange, y.index = x.index → y.frame = x.frame →
      (Activity.exchange y purpose).At peer (.exchanging d y.repeats))
    (hfailed : Leads link widths peer.address peer.fcb (.idle false) [] [] (d.abandoned peer.address)
      (exchangeFailed m x purpose p)) :
    let t := exchangeMissed m x purpose p
    (∃ left, x.repeats = left + 1 ∧ Leads link widths peer.address peer.fcb (.exchanging d left)
      [x.frame] [] [] t) ∨
      x.repeats = 0 ∧
        Leads link widths peer.address peer.fcb (.idle false) [] [] (d.abandoned peer.address) t := by
  dsimp only [exchangeMissed]
  cases hrepeats : x.repeats with
  | zero => exact .inr ⟨rfl, hfailed⟩
  | succ repeats =>
    let y : Exchange := { x with repeats, deadline := m.now + p.link.ackTimeout }
    let q : Primary := { p with activity := .exchange y purpose }
    have hq : q.Shows link widths peer.address peer.fcb (.exchanging d repeats) :=
      ⟨hlink, hwidths, peer, hpeers, rfl, rfl, hat y rfl rfl⟩
    subst hlink
    have hyields : (transmit m x.frame q).Yields q.link.addressLength q [x.frame] [] [] :=
      yields_transmit hm hwritten
    exact .inl ⟨repeats, rfl, q, hq, hyields⟩

/-- When an exchange is not answered its frame is repeated while that is allowed. Then the link is
lost. -/
theorem step_missed {d : Demand} {repeats : Nat} (hm : m.writeFault = none)
    (hfits : address ≤ maxLinkAddress link.addressLength)
    (hproper : d.Proper link.addressLength widths)
    (h : p.Shows link widths address fcb (.exchanging d repeats)) :
    let t := p.step m .deadline
    (∃ left, repeats = left + 1 ∧ Leads link widths address fcb (.exchanging d left)
      [d.frame address fcb] [] [] t) ∨
      repeats = 0 ∧ Leads link widths address fcb (.idle false) [] [] (d.abandoned address) t := by
  obtain ⟨hlink, hwidths, peer, hpeers, rfl, rfl, hat⟩ := h
  have hwritten := Demand.written hproper hfits peer.fcb
  generalize hactivity : p.activity = activity at hat
  let q : Primary := { p with activity := .idle }
  have hq : q.peers = [peer] := hpeers
  let lost : Peer := { peer with state := .disconnected }
  let down : Primary := { q with peers := [lost] }
  have hdownlink : down.link = link := hlink
  have hdownpeers : down.peers = [lost] := rfl
  have hlost : lost.state = .active ↔ false = true := by simp [lost]
  have hidle : down.Shows link widths peer.address peer.fcb (.idle false) :=
    ⟨hdownlink, hwidths, lost, hdownpeers, rfl, rfl, .idle false hlost⟩
  have hresume : ∀ context, Leads link widths lost.address lost.fcb (.idle false) [] [] []
      (resume m 0 context down) :=
    fun context => leads_resume context hdownlink hwidths hdownpeers hlost
  have hdown : (setLinkState 0 .disconnected q).Yields link.addressLength down [] [] [] :=
    yields_setLinkState hq
  cases hat with
  | deliver x request asdu payload hindex hactive hx =>
    have haddress : x.frame.address?.getD 0 = peer.address := by
      rw [hx]
      rfl
    have hfailed : Leads link widths peer.address peer.fcb (.idle false) [] []
        ((Demand.deliver request asdu payload).abandoned peer.address)
        (exchangeFailed m x (.userData request) p) := by
      rw [exchangeFailed, hindex, haddress]
      exact Leads.of_yields hdown (leads_answer hidle request _)
    have hmissed := leads_exchangeMissed hm hlink hwidths hpeers (by rwa [hx])
      (fun y hy hyx => .deliver y request asdu payload (hy.trans hindex) hactive (hyx.trans hx))
      hfailed
    rw [hx] at hmissed
    simpa only [step, onDeadline, hactivity] using hmissed
  | poll x dataClass hindex hactive hx =>
    have hfailed : Leads link widths peer.address peer.fcb (.idle false) [] []
        ((Demand.fetch dataClass).abandoned peer.address) (exchangeFailed m x .poll p) := by
      rw [exchangeFailed, hindex]
      exact Leads.of_yields hdown (hresume .inCycle)
    have hmissed := leads_exchangeMissed hm hlink hwidths hpeers (by rwa [hx])
      (fun y hy hyx => .poll y dataClass (hy.trans hindex) hactive (hyx.trans hx)) hfailed
    rw [hx] at hmissed
    simpa only [step, onDeadline, hactivity] using hmissed
  | drain x more context hindex hactive hx =>
    have hfailed : Leads link widths peer.address peer.fcb (.idle false) [] []
        ((Demand.fetch .class1).abandoned peer.address)
        (exchangeFailed m x (.drain more context) p) := by
      rw [exchangeFailed, hindex]
      exact Leads.of_yields hdown (hresume context)
    have hmissed := leads_exchangeMissed hm hlink hwidths hpeers (by rwa [hx])
      (fun y hy hyx => .drain y more context (hy.trans hindex) hactive (hyx.trans hx)) hfailed
    rw [hx] at hmissed
    simpa only [step, onDeadline, hactivity] using hmissed

lemma start_leads {request : Nat} (hm : m.writeFault = none)
    (hfits : address ≤ maxLinkAddress link.addressLength)
    (h : start m [address] link widths request = .ok t) :
    Leads link widths address false (.asking .status) [HandshakeStep.status.frame address] [] []
      t := by
  obtain ⟨_, -, h⟩ := bind_eq_ok h
  obtain rfl := Except.ok.inj h
  let p : Primary := { link, widths, peers := [{ address }], activity := .idle, pollDue := none }
  have hpeers : p.peers = [{ address }] := rfl
  exact leads_beginHandshake .status (.opening request) hm rfl rfl hfits hpeers (by simp)

end Telecontrol.Primary
