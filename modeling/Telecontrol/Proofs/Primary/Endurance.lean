import Telecontrol.Proofs.Primary.Calls

/-!
# No request ends a primary station

Every frame that a primary station hands to the encoder can be encoded: the addresses of the
secondaries have been checked when it was opened, and user data is measured when it is handed over.
One lemma for each function says that its turn leaves the station fit for the next one and ends it
only as it may. Hence on a line that works a station is ended by its application, by what it reads,
or because a secondary is silent while the station is opened, and by nothing that it is to send.
-/

namespace Telecontrol.Primary

open Telecontrol.Turn (done fail report answer)

open Running (instruct receive await)

/-- The frame of what the station is doing, which is written at first and with each repetition. -/
def current? (p : Primary) : Option LinkFrame :=
  match p.activity with
  | .handshake h _ => p.peers[h.index]?.map fun peer => .request h.function false peer.address
  | .exchange x _ => some x.frame
  | .idle => none

/-- The frame that a turn hands to the encoder, if it hands any: one that is not to be acknowledged,
or that of what the station is doing after the turn. -/
def handed? (m : Moment) (input : Input) (p : Primary) : Option LinkFrame :=
  match input with
  | .command (.noReply address payload _) =>
    some (.userData (.request .userDataNoReply false) address payload)
  | _ => (step m input p).state.current?

/-- The reasons for which a turn ends the station though it writes all that it has to write. -/
inductive Tells (p : Primary) : Input → CloseReason → Prop
  | closed : Tells p (.command .close) .localClose
  | abandoned : Tells p .abandoned .localClose
  | broken (fault : Fault) : Tells p (.broken fault) (.ofFault fault)
  | unanswered {h : Handshake} {request : Nat} : p.activity = .handshake h (.opening request) →
      Tells p .deadline .handshakeTimeout

/-- The command sends an ASDU to one secondary and has it acknowledged, or sends it without
acknowledgment, or to all. -/
def Command.Sends (link : LinkParameters) (widths : FieldWidths) (asdu : Asdu) (request : Nat)
    (command : Command) : Prop :=
  (∃ address, sendCommand link widths address asdu request = .ok command) ∨
    (∃ address, noReplyCommand link widths address asdu request = .ok command) ∨
    broadcastCommand link widths asdu request = .ok command

/-- A command that an application can come by. -/
def Command.Issued (link : LinkParameters) (widths : FieldWidths) (command : Command) : Prop :=
  command = .close ∨ (∃ request, command = .linkStates request) ∨
    ∃ asdu request, command.Sends link widths asdu request

/-- The frame that the command asks for fits, if it is addressed as one of the secondaries is. -/
def Command.Fits (addressLength : Nat) : Command → Prop
  | userData _ payload _ => LinkFrame.Holds addressLength payload
  | noReply address payload _ =>
    address ≤ maxLinkAddress addressLength ∧ LinkFrame.Holds addressLength payload
  | linkStates _ | close => True

structure Addressed (link : LinkParameters) (p : Primary) : Prop where
  parameters : p.link = link
  fits : ∀ (i : Nat) (peer : Peer), p.peers[i]? = some peer →
    peer.address ≤ maxLinkAddress link.addressLength

/-- The frame of what the station is doing can be encoded. -/
structure Fit (link : LinkParameters) (p : Primary) : Prop extends Addressed link p where
  current : ∀ frame, p.current? = some frame →
    ∃ octets, frame.encode link.addressLength = .ok octets

/-- The turn leaves the station fit, writes no frame other than the one of what the station is
doing, and ends it for one of the given reasons or because the line fails. -/
structure Safe (link : LinkParameters) (m : Moment) (allowed : CloseReason → Prop) (t : Turn) :
    Prop where
  state : Fit link t.state
  frames : t.frames = [] ∨ ∃ frame, t.state.current? = some frame ∧ t.frames = [frame]
  ending : ∀ reason, t.ending = some reason →
    allowed reason ∨ ∃ text, m.writeFault = some text ∧ reason = .io text

variable {link : LinkParameters} {widths : FieldWidths} {p p' : Primary} {m : Moment}
  {allowed : CloseReason → Prop} {t : Turn} {next : Primary → Turn} {peer : Peer}
  {frame : LinkFrame} {index : Nat} {occasion : Occasion} {purpose : Purpose} {input : Input}

/-! ## Commands -/

lemma Command.Sends.shape {asdu : Asdu} {request : Nat} {command : Command}
    (hshort : link.addressLength ≤ 2) (h : command.Sends link widths asdu request) :
    command.Fits link.addressLength ∧ ∃ address payload,
      command = .userData address payload request ∨ command = .noReply address payload request := by
  have hnoReply {address : Nat}
      (h : noReplyCommand link widths address asdu request = .ok command) :
      command.Fits link.addressLength ∧ ∃ address payload,
        command = .userData address payload request ∨
          command = .noReply address payload request := by
    obtain ⟨_, haddress, h⟩ := bind_eq_ok h
    obtain ⟨payload, hpayload, heq⟩ := bind_eq_ok h
    obtain rfl := Except.ok.inj heq
    refine ⟨⟨?_, Asdu.holds_of_payload hshort hpayload⟩, _, _, .inr rfl⟩
    simpa [LinkParameters.checkAddress] using haddress
  rcases h with ⟨address, h⟩ | ⟨address, h⟩ | h
  · obtain ⟨payload, hpayload, heq⟩ := bind_eq_ok h
    obtain rfl := Except.ok.inj heq
    exact ⟨Asdu.holds_of_payload hshort hpayload, _, _, .inl rfl⟩
  · exact hnoReply h
  · exact hnoReply h

lemma Command.Issued.fits {command : Command} (hshort : link.addressLength ≤ 2)
    (h : command.Issued link widths) : command.Fits link.addressLength := by
  rcases h with rfl | ⟨request, rfl⟩ | ⟨asdu, request, h⟩
  · trivial
  · trivial
  · exact (h.shape hshort).1

/-! ## Stations -/

lemma Addressed.congr (h : Addressed link p) (hlink : p'.link = p.link)
    (hpeers : p'.peers = p.peers) : Addressed link p' where
  parameters := hlink.trans h.parameters
  fits := by
    rw [hpeers]
    exact h.fits

lemma Addressed.setPeer (h : Addressed link p) (index : Nat) {f : Peer → Peer}
    (hf : ∀ peer, (f peer).address = peer.address) : Addressed link (p.setPeer index f) where
  parameters := h.parameters
  fits := by
    intro i peer' hpeer'
    obtain ⟨peer, hpeer, rfl⟩ := getElem?_setPeer hpeer'
    rw [apply_ite Peer.address, hf, ite_self]
    exact h.fits i peer hpeer

lemma Addressed.setLinkState (h : Addressed link p) (index : Nat) (state : LinkState) :
    Addressed link (setLinkState index state p).state := by
  unfold Primary.setLinkState
  split
  · exact h
  · split
    · exact h
    · exact h.setPeer index fun _ => rfl

lemma Addressed.idle (h : Addressed link p) (hidle : p.activity = .idle) : Fit link p where
  toAddressed := h
  current := by simp [current?, hidle]

lemma current?_setPeer (p : Primary) (index : Nat) {f : Peer → Peer}
    (hf : ∀ peer, (f peer).address = peer.address) : (p.setPeer index f).current? = p.current? := by
  unfold current? setPeer
  dsimp only
  split
  · next h _ _ =>
    rw [List.getElem?_modify]
    cases p.peers[h.index]? with
    | none => rfl
    | some peer => by_cases heq : index = h.index <;> simp [heq, hf]
  · rfl
  · rfl

lemma Fit.setLinkState (h : Fit link p) (index : Nat) (state : LinkState) :
    Fit link (setLinkState index state p).state where
  toAddressed := h.toAddressed.setLinkState index state
  current := by
    have hsame : (Primary.setLinkState index state p).state.current? = p.current? := by
      unfold Primary.setLinkState
      split
      · rfl
      · split
        · rfl
        · exact current?_setPeer p index fun _ => rfl
    rw [hsame]
    exact h.current

lemma Addressed.busy (h : Addressed link p) (hcurrent : p.current? = some frame)
    (hencode : ∃ octets, frame.encode link.addressLength = .ok octets) : Fit link p where
  toAddressed := h
  current := by
    intro other hother
    obtain rfl := Option.some.inj (hcurrent.symm.trans hother)
    exact hencode

/-! ## Turns -/

lemma Mute.safe (h : Mute t) (hfit : Fit link t.state) : Safe link m allowed t where
  state := hfit
  frames := .inl h.frames
  ending _ hending := nomatch h.ending.symm.trans hending

lemma Mute.andThen (h : Mute t) (hnext : Safe link m allowed (next t.state)) :
    Safe link m allowed (t.andThen next) := by
  rw [Turn.andThen_of_none h.ending]
  have hframes : Turn.frames ⟨(next t.state).state, t.output ++ (next t.state).output,
      (next t.state).ending⟩ = (next t.state).frames := by
    rw [Turn.frames, List.filterMap_append, ← Turn.frames, h.frames, List.nil_append, ← Turn.frames]
  refine ⟨hnext.state, ?_, hnext.ending⟩
  rw [hframes]
  exact hnext.frames

lemma frames_breakOff (fault : Fault) (p : Primary) : (breakOff fault p).frames = [] := by
  unfold breakOff
  split <;> rfl

lemma safe_breakOff (hp : Fit link p) {fault : Fault} (hallowed : allowed (.ofFault fault)) :
    Safe link m allowed (breakOff fault p) where
  state := hp
  frames := .inl (frames_breakOff fault p)
  ending := by
    intro reason hreason
    obtain rfl := Option.some.inj hreason
    exact .inl hallowed

lemma Fit.written (h : Fit link p) (hcurrent : p.current? = some frame) (hm : m.writeFault = none) :
    (transmit m frame p).frames = [frame] ∧ (transmit m frame p).ending = none := by
  have hencode := h.current frame hcurrent
  rw [← h.parameters] at hencode
  obtain ⟨octets, heq⟩ := (transmit_of_encode hencode).1 hm
  rw [heq]
  exact ⟨rfl, rfl⟩

lemma Fit.transmit (h : Fit link p) (hcurrent : p.current? = some frame) (m : Moment) :
    Safe link m allowed (transmit m frame p) := by
  obtain ⟨octets, hencode⟩ := h.current frame hcurrent
  rw [Primary.transmit, h.parameters, hencode, Moment.transmit, ok_bind]
  cases hfault : m.writeFault with
  | none =>
    refine ⟨h, .inr ⟨frame, hcurrent, rfl⟩, ?_⟩
    intro reason hreason
    cases hreason
  | some text =>
    refine ⟨h, .inl (frames_breakOff _ p), ?_⟩
    intro reason hreason
    obtain rfl := Option.some.inj hreason
    exact .inr ⟨text, hfault, rfl⟩

/-! ## Handshakes -/

lemma safe_sendRequest {h : Handshake} (hp : Addressed link p)
    (hpeer : p.peers[h.index]? = some peer) :
    Safe link m allowed (sendRequest m h occasion peer.address p) := by
  let later : Handshake := { h with
    retryAt := min h.deadline (m.now + p.link.ackTimeout), paused := false }
  let q : Primary := { p with activity := .handshake later occasion }
  have hcurrent : q.current? = some (.request later.function false peer.address) := by
    simp [current?, q, later, hpeer]
  have hq : Addressed link q := hp.congr rfl rfl
  exact (hq.busy hcurrent (LinkFrame.encode_fixed _ (hp.fits _ _ hpeer))).transmit hcurrent m

lemma safe_beginHandshake (step : HandshakeStep) (occasion : Occasion) (hp : Addressed link p)
    (hpeer : p.peers[index]? = some peer) :
    Safe link m allowed (beginHandshake m index step occasion peer.address p) :=
  safe_sendRequest (h := ⟨index, step, _, _, _⟩) hp hpeer

/-! ## Exchanges -/

lemma Addressed.exchange {x : Exchange} (hp : Addressed link p)
    (hencode : ∃ octets, x.frame.encode link.addressLength = .ok octets) :
    Fit link { p with activity := .exchange x purpose } := by
  have hbusy : Addressed link { p with activity := .exchange x purpose } := hp.congr rfl rfl
  exact hbusy.busy rfl hencode

lemma safe_beginExchange {function : PrimaryFunction} {payload : Option Octets}
    (hp : Addressed link p) (hfits : peer.address ≤ maxLinkAddress link.addressLength)
    (hpayload : ∀ octets, payload = some octets → LinkFrame.Holds link.addressLength octets) :
    Safe link m allowed (beginExchange m index peer function payload purpose p) := by
  have hset : Addressed link (p.setPeer index ({ · with fcb := !peer.fcb })) :=
    hp.setPeer index fun _ => rfl
  cases payload with
  | none => exact (hset.exchange (LinkFrame.encode_fixed _ hfits)).transmit rfl m
  | some octets =>
    exact (hset.exchange (LinkFrame.encode_userData _ hfits (hpayload octets rfl))).transmit rfl m

lemma safe_beginPoll (hp : Addressed link p) (hpeer : p.peers[index]? = some peer) :
    Safe link m allowed (beginPoll m index peer p) := by
  have hset : Addressed link (p.setPeer index ({ · with nextPoll := otherClass peer.nextPoll })) :=
    hp.setPeer index fun _ => rfl
  exact safe_beginExchange hset (hp.fits _ _ hpeer) nofun

/-! ## Poll cycles and opening -/

lemma safe_rest (hp : Addressed link p) : Safe link m allowed (rest p) := by
  have hidle : Addressed link { p with activity := .idle } := hp.congr rfl rfl
  exact (mute_done _).safe (hidle.idle rfl)

lemma safe_cycleFrom (hp : Addressed link p) (index : Nat) :
    Safe link m allowed (cycleFrom m index p) := by
  unfold cycleFrom
  split
  · exact safe_rest hp
  · next peer hpeer =>
    split
    · exact safe_beginPoll hp hpeer
    · exact safe_beginHandshake .status _ hp hpeer

lemma safe_openFrom (hp : Addressed link p) (index request : Nat) :
    Safe link m allowed (openFrom m index request p) := by
  unfold openFrom
  split
  · next peer hpeer => exact safe_beginHandshake .status _ hp hpeer
  · have hopened : Addressed link { p with
        activity := .idle, pollDue := some (m.now + p.link.pollInterval) } := hp.congr rfl rfl
    exact (mute_answer ..).andThen ((mute_report ..).safe (hopened.idle rfl))

/-! ## The end of handshakes -/

lemma safe_linkEstablished (hp : Addressed link p) (index : Nat) (occasion : Occasion) :
    Safe link m allowed (linkEstablished m index occasion p) := by
  have hset : Addressed link (p.setPeer index ({ · with nextPoll := .class1 })) :=
    hp.setPeer index fun _ => rfl
  have hup := hset.setLinkState index .active
  apply (mute_setLinkState ..).andThen
  cases occasion with
  | opening request => exact safe_openFrom hup (index + 1) request
  | cycle => exact safe_cycleFrom hup (index + 1)

lemma safe_handshakeAnswered {h : Handshake} (hp : Addressed link p)
    (hpeer : p.peers[h.index]? = some peer) :
    Safe link m allowed (handshakeAnswered m h occasion peer.address p) := by
  unfold handshakeAnswered
  cases h.step with
  | status =>
    have hset : Addressed link ((setLinkState h.index .statusKnown p).state.setPeer h.index
        ({ · with fcb := false })) :=
      (hp.setLinkState h.index .statusKnown).setPeer h.index fun _ => rfl
    have hpeer' := peers_setPeer ({ · with fcb := false }) (peers_setLinkState .statusKnown hpeer)
    have hsafe : Safe link m allowed _ := safe_beginHandshake .reset occasion hset hpeer'
    exact (mute_setLinkState ..).andThen hsafe
  | reset => exact safe_linkEstablished hp h.index occasion

lemma safe_linkFailed (hp : Fit link p) (index address : Nat)
    (hallowed : ∀ request, occasion = .opening request → allowed .handshakeTimeout) :
    Safe link m allowed (linkFailed m index occasion address p) := by
  have hdown := hp.setLinkState index .disconnected
  apply (mute_setLinkState ..).andThen
  cases occasion with
  | opening request => exact safe_breakOff hdown (hallowed request rfl)
  | cycle => exact safe_cycleFrom hdown.toAddressed (index + 1)

lemma safe_handshakeExpired {h : Handshake} (hp : Fit link p)
    (hpeer : p.peers[h.index]? = some peer)
    (hallowed : ∀ request, occasion = .opening request → allowed .handshakeTimeout) :
    Safe link m allowed (handshakeExpired m h occasion peer.address p) := by
  unfold handshakeExpired
  split
  · exact safe_linkFailed hp h.index peer.address hallowed
  · exact safe_sendRequest hp.toAddressed hpeer

/-! ## The end of exchanges -/

lemma safe_resume (hp : Addressed link p) (index : Nat) (context : Context) :
    Safe link m allowed (resume m index context p) := by
  cases context with
  | afterData => exact safe_rest hp
  | inCycle => exact safe_cycleFrom hp (index + 1)

lemma safe_drain (hp : Addressed link p) (index more : Nat) (context : Context) :
    Safe link m allowed (drain m index more context p) := by
  unfold drain
  split
  · next peer hpeer => exact safe_beginExchange hp (hp.fits _ _ hpeer) nofun
  · exact safe_resume hp index context

lemma safe_exchangeAnswered (hp : Addressed link p) (x : Exchange) (purpose : Purpose)
    (response : LinkFrame) : Safe link m allowed (exchangeAnswered m x purpose response p) := by
  have hrested : Addressed link { p with activity := .idle } := hp.congr rfl rfl
  have hidle := hrested.idle rfl
  unfold exchangeAnswered
  cases purpose with
  | userData request =>
    dsimp only
    split
    · apply (mute_answer ..).andThen
      split
      · exact safe_drain hrested x.index maxDrain .afterData
      · exact (mute_done _).safe hidle
    · exact (mute_answer ..).safe hidle
  | poll =>
    apply (mute_reportData ..).andThen
    rw [reportData_state]
    split
    · exact safe_drain hrested x.index maxDrain .inCycle
    · exact safe_resume hrested x.index .inCycle
  | drain more context =>
    apply (mute_reportData ..).andThen
    rw [reportData_state]
    split
    · exact safe_drain hrested x.index more context
    · exact safe_resume hrested x.index context

lemma safe_exchangeFailed (hp : Addressed link p) (x : Exchange) (purpose : Purpose) :
    Safe link m allowed (exchangeFailed m x purpose p) := by
  have hrested : Addressed link { p with activity := .idle } := hp.congr rfl rfl
  have hdown := (hrested.idle rfl).setLinkState x.index .disconnected
  apply (mute_setLinkState ..).andThen
  cases purpose with
  | userData request => exact (mute_answer ..).safe hdown
  | poll => exact safe_resume hdown.toAddressed x.index .inCycle
  | drain more context => exact safe_resume hdown.toAddressed x.index context

lemma safe_exchangeMissed {x : Exchange} (hp : Addressed link p)
    (hencode : ∃ octets, x.frame.encode link.addressLength = .ok octets) :
    Safe link m allowed (exchangeMissed m x purpose p) := by
  unfold exchangeMissed
  split
  · exact safe_exchangeFailed hp x purpose
  · next repeats _ =>
    let again : Exchange := { x with repeats, deadline := m.now + p.link.ackTimeout }
    have hagain : Fit link { p with activity := .exchange again purpose } := hp.exchange hencode
    exact hagain.transmit rfl m

/-! ## What happens -/

lemma safe_onFrame (hp : Fit link p) (m : Moment) (frame : LinkFrame) :
    Safe link m allowed (onFrame m frame p) := by
  have hdone : Safe link m allowed (done p) := (mute_done p).safe hp
  unfold onFrame
  cases hactivity : p.activity with
  | idle => exact hdone
  | handshake h occasion =>
    dsimp only
    split
    · exact hdone
    next peer hpeer =>
    split
    · exact hdone
    split
    · exact safe_handshakeAnswered hp.toAddressed hpeer
    · -- The frame of a handshake does not depend on whether the station pauses.
      let q : Primary := { p with activity := .handshake { h with paused := true } occasion }
      have hq : Addressed link q := hp.toAddressed.congr rfl rfl
      have hsame : q.current? = p.current? := by
        simp only [current?, hactivity, q]
        rfl
      refine (mute_done q).safe ⟨hq, ?_⟩
      change ∀ frame, q.current? = some frame → _
      rw [hsame]
      exact hp.current
  | exchange x purpose =>
    have hencode := hp.current x.frame (by simp [current?, hactivity])
    dsimp only
    split
    · exact hdone
    split
    · exact safe_exchangeMissed hp.toAddressed hencode
    · exact safe_exchangeAnswered hp.toAddressed x purpose frame

lemma safe_onDeadline (hp : Fit link p) (m : Moment) :
    Safe link m (Tells p .deadline) (onDeadline m p) := by
  unfold onDeadline
  cases hactivity : p.activity with
  | idle =>
    dsimp only
    split
    · apply safe_cycleFrom
      exact hp.toAddressed.congr rfl rfl
    · exact (mute_done p).safe hp
  | handshake h occasion =>
    dsimp only
    split
    · exact (mute_done p).safe hp
    · next peer hpeer =>
      apply safe_handshakeExpired hp hpeer
      rintro request rfl
      exact .unanswered hactivity
  | exchange x purpose =>
    exact safe_exchangeMissed hp.toAddressed (hp.current x.frame (by simp [current?, hactivity]))

/-- What a turn hands to the encoder can be encoded and is what it writes. The turn leaves the
station fit and ends it only as it may. -/
structure HandsOverEncodable (link : LinkParameters) (m : Moment) (input : Input) (p : Primary) :
    Prop where
  state : Fit link (step m input p).state
  encodes : ∀ frame, handed? m input p = some frame →
    ∃ octets, frame.encode link.addressLength = .ok octets
  writes : (step m input p).frames = [] ∨
    ∃ frame, handed? m input p = some frame ∧ (step m input p).frames = [frame]
  ends : ∀ reason, (step m input p).ending = some reason →
    Tells p input reason ∨ ∃ text, m.writeFault = some text ∧ reason = .io text

lemma Safe.handsOverEncodable (h : Safe link m (Tells p input) (step m input p))
    (hhanded : handed? m input p = (step m input p).state.current?) :
    HandsOverEncodable link m input p where
  state := h.state
  encodes := by
    rw [hhanded]
    exact h.state.current
  writes := by
    rw [hhanded]
    exact h.frames
  ends := h.ending

lemma step_noReply {address request : Nat} {payload octets : Octets}
    (hoctets : (LinkFrame.userData (.request .userDataNoReply false) address payload).encode
      p.link.addressLength = .ok octets) (m : Moment) :
    (m.writeFault = none → step m (.command (.noReply address payload request)) p =
        ⟨p, [.wrote (.userData (.request .userDataNoReply false) address payload) octets,
          .answered request .done], none⟩) ∧
      ∀ text, m.writeFault = some text → step m (.command (.noReply address payload request)) p =
        ⟨p, [.answered request (.refused (.connection (.writeFailed (Fault.io text).message)))],
          some (.io text)⟩ := by
  simp only [step, onCommand, hoctets, Moment.transmit, ok_bind]
  constructor
  · intro hm
    rw [hm]
    rfl
  · intro text htext
    rw [htext]
    rfl

lemma handsOverEncodable_noReply {address request : Nat} {payload : Octets} (hp : Fit link p)
    (hfits : address ≤ maxLinkAddress link.addressLength)
    (hholds : LinkFrame.Holds link.addressLength payload) (m : Moment) :
    HandsOverEncodable link m (.command (.noReply address payload request)) p := by
  have hencode := LinkFrame.encode_userData (.request .userDataNoReply false) hfits hholds
  have hencodes : ∀ frame, handed? m (.command (.noReply address payload request)) p = some frame →
      ∃ octets, frame.encode link.addressLength = .ok octets := by
    intro frame hframe
    obtain rfl := Option.some.inj hframe
    exact hencode
  rw [← hp.parameters] at hencode
  obtain ⟨octets, hoctets⟩ := hencode
  -- The station stays as it is, whether the line takes the frame or not.
  obtain ⟨hworks, hfails⟩ := step_noReply hoctets m
  cases hfault : m.writeFault with
  | none =>
    have hstep := hworks hfault
    refine ⟨hstep ▸ hp, hencodes, .inr ⟨_, rfl, ?_⟩, ?_⟩
    · rw [hstep]
      rfl
    · rw [hstep]
      intro reason hreason
      cases hreason
  | some text =>
    have hstep := hfails text hfault
    refine ⟨hstep ▸ hp, hencodes, .inl ?_, ?_⟩
    · rw [hstep]
      rfl
    · rw [hstep]
      intro reason hreason
      obtain rfl := Option.some.inj hreason
      exact .inr ⟨text, hfault, rfl⟩

lemma handsOverEncodable_onCommand {command : Command} (hp : Fit link p)
    (hfits : command.Fits link.addressLength) (m : Moment) :
    HandsOverEncodable link m (.command command) p := by
  cases command with
  | userData address payload request =>
    refine Safe.handsOverEncodable ?_ rfl
    dsimp only [step, onCommand]
    split
    · exact (mute_answer ..).safe hp
    split
    · exact (mute_answer ..).safe hp
    next peer hpeer =>
    split
    · apply safe_beginExchange hp.toAddressed (hp.fits _ _ hpeer)
      intro octets hoctets
      obtain rfl := Option.some.inj hoctets
      exact hfits
    · exact (mute_answer ..).safe hp
  | noReply address payload request => exact handsOverEncodable_noReply hp hfits.1 hfits.2 m
  | linkStates request => exact Safe.handsOverEncodable ((mute_answer ..).safe hp) rfl
  | close =>
    refine Safe.handsOverEncodable ⟨hp, .inl rfl, ?_⟩ rfl
    intro reason hreason
    obtain rfl := Option.some.inj hreason
    exact .inl .closed

theorem handsOverEncodable_step (hp : Fit link p) (m : Moment) (input : Input)
    (hfits : ∀ command, input = .command command → command.Fits link.addressLength) :
    HandsOverEncodable link m input p := by
  cases input with
  | frame frame => exact Safe.handsOverEncodable (safe_onFrame hp m frame) rfl
  | broken fault => exact Safe.handsOverEncodable (safe_breakOff hp (.broken fault)) rfl
  | command command => exact handsOverEncodable_onCommand hp (hfits command rfl) m
  | deadline => exact Safe.handsOverEncodable (safe_onDeadline hp m) rfl
  | abandoned =>
    refine Safe.handsOverEncodable ⟨hp, .inl rfl, ?_⟩ rfl
    intro reason hreason
    obtain rfl := Option.some.inj hreason
    exact .inl .abandoned

/-! ## Runs -/

/-- The station is fit and only commands that an application can come by wait for it. -/
structure FitWithIssuedMail (link : LinkParameters) (widths : FieldWidths) (r : Run) : Prop where
  fit : Fit link r.station
  mail : ∀ command ∈ r.mail, command.Issued link widths

variable {r r' : Run} {action : Action} {actions : List Action} {inbox : Inbox}
  {mail : List Command} {turnOf : Running.Occasion}

lemma FitWithIssuedMail.faces (h : FitWithIssuedMail link widths r)
    (hshort : link.addressLength ≤ 2)
    (hinput : r.input? conduct turnOf = some (input, inbox, mail)) :
    (∀ command, input = .command command → command.Fits link.addressLength) ∧
      ∀ command ∈ mail, command.Issued link widths := by
  rcases input_cases hinput with ⟨⟨frame, rfl⟩ | ⟨fault, rfl⟩, -, rfl⟩ | ⟨command, rfl, hmail, -⟩ |
    ⟨rfl, -, -, rfl⟩ | ⟨rfl, rfl, -⟩
  · exact ⟨nofun, h.mail⟩
  · exact ⟨nofun, h.mail⟩
  · have hall := h.mail
    rw [hmail] at hall
    obtain ⟨hfirst, hrest⟩ := List.forall_mem_cons.1 hall
    refine ⟨?_, hrest⟩
    intro other hother
    obtain rfl := Input.command.inj hother
    exact hfirst.fits hshort
  · exact ⟨nofun, h.mail⟩
  · exact ⟨nofun, nofun⟩

lemma FitWithIssuedMail.advance (h : FitWithIssuedMail link widths r)
    (hshort : link.addressLength ≤ 2) (hadvances : Running.Advances conduct r action r')
    (hasked : ∀ command, action = .ask command → command.Issued link widths) :
    FitWithIssuedMail link widths r' := by
  cases hadvances with
  | arrives | hangsUp | elapses | askedLate => exact ⟨h.fit, h.mail⟩
  | asked command _ =>
    refine ⟨h.fit, ?_⟩
    intro other hother
    rcases List.mem_append.1 hother with hold | hnew
    · exact h.mail other hold
    · obtain rfl := List.mem_singleton.1 hnew
      exact hasked other rfl
  | @turns turnOf fault input inbox mail _ hinput =>
    obtain ⟨hfits, hrest⟩ := h.faces hshort hinput
    have hturn := handsOverEncodable_step h.fit ⟨r.now, fault⟩ input hfits
    constructor
    · rw [Running.proceed, left_eq]
      exact hturn.state
    · simp only [Running.proceed]
      split
      · exact hrest
      · simp

lemma fits_of_checkAddresses {seen addresses : List Nat}
    (h : checkAddresses link seen addresses = .ok ()) :
    ∀ address ∈ addresses, address ≤ maxLinkAddress link.addressLength := by
  induction addresses generalizing seen with
  | nil => exact nofun
  | cons address rest ih =>
    obtain ⟨hfits, -, hrest⟩ := checkAddresses_cons h
    refine List.forall_mem_cons.2 ⟨?_, ih hrest⟩
    simpa [LinkParameters.checkAddress] using hfits

lemma short_of_validate (h : link.validate = .ok ()) : link.addressLength ≤ 2 := by
  unfold LinkParameters.validate at h
  split at h
  · cases h
  · omega

lemma safe_start {addresses : List Nat} {request : Nat}
    (h : start m addresses link widths request = .ok t) :
    link.addressLength ≤ 2 ∧ Safe link m allowed t := by
  obtain ⟨_, hvalid, heq⟩ := bind_eq_ok h
  obtain rfl := Except.ok.inj heq
  obtain ⟨_, hlink, -⟩ := bind_eq_ok hvalid
  refine ⟨short_of_validate hlink, safe_openFrom ⟨?_, ?_⟩ 0 request⟩
  · rfl
  intro i peer hpeer
  rw [List.getElem?_map] at hpeer
  obtain ⟨address, haddress, rfl⟩ := Option.map_eq_some_iff.1 hpeer
  exact fits_of_checkAddresses (checkAddresses_of_validate hvalid) address
    (List.mem_of_getElem? haddress)

lemma carried_out {asdu : Asdu} {request : Nat} {command : Command} (hp : Fit link p)
    (hshort : link.addressLength ≤ 2) (hsends : command.Sends link widths asdu request)
    (m : Moment) :
    (∃ fault, step m (.command command) p = answer request (.refused fault) p) ∨
      ∃ frame octets, handed? m (.command command) p = some frame ∧
        frame.encode link.addressLength = .ok octets ∧
        (m.writeFault = none → (step m (.command command) p).frames = [frame] ∧
          (step m (.command command) p).ending = none) := by
  obtain ⟨hfits, address, payload, rfl | rfl⟩ := hsends.shape hshort
  · simp only [handed?, step, onCommand]
    split
    · exact .inl ⟨_, rfl⟩
    next index _ =>
    split
    · exact .inl ⟨_, rfl⟩
    next peer hpeer =>
    split
    · right
      let frame := LinkFrame.userData (.request .userDataConfirmed (!peer.fcb)) peer.address payload
      have hencode : ∃ octets, frame.encode link.addressLength = .ok octets :=
        LinkFrame.encode_userData _ (hp.fits _ _ hpeer) hfits
      have hset : Addressed link (p.setPeer index ({ · with fcb := !peer.fcb })) :=
        hp.toAddressed.setPeer index fun _ => rfl
      obtain ⟨octets, hoctets⟩ := hencode
      refine ⟨frame, octets, ?_, hoctets, ?_⟩
      · rw [beginExchange, transmit_state]
        rfl
      · exact (hset.exchange ⟨octets, hoctets⟩).written rfl
    · exact .inl ⟨_, rfl⟩
  · right
    obtain ⟨octets, hoctets⟩ := LinkFrame.encode_userData (.request .userDataNoReply false) hfits.1
      hfits.2
    refine ⟨_, octets, rfl, hoctets, ?_⟩
    intro hm
    rw [← hp.parameters] at hoctets
    rw [(step_noReply hoctets m).1 hm]
    exact ⟨rfl, rfl⟩

/-- The station has ended only for a reason that its last turn tells. -/
def EndedByLastTurn (r : Run) : Prop :=
  ∀ reason, r.ending = some reason → ∃ e, r.past.getLast? = some e ∧ Tells e.station e.input reason

lemma FitWithIssuedMail.endedByLastTurn (h : FitWithIssuedMail link widths r)
    (hshort : link.addressLength ≤ 2) (hadvances : Running.Advances conduct r action r')
    (hline : ∀ turnOf fault, action = .turn turnOf fault → fault = none)
    (hended : EndedByLastTurn r) : EndedByLastTurn r' := by
  cases hadvances with
  | arrives | hangsUp | elapses | asked | askedLate => exact hended
  | @turns turnOf fault input inbox mail _ hinput =>
    intro reason hending
    refine ⟨_, List.getLast?_concat, ?_⟩
    have hturn := handsOverEncodable_step h.fit ⟨r.now, fault⟩ input (h.faces hshort hinput).1
    rcases hturn.ends reason hending with htells | ⟨text, hfault, -⟩
    · exact htells
    · exact nomatch (hline turnOf fault rfl).symm.trans hfault

/-- Whatever an application asks and whatever arrives, every frame that the station hands to the
encoder is accepted, in the turn that begins with it and whenever it is repeated, and only the line
can keep it from being written. Hence a station on a line that works has ended because it was closed
or abandoned, because of what it read, or because a link was not brought up when it was opened. A
call to send an ASDU that comes through to the station is refused, in which case nothing is written
and the station is left as it is, or its frame is handed to the encoder. -/
theorem requests_written {addresses : List Nat} {request : Nat}
    (hstart : start m addresses link widths request = .ok t)
    (hasked : ∀ command, .ask command ∈ actions → command.Issued link widths)
    (hrun : (Running.begin conduct m.now t).run conduct actions = some r) :
    (∀ frame, r.station.current? = some frame →
        ∃ octets, frame.encode link.addressLength = .ok octets) ∧
      (∀ m' turnOf input inbox mail, r.input? conduct turnOf = some (input, inbox, mail) →
        HandsOverEncodable link m' input r.station) ∧
      (m.writeFault = none → (∀ turnOf fault, .turn turnOf fault ∈ actions → fault = none) →
        EndedByLastTurn r) ∧
      ∀ m' asdu number command, command.Sends link widths asdu number →
        (∃ fault, step m' (.command command) r.station =
          answer number (.refused fault) r.station) ∨
        ∃ frame octets, handed? m' (.command command) r.station = some frame ∧
          frame.encode link.addressLength = .ok octets ∧
          (m'.writeFault = none → (step m' (.command command) r.station).frames = [frame] ∧
            (step m' (.command command) r.station).ending = none) := by
  obtain ⟨hshort, hsafe⟩ : _ ∧ Safe link m (fun _ => False) t := safe_start hstart
  have hbegun : FitWithIssuedMail link widths (Running.begin conduct m.now t) := by
    refine ⟨?_, nofun⟩
    rw [Running.begin, left_eq]
    exact hsafe.state
  have hkeeps : ∀ action ∈ actions, ∀ r₁ r₂, FitWithIssuedMail link widths r₁ →
      Running.Advances conduct r₁ action r₂ → FitWithIssuedMail link widths r₂ := by
    intro action hmem r₁ r₂ h hadvances
    apply h.advance hshort hadvances
    rintro command rfl
    exact hasked command hmem
  have hissued : FitWithIssuedMail link widths r := Running.run_keeps hbegun hkeeps hrun
  refine ⟨hissued.fit.current, ?_, ?_, ?_⟩
  · intro m' turnOf input inbox mail hinput
    exact handsOverEncodable_step hissued.fit m' input (hissued.faces hshort hinput).1
  · intro hm hline
    have hstill : EndedByLastTurn (Running.begin conduct m.now t) := by
      intro reason hending
      obtain hnever | ⟨text, hfault, -⟩ := hsafe.ending reason hending
      · exact hnever.elim
      · exact nomatch hm.symm.trans hfault
    have hboth : FitWithIssuedMail link widths r ∧ EndedByLastTurn r := by
      apply Running.run_keeps (P := fun r => FitWithIssuedMail link widths r ∧ EndedByLastTurn r)
        ⟨hbegun, hstill⟩ _ hrun
      intro action hmem r₁ r₂ ⟨h, hended⟩ hadvances
      refine ⟨hkeeps action hmem r₁ r₂ h hadvances, h.endedByLastTurn hshort hadvances ?_ hended⟩
      rintro turnOf fault rfl
      exact hline turnOf fault hmem
    exact hboth.2
  · intro m' asdu number command hsends
    exact carried_out hissued.fit hshort hsends m'

/-- An ASDU is sent to a secondary that the station does not have, to all and to the first one,
which does not acknowledge it in time. -/
def insistent : List Action :=
  [linkUp 1, linkUp 2, instruct (.userData 9 [102, 0, 5, 7] 1),
    instruct (.noReply 255 [102, 0, 5, 7] 2), instruct (.userData 1 [102, 0, 5, 7] 3),
    await 500].flatten

def repeating : Run :=
  ((Running.begin conduct 0 opening).run conduct insistent).getD
    (Running.begin conduct 0 opening)

/-- The first call is refused, and the frame of the last one is written a second time. -/
theorem requests_written_insistent :
    start ⟨0, none⟩ [1, 2] {} .serial 0 = .ok opening ∧
      (Running.begin conduct 0 opening).run conduct insistent = some repeating ∧
      repeating.past.map (fun e => (e.output.filterMap Output.frame?).length) =
        [1, 1, 1, 0, 0, 1, 1, 1] ∧
      repeating.station.current? =
        some (.userData (.request .userDataConfirmed true) 1 [102, 0, 5, 7]) ∧
      (∃ octets, (LinkFrame.userData (.request .userDataConfirmed true) 1 [102, 0, 5, 7]).encode 1 =
        .ok octets) ∧
      EndedByLastTurn repeating := by
  have hstart : start ⟨0, none⟩ [1, 2] {} .serial 0 = .ok opening := rfl
  have hrun : (Running.begin conduct 0 opening).run conduct insistent = some repeating := by
    decide +kernel
  let asdu : Asdu := .empty .readCommand .request 7
  have hasked : ∀ command, .ask command ∈ insistent → command.Issued {} .serial := by
    intro command hmem
    obtain rfl | rfl | rfl : command = .userData 9 [102, 0, 5, 7] 1 ∨
        command = .noReply 255 [102, 0, 5, 7] 2 ∨ command = .userData 1 [102, 0, 5, 7] 3 := by
      simpa [insistent, linkUp, instruct, receive, await, Running.Action.read] using hmem
    · exact .inr (.inr ⟨asdu, 1, .inl ⟨9, rfl⟩⟩)
    · exact .inr (.inr ⟨asdu, 2, .inr (.inr rfl)⟩)
    · exact .inr (.inr ⟨asdu, 3, .inl ⟨1, rfl⟩⟩)
  have hline : ∀ turnOf fault, .turn turnOf fault ∈ insistent → fault = none := by
    intro turnOf fault hmem
    obtain ⟨-, rfl⟩ | ⟨-, rfl⟩ | ⟨-, rfl⟩ : (turnOf = .arrival ∧ fault = none) ∨
        (turnOf = .command ∧ fault = none) ∨ turnOf = .expiry ∧ fault = none := by
      simpa [insistent, linkUp, instruct, receive, await, Running.Action.read] using hmem
    all_goals rfl
  obtain ⟨hcurrent, -, hended, -⟩ := requests_written hstart hasked hrun
  have hbusy : repeating.station.current? =
      some (.userData (.request .userDataConfirmed true) 1 [102, 0, 5, 7]) := by decide +kernel
  exact ⟨hstart, hrun, by decide +kernel, hbusy, hcurrent _ hbusy, hended rfl hline⟩

end Telecontrol.Primary
