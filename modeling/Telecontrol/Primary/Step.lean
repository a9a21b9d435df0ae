import Telecontrol.Inbox
import Telecontrol.Primary.Basic

/-!
# Turns of the primary station

The station is opened by bringing up the links to all secondaries in turn. After that it polls them
in cycles, with alternating classes, and fetches class 1 data that a response announces. Every
numbered frame is sent with a new frame count bit and repeated unchanged; a secondary that does not
answer loses its link, which the next poll cycle brings up again.
-/

namespace Telecontrol.Primary

abbrev Turn := Telecontrol.Turn Primary LinkFrame

open Telecontrol.Turn (done fail report answer)

def write (m : Moment) (frame : LinkFrame) (p : Primary) : Turn :=
  Turn.write m frame (frame.encode p.link.addressLength) p

/-- Reports a new state of a link, unless it is the old one. -/
def setLinkState (index : Nat) (state : LinkState) (p : Primary) : Turn :=
  match p.peers[index]? with
  | none => done p
  | some peer =>
    if peer.state = state then done p
    else report (.linkStateChanged peer.address state) (p.setPeer index ({ · with state }))

/-- A failure of the line ends the station. The request it is busy with learns of it. -/
def breakOff (fault : Fault) (p : Primary) : Turn :=
  let answers : List (Output LinkFrame) :=
    match p.activity with
    | .handshake _ (.opening request) => [.answered request (.refused fault)]
    | .exchange _ (.userData request) =>
      [.answered request (.refused (.connection (.writeFailed fault.message)))]
    | _ => []
  ⟨p, answers, some (.ofFault fault)⟩

/-- Writes a frame of the current activity. -/
def transmit (m : Moment) (frame : LinkFrame) (p : Primary) : Turn :=
  match m.transmit (frame.encode p.link.addressLength) with
  | .ok octets => ⟨p, [.wrote frame octets], none⟩
  | .error fault => breakOff fault p

def rest (p : Primary) : Turn := done { p with activity := .idle }

/-! ## Handshakes -/

namespace Handshake

def function (h : Handshake) : PrimaryFunction :=
  match h.step with
  | .status => .requestLinkStatus
  | .reset => .resetRemoteLink

/-- A request for the status is also answered by a station that has no data. -/
def accepts (h : Handshake) (frame : LinkFrame) : Bool :=
  match h.step with
  | .status =>
    match frame.control? with
    | some (.secondary .statusOfLink _ _) | some (.secondary .respNackNoData _ _) => true
    | _ => false
  | .reset => frame.isAck

end Handshake

/-- Sends the request of a handshake. An answer counts until the next repetition is due. -/
def sendRequest (m : Moment) (h : Handshake) (occasion : Occasion) (address : Nat)
    (p : Primary) : Turn :=
  let h := { h with
    retryAt := min h.deadline (m.now + p.link.ackTimeout), paused := false }
  transmit m (.request h.function false address) { p with activity := .handshake h occasion }

def beginHandshake (m : Moment) (index : Nat) (step : HandshakeStep) (occasion : Occasion)
    (address : Nat) (p : Primary) : Turn :=
  let deadline := m.now + p.link.initTimeout
  sendRequest m { index, step, deadline, retryAt := m.now, paused := false } occasion address p

/-! ## Exchanges -/

/-- Sends a numbered frame with a new frame count bit. -/
def beginExchange (m : Moment) (index : Nat) (peer : Peer) (function : PrimaryFunction)
    (payload : Option Octets) (purpose : Purpose) (p : Primary) : Turn :=
  let control := ControlField.request function (!peer.fcb)
  let frame :=
    match payload with
    | some octets => LinkFrame.userData control peer.address octets
    | none => .fixed control peer.address
  let exchange : Exchange :=
    { index, frame, repeats := p.link.retries, deadline := m.now + p.link.ackTimeout }
  transmit m frame
    { p.setPeer index ({ · with fcb := !peer.fcb }) with
      activity := .exchange exchange purpose }

def requestFunction : DataClass → PrimaryFunction
  | .class1 => .requestClass1
  | .class2 => .requestClass2

def otherClass : DataClass → DataClass
  | .class1 => .class2
  | .class2 => .class1

/-- Asks a secondary for the class whose turn it is. -/
def beginPoll (m : Moment) (index : Nat) (peer : Peer) (p : Primary) : Turn :=
  beginExchange m index peer (requestFunction peer.nextPoll) none .poll
    (p.setPeer index ({ · with nextPoll := otherClass peer.nextPoll }))

/-! ## Poll cycles and opening -/

/-- Goes on with a poll cycle at the secondary of the given index. A secondary whose link is down is
not polled; its link is brought up. -/
def cycleFrom (m : Moment) (index : Nat) (p : Primary) : Turn :=
  match p.peers[index]? with
  | none => rest p
  | some peer =>
    if peer.state = .active then beginPoll m index peer p
    else beginHandshake m index .status .cycle peer.address p

/-- Goes on with opening at the secondary of the given index. -/
def openFrom (m : Moment) (index request : Nat) (p : Primary) : Turn :=
  match p.peers[index]? with
  | some peer => beginHandshake m index .status (.opening request) peer.address p
  | none =>
    (answer request .done
      { p with activity := .idle, pollDue := some (m.now + p.link.pollInterval) }).andThen
      (report .ready)

/-- Begins a poll cycle and says when the next one is due. -/
def beginCycle (m : Moment) (due : Nat) (p : Primary) : Turn :=
  let late := due + pollTolerance < m.now
  cycleFrom m 0 { p with
    pollDue := some ((if late then m.now else due) + p.link.pollInterval) }

/-! ## The end of handshakes -/

/-- The link of a secondary is up. -/
def linkEstablished (m : Moment) (index : Nat) (occasion : Occasion) (p : Primary) : Turn :=
  (setLinkState index .active (p.setPeer index ({ · with nextPoll := .class1 }))).andThen
    fun p =>
      match occasion with
      | .opening request => openFrom m (index + 1) request p
      | .cycle => cycleFrom m (index + 1) p

/-- The link of a secondary cannot be brought up. -/
def linkFailed (m : Moment) (index : Nat) (occasion : Occasion) (address : Nat) (p : Primary) :
    Turn :=
  (setLinkState index .disconnected p).andThen fun p =>
    match occasion with
    | .opening _ => breakOff (.linkTimeout (.initialization address)) p
    | .cycle => cycleFrom m (index + 1) p

/-- A handshake has got the answer it asked for. -/
def handshakeAnswered (m : Moment) (h : Handshake) (occasion : Occasion) (address : Nat)
    (p : Primary) : Turn :=
  match h.step with
  | .status =>
    (setLinkState h.index .statusKnown p).andThen fun p =>
      beginHandshake m h.index .reset occasion address
        (p.setPeer h.index ({ · with fcb := false }))
  | .reset => linkEstablished m h.index occasion p

/-- The time for an answer is over: the request is repeated until the time of the handshake is over
as well. -/
def handshakeExpired (m : Moment) (h : Handshake) (occasion : Occasion) (address : Nat)
    (p : Primary) : Turn :=
  if h.deadline ≤ m.now then linkFailed m h.index occasion address p
  else sendRequest m h occasion address p

/-! ## The end of exchanges -/

/-- Goes on after announced data has been fetched. -/
def resume (m : Moment) (index : Nat) (context : Context) (p : Primary) : Turn :=
  match context with
  | .afterData => rest p
  | .inCycle => cycleFrom m (index + 1) p

/-- Fetches announced class 1 data, at most `more` times. -/
def drain (m : Moment) (index more : Nat) (context : Context) (p : Primary) : Turn :=
  match more, p.peers[index]? with
  | more + 1, some peer =>
    beginExchange m index peer .requestClass1 none (.drain more context) p
  | _, _ => resume m index context p

/-- The data of a response, if it has any that can be decoded, is reported. -/
def reportData (response : LinkFrame) (p : Primary) : Turn :=
  match response with
  | .userData _ _ payload =>
    match Asdu.decode p.widths payload with
    | .ok asdu => report (.asduReceived asdu) p
    | .error _ => done p
  | _ => done p

def announcesData (response : LinkFrame) : Bool :=
  match response.control? with
  | some control => control.accessDemand
  | none => false

/-- A secondary has answered. -/
def exchangeAnswered (m : Moment) (x : Exchange) (purpose : Purpose) (response : LinkFrame)
    (p : Primary) : Turn :=
  let p := { p with activity := .idle }
  match purpose with
  | .userData request =>
    if response.isAck then
      (answer request .done p).andThen fun p =>
        if announcesData response then drain m x.index maxDrain .afterData p else done p
    else answer request (.refused (.protocol (.unexpectedResponse response))) p
  | .poll =>
    (reportData response p).andThen fun p =>
      if announcesData response then drain m x.index maxDrain .inCycle p
      else resume m x.index .inCycle p
  | .drain more context =>
    (reportData response p).andThen fun p =>
      if announcesData response then drain m x.index more context p
      else resume m x.index context p

/-- A secondary has not answered in any attempt. Its link is lost. -/
def exchangeFailed (m : Moment) (x : Exchange) (purpose : Purpose) (p : Primary) : Turn :=
  (setLinkState x.index .disconnected { p with activity := .idle }).andThen fun p =>
    match purpose with
    | .userData request =>
      let address := (x.frame.address?).getD 0
      answer request (.refused (.retriesExhausted address)) p
    | .poll => resume m x.index .inCycle p
    | .drain _ context => resume m x.index context p

/-- The frame of an exchange is repeated while that is allowed. -/
def exchangeMissed (m : Moment) (x : Exchange) (purpose : Purpose) (p : Primary) : Turn :=
  match x.repeats with
  | 0 => exchangeFailed m x purpose p
  | repeats + 1 =>
    let x := { x with repeats, deadline := m.now + p.link.ackTimeout }
    transmit m x.frame { p with activity := .exchange x purpose }

/-! ## What happens -/

/-- Whether a frame is a response of the secondary with an address. The single characters have no
address and count as responses of any. -/
def isResponseOf (address : Nat) (frame : LinkFrame) : Bool :=
  !(frame.control?.any ControlField.isPrimary) &&
    (match frame.address? with
    | some sender => sender == address
    | none => true)

/-- Frames that answer nothing are not heeded. -/
def onFrame (m : Moment) (frame : LinkFrame) (p : Primary) : Turn :=
  match p.activity with
  | .idle => done p
  | .handshake h occasion =>
    match p.peers[h.index]? with
    | none => done p
    | some peer =>
      if !isResponseOf peer.address frame then done p
      else if h.accepts frame then handshakeAnswered m h occasion peer.address p
      else done { p with activity := .handshake { h with paused := true } occasion }
  | .exchange x purpose =>
    if !isResponseOf (x.frame.address?.getD 0) frame then done p
    else if frame.isNack then exchangeMissed m x purpose p
    else exchangeAnswered m x purpose frame p

/-- The time at which the current activity was to go on has come. -/
def onDeadline (m : Moment) (p : Primary) : Turn :=
  match p.activity with
  | .idle =>
    match p.pollDue with
    | some due => beginCycle m due p
    | none => done p
  | .handshake h occasion =>
    match p.peers[h.index]? with
    | none => done p
    | some peer => handshakeExpired m h occasion peer.address p
  | .exchange x purpose => exchangeMissed m x purpose p

def onCommand (m : Moment) (command : Command) (p : Primary) : Turn :=
  match command with
  | .userData address payload request =>
    match p.indexOf? address with
    | none => answer request (.refused (.domain (.noSecondary address))) p
    | some index =>
      match p.peers[index]? with
      | none => answer request (.refused (.domain (.noSecondary address))) p
      | some peer =>
        if peer.state = .active then
          beginExchange m index peer .userDataConfirmed (some payload) (.userData request) p
        else answer request (.refused .notActive) p
  | .noReply address payload request =>
    let frame := LinkFrame.userData (.request .userDataNoReply false) address payload
    match m.transmit (frame.encode p.link.addressLength) with
    | .ok octets => ⟨p, [.wrote frame octets, .answered request .done], none⟩
    | .error fault =>
      ⟨p, [.answered request (.refused (.connection (.writeFailed fault.message)))],
        some (.ofFault fault)⟩
  | .linkStates request =>
    answer request (.linkStates (p.peers.map fun peer => (peer.address, peer.state))) p
  | .close => fail .localClose p

/-- What happens to the primary station. Requests are taken only when it is idle. -/
inductive Input
  | frame (frame : LinkFrame)
  | broken (fault : Fault)
  | command (command : Command)
  | deadline
  /-- Nobody is left who could hand over a request. -/
  | abandoned
deriving DecidableEq, Repr

def step (m : Moment) (input : Input) (p : Primary) : Turn :=
  match input with
  | .frame frame => onFrame m frame p
  | .broken fault => breakOff fault p
  | .command command => onCommand m command p
  | .deadline => onDeadline m p
  | .abandoned => fail .localClose p

/-- The input that the inbox holds next. To the station the end of the stream is a lost
connection. -/
def take (p : Primary) (b : Inbox) : Option (Input × Inbox) :=
  match b.take (LinkFrame.reader p.link.addressLength) with
  | some (.frame frame, rest) => some (.frame frame, rest)
  | some (.fault fault, rest) => some (.broken fault, rest)
  | some (.ended, rest) => some (.broken .notConnected, rest)
  | none => none

/-- Opens the station: the link to every secondary is to be brought up on behalf of a request. -/
def start (m : Moment) (addresses : List Nat) (link : LinkParameters) (widths : FieldWidths)
    (request : Nat) : Except Fault Turn := do
  validate link addresses
  return openFrom m 0 request
    { link, widths, peers := addresses.map ({ address := · }), activity := .idle, pollDue := none }

/-- The end of the primary station is reported. -/
def close (reason : CloseReason) (p : Primary) : Primary × List (Output LinkFrame) :=
  (p, [.reported (.lost reason)])

end Telecontrol.Primary
