import Telecontrol.Connection.Basic
import Telecontrol.Inbox

/-!
# Turns of a network connection

Data is accepted only while transfer is active or is being stopped, in the order of its numbers, and
acknowledged after `w` frames, after a time, or with data sent back. Starting transfer begins both
numberings anew. A request that cannot be served is answered and leaves the connection as it was.
-/

namespace Telecontrol.Connection

abbrev Turn := Telecontrol.Turn Connection Apdu

open Telecontrol.Turn (done fail report answer)

def write (m : Moment) (a : Apdu) (c : Connection) : Turn :=
  Turn.write m a (a.encode c.widths) c

/-- Acknowledges everything received with an S-frame. -/
def sendReceipt (m : Moment) (c : Connection) : Turn :=
  write m (.sFrame c.receive.nextNumber)
    { c with receiptDue := none, receive := c.receive.acknowledgeAll }

def sendReceiptIfOwed (m : Moment) (c : Connection) : Turn :=
  if 0 < c.receive.unacked then sendReceipt m c else done c

/-- Data transfer begins with both numberings at zero. -/
def activate (c : Connection) : Turn :=
  report .ready { c with
    send := c.send.reset, receive := c.receive.reset, receiptDue := none, state := .active }

def stop (c : Connection) : Turn := report .transferStopped { c with state := .connected }

/-- An acknowledgment outside the window is not heeded. -/
def onAcknowledgment (number : Nat) (c : Connection) : Connection :=
  match c.send.acknowledge number with
  | some (_, send) => { c with send }
  | none => c

def onData (m : Moment) (send receive : Nat) (asdu : Asdu) (c : Connection) : Turn :=
  if c.state = .active ∨ c.state = .stopping then
    let c := c.onAcknowledgment receive
    match c.receive.accept send with
    | .error f => fail (.ofFault f) c
    | .ok (due, receive) =>
      let c := { c with receive }
      let acknowledged :=
        if due then sendReceipt m c
        else done { c with receiptDue := c.receiptDue.or (some (m.now + c.apci.t2)) }
      acknowledged.andThen (report (.asduReceived asdu))
  else fail (.ofFault (.protocol (.dataOutsideTransfer c.state))) c

/-- A confirmation that nobody waits for is not heeded. -/
def onConfirmation (function : UFunction) (c : Connection) : Turn :=
  match c.handshake with
  | none => done c
  | some handshake =>
    if handshake.awaiting = function then
      let c := { c with handshake := none }
      (if function = .startDtCon then activate c else stop c).andThen
        (answer handshake.request .done)
    else done c

def onUFunction (m : Moment) (function : UFunction) (c : Connection) : Turn :=
  match function, c.role with
  | .testFrAct, _ => write m (.uFrame .testFrCon) c
  | .testFrCon, _ =>
    if c.testDeadline.isSome then
      done { c with testDeadline := none, testDue := some (m.now + c.apci.t3) }
    else done c
  | .startDtAct, .controlled =>
    (write m (.uFrame .startDtCon) c).andThen fun c =>
      if c.state = .active then done c else activate c
  | .stopDtAct, .controlled =>
    (sendReceiptIfOwed m c).andThen fun c =>
      (write m (.uFrame .stopDtCon) c).andThen fun c =>
        if c.state = .active then stop c else done c
  | .startDtCon, .controlling => onConfirmation .startDtCon c
  | .stopDtCon, .controlling => onConfirmation .stopDtCon c
  | _, _ => done c

/-- Any frame breaks the silence, unless the answer to a test frame is awaited. -/
def heard (m : Moment) (c : Connection) : Connection :=
  if c.testDeadline.isNone then { c with testDue := some (m.now + c.apci.t3) } else c

def onApdu (m : Moment) (a : Apdu) (c : Connection) : Turn :=
  let c := heard m c
  match a.apci with
  | .iFrame send receive =>
    match a.asdu with
    | some asdu => onData m send receive asdu c
    | none => fail (.ofFault (.framing .missingAsdu)) c
  | .sFrame receive => done (c.onAcknowledgment receive)
  | .uFrame function => onUFunction m function c

/-- Sends an activation and waits for its confirmation. -/
def beginHandshake (m : Moment) (activation awaiting : UFunction) (state : TransferState)
    (request : Nat) (c : Connection) : Turn :=
  write m (.uFrame activation) { c with
    state, handshake := some { awaiting, deadline := m.now + c.apci.t1, request } }

def startTransfer (m : Moment) (request : Nat) (c : Connection) : Turn :=
  match c.role, c.state with
  | .controlled, _ => answer request (.refused (.protocol .startByControlled)) c
  | .controlling, .active => answer request .done c
  | .controlling, .connected =>
    beginHandshake m .startDtAct .startDtCon .startPending request c
  | .controlling, state => answer request (.refused (.protocol (.cannotStart state))) c

/-- A request is refused if the connection ends before the request is under way. -/
def orRefuse (request : Nat) (t : Turn) : Turn :=
  match t.ending with
  | none => t
  | some _ => { t with output := t.output ++ [.answered request (.refused .notConnected)] }

def stopTransfer (m : Moment) (request : Nat) (c : Connection) : Turn :=
  match c.role, c.state with
  | .controlled, _ => answer request (.refused (.protocol .stopByControlled)) c
  | .controlling, .connected => answer request .done c
  | .controlling, .active =>
    (orRefuse request (sendReceiptIfOwed m c)).andThen
      (beginHandshake m .stopDtAct .stopDtCon .stopping request)
  | .controlling, state => answer request (.refused (.protocol (.cannotStop state))) c

/-- Refuses what could not be sent now or would not fit a frame. -/
def checkSendable (asdu : Asdu) (c : Connection) : Except Fault Unit := do
  if c.state ≠ .active then throw .notActive
  asdu.validate c.widths
  let length := asdu.encodedLength c.widths
  if Apci.maxAsduLength < length then
    throw (.invalidAsdu (.tooLong length Apci.maxAsduLength))

/-- Sends data, which also acknowledges everything received. -/
def sendData (m : Moment) (asdu : Asdu) (request : Nat) (c : Connection) : Turn :=
  match checkSendable asdu c >>= fun _ => c.send.reserve m.now with
  | .error f => answer request (.refused f) c
  | .ok (number, send) =>
    let c := { c with send, receive := c.receive.acknowledgeAll, receiptDue := none }
    let apdu := Apdu.iFrame number c.receive.nextNumber asdu
    match m.transmit (apdu.encode c.widths) with
    | .ok octets => ⟨c, [.wrote apdu octets, .answered request .done], none⟩
    | .error f =>
      ⟨c, [.answered request (.refused (.connection (.writeFailed f.message)))],
        some (.ofFault f)⟩

def onCommand (m : Moment) (command : Command) (c : Connection) : Turn :=
  match command with
  | .startTransfer request => startTransfer m request c
  | .stopTransfer request => stopTransfer m request c
  | .send asdu request => sendData m asdu request c
  | .close => fail .localClose c

def onTimer (m : Moment) (timer : Timer) (c : Connection) : Turn :=
  match timer with
  | .acknowledgment => fail .t1Timeout c
  | .confirmation => fail .handshakeTimeout c
  | .test => fail .testFrameTimeout c
  | .receipt => sendReceipt m c
  | .silence =>
    write m (.uFrame .testFrAct)
      { c with testDue := none, testDeadline := some (m.now + c.apci.t1) }

def onArrival (m : Moment) (arrival : Arrival Apdu) (c : Connection) : Turn :=
  match arrival with
  | .frame a => onApdu m a c
  | .fault f => fail (.ofFault f) c
  | .ended => fail .remoteClosed c

/-- What happens to a connection. -/
inductive Input
  | arrival (arrival : Arrival Apdu)
  | command (command : Command)
  | timer (timer : Timer)
  /-- Nobody is left who could hand over a request. -/
  | abandoned
deriving DecidableEq, Repr

def step (m : Moment) (input : Input) (c : Connection) : Turn :=
  match input with
  | .arrival arrival => onArrival m arrival c
  | .command command => onCommand m command c
  | .timer timer => onTimer m timer c
  | .abandoned => fail .localClose c

/-- The end of a connection: a handshake that is still waiting fails, and the reason is reported. -/
def close (reason : CloseReason) (c : Connection) : Connection × List (Output Apdu) :=
  let fault := if reason = .handshakeTimeout then Fault.t1Timeout else .notConnected
  let answers := c.handshake.toList.map fun h => Output.answered h.request (.refused fault)
  ({ c with state := .disconnected, handshake := none },
    answers ++ [.reported (.lost reason)])

end Telecontrol.Connection
