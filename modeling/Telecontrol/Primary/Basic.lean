import Telecontrol.Ft12.Payload
import Telecontrol.Turn

/-!
# State of the primary station

The primary station owns the line and does one thing at a time: it brings up the link to a secondary
in two handshakes, or it has an exchange with one of the secondaries, or it is idle. What it goes on
with after a handshake or an exchange is part of what it does.
-/

namespace Telecontrol

/-- What the primary station knows about a secondary: its address, the state of the link, the frame
count bit of the last numbered frame, and the class to ask for in the next poll. -/
structure Peer where
  address : Nat
  state : LinkState := .disconnected
  fcb : Bool := false
  nextPoll : DataClass := .class1
deriving DecidableEq, Repr

namespace Primary

/-- The two steps of bringing up a link. -/
inductive HandshakeStep
  | status | reset
deriving DecidableEq, Repr

/-- One step of bringing up a link: a request that is repeated until it is answered as it should be
or the time is over. After another answer the station pauses until the next repetition. -/
structure Handshake where
  index : Nat
  step : HandshakeStep
  deadline : Nat
  retryAt : Nat
  paused : Bool
deriving DecidableEq, Repr

/-- On whose behalf a link is brought up: of the request that opens the station, or of a poll
cycle. -/
inductive Occasion
  | opening (request : Nat)
  | cycle
deriving DecidableEq, Repr

/-- One numbered frame, how often it may still be repeated, and until when a response counts. -/
structure Exchange where
  index : Nat
  frame : LinkFrame
  repeats : Nat
  deadline : Nat
deriving DecidableEq, Repr

/-- Where class 1 data is fetched that a response has announced: after user data, or in a poll
cycle. -/
inductive Context
  | afterData | inCycle
deriving DecidableEq, Repr

/-- What an exchange is for: to send user data, to poll, or to fetch announced data, with a bound on
further requests. -/
inductive Purpose
  | userData (request : Nat)
  | poll
  | drain (more : Nat) (context : Context)
deriving DecidableEq, Repr

inductive Activity
  | handshake (h : Handshake) (occasion : Occasion)
  | exchange (x : Exchange) (purpose : Purpose)
  | idle
deriving DecidableEq, Repr

end Primary

structure Primary where
  link : LinkParameters
  widths : FieldWidths
  peers : List Peer
  activity : Primary.Activity
  /-- When the next poll cycle is due; none before the station is open. -/
  pollDue : Option Nat
deriving DecidableEq, Repr

namespace Primary

/-- Refuses a list of secondaries with an address that cannot be used or that stands twice. -/
def checkAddresses (link : LinkParameters) : (seen addresses : List Nat) → Except Fault Unit
  | _, [] => .ok ()
  | seen, address :: rest => do
    link.checkAddress address
    if link.isBroadcast address then throw (.config .broadcastPolled)
    if seen.contains address then throw (.config (.duplicateAddress address))
    checkAddresses link (address :: seen) rest

/-- Refuses parameters with which no line can be run. -/
def validate (link : LinkParameters) (addresses : List Nat) : Except Fault Unit := do
  link.validate
  if addresses.isEmpty then throw (.config .noSecondaries)
  if link.addressLength = 0 ∧ 1 < addresses.length then
    throw (.config .secondariesWithoutAddress)
  checkAddresses link [] addresses

/-- What an application asks of the primary station. -/
inductive Command
  | userData (address : Nat) (payload : Octets) (request : Nat)
  | noReply (address : Nat) (payload : Octets) (request : Nat)
  | linkStates (request : Nat)
  | close
deriving DecidableEq, Repr

def Command.request? : Command → Option Nat
  | userData _ _ request | noReply _ _ request | linkStates request => some request
  | close => none

/-- The command that sends an ASDU to one secondary and has it acknowledged. -/
def sendCommand (link : LinkParameters) (widths : FieldWidths) (address : Nat) (asdu : Asdu)
    (request : Nat) : Except Fault Command := do
  return .userData address (← asdu.payload widths link.addressLength) request

/-- The command that sends an ASDU without acknowledgment. -/
def noReplyCommand (link : LinkParameters) (widths : FieldWidths) (address : Nat) (asdu : Asdu)
    (request : Nat) : Except Fault Command := do
  link.checkAddress address
  return .noReply address (← asdu.payload widths link.addressLength) request

/-- The command that sends an ASDU to all secondaries. -/
def broadcastCommand (link : LinkParameters) (widths : FieldWidths) (asdu : Asdu)
    (request : Nat) : Except Fault Command :=
  noReplyCommand link widths link.broadcastAddress asdu request

/-- Requests for class 1 data that announcements can cause in a row. -/
def maxDrain : Nat := 8

/-- A poll cycle that begins later than this after it was due puts off the following ones. -/
def pollTolerance : Nat := 5

def indexOf? (p : Primary) (address : Nat) : Option Nat :=
  p.peers.findIdx? fun peer => peer.address == address

def setPeer (p : Primary) (index : Nat) (f : Peer → Peer) : Primary :=
  { p with peers := p.peers.modify index f }

/-- When the current activity is to go on without an answer, or, if idle, the next poll cycle is to
begin. -/
def deadline (p : Primary) : Option Nat :=
  match p.activity with
  | .handshake h _ => some h.retryAt
  | .exchange x _ => some x.deadline
  | .idle => p.pollDue

/-- Whether the station reads what has arrived. -/
def isListening (p : Primary) : Bool :=
  match p.activity with
  | .handshake h _ => !h.paused
  | _ => true

def isIdle (p : Primary) : Bool :=
  match p.activity with
  | .idle => true
  | _ => false

/-- Whether the station is open for requests. -/
def isOpen (p : Primary) : Bool :=
  match p.activity with
  | .handshake _ (.opening _) => false
  | _ => true

end Primary

end Telecontrol
