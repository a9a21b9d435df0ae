import Telecontrol.Inbox
import Telecontrol.Secondary.Basic

/-!
# Turns of a secondary station

`serve` is what a request does when it is served afresh; `onRequest` answers a repetition with the
response that was kept. User data that cannot be decoded is not accepted and does not count as
served, so that its repetition is served again. Malformed octets are answered with a negative
acknowledgment.
-/

namespace Telecontrol.Secondary

abbrev Turn := Telecontrol.Turn Secondary LinkFrame

open Telecontrol.Turn (done fail report answer)

def write (m : Moment) (frame : LinkFrame) (s : Secondary) : Turn :=
  Turn.write m frame (frame.encode s.link.addressLength) s

/-- What serving a request does: the new state, the events, and the response if there is one. -/
structure Service where
  state : Secondary
  events : List Event
  response : Option LinkFrame
deriving DecidableEq, Repr

/-- The ASDU that a request carries. -/
def received (s : Secondary) (payload : Option Octets) : Option Asdu :=
  payload.bind fun octets => (Asdu.decode s.widths octets).toOption

/-- Hands out the oldest data of a class. Whether more is waiting is said after it is taken. -/
def serveData (dataClass : DataClass) (s : Secondary) : Service :=
  match s.queue dataClass with
  | payload :: rest =>
    let s := s.setQueue dataClass rest
    ⟨s, [], some (.userData (.response .respUserData s.accessDemand) s.address payload)⟩
  | [] =>
    ⟨s, [], some (if s.usesSingleChar then .singleAck else s.respond .respNackNoData)⟩

/-- Serves a request. None means that it is not accepted. -/
def serve (function : PrimaryFunction) (payload : Option Octets) (s : Secondary) :
    Option Service :=
  match function with
  | .resetRemoteLink =>
    let t := { s with lastFcb := none, lastResponse := none, everReset := true }
    some ⟨t, if s.everReset then [] else [.ready], some t.acknowledgment⟩
  | .resetUserProcess =>
    let t := { s with class1 := [], class2 := [] }
    some ⟨t, [], some t.acknowledgment⟩
  | .testFunctionLink => some ⟨s, [], some s.acknowledgment⟩
  | .userDataConfirmed =>
    (s.received payload).map fun asdu => ⟨s, [.asduReceived asdu], some s.acknowledgment⟩
  | .userDataNoReply =>
    some ⟨s, (s.received payload).toList.map .asduReceived, none⟩
  | .requestLinkStatus | .requestAccessDemand => some ⟨s, [], some (s.respond .statusOfLink)⟩
  | .requestClass1 => some (serveData .class1 s)
  | .requestClass2 => some (serveData .class2 s)

/-- The response that was kept, if a request repeats the last numbered one. -/
def kept? (fcb fcv : Bool) (s : Secondary) : Option LinkFrame :=
  if fcv ∧ s.lastFcb = some fcb then s.lastResponse else none

/-- A numbered request that was served is remembered with its response. -/
def remember (fcb fcv : Bool) (response : Option LinkFrame) (s : Secondary) : Secondary :=
  if fcv then { s with lastFcb := some fcb, lastResponse := response } else s

def onRequest (m : Moment) (function : PrimaryFunction) (fcb fcv : Bool)
    (payload : Option Octets) (s : Secondary) : Turn :=
  match s.kept? fcb fcv with
  | some response => write m response s
  | none =>
    match s.serve function payload with
    | none => write m .singleNack s
    | some service =>
      let t := service.state.remember fcb fcv service.response
      Turn.andThen ⟨t, service.events.map .reported, none⟩ fun t =>
        match service.response with
        | some response => write m response t
        | none => done t

/-- Only user data without reply is meant for all stations. -/
def onBroadcast (function : PrimaryFunction) (payload : Option Octets) (s : Secondary) : Turn :=
  if function = .userDataNoReply then
    ⟨s, (s.received payload).toList.map fun asdu => .reported (.asduReceived asdu), none⟩
  else done s

/-- Frames of secondary stations and single characters are not meant for this station. -/
def onFrame (m : Moment) (frame : LinkFrame) (s : Secondary) : Turn :=
  let (control, address, payload) :=
    match frame with
    | .fixed control address => (some control, address, none)
    | .userData control address payload => (some control, address, some payload)
    | .singleAck | .singleNack => (none, 0, none)
  match control with
  | some (.primary function fcb fcv) =>
    if s.link.isBroadcast address then onBroadcast function payload s
    else if address = s.address then onRequest m function fcb fcv payload s
    else done s
  | _ => done s

def onCommand (command : Command) (s : Secondary) : Turn :=
  match command with
  | .enqueue dataClass payload request =>
    match s.enqueue dataClass payload with
    | .ok s => answer request .done s
    | .error f => answer request (.refused f) s
  | .close => fail .localClose s

/-- What happens to a secondary station. -/
inductive Input
  | frame (frame : LinkFrame)
  | malformed (fault : Fault)
  | streamEnd (arrival : Arrival LinkFrame)
  | command (command : Command)
  /-- Nobody is left who could hand over a request. -/
  | abandoned
deriving DecidableEq, Repr

def step (m : Moment) (input : Input) (s : Secondary) : Turn :=
  match input with
  | .frame frame => onFrame m frame s
  | .malformed _ => write m .singleNack s
  | .streamEnd (.fault f) => fail (.ofFault f) s
  | .streamEnd _ => fail .remoteClosed s
  | .command command => onCommand command s
  | .abandoned => fail .localClose s

/-- The end of a secondary station is reported. -/
def close (reason : CloseReason) (s : Secondary) : Secondary × List (Output LinkFrame) :=
  (s, [.reported (.lost reason)])

/-- The input that the inbox holds next. -/
def take (s : Secondary) (b : Inbox) : Option (Input × Inbox) :=
  match b.takeFrame (LinkFrame.reader s.link.addressLength) with
  | some (.ok frame, rest) => some (.frame frame, rest)
  | some (.error fault, rest) => some (.malformed fault, rest)
  | none => b.takeEnd.map (.streamEnd ·, b)

end Telecontrol.Secondary
