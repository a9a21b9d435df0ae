import Telecontrol.Ft12.Payload
import Telecontrol.Turn

/-!
# State of a secondary station

A secondary station never talks first. It keeps data for the primary in two queues, one for each
class, and remembers the frame count bit of the last numbered request together with its response, so
that a repeated request is answered again instead of being served again.
-/

namespace Telecontrol

structure Secondary where
  address : Nat
  link : LinkParameters
  widths : FieldWidths
  class1 : List Octets
  class2 : List Octets
  /-- Frame count bit of the last numbered request; none after a reset of the link. -/
  lastFcb : Option Bool
  /-- Response to the last numbered request. -/
  lastResponse : Option LinkFrame
  /-- Whether the link was ever reset. -/
  everReset : Bool
deriving DecidableEq, Repr

namespace Secondary

def start (address : Nat) (link : LinkParameters) (widths : FieldWidths) :
    Except Fault Secondary := do
  link.validate
  link.checkAddress address
  if link.isBroadcast address then throw (.config .broadcastSecondary)
  return { address, link, widths, class1 := [], class2 := [], lastFcb := none,
           lastResponse := none, everReset := false }

/-- What an application asks of a secondary station. -/
inductive Command
  | enqueue (dataClass : DataClass) (payload : Octets) (request : Nat)
  | close
deriving DecidableEq, Repr

def Command.request? : Command → Option Nat
  | enqueue _ _ request => some request
  | close => none

/-- The command that queues an ASDU in the class of its cause. -/
def commandOf (link : LinkParameters) (widths : FieldWidths) (asdu : Asdu) (request : Nat) :
    Except Fault Command := do
  return .enqueue asdu.dataClass (← asdu.payload widths link.addressLength) request

def queue (s : Secondary) : DataClass → List Octets
  | .class1 => s.class1
  | .class2 => s.class2

def setQueue (s : Secondary) (dataClass : DataClass) (queue : List Octets) : Secondary :=
  match dataClass with
  | .class1 => { s with class1 := queue }
  | .class2 => { s with class2 := queue }

/-- Puts data at the end of its queue. -/
def enqueue (dataClass : DataClass) (payload : Octets) (s : Secondary) :
    Except Fault Secondary :=
  if s.link.queueSize ≤ (s.queue dataClass).length then .error .queueFull
  else .ok (s.setQueue dataClass (s.queue dataClass ++ [payload]))

/-- Class 1 data is waiting. -/
def accessDemand (s : Secondary) : Bool := !s.class1.isEmpty

def respond (function : SecondaryFunction) (s : Secondary) : LinkFrame :=
  .response function s.accessDemand s.address

/-- The single character cannot announce data. -/
def usesSingleChar (s : Secondary) : Bool := s.link.singleCharAck && !s.accessDemand

def acknowledgment (s : Secondary) : LinkFrame :=
  if s.usesSingleChar then .singleAck else s.respond .ack

end Secondary

end Telecontrol
