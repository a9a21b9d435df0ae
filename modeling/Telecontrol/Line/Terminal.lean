import Telecontrol.Line.Station

/-!
# Terminals of a line

A terminal is a place on a line where a station is or will be brought up. It holds what has arrived
for the station, who still has an interest in it, and the disturbances to come, and it keeps a
record of what the station has put out since the record was last taken.
-/

namespace Telecontrol.Line

/-- How the station at a terminal is to be brought up. Parameters that are already refused are
`unusable`: the station can only fail to open. -/
inductive Setup
  | connection (role : Role) (apci : ApciParameters) (widths : FieldWidths)
  | secondary (address : Nat) (link : LinkParameters) (widths : FieldWidths)
  | primary (addresses : List Nat) (link : LinkParameters) (widths : FieldWidths)
  | unusable (fault : Fault)
deriving DecidableEq, Repr

/-- Changes one octet of a frame on its way. -/
structure Garbling where
  position : Nat
  pattern : UInt8
deriving DecidableEq, Repr

def Garbling.apply (g : Garbling) (octets : Octets) : Octets :=
  octets.modify (min g.position (octets.length - 1)) (· ^^^ g.pattern)

/-- What a terminal has seen: octets written and events reported, each with the time. The last event
is followed by the end of the reports. -/
structure Record where
  written : List (Nat × Octets) := []
  events : List (Nat × Option Event) := []
deriving DecidableEq, Repr

structure Terminal where
  setup : Setup
  /-- The station, once it is brought up; it stays to be looked at when it has ended. -/
  station : Option Station := none
  running : Bool := false
  /-- The application holds on to the station. -/
  held : Bool := false
  /-- The request that opens the station, while it is not answered. -/
  opening : Option Nat := none
  /-- Requests to the station that are not answered. -/
  pending : List Nat := []
  /-- Requests that wait for the end of the station. -/
  closing : List Nat := []
  inbox : Inbox := {}
  writeFault : Option String := none
  /-- The station has shut its stream. -/
  shut : Bool := false
  /-- How many of the next writes get lost. -/
  losses : Nat := 0
  /-- How the next write that is not lost is changed. -/
  garbling : Option Garbling := none
  /-- Events reported before the station was open. -/
  early : List Event := []
  record : Record := {}
deriving DecidableEq, Repr

namespace Terminal

/-- Writes at the same time are recorded as one. -/
def addWritten (now : Nat) (octets : Octets) : List (Nat × Octets) → List (Nat × Octets)
  | [] => [(now, octets)]
  | [(time, earlier)] =>
    if time = now then [(time, earlier ++ octets)] else [(time, earlier), (now, octets)]
  | first :: rest => first :: addWritten now octets rest

def recordWrite (now : Nat) (octets : Octets) (t : Terminal) : Terminal :=
  { t with record.written := addWritten now octets t.record.written }

def recordEvents (now : Nat) (events : List (Option Event)) (t : Terminal) : Terminal :=
  { t with record.events := t.record.events ++ events.map (now, ·) }

/-- Events are withheld while the station is being opened. -/
def report (now : Nat) (event : Event) (t : Terminal) : Terminal :=
  if t.opening.isSome then { t with early := t.early ++ [event] }
  else t.recordEvents now [some event]

/-- What becomes of octets on their way to the other terminals. -/
def transmission (octets : Octets) (t : Terminal) : Option Octets × Terminal :=
  match t.losses, t.garbling with
  | losses + 1, _ => (none, { t with losses })
  | 0, some garbling => (some (garbling.apply octets), { t with garbling := none })
  | 0, none => (some octets, t)

/-- Nobody holds on to the station and no request of it is left. -/
def abandoned (t : Terminal) : Bool :=
  !t.held && t.opening.isNone && t.pending.isEmpty && t.closing.isEmpty

/-- When the station has to act if nothing happens before. -/
def deadline (t : Terminal) : Option Nat :=
  if t.running then t.station.bind Station.deadline else none

end Terminal

end Telecontrol.Line
