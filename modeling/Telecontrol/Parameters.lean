import Telecontrol.Fault

/-!
# Parameters

What the two ends of a link have to agree on beforehand: the widths of the address and cause fields
of an ASDU, the window sizes and timers of a network connection, and the address width, timers and
repetitions of a serial line. Times are in milliseconds.
-/

namespace Telecontrol

/-- Widths of the variable fields of an ASDU in octets, and the originator address that an
application uses by default. -/
structure FieldWidths where
  cause : Nat
  commonAddress : Nat
  objectAddress : Nat
  originator : UInt8 := 0
  cause_range : 1 ≤ cause ∧ cause ≤ 2 := by decide
  commonAddress_range : 1 ≤ commonAddress ∧ commonAddress ≤ 2 := by decide
  objectAddress_range : 1 ≤ objectAddress ∧ objectAddress ≤ 3 := by decide
deriving DecidableEq, Repr

namespace FieldWidths

def make (cause commonAddress objectAddress : Nat) : Except Fault FieldWidths :=
  if hcause : 1 ≤ cause ∧ cause ≤ 2 then
    if hcommon : 1 ≤ commonAddress ∧ commonAddress ≤ 2 then
      if hobject : 1 ≤ objectAddress ∧ objectAddress ≤ 3 then
        .ok ⟨cause, commonAddress, objectAddress, 0, hcause, hcommon, hobject⟩
      else .error (.config (.objectAddressWidth objectAddress))
    else .error (.config (.commonAddressWidth commonAddress))
  else .error (.config (.causeWidth cause))

/-- The widths used over networks. -/
def network : FieldWidths where
  cause := 2
  commonAddress := 2
  objectAddress := 3

/-- The widths common on serial lines. -/
def serial : FieldWidths where
  cause := 1
  commonAddress := 1
  objectAddress := 2

def maxCommonAddress (widths : FieldWidths) : Nat := Octets.capacity widths.commonAddress - 1

def maxObjectAddress (widths : FieldWidths) : Nat := Octets.capacity widths.objectAddress - 1

/-- Octets of type identification, structure qualifier, cause and common address. -/
def headerSize (widths : FieldWidths) : Nat := 2 + widths.cause + widths.commonAddress

end FieldWidths

/-- Sequence numbers of a network connection count modulo this number. -/
def sequenceModulus : Nat := 32768

/-- Window sizes and timers of a network connection. -/
structure ApciParameters where
  /-- Frames sent ahead of their acknowledgment. -/
  k : Nat := 12
  /-- Frames received before an acknowledgment is due. -/
  w : Nat := 8
  /-- Time to set up a connection. -/
  t0 : Nat := 30000
  /-- Time to wait for an acknowledgment or confirmation. -/
  t1 : Nat := 15000
  /-- Time after which received frames are acknowledged. -/
  t2 : Nat := 10000
  /-- Silence after which the connection is tested. -/
  t3 : Nat := 20000
deriving DecidableEq, Repr

def ApciParameters.validate (p : ApciParameters) : Except Fault Unit :=
  if p.k = 0 ∨ sequenceModulus ≤ p.k then .error (.config (.sendLimit p.k))
  else if p.w = 0 ∨ sequenceModulus ≤ p.w then .error (.config (.receiveLimit p.w))
  else if p.t1 = 0 ∨ p.t3 = 0 then .error (.config .supervisionTimeZero)
  else if p.t1 ≤ p.t2 then .error (.config .acknowledgmentTooLate)
  else .ok ()

/-- Parameters of a serial line. -/
structure LinkParameters where
  /-- Width of a link address in octets. -/
  addressLength : Nat := 1
  /-- Time to wait for a response. -/
  ackTimeout : Nat := 500
  /-- Time that each step of the link initialization may take. -/
  initTimeout : Nat := 5000
  /-- Repetitions after the first attempt. -/
  retries : Nat := 2
  pollInterval : Nat := 1000
  /-- Acknowledge with a single character where that is possible. -/
  singleCharAck : Bool := true
  /-- Capacity of each queue of a secondary station. -/
  queueSize : Nat := 100
deriving DecidableEq, Repr

/-- The largest link address of a width. -/
def maxLinkAddress (width : Nat) : Nat :=
  match width with
  | 0 => 0
  | 1 => 0xFF
  | _ => 0xFFFF

namespace LinkParameters

def broadcastAddress (p : LinkParameters) : Nat :=
  if p.addressLength = 2 then 0xFFFF else 0xFF

/-- Whether an address stands for all stations. A line without addresses has no such address. -/
def isBroadcast (p : LinkParameters) (address : Nat) : Bool :=
  0 < p.addressLength && address == p.broadcastAddress

def validate (p : LinkParameters) : Except Fault Unit :=
  if 2 < p.addressLength then .error (.config (.linkAddressLength p.addressLength))
  else if p.ackTimeout = 0 ∨ p.pollInterval = 0 then .error (.config .linkTimeZero)
  else if p.initTimeout < p.ackTimeout then .error (.config .initTimeTooShort)
  else if p.queueSize = 0 then .error (.config .queueSizeZero)
  else .ok ()

def checkAddress (p : LinkParameters) (address : Nat) : Except Fault Unit :=
  if maxLinkAddress p.addressLength < address then
    .error (.domain (.linkAddressWidth address p.addressLength))
  else .ok ()

end LinkParameters

end Telecontrol
