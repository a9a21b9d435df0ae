import Telecontrol.Fault

/-!
# Point information and quality

Single and double points, quality descriptors and the information of protection equipment. All keep
their octet, so that reserved bits survive; constructors refuse quality flags that the element has
no bit for.
-/

namespace Telecontrol

/-- Quality flags in their wire positions. -/
structure Quality where
  bits : UInt8
deriving DecidableEq, Repr

namespace Quality

inductive Flag
  | overflow | elapsedTimeInvalid | blocked | substituted | notTopical | invalid
deriving DecidableEq, Repr

namespace Flag

def all : List Flag := [overflow, elapsedTimeInvalid, blocked, substituted, notTopical, invalid]

def mask : Flag → UInt8
  | overflow => 0x01
  | elapsedTimeInvalid => 0x08
  | blocked => 0x10
  | substituted => 0x20
  | notTopical => 0x40
  | invalid => 0x80

def abbreviation : Flag → String
  | overflow => "OV"
  | elapsedTimeInvalid => "EI"
  | blocked => "BL"
  | substituted => "SB"
  | notTopical => "NT"
  | invalid => "IV"

end Flag

def isGood (q : Quality) : Bool := q.bits == 0

def has (q : Quality) (flag : Flag) : Bool := q.bits &&& flag.mask != 0

def set (q : Quality) (flag : Flag) (value : Bool) : Quality :=
  ⟨if value then q.bits ||| flag.mask else q.bits &&& ~~~flag.mask⟩

/-- The flags that an element of the given kind carries: BL, SB, NT and IV with every quality, OV
with measured values, EI with protection events. -/
def allowed : ElementKind → UInt8
  | .qds => 0xF1
  | .qdp | .sep => 0xF8
  | _ => 0xF0

/-- The bits of `q`, provided that elements of the given kind carry all of its flags. -/
def bitsFor (q : Quality) (kind : ElementKind) : Except Fault UInt8 :=
  let foreign := q.bits &&& ~~~allowed kind
  if foreign = 0 then .ok q.bits else .error (.domain (.qualityFlags foreign kind))

/-- The flags that an octet of the given kind carries. -/
def ofOctet (kind : ElementKind) (octet : UInt8) : Quality := ⟨octet &&& allowed kind⟩

def text (q : Quality) : String :=
  if q.isGood then "Quality(Good)"
  else "Quality(" ++ "|".intercalate ((Flag.all.filter q.has).map Flag.abbreviation) ++ ")"

end Quality

/-- State of a double point. -/
inductive DoublePointState
  | intermediate | off | on | indeterminate
deriving DecidableEq, Repr

namespace DoublePointState

/-- Only the two low bits count. -/
def ofBits (bits : UInt8) : DoublePointState :=
  match bits.toNat % 4 with
  | 0 => intermediate
  | 1 => off
  | 2 => on
  | _ => indeterminate

def bits : DoublePointState → UInt8
  | intermediate => 0
  | off => 1
  | on => 2
  | indeterminate => 3

end DoublePointState

/-- Single-point information with quality (SIQ). -/
structure SinglePoint where
  octet : UInt8
deriving DecidableEq, Repr

namespace SinglePoint

def make (on : Bool) (q : Quality) : Except Fault SinglePoint := do
  let bits ← q.bitsFor .siq
  return ⟨bits ||| (if on then 1 else 0)⟩

def isOn (p : SinglePoint) : Bool := p.octet &&& 0x01 != 0

def quality (p : SinglePoint) : Quality := .ofOctet .siq p.octet

end SinglePoint

/-- Double-point information with quality (DIQ). -/
structure DoublePoint where
  octet : UInt8
deriving DecidableEq, Repr

namespace DoublePoint

def make (state : DoublePointState) (q : Quality) : Except Fault DoublePoint := do
  let bits ← q.bitsFor .diq
  return ⟨bits ||| state.bits⟩

def state (p : DoublePoint) : DoublePointState := .ofBits p.octet

def quality (p : DoublePoint) : Quality := .ofOctet .diq p.octet

end DoublePoint

/-- Quality descriptor of measured values (QDS). -/
structure QualityDescriptor where
  octet : UInt8
deriving DecidableEq, Repr

namespace QualityDescriptor

def make (q : Quality) : Except Fault QualityDescriptor := do
  return ⟨← q.bitsFor .qds⟩

def quality (d : QualityDescriptor) : Quality := .ofOctet .qds d.octet

end QualityDescriptor

/-- Quality descriptor of events of protection equipment (QDP). -/
structure ProtectionQuality where
  octet : UInt8
deriving DecidableEq, Repr

namespace ProtectionQuality

def make (q : Quality) : Except Fault ProtectionQuality := do
  return ⟨← q.bitsFor .qdp⟩

def quality (d : ProtectionQuality) : Quality := .ofOctet .qdp d.octet

end ProtectionQuality

/-- Single event of protection equipment (SEP). -/
structure SingleEvent where
  octet : UInt8
deriving DecidableEq, Repr

namespace SingleEvent

def make (state : DoublePointState) (q : Quality) : Except Fault SingleEvent := do
  let bits ← q.bitsFor .sep
  return ⟨bits ||| state.bits⟩

def state (e : SingleEvent) : DoublePointState := .ofBits e.octet

def quality (e : SingleEvent) : Quality := .ofOctet .sep e.octet

end SingleEvent

/-- Start events of protection equipment (SPE), one bit each in the six low bits. -/
structure StartEvents where
  octet : UInt8
deriving DecidableEq, Repr

namespace StartEvents

def make (flags : UInt8) : Except Fault StartEvents :=
  if flags &&& 0xC0 = 0 then .ok ⟨flags⟩ else .error (.domain (.startEventFlags flags))

/-- Whether all bits of `flags` are set. -/
def contains (e : StartEvents) (flags : UInt8) : Bool := e.octet &&& flags == flags

end StartEvents

/-- Output circuit information of protection equipment (OCI), one bit each in the four low bits. -/
structure OutputCircuit where
  octet : UInt8
deriving DecidableEq, Repr

namespace OutputCircuit

def make (flags : UInt8) : Except Fault OutputCircuit :=
  if flags &&& 0xF0 = 0 then .ok ⟨flags⟩ else .error (.domain (.outputCircuitFlags flags))

/-- Whether all bits of `flags` are set. -/
def contains (c : OutputCircuit) (flags : UInt8) : Bool := c.octet &&& flags == flags

end OutputCircuit

end Telecontrol
