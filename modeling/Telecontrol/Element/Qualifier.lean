import Telecontrol.Element.Value

/-!
# Commands and qualifiers

Single, double and regulating step commands share one layout: the commanded state in the two low
bits, a qualifier of five bits, and a top bit that tells select from execute.
-/

namespace Telecontrol

/-- Qualifier and select bit of a command octet. -/
def commandBits (select : Bool) (qualifier : UInt8) : Except Fault UInt8 := do
  Quantity.commandQualifier.check qualifier.toNat 0 31
  return UInt8.ofNat (4 * qualifier.toNat + (if select then 128 else 0))

def isSelectOctet (octet : UInt8) : Bool := octet &&& 0x80 != 0

def qualifierOfOctet (octet : UInt8) : UInt8 := UInt8.ofNat (octet.toNat / 4 % 32)

/-- Single command (SCO). -/
structure SingleCommand where
  octet : UInt8
deriving DecidableEq, Repr

namespace SingleCommand

def make (on select : Bool) (qualifier : UInt8) : Except Fault SingleCommand := do
  let bits ← commandBits select qualifier
  return ⟨bits ||| (if on then 1 else 0)⟩

def isOn (c : SingleCommand) : Bool := c.octet &&& 0x01 != 0

def isSelect (c : SingleCommand) : Bool := isSelectOctet c.octet

def qualifier (c : SingleCommand) : UInt8 := qualifierOfOctet c.octet

end SingleCommand

/-- The states that a double command may order. -/
inductive DoubleCommandState
  | off | on
deriving DecidableEq, Repr

namespace DoubleCommandState

def ofNumber (value : UInt8) : Except Fault DoubleCommandState :=
  if value = 1 then .ok off
  else if value = 2 then .ok on
  else .error (.domain (.doubleCommandState value))

def bits : DoubleCommandState → UInt8
  | off => 1
  | on => 2

end DoubleCommandState

/-- Double command (DCO). -/
structure DoubleCommand where
  octet : UInt8
deriving DecidableEq, Repr

namespace DoubleCommand

def make (state : DoubleCommandState) (select : Bool) (qualifier : UInt8) :
    Except Fault DoubleCommand := do
  let bits ← commandBits select qualifier
  return ⟨bits ||| state.bits⟩

/-- The two state bits as transmitted. -/
def state (c : DoubleCommand) : UInt8 := c.octet &&& 0x03

def isSelect (c : DoubleCommand) : Bool := isSelectOctet c.octet

def qualifier (c : DoubleCommand) : UInt8 := qualifierOfOctet c.octet

end DoubleCommand

/-- Direction of a regulating step. -/
inductive StepDirection
  | lower | higher
deriving DecidableEq, Repr

def StepDirection.bits : StepDirection → UInt8
  | lower => 1
  | higher => 2

/-- Regulating step command (RCO). -/
structure StepCommand where
  octet : UInt8
deriving DecidableEq, Repr

namespace StepCommand

def make (direction : StepDirection) (select : Bool) (qualifier : UInt8) :
    Except Fault StepCommand := do
  let bits ← commandBits select qualifier
  return ⟨bits ||| direction.bits⟩

/-- None for the two states that are not permitted. -/
def direction? (c : StepCommand) : Option StepDirection :=
  match c.octet.toNat % 4 with
  | 1 => some .lower
  | 2 => some .higher
  | _ => none

def isSelect (c : StepCommand) : Bool := isSelectOctet c.octet

def qualifier (c : StepCommand) : UInt8 := qualifierOfOctet c.octet

end StepCommand

/-- Qualifier of set-point command (QOS). -/
structure SetpointQualifier where
  octet : UInt8
deriving DecidableEq, Repr

namespace SetpointQualifier

def make (ql : UInt8) (select : Bool) : Except Fault SetpointQualifier := do
  Quantity.setpointQualifier.check ql.toNat 0 127
  return ⟨ql ||| (if select then 0x80 else 0)⟩

def ql (q : SetpointQualifier) : UInt8 := q.octet &&& 0x7F

def isSelect (q : SetpointQualifier) : Bool := isSelectOctet q.octet

end SetpointQualifier

/-- Qualifier of interrogation (QOI). -/
structure InterrogationQualifier where
  octet : UInt8
deriving DecidableEq, Repr

namespace InterrogationQualifier

/-- Interrogation of the whole station. -/
def station : InterrogationQualifier := ⟨20⟩

/-- Interrogation of one of the groups 1 to 16. -/
def ofGroup (group : UInt8) : Except Fault InterrogationQualifier := do
  Quantity.interrogationGroup.check group.toNat 1 16
  return ⟨20 + group⟩

end InterrogationQualifier

/-- Qualifier of counter interrogation (QCC): request in six bits, freeze in two. -/
structure CounterQualifier where
  octet : UInt8
deriving DecidableEq, Repr

namespace CounterQualifier

def make (request freeze : UInt8) : Except Fault CounterQualifier :=
  if 63 < request ∨ 3 < freeze then .error (.domain (.counterQualifier request freeze))
  else .ok ⟨UInt8.ofNat (request.toNat + 64 * freeze.toNat)⟩

def request (q : CounterQualifier) : UInt8 := q.octet &&& 0x3F

def freeze (q : CounterQualifier) : UInt8 := UInt8.ofNat (q.octet.toNat / 64)

end CounterQualifier

/-- Qualifier of parameters of measured values (QPM). -/
structure MeasuredParameter where
  octet : UInt8
deriving DecidableEq, Repr

namespace MeasuredParameter

def make (kind : UInt8) (localChange inOperation : Bool) : Except Fault MeasuredParameter := do
  Quantity.parameterKind.check kind.toNat 0 63
  return ⟨kind ||| (if localChange then 0x40 else 0) ||| (if inOperation then 0x80 else 0)⟩

def kind (q : MeasuredParameter) : UInt8 := q.octet &&& 0x3F

def hasLocalChange (q : MeasuredParameter) : Bool := q.octet &&& 0x40 != 0

def isInOperation (q : MeasuredParameter) : Bool := q.octet &&& 0x80 != 0

end MeasuredParameter

/-- Qualifier of parameter activation (QPA). -/
structure ParameterActivation where
  octet : UInt8
deriving DecidableEq, Repr

/-- Qualifier of reset process command (QRP). -/
structure ResetProcess where
  octet : UInt8
deriving DecidableEq, Repr

namespace ResetProcess

def general : ResetProcess := ⟨1⟩

/-- Reset of pending time tagged information. -/
def eventBuffer : ResetProcess := ⟨2⟩

end ResetProcess

/-- Cause of initialization (COI), with a flag for a change of local parameters. -/
structure InitializationCause where
  octet : UInt8
deriving DecidableEq, Repr

namespace InitializationCause

def make (cause : UInt8) (afterChange : Bool) : Except Fault InitializationCause := do
  Quantity.initializationCause.check cause.toNat 0 127
  return ⟨cause ||| (if afterChange then 0x80 else 0)⟩

def cause (c : InitializationCause) : UInt8 := c.octet &&& 0x7F

def isAfterChange (c : InitializationCause) : Bool := c.octet &&& 0x80 != 0

end InitializationCause

/-- Fixed test bit pattern (FBP). -/
structure TestPattern where
  word : UInt16
deriving DecidableEq, Repr

namespace TestPattern

/-- The only pattern that a correct test command carries. -/
def standard : TestPattern := ⟨0x55AA⟩

def isValid (p : TestPattern) : Bool := p = standard

end TestPattern

/-- Test sequence counter (TSC). -/
structure TestSequence where
  word : UInt16
deriving DecidableEq, Repr

end Telecontrol
