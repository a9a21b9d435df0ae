import Telecontrol.Element.Point
import Telecontrol.Element.Qualifier
import Telecontrol.Element.TimeTag

/-!
# Information elements on the wire

An element of width `w` is a number of `w` octets, least significant first. `Element.number` and
`Element.ofNumber` go between elements and these numbers, and `encode` and `decode` between elements
and octets. Every number of the right size stands for exactly one element of each kind.
-/

namespace Telecontrol

/-- One information element. -/
inductive Element
  | singlePoint (e : SinglePoint)
  | doublePoint (e : DoublePoint)
  | quality (e : QualityDescriptor)
  | protectionQuality (e : ProtectionQuality)
  | stepPosition (e : StepPosition)
  | normalized (e : Normalized)
  | scaled (e : Scaled)
  | float (e : Binary32)
  | bitstring (e : Bitstring)
  | statusChange (e : StatusChange)
  | counter (e : CounterReading)
  | singleEvent (e : SingleEvent)
  | startEvents (e : StartEvents)
  | outputCircuit (e : OutputCircuit)
  | singleCommand (e : SingleCommand)
  | doubleCommand (e : DoubleCommand)
  | stepCommand (e : StepCommand)
  | setpointQualifier (e : SetpointQualifier)
  | interrogation (e : InterrogationQualifier)
  | counterInterrogation (e : CounterQualifier)
  | measuredParameter (e : MeasuredParameter)
  | parameterActivation (e : ParameterActivation)
  | resetProcess (e : ResetProcess)
  | initialization (e : InitializationCause)
  | testPattern (e : TestPattern)
  | testSequence (e : TestSequence)
  | time56 (e : Cp56)
  | time24 (e : Cp24)
  | time16 (e : Cp16)
deriving DecidableEq, Repr

namespace Element

def kind : Element → ElementKind
  | singlePoint _ => .siq
  | doublePoint _ => .diq
  | quality _ => .qds
  | protectionQuality _ => .qdp
  | stepPosition _ => .vti
  | normalized _ => .nva
  | scaled _ => .sva
  | float _ => .r32
  | bitstring _ => .bsi
  | statusChange _ => .scd
  | counter _ => .bcr
  | singleEvent _ => .sep
  | startEvents _ => .spe
  | outputCircuit _ => .oci
  | singleCommand _ => .sco
  | doubleCommand _ => .dco
  | stepCommand _ => .rco
  | setpointQualifier _ => .qos
  | interrogation _ => .qoi
  | counterInterrogation _ => .qcc
  | measuredParameter _ => .qpm
  | parameterActivation _ => .qpa
  | resetProcess _ => .qrp
  | initialization _ => .coi
  | testPattern _ => .fbp
  | testSequence _ => .tsc
  | time56 _ => .cp56
  | time24 _ => .cp24
  | time16 _ => .cp16

def width (e : Element) : Nat := e.kind.width

/-- The number that an element is on the wire. -/
def number : Element → Nat
  | singlePoint e => e.octet.toNat
  | doublePoint e => e.octet.toNat
  | quality e => e.octet.toNat
  | protectionQuality e => e.octet.toNat
  | stepPosition e => e.octet.toNat
  | normalized e => e.steps.toUInt16.toNat
  | scaled e => e.value.toUInt16.toNat
  | float e => e.bits.toNat
  | bitstring e => e.bits.toNat
  | statusChange e => e.word.toNat
  | counter e => e.counter.toUInt32.toNat + 0x100000000 * e.flags.toNat
  | singleEvent e => e.octet.toNat
  | startEvents e => e.octet.toNat
  | outputCircuit e => e.octet.toNat
  | singleCommand e => e.octet.toNat
  | doubleCommand e => e.octet.toNat
  | stepCommand e => e.octet.toNat
  | setpointQualifier e => e.octet.toNat
  | interrogation e => e.octet.toNat
  | counterInterrogation e => e.octet.toNat
  | measuredParameter e => e.octet.toNat
  | parameterActivation e => e.octet.toNat
  | resetProcess e => e.octet.toNat
  | initialization e => e.octet.toNat
  | testPattern e => e.word.toNat
  | testSequence e => e.word.toNat
  | time56 e =>
    e.millisecond.toNat + 0x10000 * Octets.valueOf
      [e.minuteOctet, e.hourOctet, e.dayOctet, e.monthOctet, e.yearOctet]
  | time24 e => e.millisecond.toNat + 0x10000 * e.minuteOctet.toNat
  | time16 e => e.millisecond.toNat

/-- The element of a kind that is the number `n` on the wire. -/
def ofNumber (kind : ElementKind) (n : Nat) : Element :=
  match kind with
  | .siq => singlePoint ⟨UInt8.ofNat n⟩
  | .diq => doublePoint ⟨UInt8.ofNat n⟩
  | .qds => quality ⟨UInt8.ofNat n⟩
  | .qdp => protectionQuality ⟨UInt8.ofNat n⟩
  | .vti => stepPosition ⟨UInt8.ofNat n⟩
  | .nva => normalized ⟨(UInt16.ofNat n).toInt16⟩
  | .sva => scaled ⟨(UInt16.ofNat n).toInt16⟩
  | .r32 => float ⟨UInt32.ofNat n⟩
  | .bsi => bitstring ⟨UInt32.ofNat n⟩
  | .scd => statusChange ⟨UInt32.ofNat n⟩
  | .bcr => counter ⟨(UInt32.ofNat n).toInt32, Octets.digit n 4⟩
  | .sep => singleEvent ⟨UInt8.ofNat n⟩
  | .spe => startEvents ⟨UInt8.ofNat n⟩
  | .oci => outputCircuit ⟨UInt8.ofNat n⟩
  | .sco => singleCommand ⟨UInt8.ofNat n⟩
  | .dco => doubleCommand ⟨UInt8.ofNat n⟩
  | .rco => stepCommand ⟨UInt8.ofNat n⟩
  | .qos => setpointQualifier ⟨UInt8.ofNat n⟩
  | .qoi => interrogation ⟨UInt8.ofNat n⟩
  | .qcc => counterInterrogation ⟨UInt8.ofNat n⟩
  | .qpm => measuredParameter ⟨UInt8.ofNat n⟩
  | .qpa => parameterActivation ⟨UInt8.ofNat n⟩
  | .qrp => resetProcess ⟨UInt8.ofNat n⟩
  | .coi => initialization ⟨UInt8.ofNat n⟩
  | .fbp => testPattern ⟨UInt16.ofNat n⟩
  | .tsc => testSequence ⟨UInt16.ofNat n⟩
  | .cp56 => time56 ⟨UInt16.ofNat n, Octets.digit n 2, Octets.digit n 3, Octets.digit n 4,
      Octets.digit n 5, Octets.digit n 6⟩
  | .cp24 => time24 ⟨UInt16.ofNat n, Octets.digit n 2⟩
  | .cp16 => time16 ⟨UInt16.ofNat n⟩

theorem kind_ofNumber (kind : ElementKind) (n : Nat) : (ofNumber kind n).kind = kind := by
  cases kind <;> rfl

def encode (e : Element) : Octets := Octets.littleEndian e.width e.number

theorem length_encode (e : Element) : e.encode.length = e.kind.width :=
  Octets.length_littleEndian _ _

/-- Reads one element and leaves the octets behind it. -/
def decode (kind : ElementKind) (octets : Octets) : Except Fault (Element × Octets) :=
  if octets.length < kind.width then
    .error (.invalidAsdu (.truncatedElement kind octets.length))
  else
    .ok (ofNumber kind (Octets.valueOf (octets.take kind.width)), octets.drop kind.width)

end Element

end Telecontrol
