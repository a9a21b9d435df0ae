import Telecontrol.Ft12.Frame
import Telecontrol.Parameters
import Telecontrol.Stream

/-!
# Link frames on the wire

A fixed frame is `10h C A.. CS 16h` and a frame with user data `68h L L 68h C A.. ASDU.. CS 16h`,
where the address has zero, one or two octets and the checksum is the sum modulo 256 of the octets
between header and checksum. `E5h` and `A2h` stand for themselves. Malformed input is taken away
before it is reported, so that reading can go on behind it.
-/

namespace Telecontrol

/-- Reads a function of the primary station. -/
def PrimaryFunction.ofNumber (code : UInt8) : Except Fault PrimaryFunction :=
  match ofCode? code with
  | some function => .ok function
  | none => .error (.framing (.primaryFunction code))

/-- Reads a function of a secondary station. -/
def SecondaryFunction.ofNumber (code : UInt8) : Except Fault SecondaryFunction :=
  match ofCode? code with
  | some function => .ok function
  | none => .error (.framing (.secondaryFunction code))

namespace ControlField

def ofByte (byte : UInt8) : Except Fault ControlField :=
  let code := byte &&& 0x0F
  let fcbOrAcd := byte &&& 0x20 != 0
  let fcvOrDfc := byte &&& 0x10 != 0
  if byte &&& 0x40 != 0 then do
    return primary (← PrimaryFunction.ofNumber code) fcbOrAcd fcvOrDfc
  else do
    return secondary (← SecondaryFunction.ofNumber code) fcbOrAcd fcvOrDfc

end ControlField

namespace LinkFrame

def fixedStart : UInt8 := 0x10

def variableStart : UInt8 := 0x68

def endByte : UInt8 := 0x16

def ackByte : UInt8 := 0xE5

def nackByte : UInt8 := 0xA2

/-- The sum of the octets modulo 256. -/
def checksum (octets : Octets) : UInt8 := octets.foldr (· + ·) 0

/-- Largest value of the length octet. -/
def maxLength : Nat := 255

/-- The longest ASDU that a frame can carry. -/
def maxAsduLength (addressLength : Nat) : Nat := maxLength - 1 - addressLength

/-- Refuses a width of the address field that the format does not know. -/
def checkAddressLength (addressLength : Nat) : Except Fault Unit :=
  if 2 < addressLength then .error (.config (.linkAddressLength addressLength)) else .ok ()

/-- Refuses an address that does not fit the address field. -/
def checkAddress (addressLength address : Nat) : Except Fault Unit :=
  if maxLinkAddress addressLength < address then
    .error (.domain (.linkAddressUnfit address addressLength))
  else .ok ()

def body (addressLength : Nat) (control : ControlField) (address : Nat) (asdu : Octets) :
    Octets :=
  control.toByte :: (Octets.littleEndian addressLength address ++ asdu)

def encode (addressLength : Nat) (frame : LinkFrame) : Except Fault Octets :=
  match frame with
  | singleAck => .ok [ackByte]
  | singleNack => .ok [nackByte]
  | fixed control address => do
    checkAddress addressLength address
    let body := body addressLength control address []
    return fixedStart :: (body ++ [checksum body, endByte])
  | userData control address asdu => do
    checkAddress addressLength address
    let body := body addressLength control address asdu
    if maxLength < body.length then
      throw (.invalidAsdu (.tooLong asdu.length (maxAsduLength addressLength)))
    let length := UInt8.ofNat body.length
    return [variableStart, length, length, variableStart] ++ body ++ [checksum body, endByte]

/-- Reads control field and address, and leaves the octets behind them. -/
def decodeBody (addressLength : Nat) (body : Octets) :
    Except Fault (ControlField × Nat × Octets) := do
  let control ← ControlField.ofByte (body.headD 0)
  let rest := body.drop 1
  return (control, Octets.valueOf (rest.take addressLength), rest.drop addressLength)

/-- Reads a fixed frame behind its start octet. -/
def nextFixed (addressLength : Nat) (octets : Octets) : Found LinkFrame :=
  let length := 1 + addressLength
  if octets.length < length + 2 then none
  else
    let body := octets.take length
    let sum := (octets.drop length).headD 0
    let last := (octets.drop (length + 1)).headD 0
    let result := do
      if last ≠ endByte then throw (.framing (.fixedEnd last))
      if checksum body ≠ sum then throw (.framing .fixedChecksum)
      let (control, address, _) ← decodeBody addressLength body
      return fixed control address
    some (result, octets.drop (length + 2))

/-- Reads a frame with user data behind its start octet. -/
def nextVariable (addressLength : Nat) : Octets → Found LinkFrame
  | lengthByte :: again :: start :: rest =>
    let length := lengthByte.toNat
    if again ≠ lengthByte ∨ start ≠ variableStart then
      some (.error (.framing .variableHeader), rest)
    else if length < 1 + addressLength then
      some (.error (.framing (.variableLength length)), rest)
    else if rest.length < length + 2 then none
    else
      let body := rest.take length
      let sum := (rest.drop length).headD 0
      let last := (rest.drop (length + 1)).headD 0
      let result := do
        if last ≠ endByte then throw (.framing (.variableEnd last))
        if checksum body ≠ sum then throw (.framing .variableChecksum)
        let (control, address, asdu) ← decodeBody addressLength body
        return userData control address asdu
      some (result, rest.drop (length + 2))
  | _ => none

/-- The first frame of a stream. -/
def next (addressLength : Nat) : Octets → Found LinkFrame
  | [] => none
  | start :: rest =>
    if start = ackByte then some (.ok singleAck, rest)
    else if start = nackByte then some (.ok singleNack, rest)
    else if start = fixedStart then nextFixed addressLength rest
    else if start = variableStart then nextVariable addressLength rest
    else some (.error (.framing (.startByte start)), rest)

theorem next_shorter (addressLength : Nat) {octets rest : Octets}
    {result : Except Fault LinkFrame} (h : next addressLength octets = some (result, rest)) :
    rest.length < octets.length := by
  unfold next nextFixed nextVariable at h
  grind

/-- Reads the frames of a stream. -/
def reader (addressLength : Nat) : FrameReader LinkFrame where
  next := next addressLength
  shorter := next_shorter addressLength

end LinkFrame

end Telecontrol
