import Telecontrol.Fault
import Telecontrol.Parameters

/-!
# Control fields

The four octets of a control field. A sequence number is shifted left by one bit, and the low bits
of the first octet tell the three kinds of frames apart. S- and U-frames have exact bit patterns;
any other pattern is refused.
-/

namespace Telecontrol

/-- Reads the function of a U-frame. -/
def UFunction.ofOctet (octet : UInt8) : Except Fault UFunction :=
  match ofControlByte? octet with
  | some function => .ok function
  | none => .error (.framing (.unknownUFunction octet))

namespace Apci

/-- Two octets of a sequence number. -/
def sequenceOctets (n : Nat) : Octets := Octets.littleEndian 2 (2 * (n % sequenceModulus))

def sequenceOf (low high : UInt8) : Nat := (low.toNat + 256 * high.toNat) / 2

def encode : Apci → Octets
  | iFrame send receive => sequenceOctets send ++ sequenceOctets receive
  | sFrame receive => [0x01, 0x00] ++ sequenceOctets receive
  | uFrame function => [function.controlByte, 0x00, 0x00, 0x00]

def parseField (first second third fourth : UInt8) : Except Fault Apci :=
  if first.toNat % 2 = 0 then
    .ok (iFrame (sequenceOf first second) (sequenceOf third fourth))
  else if first = 0x01 ∧ second = 0 then .ok (sFrame (sequenceOf third fourth))
  else if first.toNat % 4 = 3 ∧ second = 0 ∧ third = 0 ∧ fourth = 0 then do
    return uFrame (← UFunction.ofOctet first)
  else .error (.framing (.controlField first second third fourth))

/-- Reads the first four octets. -/
def parse : Octets → Except Fault Apci
  | first :: second :: third :: fourth :: _ => parseField first second third fourth
  | _ => .error (.framing .controlFieldTooShort)

/-- Start octet of every APDU. -/
def startByte : UInt8 := 0x68

/-- Smallest and largest value of the length octet. -/
def minLength : Nat := 4

def maxLength : Nat := 253

/-- The longest ASDU that an I-frame can carry. -/
def maxAsduLength : Nat := maxLength - minLength

/-- Start octet, length octet and control field in front of an ASDU of the given length. -/
def header (apci : Apci) (asduLength : Nat) : Octets :=
  startByte :: UInt8.ofNat (minLength + asduLength) :: apci.encode

end Apci

end Telecontrol
