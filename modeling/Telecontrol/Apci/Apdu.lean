import Telecontrol.Apci.Control
import Telecontrol.Asdu.Codec
import Telecontrol.Stream

/-!
# APDUs

Control information together with the ASDU that I-frames carry. Reading is strict: a wrong start
octet, a length octet out of range, an I-frame without ASDU and any other frame with one are faults.
A fault takes one octet, two octets or the whole frame away, according to how much was recognised.
-/

namespace Telecontrol

/-- Control information, with an ASDU in I-frames. -/
structure Apdu where
  apci : Apci
  asdu : Option Asdu
deriving DecidableEq, Repr

namespace Apdu

def iFrame (send receive : Nat) (asdu : Asdu) : Apdu := ⟨.iFrame send receive, some asdu⟩

def sFrame (receive : Nat) : Apdu := ⟨.sFrame receive, none⟩

def uFrame (function : UFunction) : Apdu := ⟨.uFrame function, none⟩

def text (a : Apdu) : String :=
  match a.asdu with
  | some asdu => s!"{a.apci.text} [{asdu.text}]"
  | none => a.apci.text

def encode (widths : FieldWidths) (a : Apdu) : Except Fault Octets :=
  match a.asdu, a.apci.isIFrame with
  | some asdu, true => do
    let length := asdu.encodedLength widths
    if Apci.maxAsduLength < length then
      throw (.invalidAsdu (.tooLong length Apci.maxAsduLength))
    return a.apci.header length ++ (← asdu.encode widths)
  | none, false => .ok (a.apci.header 0)
  | _, _ => .error (.protocol (.payloadMismatch a.apci))

/-- Reads a frame without its start and length octets. -/
def decodeBody (widths : FieldWidths) (body : Octets) : Except Fault Apdu := do
  let apci ← Apci.parse (body.take 4)
  let payload := body.drop 4
  match apci.isIFrame, payload.isEmpty with
  | true, false => return ⟨apci, some (← Asdu.decode widths payload)⟩
  | true, true => throw (.framing .missingAsdu)
  | false, true => return ⟨apci, none⟩
  | false, false => throw (.framing (.unexpectedPayload apci payload.length))

/-- The first frame of a stream. -/
def next (widths : FieldWidths) : Octets → Found Apdu
  | [] => none
  | start :: rest =>
    if start ≠ Apci.startByte then some (.error (.framing (.startByte start)), rest)
    else
      match rest with
      | [] => none
      | lengthByte :: rest =>
        let length := lengthByte.toNat
        if length < Apci.minLength ∨ Apci.maxLength < length then
          some (.error (.framing (.apduLength length)), rest)
        else if rest.length < length then none
        else some (decodeBody widths (rest.take length), rest.drop length)

theorem next_shorter (widths : FieldWidths) {octets rest : Octets} {result : Except Fault Apdu}
    (h : next widths octets = some (result, rest)) : rest.length < octets.length := by
  unfold next at h
  grind

/-- Reads the frames of a stream. -/
def reader (widths : FieldWidths) : FrameReader Apdu where
  next := next widths
  shorter := next_shorter widths

end Apdu

end Telecontrol
