import Telecontrol.Asdu.Basic

/-!
# ASDUs on the wire

The header names the type, the structure and the cause; the objects follow without gaps. `decode`
accepts an octet string only if it is used up exactly. `encode` refuses an ASDU whose addresses do
not fit their fields; `validate` is that check and `encodedLength` the length of the result.
-/

namespace Telecontrol

/-- Reads a type identification. -/
def TypeId.ofOctet (octet : UInt8) : Except Fault TypeId :=
  match ofCode? octet with
  | some type => .ok type
  | none => .error (.unknownTypeId octet)

namespace Cause

/-- Reads a cause of transmission; the two flags of its octet do not count. -/
def ofOctet (octet : UInt8) : Except Fault Cause :=
  let code := UInt8.ofNat (octet.toNat % 64)
  match ofCode? code with
  | some cause => .ok cause
  | none => .error (.unknownCause code)

/-- The cause of answers to an interrogation of the station, group 0, or of one of its groups. -/
def ofInterrogation (group : UInt8) : Except Fault Cause := do
  Quantity.interrogationGroup.check group.toNat 0 16
  ofOctet (20 + group)

end Cause

/-- Variable structure qualifier: the number of rows, and whether they form a sequence. -/
structure StructureQualifier where
  count : Nat
  sequence : Bool
deriving DecidableEq, Repr

namespace StructureQualifier

def toByte (q : StructureQualifier) : UInt8 :=
  UInt8.ofNat (q.count % 128 + if q.sequence then 128 else 0)

def ofByte (byte : UInt8) : StructureQualifier := ⟨byte.toNat % 128, 128 ≤ byte.toNat⟩

end StructureQualifier

namespace AsduHeader

/-- The cause with the flags for negative confirmation and test. -/
def causeByte (h : AsduHeader) : UInt8 :=
  UInt8.ofNat (h.cause.codeNat + (if h.negative then 64 else 0) + if h.test then 128 else 0)

def encode (widths : FieldWidths) (h : AsduHeader) (count : Nat) : Octets :=
  [h.type.code, StructureQualifier.toByte ⟨count, h.sequence⟩, h.causeByte]
    ++ (if widths.cause = 2 then [h.originator] else [])
    ++ Octets.littleEndian widths.commonAddress h.commonAddress

/-- Reads the header, and leaves the number of rows and the octets behind the header. -/
def decode (widths : FieldWidths) (octets : Octets) :
    Except Fault (AsduHeader × Nat × Octets) :=
  if octets.length < widths.headerSize then
    .error (.invalidAsdu (.headerTooShort octets.length widths.headerSize))
  else
    match octets with
    | typeByte :: structureByte :: causeByte :: rest => do
      let type ← TypeId.ofOctet typeByte
      let cause ← Cause.ofOctet causeByte
      let qualifier := StructureQualifier.ofByte structureByte
      let originator := if widths.cause = 2 then rest.headD 0 else 0
      let rest := rest.drop (widths.cause - 1)
      let commonAddress := Octets.valueOf (rest.take widths.commonAddress)
      return ({ type, sequence := qualifier.sequence, cause, test := 128 ≤ causeByte.toNat,
                negative := 64 ≤ causeByte.toNat % 128, originator, commonAddress },
        qualifier.count, rest.drop widths.commonAddress)
    | _ => .error (.invalidAsdu (.headerTooShort octets.length widths.headerSize))

end AsduHeader

namespace InformationObject

def encodeRow (row : Row) : Octets := row.flatMap Element.encode

def encode (widths : FieldWidths) (o : InformationObject) : Octets :=
  Octets.littleEndian widths.objectAddress o.address ++ o.rows.flatMap encodeRow

/-- The number of octets that a writer counts for a row. -/
def rowLength (row : Row) : Nat := row.foldr (fun e count => e.width + count) 0

/-- The number of octets that a writer counts for an object. -/
def writtenLength (widths : FieldWidths) (o : InformationObject) : Nat :=
  widths.objectAddress + o.rows.foldr (fun row count => rowLength row + count) 0

/-- Reads an object address. -/
def decodeAddress (widths : FieldWidths) (octets : Octets) : Except Fault (Nat × Octets) :=
  if octets.length < widths.objectAddress then .error (.invalidAsdu .addressTooShort)
  else
    .ok (Octets.valueOf (octets.take widths.objectAddress), octets.drop widths.objectAddress)

/-- Reads a row of the given layout. -/
def decodeRow : List ElementKind → Octets → Except Fault (Row × Octets)
  | [], octets => .ok ([], octets)
  | kind :: layout, octets => do
    let (element, octets) ← Element.decode kind octets
    let (row, octets) ← decodeRow layout octets
    return (element :: row, octets)

/-- Reads `count` rows of the given layout. -/
def decodeRows (layout : List ElementKind) :
    (count : Nat) → Octets → Except Fault (List Row × Octets)
  | 0, octets => .ok ([], octets)
  | count + 1, octets => do
    let (row, octets) ← decodeRow layout octets
    let (rows, octets) ← decodeRows layout count octets
    return (row :: rows, octets)

/-- Reads `count` objects of one row each. -/
def decodeSingles (widths : FieldWidths) (layout : List ElementKind) :
    (count : Nat) → Octets → Except Fault (List InformationObject × Octets)
  | 0, octets => .ok ([], octets)
  | count + 1, octets => do
    let (address, octets) ← decodeAddress widths octets
    let (row, octets) ← decodeRow layout octets
    let (objects, octets) ← decodeSingles widths layout count octets
    return (⟨address, [row]⟩ :: objects, octets)

/-- Reads the object of a sequence of `count` rows. An empty sequence has no object. -/
def decodeSequence (widths : FieldWidths) (layout : List ElementKind) (count : Nat)
    (octets : Octets) : Except Fault (List InformationObject × Octets) :=
  if count = 0 then .ok ([], octets)
  else do
    let (address, octets) ← decodeAddress widths octets
    let (rows, octets) ← decodeRows layout count octets
    return ([⟨address, rows⟩], octets)

/-- Reads the objects of an ASDU of `count` rows. -/
def decodeAll (widths : FieldWidths) (h : AsduHeader) (count : Nat) (octets : Octets) :
    Except Fault (List InformationObject × Octets) :=
  if h.sequence then decodeSequence widths h.type.layout count octets
  else decodeSingles widths h.type.layout count octets

/-- Refuses an object with a row whose address does not fit the address field. -/
def checkAddresses (widths : FieldWidths) (o : InformationObject) : Except Fault Unit :=
  if widths.maxObjectAddress < o.address ∨ widths.maxObjectAddress < o.lastAddress then
    .error (.domain (.objectAddressWidth o.lastAddress widths.objectAddress))
  else .ok ()

end InformationObject

namespace Asdu

/-- Refuses an ASDU whose addresses do not fit their fields. -/
def validate (widths : FieldWidths) (a : Asdu) : Except Fault Unit :=
  if widths.cause = 1 ∧ a.header.originator ≠ 0 then
    .error (.domain (.originatorWithoutField a.header.originator))
  else if a.header.commonAddress = 0 then .error (.domain .commonAddressZero)
  else if widths.maxCommonAddress < a.header.commonAddress then
    .error (.domain (.commonAddressWidth a.header.commonAddress widths.commonAddress))
  else a.objects.forM (InformationObject.checkAddresses widths)

/-- The length of the encoding of an ASDU that is well formed. -/
def encodedLength (widths : FieldWidths) (a : Asdu) : Nat :=
  let addresses := if a.header.sequence then min a.objects.length 1 else a.objects.length
  widths.headerSize + addresses * widths.objectAddress
    + a.rowCount * a.header.type.rowWidth

/-- The octets of an ASDU, whether or not its addresses fit their fields. -/
def octets (widths : FieldWidths) (a : Asdu) : Octets :=
  a.header.encode widths a.rowCount ++ a.objects.flatMap (InformationObject.encode widths)

def encode (widths : FieldWidths) (a : Asdu) : Except Fault Octets := do
  a.validate widths
  return a.octets widths

/-- The number of octets that a writer counts, part by part. -/
def writtenLength (widths : FieldWidths) (a : Asdu) : Nat :=
  widths.headerSize + a.objects.foldr (fun o count => o.writtenLength widths + count) 0

/-- Writes an ASDU behind the contents of a buffer and reports the number of octets written. Of an
ASDU that is refused nothing is written. -/
def append (widths : FieldWidths) (a : Asdu) (buffer : Octets) : Except Fault Nat × Octets :=
  match a.encode widths with
  | .ok octets => (.ok (a.writtenLength widths), buffer ++ octets)
  | .error f => (.error f, buffer)

def decode (widths : FieldWidths) (octets : Octets) : Except Fault Asdu := do
  let (header, count, rest) ← AsduHeader.decode widths octets
  let (objects, rest) ← InformationObject.decodeAll widths header count rest
  if rest.isEmpty then return ⟨header, objects⟩
  else throw (.invalidAsdu (.trailing rest.length count header.type))

end Asdu

end Telecontrol
