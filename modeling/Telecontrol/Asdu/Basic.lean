import Telecontrol.Cause
import Telecontrol.Element.Codec
import Telecontrol.Parameters

/-!
# Application service data units

An ASDU is a header and a list of information objects. Without the sequence flag each object has an
address and one row of elements; with it, a single object holds all rows, and row `i` belongs to
address `address + i`. `Asdu.push` admits an object only if this structure is kept, every row has
the layout of the type, and the number of rows can be expressed.
-/

namespace Telecontrol

abbrev Row := List Element

/-- An address and the rows that start there. -/
structure InformationObject where
  address : Nat
  rows : List Row
deriving DecidableEq, Repr

namespace InformationObject

/-- Object addresses have 24 bits. -/
def single (address : Nat) (row : Row) : InformationObject := ⟨address % 0x1000000, [row]⟩

def sequence (address : Nat) (rows : List Row) : InformationObject :=
  ⟨address % 0x1000000, rows⟩

/-- The elements of the first row. -/
def elements (o : InformationObject) : Row := o.rows.headD []

/-- The address of a row. That a number of 32 bits can overflow here is left out: it takes an object
address beyond the 24 bits that `single` and `sequence` leave, which every encoder refuses on its
own, so that only the number in a message differs. Where overflow is checked, the sum panics. -/
def rowAddress (o : InformationObject) (index : Nat) : Nat := o.address + index

def lastAddress (o : InformationObject) : Nat := o.rowAddress (o.rows.length - 1)

/-- The rows with their addresses. -/
def addressedRows (o : InformationObject) : List (Nat × Row) :=
  (o.rows.zipIdx o.address).map fun (row, address) => (address, row)

/-- Refuses the first row, counted from `index`, that does not have the given layout. -/
def checkRows (address : Nat) (layout : List ElementKind) : Nat → List Row → Except Fault Unit
  | _, [] => .ok ()
  | index, row :: rows =>
    let shape := row.map Element.kind
    if shape = layout then checkRows address layout (index + 1) rows
    else .error (.domain (.rowShape index (address + index) shape layout))

def checkLayout (o : InformationObject) (layout : List ElementKind) : Except Fault Unit :=
  checkRows o.address layout 0 o.rows

end InformationObject

/-- Data unit identifier. -/
structure AsduHeader where
  type : TypeId
  sequence : Bool := false
  cause : Cause
  test : Bool := false
  negative : Bool := false
  originator : UInt8 := 0
  commonAddress : Nat
deriving DecidableEq, Repr

structure Asdu where
  header : AsduHeader
  objects : List InformationObject
deriving DecidableEq, Repr

/-- Priority of data on an unbalanced line. -/
inductive DataClass
  | class1 | class2
deriving DecidableEq, Repr

namespace Asdu

/-- The most rows that the structure qualifier can express. -/
def maxRows : Nat := 127

/-- An ASDU without objects. -/
def empty (type : TypeId) (cause : Cause) (commonAddress : Nat) : Asdu where
  header := { type, cause, commonAddress }
  objects := []

/-- An ASDU without objects, whose rows shall form a sequence. -/
def emptySequence (type : TypeId) (cause : Cause) (commonAddress : Nat) : Asdu where
  header := { type, cause, commonAddress, sequence := true }
  objects := []

def rowCount (a : Asdu) : Nat := a.objects.foldr (fun o count => o.rows.length + count) 0

/-- Adds an information object. -/
def push (a : Asdu) (o : InformationObject) : Except Fault Asdu := do
  o.checkLayout a.header.type.layout
  if a.header.sequence then
    if !a.objects.isEmpty then throw (.domain .secondObjectInSequence)
  else if o.rows.length ≠ 1 then throw (.domain (.rowsPerObject o.rows.length))
  if maxRows < a.rowCount + o.rows.length then throw (.domain (.tooManyRows maxRows))
  return { a with objects := a.objects ++ [o] }

/-- Adds the objects that can be added, each on its own, and tells how each of them fared. -/
def pushAll (a : Asdu) : List InformationObject → Asdu × List (Except Fault Unit)
  | [] => (a, [])
  | o :: rest =>
    match a.push o with
    | .ok pushed =>
      let (a, results) := pushAll pushed rest
      (a, .ok () :: results)
    | .error f =>
      let (a, results) := pushAll a rest
      (a, .error f :: results)

/-- An answer to this ASDU: the same type and objects with another cause. -/
def reply (a : Asdu) (cause : Cause) (negative : Bool) : Asdu :=
  { a with header := { a.header with cause, negative } }

/-- Cyclic data has low priority. -/
def dataClass (a : Asdu) : DataClass := if a.header.cause.isCyclic then .class2 else .class1

def text (a : Asdu) : String :=
  s!"{a.header.type.standardName} CA={a.header.commonAddress} COT={a.header.cause.text}" ++
    (if a.header.negative then " (neg)" else "") ++ s!" rows={a.rowCount}"

end Asdu

end Telecontrol
