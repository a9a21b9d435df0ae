import Telecontrol.Proofs.Asdu.Header
import Telecontrol.Proofs.Asdu.Structure

/-!
# The length of written ASDUs

What a writer counts part by part is what it writes, for any ASDU. Of a well-formed ASDU this is
`Asdu.encodedLength`, which looks at the number of rows and the width of the type only.
-/

namespace Telecontrol

namespace ElementKind

@[simp] lemma rowWidth_nil : rowWidth [] = 0 := rfl

@[simp] lemma rowWidth_cons (kind : ElementKind) (layout : List ElementKind) :
    rowWidth (kind :: layout) = kind.width + rowWidth layout := rfl

end ElementKind

namespace InformationObject

variable {layout : List ElementKind} {o : InformationObject}

@[simp] lemma encodeRow_nil : encodeRow [] = [] := rfl

@[simp] lemma encodeRow_cons (e : Element) (row : Row) :
    encodeRow (e :: row) = e.encode ++ encodeRow row := List.flatMap_cons

lemma length_encodeRow (row : Row) :
    (encodeRow row).length = ElementKind.rowWidth (row.map Element.kind) := by
  induction row with
  | nil => rfl
  | cons e row ih => simp [ih, Element.length_encode]

lemma rowLength_eq (row : Row) :
    rowLength row = ElementKind.rowWidth (row.map Element.kind) := by
  rw [rowLength, ElementKind.rowWidth, List.foldr_map]
  rfl

lemma length_encode (widths : FieldWidths) (o : InformationObject) :
    (o.encode widths).length = o.writtenLength widths := by
  have hrows (rows : List Row) : (rows.flatMap encodeRow).length =
      rows.foldr (fun row count => rowLength row + count) 0 := by
    induction rows with
    | nil => rfl
    | cons row rows ih => simp [ih, length_encodeRow, rowLength_eq]
  rw [encode, writtenLength, List.length_append, Octets.length_littleEndian, hrows]

lemma HasLayout.writtenLength (h : o.HasLayout layout) (widths : FieldWidths) :
    o.writtenLength widths =
      widths.objectAddress + o.rows.length * ElementKind.rowWidth layout := by
  have hrows (rows : List Row) (h : ∀ row ∈ rows, row.map Element.kind = layout) :
      rows.foldr (fun row count => rowLength row + count) 0 =
        rows.length * ElementKind.rowWidth layout := by
    induction rows with
    | nil => simp
    | cons row rows ih =>
      obtain ⟨hrow, hrows⟩ := List.forall_mem_cons.1 h
      rw [List.foldr_cons, ih hrows, rowLength_eq, hrow, List.length_cons, Nat.succ_mul,
        Nat.add_comm]
  rw [InformationObject.writtenLength, hrows o.rows h]

end InformationObject

namespace Asdu

variable {a : Asdu}

theorem length_octets (widths : FieldWidths) (a : Asdu) :
    (a.octets widths).length = a.writtenLength widths := by
  have hobjects (objects : List InformationObject) :
      (objects.flatMap (InformationObject.encode widths)).length =
        objects.foldr (fun o count => o.writtenLength widths + count) 0 := by
    induction objects with
    | nil => rfl
    | cons o objects ih => simp [ih, InformationObject.length_encode]
  rw [octets, writtenLength, List.length_append, AsduHeader.length_encode, hobjects]

theorem WellFormed.writtenLength (h : a.WellFormed) (widths : FieldWidths) :
    a.writtenLength widths = a.encodedLength widths := by
  have hobjects (objects : List InformationObject)
      (h : ∀ o ∈ objects, o.HasLayout a.header.type.layout) :
      objects.foldr (fun o count => o.writtenLength widths + count) 0 =
        objects.length * widths.objectAddress +
          objects.foldr (fun o count => o.rows.length + count) 0 * a.header.type.rowWidth := by
    induction objects with
    | nil => simp
    | cons o objects ih =>
      obtain ⟨ho, hothers⟩ := List.forall_mem_cons.1 h
      rw [List.foldr_cons, List.foldr_cons, ih hothers, ho.writtenLength, List.length_cons,
        Nat.add_mul, Nat.add_mul, TypeId.rowWidth]
      omega
  have haddresses : (if a.header.sequence then min a.objects.length 1 else a.objects.length) =
      a.objects.length := by
    split
    · next hsequence => exact Nat.min_eq_left (h.sequence hsequence)
    · rfl
  rw [Asdu.writtenLength, encodedLength, haddresses, hobjects a.objects h.layout, rowCount,
    Nat.add_assoc]

lemma encodedLength_pos (widths : FieldWidths) (a : Asdu) : 0 < a.encodedLength widths := by
  simp only [encodedLength, FieldWidths.headerSize]
  omega

end Asdu

end Telecontrol
