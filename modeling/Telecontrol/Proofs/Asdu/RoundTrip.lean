import Telecontrol.Proofs.Asdu.Length
import Telecontrol.Proofs.Element.RoundTrip

/-!
# ASDUs are read as they were written

Each reader of a part accepts exactly what the writer of this part makes of a value that the reader
can return, and what follows does not matter to it. Hence octets are read as an ASDU only if they are
what is written for it (`decode_eq_ok_iff`), and an ASDU that is written is read back if its objects
are what its header announces and none of them is without rows.
-/

namespace Telecontrol

namespace InformationObject

variable {widths : FieldWidths} {layout : List ElementKind} {count : Nat} {octets rest : Octets}
variable {objects : List InformationObject}

lemma decodeAddress_eq_ok_iff {address : Nat} :
    decodeAddress widths octets = .ok (address, rest) ↔
      address ≤ widths.maxObjectAddress ∧
        octets = Octets.littleEndian widths.objectAddress address ++ rest := by
  unfold decodeAddress
  rw [ite_error_eq_ok_iff, Except.ok.injEq, Prod.mk.injEq, Nat.not_lt,
    FieldWidths.le_maxObjectAddress_iff]
  exact Octets.eq_littleEndian_append_iff.symm

lemma decodeRow_eq_ok_iff {row : Row} :
    decodeRow layout octets = .ok (row, rest) ↔
      row.map Element.kind = layout ∧ octets = encodeRow row ++ rest := by
  induction layout generalizing octets rest row with
  | nil =>
    simp only [decodeRow, Except.ok.injEq, Prod.mk.injEq, List.map_eq_nil_iff]
    constructor
    · rintro ⟨rfl, rfl⟩
      exact ⟨rfl, rfl⟩
    · rintro ⟨rfl, rfl⟩
      exact ⟨rfl, rfl⟩
  | cons kind layout ih =>
    simp only [decodeRow, bind_eq_ok_iff, Prod.exists, Element.decode_eq_ok_iff, ih, pure_eq_ok,
      Except.ok.injEq, Prod.mk.injEq, List.map_eq_cons_iff]
    constructor
    · rintro ⟨e, _, ⟨hkind, rfl⟩, row, _, ⟨hrow, rfl⟩, rfl, rfl⟩
      exact ⟨⟨e, row, rfl, hkind, hrow⟩, by simp⟩
    · rintro ⟨⟨e, row, rfl, hkind, hrow⟩, rfl⟩
      exact ⟨e, encodeRow row ++ rest, ⟨hkind, by simp⟩, row, rest, ⟨hrow, rfl⟩, rfl, rfl⟩

lemma decodeRows_eq_ok_iff {rows : List Row} :
    decodeRows layout count octets = .ok (rows, rest) ↔
      rows.length = count ∧ (∀ row ∈ rows, row.map Element.kind = layout) ∧
        octets = rows.flatMap encodeRow ++ rest := by
  induction count generalizing octets rest rows with
  | zero =>
    simp only [decodeRows, Except.ok.injEq, Prod.mk.injEq, List.length_eq_zero_iff]
    constructor
    · rintro ⟨rfl, rfl⟩
      simp
    · rintro ⟨rfl, -, rfl⟩
      simp
  | succ count ih =>
    simp only [decodeRows, bind_eq_ok_iff, Prod.exists, decodeRow_eq_ok_iff, ih, pure_eq_ok,
      Except.ok.injEq, Prod.mk.injEq]
    constructor
    · rintro ⟨row, _, ⟨hrow, rfl⟩, rows, _, ⟨rfl, hrows, rfl⟩, rfl, rfl⟩
      exact ⟨rfl, List.forall_mem_cons.2 ⟨hrow, hrows⟩, by simp⟩
    · rintro ⟨hcount, hlayout, rfl⟩
      obtain ⟨row, rows, rfl⟩ := List.exists_cons_of_length_eq_add_one hcount
      obtain ⟨hrow, hrows⟩ := List.forall_mem_cons.1 hlayout
      exact ⟨row, rows.flatMap encodeRow ++ rest, ⟨hrow, by simp⟩, rows, rest,
        ⟨by simpa using hcount, hrows, rfl⟩, rfl, rfl⟩

lemma decodeSingles_eq_ok_iff :
    decodeSingles widths layout count octets = .ok (objects, rest) ↔
      objects.length = count ∧
        (∀ o ∈ objects, o.address ≤ widths.maxObjectAddress ∧ o.HasLayout layout ∧
          o.rows.length = 1) ∧
        octets = objects.flatMap (encode widths) ++ rest := by
  induction count generalizing octets rest objects with
  | zero =>
    simp only [decodeSingles, Except.ok.injEq, Prod.mk.injEq, List.length_eq_zero_iff]
    constructor
    · rintro ⟨rfl, rfl⟩
      simp
    · rintro ⟨rfl, -, rfl⟩
      simp
  | succ count ih =>
    simp only [decodeSingles, bind_eq_ok_iff, Prod.exists, decodeAddress_eq_ok_iff,
      decodeRow_eq_ok_iff, ih, pure_eq_ok, Except.ok.injEq, Prod.mk.injEq]
    constructor
    · rintro ⟨address, _, ⟨haddress, rfl⟩, row, _, ⟨hrow, rfl⟩, objects, _, ⟨rfl, hobjects, rfl⟩,
        rfl, rfl⟩
      refine ⟨rfl, List.forall_mem_cons.2 ⟨⟨haddress, ?_, rfl⟩, hobjects⟩, by simp [encode]⟩
      exact List.forall_mem_singleton.2 hrow
    · rintro ⟨hcount, hgood, rfl⟩
      obtain ⟨⟨address, rows⟩, objects, rfl⟩ := List.exists_cons_of_length_eq_add_one hcount
      obtain ⟨⟨haddress, hlayout, hone⟩, hobjects⟩ := List.forall_mem_cons.1 hgood
      obtain ⟨row, rfl⟩ := List.length_eq_one_iff.1 hone
      exact ⟨address, _, ⟨haddress, by simp [encode]⟩, row, _,
        ⟨hlayout row (List.mem_singleton_self row), rfl⟩, objects, rest,
        ⟨by simpa using hcount, hobjects, rfl⟩, rfl, rfl⟩

lemma decodeSequence_eq_ok_iff :
    decodeSequence widths layout count octets = .ok (objects, rest) ↔
      objects.length ≤ 1 ∧ objects.foldr (fun o count => o.rows.length + count) 0 = count ∧
        (∀ o ∈ objects, o.address ≤ widths.maxObjectAddress ∧ o.HasLayout layout ∧
          o.rows ≠ []) ∧
        octets = objects.flatMap (encode widths) ++ rest := by
  unfold decodeSequence
  by_cases hzero : count = 0
  · simp only [hzero, if_true, Except.ok.injEq, Prod.mk.injEq]
    constructor
    · rintro ⟨rfl, rfl⟩
      simp
    · rintro ⟨hone, hcount, hgood, rfl⟩
      cases objects with
      | nil => simp
      | cons o objects =>
        -- An object has rows, so that the count of rows cannot be 0.
        have hrows := (hgood o List.mem_cons_self).2.2
        rw [List.foldr_cons, Nat.add_eq_zero_iff, List.length_eq_zero_iff] at hcount
        exact absurd hcount.1 hrows
  · simp only [hzero, if_false, bind_eq_ok_iff, Prod.exists, decodeAddress_eq_ok_iff,
      decodeRows_eq_ok_iff, pure_eq_ok, Except.ok.injEq, Prod.mk.injEq]
    constructor
    · rintro ⟨address, _, ⟨haddress, rfl⟩, rows, _, ⟨rfl, hrows, rfl⟩, rfl, rfl⟩
      refine ⟨Nat.le_refl 1, rfl, List.forall_mem_singleton.2 ⟨haddress, hrows, ?_⟩,
        by simp [encode]⟩
      exact fun hnil => hzero (List.length_eq_zero_iff.2 hnil)
    · rintro ⟨hone, hcount, hgood, rfl⟩
      cases objects with
      | nil => exact absurd hcount.symm hzero
      | cons o objects =>
        obtain rfl : objects = [] := by simpa using hone
        obtain ⟨haddress, hlayout, -⟩ := List.forall_mem_singleton.1 hgood
        exact ⟨o.address, _, ⟨haddress, by simp [encode]⟩, o.rows, rest,
          ⟨by simpa using hcount, hlayout, rfl⟩, rfl, rfl⟩

lemma rowCount_single (h : ∀ o ∈ objects, o.rows.length = 1) :
    objects.foldr (fun o count => o.rows.length + count) 0 = objects.length := by
  induction objects with
  | nil => rfl
  | cons o objects ih =>
    obtain ⟨ho, hothers⟩ := List.forall_mem_cons.1 h
    rw [List.foldr_cons, ho, ih hothers, List.length_cons, Nat.add_comm]

lemma decodeAll_eq_ok_iff {h : AsduHeader} :
    decodeAll widths h count octets = .ok (objects, rest) ↔
      Asdu.rowCount ⟨h, objects⟩ = count ∧ (∀ o ∈ objects, o.HasLayout h.type.layout) ∧
        (h.sequence = true → objects.length ≤ 1) ∧
        (h.sequence = false → ∀ o ∈ objects, o.rows.length = 1) ∧
        (∀ o ∈ objects, o.address ≤ widths.maxObjectAddress) ∧ (∀ o ∈ objects, o.rows ≠ []) ∧
        octets = objects.flatMap (encode widths) ++ rest := by
  unfold decodeAll Asdu.rowCount
  cases hsequence : h.sequence with
  | true =>
    rw [if_pos rfl, decodeSequence_eq_ok_iff]
    constructor
    · rintro ⟨hone, hcount, hgood, rfl⟩
      exact ⟨hcount, fun o ho => (hgood o ho).2.1, fun _ => hone, nofun,
        fun o ho => (hgood o ho).1, fun o ho => (hgood o ho).2.2, rfl⟩
    · rintro ⟨hcount, hlayout, hone, -, haddresses, hrows, rfl⟩
      exact ⟨hone rfl, hcount, fun o ho => ⟨haddresses o ho, hlayout o ho, hrows o ho⟩, rfl⟩
  | false =>
    rw [if_neg Bool.false_ne_true, decodeSingles_eq_ok_iff]
    constructor
    · rintro ⟨rfl, hgood, rfl⟩
      have hone : ∀ o ∈ objects, o.rows.length = 1 := fun o ho => (hgood o ho).2.2
      have hrows : ∀ o ∈ objects, o.rows ≠ [] := fun o ho =>
        List.ne_nil_of_length_eq_add_one (hone o ho)
      exact ⟨rowCount_single hone, fun o ho => (hgood o ho).2.1, nofun, fun _ => hone,
        fun o ho => (hgood o ho).1, hrows, rfl⟩
    · rintro ⟨rfl, hlayout, -, hsingle, haddresses, -, rfl⟩
      have hone := hsingle rfl
      exact ⟨(rowCount_single hone).symm,
        fun o ho => ⟨haddresses o ho, hlayout o ho, hone o ho⟩, rfl⟩

end InformationObject

namespace Asdu

variable {widths : FieldWidths} {octets buffer : Octets} {a : Asdu}

/-- Octets can stand for the ASDU. -/
structure Readable (widths : FieldWidths) (a : Asdu) : Prop extends a.WellFormed where
  header : a.header.Fits widths
  addresses : ∀ o ∈ a.objects, o.address ≤ widths.maxObjectAddress
  rows : ∀ o ∈ a.objects, o.rows ≠ []

theorem decode_eq_ok_iff :
    decode widths octets = .ok a ↔ a.Readable widths ∧ octets = a.octets widths := by
  have hempty {rest : Octets} {b : Asdu} {f : Fault} :
      (if rest.isEmpty then pure b else throw f : Except Fault Asdu) = .ok a ↔
        rest = [] ∧ b = a := by
    cases rest <;> simp
  simp only [decode, bind_eq_ok_iff, Prod.exists, AsduHeader.decode_eq_ok_iff,
    InformationObject.decodeAll_eq_ok_iff, hempty]
  constructor
  · rintro ⟨h, _, _, ⟨hheader, hcount, rfl⟩, objects, _,
      ⟨rfl, hlayout, hsequence, hsingle, haddresses, hrows, rfl⟩, rfl, rfl⟩
    exact ⟨⟨⟨hlayout, hsequence, hsingle, hcount⟩, hheader, haddresses, hrows⟩, by simp [Asdu.octets]⟩
  · rintro ⟨⟨⟨hlayout, hsequence, hsingle, hcount⟩, hheader, haddresses, hrows⟩, rfl⟩
    exact ⟨a.header, a.rowCount, _, ⟨hheader, hcount, rfl⟩, a.objects, [],
      ⟨rfl, hlayout, hsequence, hsingle, haddresses, hrows, by simp⟩, rfl, rfl⟩

lemma length_of_decode (h : decode widths octets = .ok a) :
    octets.length = a.encodedLength widths := by
  obtain ⟨hreadable, rfl⟩ := decode_eq_ok_iff.1 h
  rw [length_octets, hreadable.toWellFormed.writtenLength]

/-- Whatever is written for the ASDU is read as the ASDU. -/
def Faithful (widths : FieldWidths) (a : Asdu) : Prop :=
  ∀ octets, a.encode widths = .ok octets → decode widths octets = .ok a

instance (widths : FieldWidths) (a : Asdu) : Decidable (a.Faithful widths) :=
  match h : a.encode widths with
  | .error _ => isTrue (by simp [Faithful, h])
  | .ok octets =>
    match h' : decode widths octets with
    | .error _ => isFalse (by simp [Faithful, h, h'])
    | .ok b => decidable_of_iff (b = a) (by simp [Faithful, h, h'])

lemma Faithful.length_encode (h : a.Faithful widths) (hencode : a.encode widths = .ok octets) :
    octets.length = a.encodedLength widths :=
  length_of_decode (h octets hencode)

end Asdu

end Telecontrol
