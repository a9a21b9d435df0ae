import Telecontrol.Asdu.Codec
import Telecontrol.Proofs.Fallible

/-!
# Headers are read as they were written

Every octet of a header has one reading: the structure qualifier and the octet of the cause lose no
bit, and the two fields of variable width are numbers that fit them. So reading a header undoes
writing it, and writing it undoes reading it, whatever stands behind it.
-/

namespace Telecontrol

namespace FieldWidths

variable {widths : FieldWidths} {address : Nat}

lemma le_maxObjectAddress_iff :
    address ≤ widths.maxObjectAddress ↔ address < Octets.capacity widths.objectAddress := by
  have hpos := Octets.capacity_pos widths.objectAddress
  unfold maxObjectAddress
  omega

lemma le_maxCommonAddress_iff :
    address ≤ widths.maxCommonAddress ↔ address < Octets.capacity widths.commonAddress := by
  have hpos := Octets.capacity_pos widths.commonAddress
  unfold maxCommonAddress
  omega

lemma maxCommonAddress_pos (widths : FieldWidths) : 0 < widths.maxCommonAddress := by
  have hrange := widths.commonAddress_range
  obtain hone | htwo : widths.commonAddress = 1 ∨ widths.commonAddress = 2 := by omega
  · rw [maxCommonAddress, hone]
    decide
  · rw [maxCommonAddress, htwo]
    decide

end FieldWidths

lemma TypeId.ofOctet_eq_ok_iff {octet : UInt8} {t : TypeId} :
    ofOctet octet = .ok t ↔ octet = t.code := by
  unfold ofOctet
  constructor
  · intro h
    split at h
    · next t' ht' =>
      obtain rfl := by simpa using h
      exact (code_of_ofCode? ht').symm
    · exact nomatch h
  · rintro rfl
    rw [ofCode?_code]

namespace Cause

lemma codeNat_lt (c : Cause) : c.codeNat < 64 := by
  cases c with
  | interrogatedByGroup group =>
    simp only [codeNat]
    omega
  | requestedByGroupCounter group =>
    simp only [codeNat]
    omega
  | _ => decide

lemma ofOctet_eq_ok_iff {octet : UInt8} {c : Cause} :
    ofOctet octet = .ok c ↔ octet.toNat % 64 = c.codeNat := by
  have hcode : (UInt8.ofNat (octet.toNat % 64) = c.code) ↔ octet.toNat % 64 = c.codeNat := by
    have hlt := c.codeNat_lt
    rw [← UInt8.toNat_inj, code, UInt8.toNat_ofNat', UInt8.toNat_ofNat']
    omega
  rw [← hcode]
  unfold ofOctet
  dsimp only
  constructor
  · intro h
    split at h
    · next c' hc' =>
      obtain rfl := by simpa using h
      exact (code_of_ofCode? hc').symm
    · exact nomatch h
  · intro h
    rw [h, ofCode?_code]

end Cause

namespace StructureQualifier

variable {q : StructureQualifier} {b : UInt8}

lemma toByte_ofByte (b : UInt8) : (ofByte b).toByte = b := by
  have hb := b.toNat_lt
  apply UInt8.toNat_inj.1
  simp only [ofByte, toByte, UInt8.toNat_ofNat']
  by_cases hhigh : 128 ≤ b.toNat
  · simp [hhigh]
    omega
  · simp [hhigh]
    omega

lemma ofByte_toByte (h : q.count ≤ Asdu.maxRows) : ofByte q.toByte = q := by
  obtain ⟨count, sequence⟩ := q
  have hsmall : count < 128 := Nat.lt_succ_of_le h
  cases sequence <;> simp only [ofByte, toByte, UInt8.toNat_ofNat'] <;> simp <;> omega

lemma count_ofByte_le (b : UInt8) : (ofByte b).count ≤ Asdu.maxRows := by
  have hlt : b.toNat % 128 < 128 := Nat.mod_lt _ (by decide)
  exact Nat.le_of_lt_succ hlt

end StructureQualifier

namespace AsduHeader

variable {widths : FieldWidths} {octets rest tail : Octets} {h : AsduHeader} {count : Nat}

/-- The fields of variable width can hold what the header says. -/
structure Fits (widths : FieldWidths) (h : AsduHeader) : Prop where
  originator : widths.cause = 1 → h.originator = 0
  commonAddress : h.commonAddress ≤ widths.maxCommonAddress

lemma causeByte_eq_iff {c : UInt8} :
    h.causeByte = c ↔ c.toNat % 64 = h.cause.codeNat ∧
      decide (64 ≤ c.toNat % 128) = h.negative ∧ decide (128 ≤ c.toNat) = h.test := by
  have hcode := h.cause.codeNat_lt
  have hc := c.toNat_lt
  rw [← UInt8.toNat_inj, causeByte, UInt8.toNat_ofNat']
  cases h.negative <;> cases h.test <;> simp <;> omega

lemma length_encode (widths : FieldWidths) (h : AsduHeader) (count : Nat) :
    (h.encode widths count).length = widths.headerSize := by
  have hcause := widths.cause_range
  unfold encode FieldWidths.headerSize
  obtain hone | htwo : widths.cause = 1 ∨ widths.cause = 2 := by omega
  · simp [hone]
    omega
  · simp [htwo]
    omega

lemma fields_eq_iff {originator : UInt8} {commonAddress : Nat}
    (hlong : widths.cause - 1 + widths.commonAddress ≤ tail.length) :
    ((if widths.cause = 2 then tail.headD 0 else 0) = originator ∧
        Octets.valueOf ((tail.drop (widths.cause - 1)).take widths.commonAddress) = commonAddress ∧
        (tail.drop (widths.cause - 1)).drop widths.commonAddress = rest) ↔
      (widths.cause = 1 → originator = 0) ∧ commonAddress ≤ widths.maxCommonAddress ∧
        tail = (if widths.cause = 2 then [originator] else []) ++
          Octets.littleEndian widths.commonAddress commonAddress ++ rest := by
  have hfield (tail : Octets) (hlong : widths.commonAddress ≤ tail.length) :
      (Octets.valueOf (tail.take widths.commonAddress) = commonAddress ∧
          tail.drop widths.commonAddress = rest) ↔
        commonAddress ≤ widths.maxCommonAddress ∧
          tail = Octets.littleEndian widths.commonAddress commonAddress ++ rest := by
    rw [FieldWidths.le_maxCommonAddress_iff, Octets.eq_littleEndian_append_iff]
    simp [hlong]
  have hcause := widths.cause_range
  obtain hone | htwo : widths.cause = 1 ∨ widths.cause = 2 := by omega
  · have hrest := hfield tail (by omega)
    simp only [hone, Nat.sub_self, List.drop_zero, hrest]
    simp [eq_comm]
  · cases tail with
    | nil =>
      have hpos := widths.commonAddress_range
      simp only [htwo, List.length_nil] at hlong
      omega
    | cons first tail =>
      have hrest := hfield tail (by rw [htwo, List.length_cons] at hlong; omega)
      simp only [htwo, Nat.add_one_sub_one, List.drop_succ_cons, List.drop_zero, hrest]
      simp [and_left_comm]

theorem decode_eq_ok_iff :
    decode widths octets = .ok (h, count, rest) ↔
      h.Fits widths ∧ count ≤ Asdu.maxRows ∧ octets = h.encode widths count ++ rest := by
  have hcause := widths.cause_range
  unfold decode
  rw [ite_error_eq_ok_iff, Nat.not_lt]
  constructor
  · rintro ⟨hlong, hread⟩
    split at hread
    · next typeByte structureByte third tail =>
      have hfields : widths.cause - 1 + widths.commonAddress ≤ tail.length := by
        simp only [FieldWidths.headerSize, List.length_cons] at hlong
        omega
      obtain ⟨type, htype, hread⟩ := bind_eq_ok hread
      obtain ⟨cause, hthird, hread⟩ := bind_eq_ok hread
      rw [TypeId.ofOctet_eq_ok_iff] at htype
      rw [Cause.ofOctet_eq_ok_iff] at hthird
      obtain ⟨rfl, rfl, hrest⟩ := by
        simpa only [pure_eq_ok, Except.ok.injEq, Prod.mk.injEq] using hread
      obtain ⟨horiginator, hcommon, htail⟩ := (fields_eq_iff hfields).1 ⟨rfl, rfl, hrest⟩
      refine ⟨⟨horiginator, hcommon⟩, StructureQualifier.count_ofByte_le _, ?_⟩
      rw [encode, causeByte_eq_iff.2 ⟨hthird, rfl, rfl⟩, ← htype,
        StructureQualifier.toByte_ofByte]
      exact congrArg (fun tail => typeByte :: structureByte :: third :: tail) htail
    · exact nomatch hread
  · rintro ⟨⟨horiginator, hcommon⟩, hcount, rfl⟩
    obtain ⟨hthird, hnegative, htest⟩ := (causeByte_eq_iff (h := h)).1 rfl
    have hlong : widths.headerSize ≤ (h.encode widths count ++ rest).length := by
      rw [List.length_append, length_encode]
      omega
    have hfields : widths.cause - 1 + widths.commonAddress ≤
        ((if widths.cause = 2 then [h.originator] else []) ++
          Octets.littleEndian widths.commonAddress h.commonAddress ++ rest).length := by
      simp only [encode, List.length_append, List.length_cons, List.length_nil,
        FieldWidths.headerSize] at hlong ⊢
      omega
    obtain ⟨hfirst, hvalue, hrest⟩ := (fields_eq_iff hfields).2 ⟨horiginator, hcommon, rfl⟩
    refine ⟨hlong, ?_⟩
    simp only [encode, List.cons_append, List.nil_append]
    rw [TypeId.ofOctet_eq_ok_iff.2 rfl, Cause.ofOctet_eq_ok_iff.2 hthird, ok_bind, ok_bind, hfirst,
      hvalue, hrest, StructureQualifier.ofByte_toByte hcount, htest, hnegative]
    rfl

end AsduHeader

end Telecontrol
