import Telecontrol.Proofs.Asdu.RoundTrip

/-!
# Which octets are an ASDU

The first three octets of an ASDU determine its length. A reader of objects takes away a number of
octets that does not depend on what they are, and fails only if there are fewer (`Takes`); hence
octets are accepted if type and cause are known and the length is the one announced, and no accepted
string begins another one. Whatever else arrives is a fault of the sender.
-/

namespace Telecontrol

/-- A reader takes away a fixed number of octets. If there are fewer, they are refused. -/
def Takes {α : Type} (width : Nat) (read : Octets → Except Fault (α × Octets)) : Prop :=
  ∀ octets : Octets,
    if width ≤ octets.length then ∃ x, read octets = .ok (x, octets.drop width)
    else ∃ f : Fault, read octets = .error f ∧ f.isFraming = true

namespace Takes

variable {α β : Type} {width width' : Nat} {read : Octets → Except Fault (α × Octets)}

lemma pure (x : α) : Takes 0 fun octets => .ok (x, octets) :=
  fun _ => ⟨x, rfl⟩

lemma field {fault : Octets → AsduCause} {value : Octets → α} :
    Takes width fun octets =>
      if octets.length < width then .error (.invalidAsdu (fault octets))
      else .ok (value octets, octets.drop width) := by
  intro octets
  by_cases hwidth : width ≤ octets.length
  · rw [if_pos hwidth]
    exact ⟨value octets, if_neg (Nat.not_lt.2 hwidth)⟩
  · rw [if_neg hwidth]
    exact ⟨.invalidAsdu (fault octets), if_pos (Nat.not_le.1 hwidth), rfl⟩

lemma bind {next : α → Octets → Except Fault (β × Octets)} (h : Takes width read)
    (hnext : ∀ x, Takes width' (next x)) :
    Takes (width + width') fun octets => read octets >>= fun (x, octets) => next x octets := by
  intro octets
  have hfirst := h octets
  by_cases hwidth : width ≤ octets.length
  · rw [if_pos hwidth] at hfirst
    obtain ⟨x, hread⟩ := hfirst
    have hsecond := hnext x (octets.drop width)
    rw [List.length_drop, List.drop_drop] at hsecond
    have hboth : width' ≤ octets.length - width ↔ width + width' ≤ octets.length := by omega
    simpa only [hread, ok_bind, hboth] using hsecond
  · rw [if_neg hwidth] at hfirst
    obtain ⟨f, hread, hframing⟩ := hfirst
    rw [if_neg (by omega)]
    exact ⟨f, by simp only [hread, error_bind], hframing⟩

end Takes

lemma Element.takes_decode (kind : ElementKind) : Takes kind.width (decode kind) := Takes.field

namespace InformationObject

variable (widths : FieldWidths) (layout : List ElementKind) (count : Nat)

lemma takes_decodeAddress : Takes widths.objectAddress (decodeAddress widths) := Takes.field

lemma takes_decodeRow : Takes (ElementKind.rowWidth layout) (decodeRow layout) := by
  induction layout with
  | nil => exact .pure []
  | cons kind layout ih =>
    exact (Element.takes_decode kind).bind fun e => ih.bind fun row => .pure (e :: row)

lemma takes_decodeRows :
    Takes (count * ElementKind.rowWidth layout) (decodeRows layout count) := by
  induction count with
  | zero =>
    rw [Nat.zero_mul]
    exact .pure []
  | succ count ih =>
    rw [Nat.succ_mul, Nat.add_comm]
    exact (takes_decodeRow layout).bind fun row => ih.bind fun rows => .pure (row :: rows)

lemma takes_decodeSingles :
    Takes (count * (widths.objectAddress + ElementKind.rowWidth layout))
      (decodeSingles widths layout count) := by
  induction count with
  | zero =>
    rw [Nat.zero_mul]
    exact .pure []
  | succ count ih =>
    rw [Nat.succ_mul, Nat.add_comm, Nat.add_assoc]
    exact (takes_decodeAddress widths).bind fun address => (takes_decodeRow layout).bind fun row =>
      ih.bind fun objects => .pure (⟨address, [row]⟩ :: objects)

/-- The number of octets of the objects of an ASDU with `count` rows. -/
def bodyLength (type : TypeId) (sequence : Bool) (count : Nat) : Nat :=
  if sequence then
    if count = 0 then 0 else widths.objectAddress + count * type.rowWidth
  else count * (widths.objectAddress + type.rowWidth)

lemma takes_decodeAll (h : AsduHeader) :
    Takes (bodyLength widths h.type h.sequence count) (decodeAll widths h count) := by
  unfold bodyLength decodeAll
  cases h.sequence with
  | false => exact takes_decodeSingles widths h.type.layout count
  | true =>
    simp only [if_true]
    unfold decodeSequence
    by_cases hzero : count = 0
    · simp only [hzero, if_true]
      exact .pure []
    · simp only [hzero, if_false]
      exact (takes_decodeAddress widths).bind fun address =>
        (takes_decodeRows h.type.layout count).bind fun rows => .pure ([⟨address, rows⟩] : List InformationObject)

end InformationObject

lemma TypeId.isFraming_of_ofOctet {octet : UInt8} {f : Fault} (h : ofOctet octet = .error f) :
    f.isFraming = true := by
  unfold ofOctet at h
  split at h
  · exact nomatch h
  · obtain rfl := Except.error.inj h
    rfl

lemma Cause.isFraming_of_ofOctet {octet : UInt8} {f : Fault} (h : ofOctet octet = .error f) :
    f.isFraming = true := by
  unfold ofOctet at h
  dsimp only at h
  split at h
  · exact nomatch h
  · obtain rfl := Except.error.inj h
    rfl

namespace AsduHeader

variable {widths : FieldWidths} {octets rest : Octets}

lemma isFraming_of_decode {f : Fault} (h : decode widths octets = .error f) :
    f.isFraming = true := by
  unfold decode at h
  split at h
  · obtain rfl := Except.error.inj h
    rfl
  · split at h
    · obtain htype | ⟨type, -, h⟩ := bind_eq_error h
      · exact TypeId.isFraming_of_ofOctet htype
      · obtain hcause | ⟨cause, -, h⟩ := bind_eq_error h
        · exact Cause.isFraming_of_ofOctet hcause
        · exact nomatch h
    · obtain rfl := Except.error.inj h
      rfl

lemma length_of_decode {h : AsduHeader} {count : Nat}
    (hdecode : decode widths octets = .ok (h, count, rest)) :
    octets.length = widths.headerSize + rest.length := by
  obtain ⟨-, -, rfl⟩ := decode_eq_ok_iff.1 hdecode
  rw [List.length_append, length_encode]

lemma exists_decode {first second third : UInt8} {type : TypeId} {cause : Cause}
    (hlong : widths.headerSize ≤ (first :: second :: third :: octets).length)
    (htype : type.code = first) (hcause : cause.codeNat = third.toNat % 64) :
    ∃ h rest, decode widths (first :: second :: third :: octets) =
        .ok (h, second.toNat % 128, rest) ∧
      h.type = type ∧ h.sequence = decide (128 ≤ second.toNat) := by
  unfold decode
  rw [if_neg (Nat.not_lt.2 hlong)]
  dsimp only
  rw [TypeId.ofOctet_eq_ok_iff.2 htype.symm, Cause.ofOctet_eq_ok_iff.2 hcause.symm]
  exact ⟨_, _, rfl, rfl, rfl⟩

end AsduHeader

namespace Asdu

variable {widths : FieldWidths} {octets rest : Octets}

open InformationObject (bodyLength)

/-- Behind a header that was read, only the length of the rest counts. -/
lemma exists_decode_iff {h : AsduHeader} {count : Nat}
    (hheader : AsduHeader.decode widths octets = .ok (h, count, rest)) :
    (∃ a, decode widths octets = .ok a) ↔
      rest.length = bodyLength widths h.type h.sequence count := by
  have htakes := InformationObject.takes_decodeAll widths count h rest
  unfold decode
  simp only [hheader, ok_bind]
  -- Too few octets are a fault of the reader of the objects, too many one of the whole.
  by_cases henough : bodyLength widths h.type h.sequence count ≤ rest.length
  · rw [if_pos henough] at htakes
    obtain ⟨objects, hobjects⟩ := htakes
    simp only [hobjects, ok_bind, List.isEmpty_iff, List.drop_eq_nil_iff]
    by_cases hexact : rest.length ≤ bodyLength widths h.type h.sequence count
    · simp only [hexact, if_true, pure_eq_ok, Except.ok.injEq, exists_eq', true_iff]
      omega
    · simp only [hexact, if_false, throw_eq_error, reduceCtorEq, exists_false, false_iff]
      omega
  · rw [if_neg henough] at htakes
    obtain ⟨f, hobjects, -⟩ := htakes
    simp only [hobjects, error_bind, reduceCtorEq, exists_false, false_iff]
    omega

lemma isFraming_of_decode {f : Fault} (h : decode widths octets = .error f) :
    f.isFraming = true := by
  obtain hheader | ⟨⟨header, count, rest⟩, -, h⟩ := bind_eq_error h
  · exact AsduHeader.isFraming_of_decode hheader
  · have htakes := InformationObject.takes_decodeAll widths count header rest
    obtain hobjects | ⟨⟨objects, left⟩, -, h⟩ := bind_eq_error h
    · split at htakes
      · obtain ⟨objects, hread⟩ := htakes
        exact nomatch hobjects.symm.trans hread
      · obtain ⟨f', hread, hframing⟩ := htakes
        obtain rfl := Except.error.inj (hobjects.symm.trans hread)
        exact hframing
    · dsimp only at h
      split at h
      · exact nomatch h
      · obtain rfl := Except.error.inj h
        rfl

/-- Type and cause are known, and the length is the one that the first octets announce. -/
def Grammatical (widths : FieldWidths) (octets : Octets) : Prop :=
  ∃ first second third rest, octets = first :: second :: third :: rest ∧
    widths.headerSize ≤ octets.length ∧
    ∃ (type : TypeId) (cause : Cause), type.code = first ∧ cause.codeNat = third.toNat % 64 ∧
      octets.length = widths.headerSize +
        bodyLength widths type (128 ≤ second.toNat) (second.toNat % 128)

lemma exists_decode_iff_grammatical :
    (∃ a, decode widths octets = .ok a) ↔ Grammatical widths octets := by
  constructor
  · intro hread
    obtain ⟨a, ha⟩ := hread
    obtain ⟨⟨h, count, rest⟩, hheader, -⟩ := bind_eq_ok ha
    have hlength := AsduHeader.length_of_decode hheader
    have hbody := (exists_decode_iff hheader).1 ⟨a, ha⟩
    obtain ⟨-, hcount, rfl⟩ := AsduHeader.decode_eq_ok_iff.1 hheader
    obtain ⟨hthird, -⟩ := (AsduHeader.causeByte_eq_iff (h := h)).1 rfl
    have hsecond : StructureQualifier.ofByte (StructureQualifier.toByte ⟨count, h.sequence⟩) =
        ⟨count, h.sequence⟩ := StructureQualifier.ofByte_toByte hcount
    obtain ⟨hn, hsequence⟩ := StructureQualifier.mk.inj hsecond
    refine ⟨h.type.code, StructureQualifier.toByte ⟨count, h.sequence⟩, h.causeByte, _, rfl,
      by omega, h.type, h.cause, rfl, hthird.symm, ?_⟩
    rw [hlength, hbody, hn, hsequence]
  · rintro ⟨first, second, third, rest, rfl, hlong, type, cause, htype, hcause, hlength⟩
    obtain ⟨h, body, hheader, rfl, hsequence⟩ := AsduHeader.exists_decode hlong htype hcause
    have hbody := AsduHeader.length_of_decode hheader
    rw [exists_decode_iff hheader, hsequence]
    omega

/-- The first octets of an ASDU determine its length. -/
lemma Grammatical.eq_of_begins {other : Octets} (h : Grammatical widths octets)
    (h' : Grammatical widths other) (hbegins : octets <+: other) : octets = other := by
  obtain ⟨first, second, third, rest, rfl, -, type, cause, htype, -, hlength⟩ := h
  obtain ⟨more, rfl⟩ := hbegins
  -- The three octets that announce the length stand at the front of both strings.
  obtain ⟨_, _, _, _, heq, -, type', cause', htype', -, hlength'⟩ := h'
  obtain ⟨rfl, rfl, rfl, -⟩ := by simpa only [List.cons_append, List.cons.injEq] using heq
  obtain rfl : type = type' := by
    have hcode := TypeId.ofCode?_code type
    rw [htype, ← htype', TypeId.ofCode?_code] at hcode
    exact (Option.some.inj hcode).symm
  rw [List.length_append, hlength] at hlength'
  obtain rfl : more = [] := List.length_eq_zero_iff.1 (by omega)
  exact (List.append_nil _).symm

/-- Octets are read as an ASDU exactly if they follow the grammar, and refused as a fault of the
sender otherwise. Of two accepted strings, neither begins the other. -/
theorem decode_grammar (widths : FieldWidths) (octets : Octets) :
    ((∃ a, decode widths octets = .ok a) ↔ Grammatical widths octets) ∧
      (¬Grammatical widths octets →
        ∃ f, decode widths octets = .error f ∧ f.isFraming = true) ∧
      ∀ other a b, octets <+: other → decode widths octets = .ok a → decode widths other = .ok b →
        octets = other := by
  refine ⟨exists_decode_iff_grammatical, fun hbad => ?_, fun other a b hbegins ha hb => ?_⟩
  · cases hread : decode widths octets with
    | ok a => exact absurd (exists_decode_iff_grammatical.1 ⟨a, hread⟩) hbad
    | error f => exact ⟨f, rfl, isFraming_of_decode hread⟩
  · exact (exists_decode_iff_grammatical.1 ⟨a, ha⟩).eq_of_begins
      (exists_decode_iff_grammatical.1 ⟨b, hb⟩) hbegins

end Asdu

end Telecontrol
