import Mathlib
import Telecontrol.Proofs.Apci.RoundTrip
import Telecontrol.Proofs.Ft12.RoundTrip
import Telecontrol.Proofs.Writing.Writer

/-!
# Encoders behind a buffer

ASDUs, APDUs and link frames as they are put into a buffer that may hold other frames already: every
check and every piece in its order, lengths and checksums as they are computed on the way. Each of
these writers does what `encode` says, on every buffer, so that it leaves the buffer alone or puts a
whole frame behind its contents.
-/

namespace Telecontrol

open Writer

namespace AsduHeader

variable {widths : FieldWidths}

def write (widths : FieldWidths) (h : AsduHeader) (count : Nat) : Writer Unit := do
  put [h.type.code]
  put [StructureQualifier.toByte ⟨count, h.sequence⟩]
  put [h.causeByte]
  put (if widths.cause = 2 then [h.originator] else [])
  put (Octets.littleEndian widths.commonAddress h.commonAddress)

lemma writes_header (widths : FieldWidths) (h : AsduHeader) (count : Nat) :
    (h.write widths count).Writes () (h.encode widths count) := by
  rw [encode, List.append_assoc]
  exact (writes_put [_]).bind ((writes_put [_]).bind ((writes_put [_]).bind
    ((writes_put _).bind (writes_put _))))

end AsduHeader

namespace InformationObject

/-- Puts the elements of a row and counts their octets. -/
def writeRow : Row → Writer Nat
  | [] => return 0
  | e :: row => do
    put e.encode
    return e.width + (← writeRow row)

def writeRows : List Row → Writer Nat
  | [] => return 0
  | row :: rows => do
    let count ← writeRow row
    return count + (← writeRows rows)

def write (widths : FieldWidths) (o : InformationObject) : Writer Nat := do
  put (Octets.littleEndian widths.objectAddress o.address)
  return widths.objectAddress + (← writeRows o.rows)

def writeAll (widths : FieldWidths) : List InformationObject → Writer Nat
  | [] => return 0
  | o :: objects => do
    let count ← o.write widths
    return count + (← writeAll widths objects)

lemma writes_row (row : Row) : (writeRow row).Writes (rowLength row) (encodeRow row) := by
  induction row with
  | nil => exact writes_pure 0
  | cons e row ih =>
    rw [encodeRow_cons]
    exact (writes_put _).bind (ih.tally e.width)

lemma writes_rows (rows : List Row) :
    (writeRows rows).Writes (rows.foldr (fun row count => rowLength row + count) 0)
      (rows.flatMap encodeRow) := by
  induction rows with
  | nil => exact writes_pure 0
  | cons row rows ih =>
    rw [List.flatMap_cons]
    exact (writes_row row).bind (ih.tally (rowLength row))

lemma writes_object (widths : FieldWidths) (o : InformationObject) :
    (o.write widths).Writes (o.writtenLength widths) (o.encode widths) :=
  (writes_put _).bind ((writes_rows o.rows).tally widths.objectAddress)

lemma writes_all (widths : FieldWidths) (objects : List InformationObject) :
    (writeAll widths objects).Writes
      (objects.foldr (fun o count => o.writtenLength widths + count) 0)
      (objects.flatMap (encode widths)) := by
  induction objects with
  | nil => exact writes_pure 0
  | cons o objects ih =>
    rw [List.flatMap_cons]
    exact (writes_object widths o).bind (ih.tally (o.writtenLength widths))

end InformationObject

namespace Asdu

variable {widths : FieldWidths} {a : Asdu}

/-- Checks the addresses, then puts header and objects, and reports the number of octets. -/
def write (widths : FieldWidths) (a : Asdu) : Writer Nat := do
  require (a.validate widths)
  a.header.write widths a.rowCount
  return widths.headerSize + (← InformationObject.writeAll widths a.objects)

lemma writes_of_validate (h : a.validate widths = .ok ()) :
    (a.write widths).Writes (a.octets widths).length (a.octets widths) := by
  rw [length_octets, write, h]
  exact (writes_require ()).bind ((AsduHeader.writes_header widths a.header a.rowCount).bind
    ((InformationObject.writes_all widths a.objects).tally widths.headerSize))

lemma refuses_of_validate {f : Fault} (h : a.validate widths = .error f) :
    (a.write widths).Refuses f := by
  rw [write, h]
  exact (refuses_require f).bind _

lemma write_cases (widths : FieldWidths) (a : Asdu) :
    (∃ f, a.encode widths = .error f ∧ (a.write widths).Refuses f) ∨
      ∃ octets, a.encode widths = .ok octets ∧ (a.write widths).Writes octets.length octets := by
  cases hvalidate : a.validate widths with
  | ok _ =>
    exact .inr ⟨_, encode_eq_ok_iff.2 ⟨hvalidate, rfl⟩, writes_of_validate hvalidate⟩
  | error f =>
    exact .inl ⟨f, by rw [encode, hvalidate, error_bind], refuses_of_validate hvalidate⟩

/-- An ASDU that is put piece by piece and one that is appended at once come to the same. -/
theorem on_write (widths : FieldWidths) (a : Asdu) (buffer : Octets) :
    (a.write widths).on buffer = a.append widths buffer := by
  rcases write_cases widths a with ⟨f, hencode, hwrite⟩ | ⟨octets, hencode, hwrite⟩
  · rw [append, hencode, hwrite]
  · obtain ⟨-, rfl⟩ := encode_eq_ok_iff.1 hencode
    rw [append, hencode, hwrite, length_octets]

end Asdu

namespace Apdu

variable {widths : FieldWidths}

/-- Puts the ASDU aside, and header and ASDU into the buffer when nothing can be refused any more. -/
def write (widths : FieldWidths) (a : Apdu) : Writer Unit :=
  match a.asdu, a.apci.isIFrame with
  | some asdu, true => do
    let length := asdu.encodedLength widths
    if Apci.maxAsduLength < length then
      throw (.invalidAsdu (.tooLong length Apci.maxAsduLength))
    let body ← (asdu.write widths).aside
    put (a.apci.header length)
    put body
  | none, false => put (a.apci.header 0)
  | _, _ => throw (.protocol (.payloadMismatch a.apci))

lemma write_cases (widths : FieldWidths) (a : Apdu) :
    (∃ f, a.encode widths = .error f ∧ (a.write widths).Refuses f) ∨
      ∃ octets, a.encode widths = .ok octets ∧ (a.write widths).Writes () octets := by
  obtain ⟨apci, asdu⟩ := a
  unfold write encode
  cases asdu with
  | none =>
    cases apci.isIFrame with
    | true => exact .inl ⟨_, rfl, refuses_throw _⟩
    | false => exact .inr ⟨_, rfl, writes_put _⟩
  | some asdu =>
    cases apci.isIFrame with
    | false => exact .inl ⟨_, rfl, refuses_throw _⟩
    | true =>
      dsimp only
      split
      · exact .inl ⟨_, rfl, refuses_throw _⟩
      · rcases Asdu.write_cases widths asdu with ⟨f, hencode, hwrite⟩ | ⟨octets, hencode, hwrite⟩
        · exact .inl ⟨f, by rw [hencode]; rfl, hwrite.aside.bind _⟩
        · refine .inr ⟨_, by rw [hencode]; rfl, ?_⟩
          exact hwrite.aside.bind ((writes_put _).bind (writes_put octets))

/-- A frame whose length octet counts the octets behind it, within the limits of the format. -/
def Counted (octets : Octets) : Prop :=
  ∃ (length : UInt8) (rest : Octets), octets = Apci.startByte :: length :: rest ∧
    rest.length = length.toNat ∧ Apci.minLength ≤ length.toNat ∧ length.toNat ≤ Apci.maxLength

lemma counted_header (apci : Apci) {payload : Octets} (hshort : payload.length ≤ Apci.maxAsduLength) :
    Counted (apci.header payload.length ++ payload) := by
  have hvalue : (UInt8.ofNat (Apci.minLength + payload.length)).toNat =
      Apci.minLength + payload.length := by
    unfold Apci.maxAsduLength Apci.maxLength Apci.minLength at *
    rw [UInt8.toNat_ofNat']
    omega
  refine ⟨_, apci.encode ++ payload, rfl, ?_, ?_, ?_⟩
  · rw [List.length_append, Apci.length_encode, hvalue, Apci.minLength]
  · rw [hvalue]
    exact Nat.le_add_right _ _
  · rw [hvalue]
    unfold Apci.maxAsduLength Apci.maxLength Apci.minLength at *
    omega

/-- The length is computed before the ASDU is written. It is right for every ASDU whose objects are
what its header announces. -/
lemma counted_of_encode {a : Apdu} {octets : Octets} (h : a.encode widths = .ok octets)
    (hasdu : ∀ asdu, a.asdu = some asdu → asdu.WellFormed) : Counted octets := by
  obtain ⟨apci, payload⟩ := a
  cases payload with
  | some asdu =>
    cases apci with
    | iFrame send receive =>
      obtain ⟨hshort, -, rfl⟩ := encode_iFrame_eq_ok_iff.1 h
      have hlength : (asdu.octets widths).length = asdu.encodedLength widths := by
        rw [Asdu.length_octets, (hasdu asdu rfl).writtenLength widths]
      rw [← hlength] at hshort ⊢
      exact counted_header _ hshort
    | sFrame | uFrame => exact nomatch h
  | none =>
    have hcounted : Counted (apci.header 0 ++ []) := @counted_header apci [] (Nat.zero_le _)
    rw [List.append_nil] at hcounted
    cases apci with
    | iFrame => exact nomatch h
    | sFrame | uFrame =>
      obtain rfl := Except.ok.inj h
      exact hcounted

end Apdu

namespace LinkFrame

variable {addressLength : Nat}

/-- Puts a body and seals it. The checksum is that of the octets that have come to stand in the
buffer since the body was begun. -/
def writeSealed (addressLength : Nat) (control : ControlField) (address : Nat) (asdu : Octets) :
    Writer Unit := do
  let start := (← get).length
  put [control.toByte]
  put (Octets.littleEndian addressLength address)
  put asdu
  let sum := checksum ((← get).drop start)
  put [sum]
  put [endByte]

def write (addressLength : Nat) (frame : LinkFrame) : Writer Unit :=
  match frame with
  | singleAck => put [ackByte]
  | singleNack => put [nackByte]
  | fixed control address => do
    require (checkAddress addressLength address)
    let body := body addressLength control address []
    put [fixedStart]
    put body
    put [checksum body]
    put [endByte]
  | userData control address asdu => do
    require (checkAddress addressLength address)
    let length := 1 + addressLength + asdu.length
    if maxLength < length then
      throw (.invalidAsdu (.tooLong asdu.length (maxAsduLength addressLength)))
    put [variableStart, UInt8.ofNat length, UInt8.ofNat length, variableStart]
    writeSealed addressLength control address asdu

/-- Whatever stands in the buffer before the body does not get into its checksum. -/
lemma writes_sealed (control : ControlField) (address : Nat) (asdu : Octets) :
    (writeSealed addressLength control address asdu).Writes ()
      (body addressLength control address asdu ++
        [checksum (body addressLength control address asdu), endByte]) := by
  intro buffer
  simp only [writeSealed, on_bind, on_get, on_put, List.append_assoc, List.drop_left]
  simp only [body, List.cons_append, List.nil_append, List.append_assoc]

lemma write_cases (addressLength : Nat) (frame : LinkFrame) :
    (∃ f, frame.encode addressLength = .error f ∧ (frame.write addressLength).Refuses f) ∨
      ∃ octets, frame.encode addressLength = .ok octets ∧
        (frame.write addressLength).Writes () octets := by
  cases frame with
  | singleAck => exact .inr ⟨_, rfl, writes_put _⟩
  | singleNack => exact .inr ⟨_, rfl, writes_put _⟩
  | fixed control address =>
    cases hcheck : checkAddress addressLength address with
    | error f =>
      refine .inl ⟨f, by rw [encode, hcheck]; rfl, ?_⟩
      rw [write, hcheck]
      exact (refuses_require f).bind _
    | ok _ =>
      refine .inr ⟨_, by rw [encode, hcheck]; rfl, ?_⟩
      rw [write, hcheck]
      exact (writes_require ()).bind ((writes_put [_]).bind ((writes_put _).bind
        ((writes_put [_]).bind (writes_put [_]))))
  | userData control address asdu =>
    have hlength : (body addressLength control address asdu).length =
        1 + addressLength + asdu.length := length_body control asdu
    cases hcheck : checkAddress addressLength address with
    | error f =>
      refine .inl ⟨f, by rw [encode, hcheck]; rfl, ?_⟩
      rw [write, hcheck]
      exact (refuses_require f).bind _
    | ok _ =>
      rw [write, encode, hcheck, ok_bind]
      dsimp only
      rw [hlength]
      by_cases hlong : maxLength < 1 + addressLength + asdu.length
      · refine .inl ⟨_, by rw [if_pos hlong]; rfl, ?_⟩
        rw [if_pos hlong]
        exact (writes_require ()).bind_refuses (refuses_throw _)
      · refine .inr ⟨_, by rw [if_neg hlong]; rfl, ?_⟩
        rw [if_neg hlong, List.append_assoc]
        exact (writes_require ()).bind ((writes_put _).bind (writes_sealed control address asdu))

lemma toNat_checksum (octets : Octets) :
    (checksum octets).toNat = (octets.map UInt8.toNat).sum % 256 := by
  induction octets with
  | nil => rfl
  | cons octet octets ih =>
    change (octet + checksum octets).toNat = _
    rw [UInt8.toNat_add, ih, List.map_cons, List.sum_cons, Nat.add_mod_mod]

/-- How a frame lies on the line. The length octets count the body without reduction. -/
def LiesAs (octets : Octets) : LinkFrame → Prop
  | singleAck => octets = [ackByte]
  | singleNack => octets = [nackByte]
  | fixed _ _ => ∃ (body : Octets) (sum : UInt8), octets = [fixedStart] ++ body ++ [sum, endByte] ∧
      sum.toNat = (body.map UInt8.toNat).sum % 256
  | userData _ _ _ => ∃ (length : UInt8) (body : Octets) (sum : UInt8),
      octets = [variableStart, length, length, variableStart] ++ body ++ [sum, endByte] ∧
      length.toNat = body.length ∧ sum.toNat = (body.map UInt8.toNat).sum % 256

lemma liesAs_of_encode {frame : LinkFrame} {octets : Octets}
    (h : frame.encode addressLength = .ok octets) : frame.LiesAs octets := by
  cases frame with
  | singleAck => exact (Except.ok.inj h).symm
  | singleNack => exact (Except.ok.inj h).symm
  | fixed control address =>
    obtain ⟨_, -, h⟩ := bind_eq_ok h
    exact ⟨_, _, (Except.ok.inj h).symm, toNat_checksum _⟩
  | userData control address asdu =>
    obtain ⟨_, -, h⟩ := bind_eq_ok h
    dsimp only at h
    split at h
    · exact nomatch h
    · next hshort =>
      exact ⟨_, _, _, (Except.ok.inj h).symm, toNat_lengthByte (Nat.le_of_not_lt hshort),
        toNat_checksum _⟩

end LinkFrame

namespace Writer

open Asdu in
/-- Each of the three encoders leaves every buffer as it was, or puts octets behind its contents,
the same ones whatever the contents are. The length octet of an APDU is right if type and sequence
flag of its ASDU were left alone; a link frame is read as the one that was to be written. -/
theorem whole_or_nothing (widths : FieldWidths) (addressLength : Nat) :
    (∀ a : Asdu, (∃ f, a.encode widths = .error f ∧ (a.write widths).Refuses f) ∨
      ∃ octets, a.encode widths = .ok octets ∧ (a.write widths).Writes octets.length octets) ∧
    (∀ a : Apdu, (∃ f, a.encode widths = .error f ∧ (a.write widths).Refuses f) ∨
      ∃ octets, a.encode widths = .ok octets ∧ (a.write widths).Writes () octets ∧
        ((∀ asdu, a.asdu = some asdu → asdu.Assembled SameStructure) → Apdu.Counted octets)) ∧
    ∀ frame : LinkFrame,
      (∃ f, frame.encode addressLength = .error f ∧ (frame.write addressLength).Refuses f) ∨
      ∃ octets, frame.encode addressLength = .ok octets ∧
        (frame.write addressLength).Writes () octets ∧ frame.LiesAs octets ∧
        (LinkFrame.reader addressLength).Reads octets frame := by
  refine ⟨Asdu.write_cases widths, fun a => ?_, fun frame => ?_⟩
  · rcases Apdu.write_cases widths a with hrefused | ⟨octets, hencode, hwrite⟩
    · exact .inl hrefused
    · refine .inr ⟨octets, hencode, hwrite, fun hassembled => ?_⟩
      exact Apdu.counted_of_encode hencode fun asdu h => (hassembled asdu h).wellFormed
  · rcases LinkFrame.write_cases addressLength frame with hrefused | ⟨octets, hencode, hwrite⟩
    · exact .inl hrefused
    · exact .inr ⟨octets, hencode, hwrite, LinkFrame.liesAs_of_encode hencode,
        LinkFrame.reads_of_encode hencode⟩

/-- Two totals in an I-frame, behind an octet that is in the buffer already. -/
theorem whole_or_nothing_totals :
    Asdu.totals.Assembled Asdu.SameStructure ∧
      ∃ octets, ((Apdu.iFrame 3 5 Asdu.totals).write .network).on [0xaa] =
        (.ok (), [0xaa] ++ octets) ∧ Apdu.Counted octets := by
  refine ⟨Asdu.assembled_totals, ?_⟩
  rcases (whole_or_nothing .network 1).2.1 (.iFrame 3 5 Asdu.totals) with
    ⟨f, hencode, -⟩ | ⟨octets, -, hwrite, hcounted⟩
  · exact nomatch (Eq.trans (show _ = Except.ok _ from rfl) hencode)
  · refine ⟨octets, hwrite [0xaa], hcounted ?_⟩
    rintro asdu ⟨⟩
    exact Asdu.assembled_totals

end Writer

end Telecontrol
