import Telecontrol.Proofs.Asdu.RoundTrip

/-!
# Writing ASDUs

An ASDU is written or refused as a whole. It is refused, as a fault of the application, if its
addresses do not fit their fields or its common address is 0. What an application assembles with at
least one row per object is read back, and what was read is written octet by octet as it was.
-/

namespace Telecontrol

namespace InformationObject

variable {widths : FieldWidths} {o : InformationObject}

lemma address_le_lastAddress (o : InformationObject) : o.address ≤ o.lastAddress :=
  Nat.le_add_right _ _

lemma checkAddresses_eq_ok_iff :
    o.checkAddresses widths = .ok () ↔ o.lastAddress ≤ widths.maxObjectAddress := by
  have hfirst := o.address_le_lastAddress
  rw [checkAddresses, ite_error_eq_ok_iff]
  simp only [and_true]
  omega

lemma checkAddresses_eq_error {f : Fault} (h : o.checkAddresses widths = .error f) :
    ∃ cause, f = .domain cause := by
  unfold checkAddresses at h
  split at h
  · exact ⟨_, (Except.error.inj h).symm⟩
  · exact nomatch h

end InformationObject

namespace Asdu

variable {widths : FieldWidths} {octets data : Octets} {a : Asdu} {f : Fault}

lemma validate_eq_ok_iff :
    a.validate widths = .ok () ↔
      a.header.Fits widths ∧ a.header.commonAddress ≠ 0 ∧
        ∀ o ∈ a.objects, o.lastAddress ≤ widths.maxObjectAddress := by
  simp only [validate, ite_error_eq_ok_iff, forM_eq_ok_iff,
    InformationObject.checkAddresses_eq_ok_iff, Nat.not_lt, not_and, Decidable.not_not]
  constructor
  · rintro ⟨horiginator, hnonzero, hcommon, hobjects⟩
    exact ⟨⟨horiginator, hcommon⟩, hnonzero, hobjects⟩
  · rintro ⟨⟨horiginator, hcommon⟩, hnonzero, hobjects⟩
    exact ⟨horiginator, hnonzero, hcommon, hobjects⟩

lemma validate_eq_error (h : a.validate widths = .error f) : ∃ cause, f = .domain cause := by
  unfold validate at h
  split at h
  · exact ⟨_, (Except.error.inj h).symm⟩
  · split at h
    · exact ⟨_, (Except.error.inj h).symm⟩
    · split at h
      · exact ⟨_, (Except.error.inj h).symm⟩
      · obtain ⟨o, -, ho⟩ := forM_eq_error h
        exact InformationObject.checkAddresses_eq_error ho

lemma encode_eq_ok_iff :
    a.encode widths = .ok octets ↔ a.validate widths = .ok () ∧ octets = a.octets widths := by
  rw [encode, bind_eq_ok_iff, eq_comm (a := octets)]
  exact ⟨fun ⟨(), hvalid, h⟩ => ⟨hvalid, Except.ok.inj h⟩,
    fun ⟨hvalid, h⟩ => ⟨(), hvalid, congrArg Except.ok h⟩⟩

lemma append_of_validate (h : a.validate widths = .ok ()) (buffer : Octets) :
    a.append widths buffer = (.ok (a.writtenLength widths), buffer ++ a.octets widths) := by
  rw [append, encode_eq_ok_iff.2 ⟨h, rfl⟩]

lemma append_of_refused (h : a.validate widths ≠ .ok ()) (buffer : Octets) :
    ∃ cause, a.append widths buffer = (.error (.domain cause), buffer) := by
  cases hvalidate : a.validate widths with
  | ok _ => exact absurd hvalidate h
  | error f =>
    obtain ⟨cause, rfl⟩ := validate_eq_error hvalidate
    exact ⟨cause, by simp [append, encode, hvalidate]⟩

lemma WellFormed.readable (h : a.WellFormed) (hrows : ∀ o ∈ a.objects, o.rows ≠ [])
    (hvalid : a.validate widths = .ok ()) : a.Readable widths := by
  obtain ⟨hheader, -, haddresses⟩ := validate_eq_ok_iff.1 hvalid
  exact
    { toWellFormed := h
      header := hheader
      addresses := fun o ho => Nat.le_trans o.address_le_lastAddress (haddresses o ho)
      rows := hrows }

lemma WellFormed.faithful (h : a.WellFormed) (hrows : ∀ o ∈ a.objects, o.rows ≠ []) :
    a.Faithful widths := by
  intro octets hencode
  obtain ⟨hvalid, rfl⟩ := encode_eq_ok_iff.1 hencode
  exact decode_eq_ok_iff.2 ⟨h.readable hrows hvalid, rfl⟩

/-- An ASDU that an application can make is read back, if every object has a row. -/
theorem append_then_decode (h : a.Assembled SameStructure) (hrows : ∀ o ∈ a.objects, o.rows ≠ [])
    (hvalid : a.validate widths = .ok ()) (buffer : Octets) :
    ∃ octets, a.append widths buffer = (.ok (a.encodedLength widths), buffer ++ octets) ∧
      octets.length = a.encodedLength widths ∧ decode widths octets = .ok a := by
  have hwell := h.wellFormed
  have hlength := hwell.writtenLength widths
  refine ⟨a.octets widths, ?_, ?_, decode_eq_ok_iff.2 ⟨hwell.readable hrows hvalid, rfl⟩⟩
  · rw [append_of_validate hvalid, hlength]
  · rw [length_octets, hlength]

/-- Two totals with time tags. The last row has the largest address. -/
def total : InformationObject where
  address := 0xfffffe
  rows :=
    [[.counter ⟨-2, 0xff⟩, .time56 ⟨60000, 0xff, 0x60, 0x5f, 0xf1, 99⟩],
      [.counter ⟨5, 0x20⟩, .time56 ⟨0, 1, 2, 3, 4, 5⟩]]

def totals : Asdu where
  header :=
    { type := .integratedTotalsTime56, sequence := true, cause := .requestedByGroupCounter 1,
      test := true, negative := true, originator := 7, commonAddress := 300 }
  objects := [total]

/-- The flags are set after the sequence has been begun, before it gets its object. -/
lemma assembled_totals : totals.Assembled SameStructure := by
  have hbegun : Assembled SameStructure { totals with objects := [] } :=
    .assign (.emptySequence .integratedTotalsTime56 (.requestedByGroupCounter 1) 300) ⟨rfl, rfl⟩
  have hpush : Asdu.push { totals with objects := [] } total = .ok totals := rfl
  exact .push hbegun hpush

theorem append_then_decode_totals :
    ∃ octets, totals.append .network [0xaa] =
        (.ok (totals.encodedLength .network), [0xaa] ++ octets) ∧
      octets.length = totals.encodedLength .network ∧ decode .network octets = .ok totals :=
  append_then_decode assembled_totals (by decide) (by rfl) [0xaa]

/-- What was read is written as it was, unless it is refused: its common address is 0, or the address
of a last row does not fit its field. -/
theorem append_of_decode (h : decode widths data = .ok a) (buffer : Octets) :
    (a.header.commonAddress ≠ 0 ∧ (∀ o ∈ a.objects, o.lastAddress ≤ widths.maxObjectAddress) →
        a.append widths buffer = (.ok data.length, buffer ++ data)) ∧
      (¬(a.header.commonAddress ≠ 0 ∧ ∀ o ∈ a.objects, o.lastAddress ≤ widths.maxObjectAddress) →
        ∃ cause, a.append widths buffer = (.error (.domain cause), buffer)) := by
  obtain ⟨hreadable, rfl⟩ := decode_eq_ok_iff.1 h
  -- What was read has a header that fits, so that these two checks are all that can fail.
  have hvalidate : a.validate widths = .ok () ↔
      a.header.commonAddress ≠ 0 ∧ ∀ o ∈ a.objects, o.lastAddress ≤ widths.maxObjectAddress := by
    rw [validate_eq_ok_iff, and_iff_right hreadable.header]
  rw [← hvalidate, length_octets]
  exact ⟨fun hvalid => append_of_validate hvalid buffer,
    fun hrefused => append_of_refused hrefused buffer⟩

/-- Not a number, with a quality octet whose reserved bits are set. -/
def notANumber : Asdu where
  header :=
    { type := .measuredFloat, cause := .spontaneous, test := true, negative := true,
      commonAddress := 1 }
  objects := [⟨5, [[.float ⟨0x7fc1ffff⟩, .quality ⟨0xfe⟩]]⟩]

/-- Two points, the second one behind the largest address. -/
def overrun : Asdu where
  header := { type := .singlePoint, sequence := true, cause := .spontaneous, commonAddress := 1 }
  objects := [⟨0xffff, [[.singlePoint ⟨0⟩], [.singlePoint ⟨1⟩]]⟩]

theorem append_of_decode_serial :
    (decode .serial [13, 1, 0xc3, 1, 5, 0, 0xff, 0xff, 0xc1, 0x7f, 0xfe] = .ok notANumber ∧
      notANumber.append .serial [0xaa] =
        (.ok 11, [0xaa, 13, 1, 0xc3, 1, 5, 0, 0xff, 0xff, 0xc1, 0x7f, 0xfe])) ∧
      decode .serial [1, 0x82, 3, 1, 0xff, 0xff, 0, 1] = .ok overrun ∧
        ∃ cause, overrun.append .serial [0xaa] = (.error (.domain cause), [0xaa]) := by
  have hnumber : decode .serial [13, 1, 0xc3, 1, 5, 0, 0xff, 0xff, 0xc1, 0x7f, 0xfe] =
      .ok notANumber := rfl
  have hoverrun : decode .serial [1, 0x82, 3, 1, 0xff, 0xff, 0, 1] = .ok overrun := rfl
  exact ⟨⟨hnumber, (append_of_decode hnumber [0xaa]).1 (by decide)⟩, hoverrun,
    (append_of_decode hoverrun [0xaa]).2 (by decide)⟩

end Asdu

end Telecontrol
