import Telecontrol.Proofs.Connection.Turns
import Telecontrol.Proofs.Apci.RoundTrip

/-!
# Whether the peer can read what may be sent

A connection lets an ASDU pass if its addresses fit and it is not too long. This does not make sure
that the peer reads it: the objects have to be what the header announces, and an object without rows
is written with its address, which a reader does not expect behind a count of 0. For an application
that leaves type and sequence flag alone, such an object is all that can go wrong, and it costs the
connection.
-/

namespace Telecontrol

namespace Asdu

variable {widths : FieldWidths} {a : Asdu} {o : InformationObject}

/-- An object without rows is the only one, and stands in a sequence. Its address is left over. -/
lemma WellFormed.decode_hollow (h : a.WellFormed) (hvalid : a.validate widths = .ok ())
    (ho : o ∈ a.objects) (hrows : o.rows = []) :
    decode widths (a.octets widths) =
      .error (.invalidAsdu (.trailing widths.objectAddress 0 a.header.type)) := by
  have hsequence : a.header.sequence = true := by
    cases hkind : a.header.sequence with
    | true => rfl
    | false =>
      have hone := h.single hkind o ho
      rw [hrows] at hone
      exact nomatch hone
  have hobjects : a.objects = [o] := by
    obtain ⟨o', heq⟩ :=
      List.length_eq_one_iff.1 (Nat.le_antisymm (h.sequence hsequence) (List.length_pos_of_mem ho))
    rw [heq] at ho ⊢
    rw [List.mem_singleton.1 ho]
  have hcount : a.rowCount = 0 := by
    rw [rowCount, hobjects]
    simp [hrows]
  have hfits := (validate_eq_ok_iff.1 hvalid).1
  have hheader : AsduHeader.decode widths (a.octets widths) =
      .ok (a.header, 0, Octets.littleEndian widths.objectAddress o.address) := by
    refine AsduHeader.decode_eq_ok_iff.2 ⟨hfits, Nat.zero_le _, ?_⟩
    rw [octets, hcount, hobjects]
    simp [InformationObject.encode, hrows]
  have hleft : Octets.littleEndian widths.objectAddress o.address ≠ [] := by
    have hpos := widths.objectAddress_range
    rw [← List.length_pos_iff, Octets.length_littleEndian]
    omega
  simp [decode, hheader, InformationObject.decodeAll, InformationObject.decodeSequence, hsequence,
    hleft]

end Asdu

namespace Connection

variable {c : Connection} {a : Asdu}

/-- What may be sent is encoded. The peer reads it as what it is if and only if the objects are those
that the header announces and none is without rows. If type and sequence flag have not been assigned
to, it finds a fault otherwise. -/
theorem reads_sendable_iff (h : checkSendable a c = .ok ()) (send receive : Nat) :
    ∃ octets, (Apdu.iFrame send receive a).encode c.widths = .ok octets ∧
      ((Apdu.reader c.widths).Reads octets
          (Apdu.iFrame (send % sequenceModulus) (receive % sequenceModulus) a) ↔
        a.WellFormed ∧ ∀ o ∈ a.objects, o.rows ≠ []) ∧
      (a.Assembled Asdu.SameStructure → (∃ o ∈ a.objects, o.rows = []) → ∀ rest,
        (Apdu.reader c.widths).next (octets ++ rest) =
          some (.error (.invalidAsdu (.trailing c.widths.objectAddress 0 a.header.type)), rest)) := by
  obtain ⟨-, hencode⟩ := encode_of_checkSendable h
  obtain ⟨octets, hoctets⟩ := hencode send receive
  obtain ⟨hshort, hvalid, -⟩ := Apdu.encode_iFrame_eq_ok_iff.1 hoctets
  refine ⟨octets, hoctets, ⟨fun hreads => ?_, fun ⟨hwell, hrows⟩ rest => ?_⟩,
    fun hmade ⟨o, ho, hrows⟩ rest => ?_⟩
  · obtain ⟨payload, hpayload⟩ := Apdu.exists_decode_of_next (hreads []) rfl
    have hreadable := (Asdu.decode_eq_ok_iff.1 hpayload).1
    exact ⟨hreadable.toWellFormed, hreadable.rows⟩
  · have hdecode := Asdu.decode_eq_ok_iff.2 ⟨hwell.readable hrows hvalid, rfl⟩
    have hfound := Apdu.next_of_encode hoctets (hwell.writtenLength c.widths) rest
    rw [hdecode] at hfound
    exact hfound
  · have hwell := hmade.wellFormed
    have hfound := Apdu.next_of_encode hoctets (hwell.writtenLength c.widths) rest
    rw [hwell.decode_hollow hvalid ho hrows] at hfound
    exact hfound

/-- Data transfer is going on. -/
def transferring : Connection where
  role := .controlling
  widths := .network
  apci := {}
  state := .active
  send := { k := 12 }
  receive := { w := 8 }
  handshake := none
  receiptDue := none
  testDue := some 20000
  testDeadline := none

/-- Two points, the second of them invalid. -/
def points : Asdu where
  header := { type := .singlePoint, cause := .spontaneous, commonAddress := 1 }
  objects := [⟨4, [[.singlePoint ⟨1⟩]]⟩, ⟨9, [[.singlePoint ⟨0x80⟩]]⟩]

lemma assembled_points {assignable : AsduHeader → AsduHeader → Prop} :
    points.Assembled assignable := by
  have hone : Asdu.push (.empty .singlePoint .spontaneous 1) ⟨4, [[.singlePoint ⟨1⟩]]⟩ =
      .ok { points with objects := [⟨4, [[.singlePoint ⟨1⟩]]⟩] } := rfl
  have hboth : Asdu.push { points with objects := [⟨4, [[.singlePoint ⟨1⟩]]⟩] }
      ⟨9, [[.singlePoint ⟨0x80⟩]]⟩ = .ok points := rfl
  exact .push (.push (.empty ..) hone) hboth

theorem reads_sendable_points :
    ∃ octets, (Apdu.iFrame 40000 7 points).encode .network = .ok octets ∧
      (Apdu.reader .network).Reads octets (Apdu.iFrame 7232 7 points) := by
  have hsendable : checkSendable points transferring = .ok () := rfl
  have hmade : points.Assembled Asdu.SameStructure := assembled_points
  obtain ⟨octets, hoctets, hreads, -⟩ := reads_sendable_iff hsendable 40000 7
  exact ⟨octets, hoctets, hreads.2 ⟨hmade.wellFormed, by decide⟩⟩

/-- A sequence of nothing. -/
def hollow : Asdu where
  header := { type := .singlePoint, sequence := true, cause := .spontaneous, commonAddress := 1 }
  objects := [⟨4, []⟩]

/-- The two points, made a sequence after they have been added. -/
def relabelled : Asdu := { points with header := { points.header with sequence := true } }

/-- The sequence that the peer makes of them. The second element is part of an address. -/
def misread : Asdu := { relabelled with objects := [⟨4, [[.singlePoint ⟨1⟩], [.singlePoint ⟨9⟩]]⟩] }

/-- A sequence without rows may be sent, and the peer finds a fault. Objects that have become a
sequence may be sent, and the peer reads something else and does not get to the end of them. -/
theorem sendable_unreadable :
    (hollow.Assembled Asdu.SameStructure ∧ checkSendable hollow transferring = .ok () ∧
      ∃ octets, (Apdu.iFrame 0 0 hollow).encode .network = .ok octets ∧
        (Apdu.reader .network).next octets =
          some (.error (.invalidAsdu (.trailing 3 0 .singlePoint)), [])) ∧
      relabelled.Assembled (fun _ _ => True) ∧ checkSendable relabelled transferring = .ok () ∧
        ∃ octets, (Apdu.iFrame 0 0 relabelled).encode .network = .ok octets ∧
          (Apdu.reader .network).next octets =
            some (.ok (Apdu.iFrame 0 0 misread), [0, 0, 0x80]) ∧ misread ≠ relabelled := by
  have hpush : Asdu.push (.emptySequence .singlePoint .spontaneous 1) ⟨4, []⟩ = .ok hollow := rfl
  refine ⟨⟨.push (.emptySequence ..) hpush, rfl, _, rfl, rfl⟩, ?_, rfl, _, rfl, rfl, by decide⟩
  exact .assign assembled_points trivial

end Connection

end Telecontrol
