import Telecontrol.Proofs.Apci.RoundTrip
import Telecontrol.Proofs.Stream

/-!
# APDUs in a stream

Every APDU that keeps to the limits of its fields can be written, and the peer reads a stream of
such APDUs as they were written, whatever pieces it arrives in.
-/

namespace Telecontrol

namespace Apdu

variable {widths : FieldWidths} {a : Apdu}

/-- An APDU whose numbers fit their fields, with an ASDU in I-frames that an application can make
and whose rows, addresses and length can be expressed. -/
inductive Regular (widths : FieldWidths) : Apdu → Prop
  | iFrame {send receive : Nat} {asdu : Asdu} (hsend : send < sequenceModulus)
    (hreceive : receive < sequenceModulus) (hmade : asdu.Assembled Asdu.SameStructure)
    (hrows : ∀ o ∈ asdu.objects, o.rows ≠ []) (hvalid : asdu.validate widths = .ok ())
    (hlength : asdu.encodedLength widths ≤ 249) : Regular widths (.iFrame send receive asdu)
  | sFrame {receive : Nat} (hreceive : receive < sequenceModulus) :
    Regular widths (.sFrame receive)
  | uFrame (function : UFunction) : Regular widths (.uFrame function)

lemma Regular.exists_encode (h : a.Regular widths) : ∃ octets, a.encode widths = .ok octets := by
  cases h with
  | iFrame _ _ _ _ hvalid hlength =>
    exact ⟨_, encode_iFrame_eq_ok_iff.2 ⟨hlength, hvalid, rfl⟩⟩
  | sFrame | uFrame => exact ⟨_, rfl⟩

lemma Regular.inRange (h : a.Regular widths) : a.apci.InRange := by
  cases h with
  | iFrame hsend hreceive => exact ⟨hsend, hreceive⟩
  | sFrame hreceive => exact hreceive
  | uFrame => trivial

lemma Regular.faithful (h : a.Regular widths) :
    ∀ asdu, a.asdu = some asdu → asdu.Faithful widths := by
  intro asdu hasdu
  cases h with
  | iFrame _ _ hmade hrows =>
    obtain rfl := Option.some.inj hasdu
    exact hmade.wellFormed.faithful hrows
  | sFrame | uFrame => exact nomatch hasdu

/-- A stream of written APDUs is read as these APDUs and nothing is left over, wherever it is cut. -/
theorem receive_regular {frames : List Apdu} (h : ∀ a ∈ frames, a.Regular widths) :
    ∃ parts, frames.mapM (encode widths) = .ok parts ∧
      ∀ pieces : List Octets, pieces.flatten = parts.flatten →
        (reader widths).receive [] pieces = (frames.map .ok, []) := by
  apply FrameReader.receive_written (reader_stable widths)
  intro a ha
  obtain ⟨octets, hencode⟩ := (h a ha).exists_encode
  have hreads := reads_of_encode (h a ha).inRange (h a ha).faithful hencode
  exact ⟨octets, hencode, hreads.finds⟩

/-- An APDU of each kind. Both sequence numbers of 32767 are the largest there are. -/
def burst : List Apdu := [.iFrame 32767 3 Asdu.totals, .sFrame 32767, .uFrame .startDtAct]

/-- The cuts go through a header, an ASDU and two frames. -/
theorem receive_regular_burst :
    (∀ a ∈ burst, a.Regular .network) ∧
      (reader .network).receive []
          [[0x68], [37, 0xfe, 0xff, 6, 0, 37, 0x82, 0xe7, 7, 0x2c, 1, 0xfe, 0xff, 0xff, 0xfe], [],
            [0xff, 0xff, 0xff, 0xff, 0x60, 0xea, 0xff, 0x60, 0x5f, 0xf1, 99, 5, 0, 0, 0, 0x20, 0, 0,
              1, 2, 3, 4, 5, 0x68, 4, 1, 0], [0xfe, 0xff, 0x68, 4, 7, 0, 0], [0]] =
        (burst.map .ok, []) := by
  have hregular : ∀ a ∈ burst, a.Regular .network := by
    intro a ha
    obtain rfl | rfl | rfl : a = .iFrame 32767 3 Asdu.totals ∨ a = .sFrame 32767 ∨
        a = .uFrame .startDtAct := by simpa [burst] using ha
    · exact .iFrame (by decide) (by decide) Asdu.assembled_totals (by decide) rfl (by decide)
    · exact .sFrame (by decide)
    · exact .uFrame .startDtAct
  obtain ⟨parts, hparts, hread⟩ := receive_regular hregular
  obtain rfl := Except.ok.inj hparts
  exact ⟨hregular, hread _ rfl⟩

end Apdu

end Telecontrol
