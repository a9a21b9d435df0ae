import Telecontrol.Proofs.Ft12.RoundTrip
import Telecontrol.Proofs.Stream

/-!
# Link frames among noise

A receiver of a serial line passes over octets that cannot begin a frame, one fault for each, and
reads every frame between them, even if its user data holds octets that begin or end a frame.
-/

namespace Telecontrol

namespace LinkFrame

variable {addressLength : Nat} {f : LinkFrame}

/-- The address fits its field, and the user data the longest frame. -/
def Fits (addressLength : Nat) : LinkFrame → Prop
  | fixed _ address => address ≤ maxLinkAddress addressLength
  | userData _ address asdu =>
    address ≤ maxLinkAddress addressLength ∧ asdu.length ≤ maxAsduLength addressLength
  | singleAck | singleNack => True

lemma Fits.exists_encode (haddress : addressLength ≤ 2) (h : f.Fits addressLength) :
    ∃ octets, f.encode addressLength = .ok octets := by
  cases f with
  | fixed control address => exact encode_fixed control h
  | userData control address asdu =>
    obtain ⟨hfits, hshort⟩ := h
    apply encode_userData control hfits
    unfold maxAsduLength maxLength at hshort
    unfold maxLength
    omega
  | singleAck | singleNack => exact ⟨_, rfl⟩

/-- What comes over a serial line: a frame, or an octet that belongs to none. -/
inductive Signal
  | frame (f : LinkFrame)
  | noise (octet : UInt8)
deriving DecidableEq, Repr

namespace Signal

/-- Frames can be written, and noise does not look like the beginning of a frame. -/
def Regular (addressLength : Nat) : Signal → Prop
  | frame f => f.Fits addressLength
  | noise octet => octet ∉ [fixedStart, variableStart, ackByte, nackByte]

def write (addressLength : Nat) : Signal → Except Fault Octets
  | frame f => f.encode addressLength
  | noise octet => .ok [octet]

/-- What a receiver shall make of a signal. -/
def reading : Signal → Except Fault LinkFrame
  | frame f => .ok f
  | noise octet => .error (.framing (.startByte octet))

lemma Regular.finds {signal : Signal} (haddress : addressLength ≤ 2)
    (h : signal.Regular addressLength) :
    ∃ octets, signal.write addressLength = .ok octets ∧
      (reader addressLength).Finds octets signal.reading := by
  cases signal with
  | frame f =>
    obtain ⟨octets, hencode⟩ := Fits.exists_encode haddress h
    exact ⟨octets, hencode, (reads_of_encode hencode).finds⟩
  | noise octet =>
    refine ⟨[octet], rfl, ?_⟩
    intro rest
    obtain ⟨hfixed, hvariable, hack, hnack⟩ : octet ≠ fixedStart ∧ octet ≠ variableStart ∧
        octet ≠ ackByte ∧ octet ≠ nackByte := by simpa [Regular] using h
    simp [reader, next, reading, hfixed, hvariable, hack, hnack]

end Signal

/-- Every frame is read and every octet of noise is a fault of its own, in the order in which they
come, and nothing is left over, wherever the stream is cut. -/
theorem receive_signals (haddress : checkAddressLength addressLength = .ok ())
    {signals : List Signal} (h : ∀ signal ∈ signals, signal.Regular addressLength) :
    ∃ parts, signals.mapM (Signal.write addressLength) = .ok parts ∧
      ∀ pieces : List Octets, pieces.flatten = parts.flatten →
        (reader addressLength).receive [] pieces = (signals.map Signal.reading, []) := by
  have hwidth := checkAddressLength_eq_ok_iff.1 haddress
  apply FrameReader.receive_written (reader_stable addressLength)
  intro signal hsignal
  exact (h signal hsignal).finds hwidth

/-- User data that looks like the ends of frames, a single character and a fixed frame, with an end
octet and a zero as noise. -/
def clatter : List Signal :=
  [.noise 0x16,
    .frame (.userData (.primary .userDataConfirmed true true) 0x1234 [0x10, 0x68, 0x16, 0xe5]),
    .noise 0, .frame .singleNack, .frame (.fixed (.secondary .respNackNoData true false) 0xffff)]

/-- One cut goes through a header, one through the user data and one through the address. -/
theorem receive_signals_clatter :
    checkAddressLength 2 = .ok () ∧ (∀ signal ∈ clatter, signal.Regular 2) ∧
      (reader 2).receive []
          [[0x16, 0x68, 7], [7, 0x68, 0x73, 0x34, 0x12, 0x10, 0x68], [0x16, 0xe5, 0x2c], [],
            [0x16, 0, 0xa2, 0x10, 0x29, 0xff], [0xff, 0x27, 0x16]] =
        (clatter.map Signal.reading, []) := by
  have hwidth : checkAddressLength 2 = .ok () := rfl
  have hregular : ∀ signal ∈ clatter, signal.Regular 2 := by
    simp [clatter, Signal.Regular, Fits, maxLinkAddress, maxAsduLength, maxLength, fixedStart,
      variableStart, ackByte, nackByte]
  obtain ⟨parts, hparts, hread⟩ := receive_signals hwidth hregular
  obtain rfl := Except.ok.inj hparts
  exact ⟨hwidth, hregular, hread _ rfl⟩

end LinkFrame

end Telecontrol
