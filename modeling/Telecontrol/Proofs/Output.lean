import Telecontrol.Proofs.Fallible
import Telecontrol.Turn

/-!
# What a turn puts out

The frames and octets that a turn writes and the ASDUs that it hands to the application, each in
order.
-/

namespace Telecontrol

namespace Output

variable {φ : Type}

def frame? : Output φ → Option φ
  | wrote frame _ => some frame
  | _ => none

def octets : Output φ → Octets
  | wrote _ octets => octets
  | _ => []

def asdu? : Output φ → Option Asdu
  | reported (.asduReceived asdu) => some asdu
  | _ => none

/-- The event that an output reports. -/
def event? : Output φ → Option Event
  | reported event => some event
  | _ => none

end Output

namespace Turn

variable {σ φ : Type} {t : Turn σ φ} {next : σ → Turn σ φ}

def frames (t : Turn σ φ) : List φ := t.output.filterMap Output.frame?

def octets (t : Turn σ φ) : Octets := t.output.flatMap Output.octets

def asdus (t : Turn σ φ) : List Asdu := t.output.filterMap Output.asdu?

lemma write_sound {m : Moment} {frame : φ} {octets : Octets} (s : σ) (hm : m.writeFault = none) :
    write m frame (.ok octets) s = ⟨s, [.wrote frame octets], none⟩ := by
  simp [write, Moment.transmit, hm, bind, Except.bind, pure, Except.pure]

lemma write_broken {m : Moment} {frame : φ} {octets : Octets} {text : String} (s : σ)
    (hm : m.writeFault = some text) : write m frame (.ok octets) s = fail (.io text) s := by
  simp [write, Moment.transmit, hm, bind, Except.bind, throw, throwThe, MonadExceptOf.throw,
    CloseReason.ofFault]

lemma andThen_of_ending {reason : CloseReason} (h : t.ending = some reason) :
    t.andThen next = t := by
  simp only [andThen, h]

lemma andThen_of_none (h : t.ending = none) :
    t.andThen next =
      ⟨(next t.state).state, t.output ++ (next t.state).output, (next t.state).ending⟩ := by
  simp only [andThen, h]

lemma ending_of_andThen (h : (t.andThen next).ending = none) :
    t.ending = none ∧ (next t.state).ending = none := by
  cases ht : t.ending with
  | none => exact ⟨rfl, by rwa [andThen_of_none ht] at h⟩
  | some reason =>
    rw [andThen_of_ending ht, ht] at h
    exact nomatch h

lemma write_cases (m : Moment) (frame : φ) (encoded : Except Fault Octets) (s : σ) :
    (∃ octets, encoded = .ok octets ∧ m.writeFault = none ∧
        write m frame encoded s = ⟨s, [.wrote frame octets], none⟩) ∨
      ∃ fault, write m frame encoded s = fail (.ofFault fault) s := by
  unfold write
  cases h : m.transmit encoded with
  | error fault => exact .inr ⟨fault, rfl⟩
  | ok octets =>
    left
    obtain ⟨octets', hencoded, htransmit⟩ := bind_eq_ok h
    cases hfault : m.writeFault with
    | some text => simp [hfault] at htransmit
    | none =>
      rw [hfault] at htransmit
      obtain rfl : octets' = octets := by simpa [pure, Except.pure] using htransmit
      exact ⟨octets', hencoded, rfl, rfl⟩

end Turn

end Telecontrol
