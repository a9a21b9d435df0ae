import Telecontrol.Fault
import Telecontrol.Proofs.Fallible

/-!
# Writing into a buffer

A frame is put into a buffer piece by piece, behind what stands there already. What was put before a
fault stays, so that a writer which checks too late leaves a part of a frame behind. A writer that
keeps to the rule `Refuses` or `Writes` on every buffer, and both rules are passed on from the steps
of a writer to the whole.
-/

namespace Telecontrol

/-- A computation that fills a buffer and can be refused on its way. -/
abbrev Writer (α : Type) := ExceptT Fault (StateM Octets) α

namespace Writer

variable {α β : Type} {w : Writer α} {g : α → Writer β} {a : α} {b : β} {f : Fault}
variable {octets octets' : Octets}

/-- What comes of a writer, and what the buffer holds afterwards. -/
def on (w : Writer α) (buffer : Octets) : Except Fault α × Octets := (ExceptT.run w).run buffer

/-- Puts octets behind the contents of the buffer. -/
def put (octets : Octets) : Writer Unit := modify (· ++ octets)

/-- A check that does not look at the buffer. -/
def require (result : Except Fault α) : Writer α := ExceptT.mk (pure result)

/-- Fills a buffer of its own, which is empty at first. -/
def aside (w : Writer α) : Writer Octets :=
  ExceptT.mk fun buffer => ((w.on []).1.map fun _ => (w.on []).2, buffer)

@[simp] lemma on_pure (a : α) (buffer : Octets) :
    (pure a : Writer α).on buffer = (.ok a, buffer) := rfl

@[simp] lemma on_throw (f : Fault) (buffer : Octets) :
    (throw f : Writer α).on buffer = (.error f, buffer) := rfl

@[simp] lemma on_put (octets buffer : Octets) : (put octets).on buffer = (.ok (), buffer ++ octets) :=
  rfl

@[simp] lemma on_get (buffer : Octets) : (get : Writer Octets).on buffer = (.ok buffer, buffer) := rfl

@[simp] lemma on_require (result : Except Fault α) (buffer : Octets) :
    (require result).on buffer = (result, buffer) := rfl

lemma on_aside (w : Writer α) (buffer : Octets) :
    w.aside.on buffer = ((w.on []).1.map fun _ => (w.on []).2, buffer) := rfl

lemma on_bind (w : Writer α) (g : α → Writer β) (buffer : Octets) :
    (w >>= g).on buffer =
      match w.on buffer with
      | (.ok a, filled) => (g a).on filled
      | (.error f, filled) => (.error f, filled) := by
  change (ExceptT.run w >>= ExceptT.bindCont g).run buffer = _
  rw [StateT.run_bind]
  change StateT.run (ExceptT.bindCont g (w.on buffer).1) (w.on buffer).2 = _
  cases w.on buffer with
  | mk result filled => cases result <;> rfl

lemma on_bind_of_ok {buffer filled : Octets} (h : w.on buffer = (.ok a, filled)) :
    (w >>= g).on buffer = (g a).on filled := by
  rw [on_bind, h]

lemma on_bind_of_error {buffer filled : Octets} (h : w.on buffer = (.error f, filled)) :
    (w >>= g).on buffer = (.error f, filled) := by
  rw [on_bind, h]

/-- Every buffer is left as it was. -/
def Refuses (w : Writer α) (f : Fault) : Prop := ∀ buffer, w.on buffer = (.error f, buffer)

/-- Every buffer gets the same octets behind its contents. -/
def Writes (w : Writer α) (result : α) (octets : Octets) : Prop :=
  ∀ buffer, w.on buffer = (.ok result, buffer ++ octets)

lemma writes_pure (a : α) : (pure a : Writer α).Writes a [] := by
  intro buffer
  rw [on_pure, List.append_nil]

lemma writes_put (octets : Octets) : (put octets).Writes () octets := on_put octets

lemma writes_require (a : α) : (require (.ok a)).Writes a [] := writes_pure a

lemma refuses_require (f : Fault) : (require (.error f) : Writer α).Refuses f := on_require _

lemma refuses_throw (f : Fault) : (throw f : Writer α).Refuses f := on_throw f

lemma Writes.bind (hw : w.Writes a octets) (hg : (g a).Writes b octets') :
    (w >>= g).Writes b (octets ++ octets') := by
  intro buffer
  rw [on_bind_of_ok (hw buffer), hg, List.append_assoc]

lemma Refuses.bind (h : w.Refuses f) (g : α → Writer β) : (w >>= g).Refuses f :=
  fun buffer => on_bind_of_error (h buffer)

lemma Writes.bind_refuses (hw : w.Writes a []) (hg : (g a).Refuses f) : (w >>= g).Refuses f := by
  intro buffer
  rw [on_bind_of_ok (hw buffer), List.append_nil, hg]

lemma Writes.tally {w : Writer Nat} {count : Nat} (hw : w.Writes count octets) (before : Nat) :
    Writes (do return before + (← w)) (before + count) octets := by
  rw [← List.append_nil octets]
  exact hw.bind (writes_pure (before + count))

lemma Writes.aside (h : w.Writes a octets) : w.aside.Writes octets [] := by
  intro buffer
  rw [on_aside, h, List.nil_append, List.append_nil]
  rfl

lemma Refuses.aside (h : w.Refuses f) : w.aside.Refuses f := by
  intro buffer
  rw [on_aside, h]
  rfl

end Writer

end Telecontrol
