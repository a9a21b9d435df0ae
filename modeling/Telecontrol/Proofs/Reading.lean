import Telecontrol.Fault
import Telecontrol.Proofs.Fallible

/-!
# Reading from a buffer

A field is taken from the front of a buffer, and the octets behind it stay. Taking octets that are
not there is no fault of the sender: a reader has to look at what remains before it takes a field,
and a reader that `Reads` a string never comes that far, whatever stands behind the string.
-/

namespace Telecontrol

/-- Why a reader comes to no value: it refuses what it finds, or it has taken too much. -/
inductive ReadFailure
  | refused (f : Fault)
  | exhausted
deriving DecidableEq, Repr

/-- A computation that empties a buffer from its front and can be refused on its way. -/
abbrev Reader (α : Type) := ExceptT ReadFailure (StateM Octets) α

namespace Reader

variable {α β : Type} {r : Reader α} {g : α → Reader β} {a : α} {b : β}
variable {octets octets' : Octets}

/-- What comes of a reader, and what the buffer holds afterwards. -/
def on (r : Reader α) (buffer : Octets) : Except ReadFailure α × Octets :=
  (ExceptT.run r).run buffer

/-- The number of octets in the buffer. -/
def remaining : Reader Nat := ExceptT.mk fun buffer => (.ok buffer.length, buffer)

def refuse (f : Fault) : Reader α := throw (.refused f)

/-- Takes a number of octets from the front. -/
def take (count : Nat) : Reader (Vector UInt8 count) :=
  ExceptT.mk fun buffer =>
    if h : count ≤ buffer.length then
      (.ok ⟨(buffer.take count).toArray, List.length_take_of_le h⟩, buffer.drop count)
    else (.error .exhausted, buffer)

@[simp] lemma on_pure (a : α) (buffer : Octets) : (pure a : Reader α).on buffer = (.ok a, buffer) :=
  rfl

@[simp] lemma on_refuse (f : Fault) (buffer : Octets) :
    (refuse f : Reader α).on buffer = (.error (.refused f), buffer) := rfl

lemma on_remaining (buffer : Octets) : remaining.on buffer = (.ok buffer.length, buffer) := rfl

lemma on_take {count : Nat} {buffer : Octets} (h : count ≤ buffer.length) :
    (take count).on buffer =
      (.ok ⟨(buffer.take count).toArray, List.length_take_of_le h⟩, buffer.drop count) :=
  dif_pos h

lemma on_bind (r : Reader α) (g : α → Reader β) (buffer : Octets) :
    (r >>= g).on buffer = StateT.run (ExceptT.bindCont g (r.on buffer).1) (r.on buffer).2 := rfl

lemma on_bind_of_ok {buffer left : Octets} (h : r.on buffer = (.ok a, left)) :
    (r >>= g).on buffer = (g a).on left := by
  rw [on_bind, h]
  rfl

lemma on_bind_of_error {failure : ReadFailure} {buffer left : Octets}
    (h : r.on buffer = (.error failure, left)) : (r >>= g).on buffer = (.error failure, left) := by
  rw [on_bind, h]
  rfl

/-- Exactly these octets are taken, whatever stands behind them. -/
def Reads (r : Reader α) (octets : Octets) (result : α) : Prop :=
  ∀ rest, r.on (octets ++ rest) = (.ok result, rest)

lemma reads_pure (a : α) : (pure a : Reader α).Reads [] a := fun rest => on_pure a rest

lemma reads_take {count : Nat} (h : octets.length = count) :
    (take count).Reads octets ⟨octets.toArray, h⟩ := by
  subst h
  intro rest
  rw [on_take (by simp), List.drop_left]
  simp only [List.take_left]

lemma Reads.bind (hr : r.Reads octets a) (hg : (g a).Reads octets' b) :
    (r >>= g).Reads (octets ++ octets') b := by
  intro rest
  rw [List.append_assoc, on_bind_of_ok (hr _), hg]

lemma Reads.yield (hr : r.Reads octets a) (form : α → β) :
    Reads (do return form (← r)) octets (form a) := by
  rw [← List.append_nil octets]
  exact hr.bind (reads_pure (form a))

end Reader

end Telecontrol
