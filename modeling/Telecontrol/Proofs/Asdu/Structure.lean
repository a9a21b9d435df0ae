import Telecontrol.Asdu.Basic
import Telecontrol.Proofs.Fallible

/-!
# The structure of ASDUs

What `Asdu.push` keeps: every row has the layout of the type, the rows stand in a single object or
in objects of one row each as the sequence flag says, and they can be counted. An application that
leaves type and sequence flag alone only ever has such ASDUs.
-/

namespace Telecontrol

namespace InformationObject

variable {address index : Nat} {layout : List ElementKind} {rows : List Row} {o : InformationObject}

/-- Every row consists of elements of the given kinds. -/
def HasLayout (o : InformationObject) (layout : List ElementKind) : Prop :=
  ∀ row ∈ o.rows, row.map Element.kind = layout

lemma checkRows_eq_ok_iff :
    checkRows address layout index rows = .ok () ↔
      ∀ row ∈ rows, row.map Element.kind = layout := by
  induction rows generalizing index with
  | nil => simp [checkRows]
  | cons row rows ih =>
    rw [checkRows, List.forall_mem_cons]
    by_cases hshape : row.map Element.kind = layout
    · simp only [hshape, if_true, true_and]
      exact ih
    · simp [hshape]

lemma checkLayout_eq_ok_iff : o.checkLayout layout = .ok () ↔ o.HasLayout layout :=
  checkRows_eq_ok_iff

end InformationObject

namespace Asdu

variable {a b : Asdu} {o : InformationObject} {assignable : AsduHeader → AsduHeader → Prop}

/-- The objects are what the header announces. -/
structure WellFormed (a : Asdu) : Prop where
  layout : ∀ o ∈ a.objects, o.HasLayout a.header.type.layout
  sequence : a.header.sequence = true → a.objects.length ≤ 1
  single : a.header.sequence = false → ∀ o ∈ a.objects, o.rows.length = 1
  count : a.rowCount ≤ maxRows

lemma wellFormed_of_objects_eq_nil (h : a.objects = []) : a.WellFormed where
  layout := by simp [h]
  sequence := by simp [h]
  single := by simp [h]
  count := by simp [rowCount, h]

/-- There is room for an object: a sequence takes one, another ASDU any number of one row each. -/
def Admits (a : Asdu) (o : InformationObject) : Prop :=
  if a.header.sequence then a.objects = [] else o.rows.length = 1

lemma push_eq_ok_iff :
    a.push o = .ok b ↔
      o.HasLayout a.header.type.layout ∧ a.Admits o ∧ a.rowCount + o.rows.length ≤ maxRows ∧
        b = { a with objects := a.objects ++ [o] } := by
  unfold push Admits
  rw [← InformationObject.checkLayout_eq_ok_iff, ← Nat.not_lt, eq_comm (a := b)]
  cases o.checkLayout a.header.type.layout with
  | error f => simp
  | ok _ =>
    simp only [ok_bind, throw_eq_error, error_bind, pure_eq_ok]
    by_cases hsequence : a.header.sequence
    · rw [if_pos hsequence, if_pos hsequence, ite_error_eq_ok_iff, ite_error_eq_ok_iff]
      simp
    · rw [if_neg hsequence, if_neg hsequence, ite_error_eq_ok_iff, ite_error_eq_ok_iff]
      simp

lemma rowCount_append (a : Asdu) (o : InformationObject) :
    Asdu.rowCount { a with objects := a.objects ++ [o] } = a.rowCount + o.rows.length := by
  have hsum (a : Asdu) : a.rowCount = (a.objects.map (·.rows.length)).sum := by
    rw [rowCount, List.sum_eq_foldr, List.foldr_map]
  rw [hsum, hsum, List.map_append, List.sum_append, List.map_singleton, List.sum_singleton]

lemma WellFormed.push (ha : a.WellFormed) (h : a.push o = .ok b) : b.WellFormed := by
  obtain ⟨hlayout, hroom, hcount, rfl⟩ := push_eq_ok_iff.1 h
  refine ⟨?_, fun hsequence => ?_, fun hsingle => ?_, ?_⟩
  · exact List.forall_mem_append.2 ⟨ha.layout, List.forall_mem_singleton.2 hlayout⟩
  · have hsequence : a.header.sequence = true := hsequence
    rw [Admits, if_pos hsequence] at hroom
    simp [hroom]
  · have hsingle : a.header.sequence = false := hsingle
    rw [Admits, if_neg (by simp [hsingle])] at hroom
    exact List.forall_mem_append.2 ⟨ha.single hsingle, List.forall_mem_singleton.2 hroom⟩
  · rw [rowCount_append]
    exact hcount

/-- The objects that suit one header suit the other. -/
def SameStructure (h h' : AsduHeader) : Prop := h'.type = h.type ∧ h'.sequence = h.sequence

lemma WellFormed.assign {header : AsduHeader} (ha : a.WellFormed)
    (hsame : SameStructure a.header header) : WellFormed { a with header } := by
  obtain ⟨htype, hsequence⟩ := hsame
  exact ⟨by rw [htype]; exact ha.layout, by rw [hsequence]; exact ha.sequence,
    by rw [hsequence]; exact ha.single, ha.count⟩

/-- What an application can make: it begins an ASDU without objects, adds objects one after the
other, and assigns to the header in between as far as it is allowed to. -/
inductive Assembled (assignable : AsduHeader → AsduHeader → Prop) : Asdu → Prop
  | empty (type : TypeId) (cause : Cause) (commonAddress : Nat) :
    Assembled assignable (.empty type cause commonAddress)
  | emptySequence (type : TypeId) (cause : Cause) (commonAddress : Nat) :
    Assembled assignable (.emptySequence type cause commonAddress)
  | push {a b : Asdu} {o : InformationObject} :
    Assembled assignable a → a.push o = .ok b → Assembled assignable b
  | assign {a : Asdu} {header : AsduHeader} :
    Assembled assignable a → assignable a.header header → Assembled assignable { a with header }

theorem Assembled.wellFormed (h : Assembled SameStructure a) : a.WellFormed := by
  induction h with
  | empty | emptySequence => exact wellFormed_of_objects_eq_nil rfl
  | push _ hpush ih => exact ih.push hpush
  | assign _ hsame ih => exact ih.assign hsame

end Asdu

end Telecontrol
