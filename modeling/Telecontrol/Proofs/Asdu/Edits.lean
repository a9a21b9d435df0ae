import Telecontrol.Proofs.Asdu.RoundTrip

/-!
# Edits of an ASDU

An application begins an ASDU and edits it: it adds objects, of which some are refused, and assigns
to the header in between. As long as it leaves type and sequence flag alone, what it has is well
formed at every moment, and an object is taken exactly if it suits what is there. What is decoded is
well formed as well.
-/

namespace Telecontrol.Asdu

/-- What an application does to an ASDU. -/
inductive Edit
  | add (o : InformationObject)
  | assign (header : AsduHeader)
deriving DecidableEq, Repr

namespace Edit

/-- An object that is refused leaves the ASDU as it is. -/
def apply (a : Asdu) : Edit → Asdu × Except Fault Unit
  | add o =>
    match a.push o with
    | .ok pushed => (pushed, .ok ())
    | .error f => (a, .error f)
  | assign header => ({ a with header }, .ok ())

/-- The ASDU after the edits, and how each of them fared. -/
def applyAll (a : Asdu) : List Edit → Asdu × List (Except Fault Unit)
  | [] => (a, [])
  | e :: edits =>
    let (after, result) := e.apply a
    let (last, results) := applyAll after edits
    (last, result :: results)

/-- An assignment leaves type and sequence flag as the given header has them. -/
def Keeps (header : AsduHeader) : Edit → Prop
  | add _ => True
  | assign header' => SameStructure header header'

end Edit

open Edit

variable {start a : Asdu} {o : InformationObject} {e : Edit} {edits earlier later : List Edit}
variable {result : Except Fault Unit}

lemma applyAll_append (a : Asdu) (earlier later : List Edit) :
    applyAll a (earlier ++ later) =
      ((applyAll (applyAll a earlier).1 later).1,
        (applyAll a earlier).2 ++ (applyAll (applyAll a earlier).1 later).2) := by
  induction earlier generalizing a with
  | nil => rfl
  | cons e earlier ih => simp only [List.cons_append, applyAll, ih]

lemma length_results (a : Asdu) (edits : List Edit) :
    (applyAll a edits).2.length = edits.length := by
  induction edits generalizing a with
  | nil => rfl
  | cons e edits ih => simp only [applyAll, List.length_cons, ih]

lemma apply_add (a : Asdu) (o : InformationObject) :
    ((add o).apply a).2 = .ok () ∧ (o.HasLayout a.header.type.layout ∧ a.Admits o ∧
        a.rowCount + o.rows.length ≤ maxRows) ∧
        ((add o).apply a).1 = { a with objects := a.objects ++ [o] } ∨
      ((add o).apply a).2 ≠ .ok () ∧ ¬(o.HasLayout a.header.type.layout ∧ a.Admits o ∧
        a.rowCount + o.rows.length ≤ maxRows) ∧ ((add o).apply a).1 = a := by
  rw [apply]
  cases hpush : a.push o with
  | ok pushed =>
    obtain ⟨hlayout, hroom, hcount, rfl⟩ := push_eq_ok_iff.1 hpush
    exact .inl ⟨rfl, ⟨hlayout, hroom, hcount⟩, rfl⟩
  | error f =>
    refine .inr ⟨nofun, ?_, rfl⟩
    rintro ⟨hlayout, hroom, hcount⟩
    exact nomatch hpush.symm.trans (push_eq_ok_iff.2 ⟨hlayout, hroom, hcount, rfl⟩)

lemma Edit.Keeps.sameStructure (h : e.Keeps a.header) :
    SameStructure a.header (e.apply a).1.header := by
  cases e with
  | add o =>
    rcases apply_add a o with ⟨-, -, hafter⟩ | ⟨-, -, hafter⟩
    · rw [hafter]
      exact ⟨rfl, rfl⟩
    · rw [hafter]
      exact ⟨rfl, rfl⟩
  | assign header => exact h

lemma WellFormed.apply (ha : a.WellFormed) (h : e.Keeps a.header) : (e.apply a).1.WellFormed := by
  cases e with
  | add o =>
    rw [Edit.apply]
    cases hpush : a.push o with
    | ok pushed => exact ha.push hpush
    | error f => exact ha
  | assign header => exact ha.assign h

lemma WellFormed.applyAll (ha : a.WellFormed) (h : ∀ e ∈ edits, e.Keeps a.header) :
    (applyAll a edits).1.WellFormed ∧
      SameStructure a.header (Edit.applyAll a edits).1.header := by
  induction edits generalizing a with
  | nil => exact ⟨ha, rfl, rfl⟩
  | cons e edits ih =>
    obtain ⟨hfirst, hrest⟩ := List.forall_mem_cons.1 h
    obtain ⟨htype, hsequence⟩ := hfirst.sameStructure
    have hkeeps : ∀ e' ∈ edits, e'.Keeps (e.apply a).1.header := by
      intro e' he'
      cases e' with
      | add => trivial
      | assign header =>
        obtain ⟨htype', hsequence'⟩ := hrest _ he'
        exact ⟨htype'.trans htype.symm, hsequence'.trans hsequence.symm⟩
    obtain ⟨hend, htype', hsequence'⟩ := ih (ha.apply hfirst) hkeeps
    exact ⟨hend, htype'.trans htype, hsequence'.trans hsequence⟩

/-- Among edits that leave type and sequence flag alone, an object is added exactly if its rows have
the layout of the type, there is room for it (in a sequence as long as there is no object, otherwise
for a single row) and the rows can still be counted; otherwise nothing changes. What the edits make
is well formed, and so is what is decoded. -/
theorem push_exact (hstart : start.objects = []) (hkeeps : ∀ e ∈ edits, e.Keeps start.header) :
    (applyAll start edits).1.WellFormed ∧
      (∀ earlier o later, edits = earlier ++ add o :: later → ∃ result,
        let before := (applyAll start earlier).1
        let after := (applyAll start (earlier ++ [add o])).1
        (applyAll start edits).2[earlier.length]? = some result ∧
          (result = .ok () ↔
            o.HasLayout start.header.type.layout ∧
              (if start.header.sequence then before.objects = [] else o.rows.length = 1) ∧
              before.rowCount + o.rows.length ≤ maxRows) ∧
          (result = .ok () → after = { before with objects := before.objects ++ [o] }) ∧
          (result ≠ .ok () → after = before)) ∧
      ∀ widths octets a, decode widths octets = .ok a → a.WellFormed := by
  refine ⟨((wellFormed_of_objects_eq_nil hstart).applyAll hkeeps).1, ?_, ?_⟩
  · rintro earlier o later rfl
    obtain ⟨-, htype, hsequence⟩ := (wellFormed_of_objects_eq_nil hstart).applyAll
      (List.forall_mem_append.1 hkeeps).1
    refine ⟨((add o).apply (applyAll start earlier).1).2, ?_, ?_⟩
    · rw [applyAll_append, List.getElem?_append_right (Nat.le_of_eq (length_results start earlier)),
        length_results, Nat.sub_self]
      rfl
    · rw [applyAll_append, ← htype, ← hsequence]
      rcases apply_add (applyAll start earlier).1 o with
        ⟨hok, hsuits, hafter⟩ | ⟨hrefused, hsuits, hafter⟩
      · exact ⟨iff_of_true hok hsuits, fun _ => hafter, fun h => absurd hok h⟩
      · exact ⟨iff_of_false hrefused hsuits, fun h => absurd h hrefused, fun _ => hafter⟩
  · intro widths octets a hdecode
    exact (decode_eq_ok_iff.1 hdecode).1.toWellFormed

/-- A point, a pair of points for which there is no room, the test flag, and another point. -/
def mixed : List Edit :=
  [add ⟨5, [[.singlePoint ⟨1⟩]]⟩, add ⟨6, [[.singlePoint ⟨0⟩], [.singlePoint ⟨1⟩]]⟩,
    assign { type := .singlePoint, cause := .spontaneous, test := true, commonAddress := 1 },
    add ⟨8, [[.singlePoint ⟨0⟩]]⟩]

theorem push_exact_mixed :
    (∀ e ∈ mixed, e.Keeps (Asdu.empty .singlePoint .spontaneous 1).header) ∧
      (applyAll (.empty .singlePoint .spontaneous 1) mixed).2 =
        [.ok (), .error (.domain (.rowsPerObject 2)), .ok (), .ok ()] ∧
      (applyAll (.empty .singlePoint .spontaneous 1) mixed).1.WellFormed ∧
      (applyAll (.empty .singlePoint .spontaneous 1) (mixed.take 2)).1 =
        (applyAll (.empty .singlePoint .spontaneous 1) (mixed.take 1)).1 := by
  have hkeeps : ∀ e ∈ mixed, e.Keeps (Asdu.empty .singlePoint .spontaneous 1).header := by
    simp [mixed, Keeps, SameStructure, Asdu.empty]
  obtain ⟨hwell, hadd, -⟩ := push_exact rfl hkeeps
  obtain ⟨result, hresult, -, -, hrefused⟩ := hadd (mixed.take 1) _ (mixed.drop 2) rfl
  obtain rfl : .error (.domain (.rowsPerObject 2)) = result := Option.some.inj hresult
  exact ⟨hkeeps, rfl, hwell, hrefused nofun⟩

end Telecontrol.Asdu
