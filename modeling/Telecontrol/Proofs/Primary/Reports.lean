import Mathlib.Data.List.Chain
import Telecontrol.Proofs.Ft12.Exchange

/-!
# What a primary station may put out

The application knows the state of a link by what was reported of it last; at first the link is
down. What a primary station may put out is said in terms of what it has put out before: how the
states of a link follow one another, when it reports that it is ready, what it answers about the
links, and to whom it writes requests that count (`Permitted`). In this a station is `Truthful` if
it also is ready exactly when the request that has opened it is granted.
-/

namespace Telecontrol

namespace Output

variable {φ : Type}

/-- The state of the link to a secondary that an output reports. -/
def linkState? (address : Nat) : Output φ → Option LinkState
  | reported (.linkStateChanged other state) => if other = address then some state else none
  | _ => none

end Output

namespace Primary

/-- Something that a primary station has put out or might put out. -/
abbrev Utterance := Output LinkFrame

/-- How a state of a link follows another one. The link is brought up in two steps, and it can be
lost behind each of them. -/
inductive Follows : LinkState → LinkState → Prop
  | known : Follows .disconnected .statusKnown
  | established : Follows .statusKnown .active
  | failed : Follows .statusKnown .disconnected
  | lost : Follows .active .disconnected

/-- The states of a link that were reported, in order. -/
def reportedStates (address : Nat) (w : List Utterance) : List LinkState :=
  w.filterMap (Output.linkState? address)

/-- The state of a link that was reported last. -/
def shown (address : Nat) (w : List Utterance) : LinkState :=
  (reportedStates address w).getLast?.getD .disconnected

/-- The first answer that is given. -/
def firstAnswer (w : List Utterance) : Option (Nat × Answer) := w.findSome? Output.answer?

/-- The frame polls a secondary, or sends it user data that it has to acknowledge. -/
def CountsOn (frame : LinkFrame) : Prop :=
  ∃ function fcb fcv, frame.control? = some (.primary function fcb fcv) ∧
    function ∈ [PrimaryFunction.requestClass1, .requestClass2, .userDataConfirmed]

/-- What may be put out behind something. -/
def Permitted (addresses : List Nat) (before : List Utterance) : Utterance → Prop
  | .reported (.linkStateChanged address state) =>
    address ∈ addresses ∧ Follows (shown address before) state
  | .reported .ready =>
    (∀ address ∈ addresses, shown address before = .active) ∧ .reported .ready ∉ before
  | .answered _ (.linkStates states) =>
    states = addresses.map (fun address => (address, shown address before)) ∧
      ∀ address ∈ addresses, shown address before ≠ .statusKnown
  | .wrote frame _ => CountsOn frame →
    ∃ address ∈ addresses, frame.address? = some address ∧ shown address before = .active
  | _ => True

/-- Everything was permitted by what was put out before it. -/
def Lawful (addresses : List Nat) (w : List Utterance) : Prop :=
  ∀ before o after, w = before ++ o :: after → Permitted addresses before o

/-- Everything was permitted. The first answer is given to the request that opens the station, and
the station is ready exactly if it is granted. -/
structure Truthful (addresses : List Nat) (request : Nat) (w : List Utterance) : Prop where
  lawful : Lawful addresses w
  first : ∀ number a, firstAnswer w = some (number, a) → number = request
  opened : .reported .ready ∈ w ↔ firstAnswer w = some (request, .done)

variable {addresses : List Nat} {request address : Nat} {w : List Utterance} {o : Utterance}
  {state : LinkState}

/-! ## The states of links -/

lemma eq_of_linkState? (h : o.linkState? address = some state) :
    o = .reported (.linkStateChanged address state) := by
  unfold Output.linkState? at h
  split at h
  · next other state' =>
    by_cases heq : other = address
    · rw [if_pos heq] at h
      rw [heq, Option.some.inj h]
    · rw [if_neg heq] at h
      exact nomatch h
  · exact nomatch h

lemma reportedStates_snoc (address : Nat) (w : List Utterance) (o : Utterance) :
    reportedStates address (w ++ [o]) =
      reportedStates address w ++ (o.linkState? address).toList := by
  rw [reportedStates, List.filterMap_append, List.filterMap_cons]
  cases o.linkState? address <;> rfl

lemma shown_snoc_of_none (h : o.linkState? address = none) :
    shown address (w ++ [o]) = shown address w := by
  rw [shown, reportedStates_snoc, h, Option.toList_none, List.append_nil, shown]

lemma shown_report (address : Nat) (state : LinkState) (w : List Utterance) :
    shown address (w ++ [.reported (.linkStateChanged address state)]) = state := by
  have hstate : (Output.reported (.linkStateChanged address state) :
      Utterance).linkState? address = some state := if_pos rfl
  rw [shown, reportedStates_snoc, hstate, Option.toList_some, List.getLast?_concat,
    Option.getD_some]

lemma shown_report_of_ne {other : Nat} (h : other ≠ address) (state : LinkState)
    (w : List Utterance) :
    shown address (w ++ [.reported (.linkStateChanged other state)]) = shown address w :=
  shown_snoc_of_none (if_neg h)

lemma getLast?_reportedStates (address : Nat) (w : List Utterance) :
    (LinkState.disconnected :: reportedStates address w).getLast? = some (shown address w) := by
  rw [shown, List.getLast?_cons]

/-! ## What is permitted -/

lemma lawful_nil : Lawful addresses [] := by
  intro before o after h
  simp at h

lemma Lawful.snoc (h : Lawful addresses w) (ho : Permitted addresses w o) :
    Lawful addresses (w ++ [o]) := by
  intro before other after heq
  obtain rfl | ⟨rest, last, rfl⟩ := List.eq_nil_or_concat after
  · obtain ⟨rfl, hlast⟩ := List.append_inj' heq rfl
    obtain rfl := List.singleton_inj.1 hlast
    exact ho
  · have hinit : w ++ [o] = (before ++ other :: rest) ++ [last] := by simpa using heq
    exact h before other rest (List.append_inj' hinit rfl).1

lemma Lawful.of_append {rest : List Utterance} (h : Lawful addresses (w ++ rest)) :
    Lawful addresses w :=
  fun before o after heq => h before o (after ++ rest) (by simp [heq])

lemma Lawful.isChain (h : Lawful addresses w) (address : Nat) :
    (.disconnected :: reportedStates address w).IsChain Follows := by
  induction w using List.reverseRecOn with
  | nil => exact .singleton _
  | append_singleton w o ih =>
    have hbefore := ih h.of_append
    rw [reportedStates_snoc]
    cases hstate : o.linkState? address with
    | none => simpa using hbefore
    | some state =>
      obtain rfl := eq_of_linkState? hstate
      obtain ⟨-, hfollows⟩ := h w _ [] rfl
      rw [← List.cons_append]
      refine hbefore.append (.singleton _) fun last hlast next hnext => ?_
      obtain rfl := Option.some.inj ((getLast?_reportedStates address w).symm.trans hlast)
      obtain rfl := Option.some.inj hnext
      exact hfollows

lemma Lawful.reportedStates_eq_nil (h : Lawful addresses w) (haddress : address ∉ addresses) :
    reportedStates address w = [] := by
  rw [reportedStates, List.filterMap_eq_nil_iff]
  intro o ho
  cases hstate : o.linkState? address with
  | none => rfl
  | some state =>
    obtain rfl := eq_of_linkState? hstate
    obtain ⟨before, after, rfl⟩ := List.append_of_mem ho
    exact absurd (h before _ after rfl).1 haddress

/-! ## How the station is opened -/

lemma firstAnswer_snoc (w : List Utterance) (o : Utterance) :
    firstAnswer (w ++ [o]) = (firstAnswer w).or o.answer? := by
  rw [firstAnswer, List.findSome?_append, firstAnswer]
  cases h : o.answer? <;> simp [h]

lemma firstAnswer_snoc_of_ne (h : o.answer? = none ∨ firstAnswer w ≠ none) :
    firstAnswer (w ++ [o]) = firstAnswer w := by
  rw [firstAnswer_snoc]
  obtain hnone | hsome := h
  · rw [hnone, Option.or_none]
  · obtain ⟨a, ha⟩ := Option.ne_none_iff_exists'.1 hsome
    rw [ha, Option.some_or]

namespace Truthful

lemma nil : Truthful addresses request [] where
  lawful := lawful_nil
  first := nofun
  opened := ⟨nofun, nofun⟩

lemma snoc (h : Truthful addresses request w) (ho : Permitted addresses w o)
    (hready : o ≠ .reported .ready) (hanswer : o.answer? = none ∨ firstAnswer w ≠ none) :
    Truthful addresses request (w ++ [o]) where
  lawful := h.lawful.snoc ho
  first := by
    rw [firstAnswer_snoc_of_ne hanswer]
    exact h.first
  opened := by
    rw [firstAnswer_snoc_of_ne hanswer, ← h.opened, List.mem_append, List.mem_singleton]
    exact or_iff_left (Ne.symm hready)

lemma refuse (h : Truthful addresses request w) (hnone : firstAnswer w = none) (fault : Fault) :
    Truthful addresses request (w ++ [.answered request (.refused fault)]) where
  lawful := h.lawful.snoc trivial
  first := by
    intro number a ha
    rw [firstAnswer_snoc, hnone] at ha
    exact (congrArg Prod.fst (Option.some.inj ha)).symm
  opened := by
    rw [firstAnswer_snoc, hnone, List.mem_append, h.opened, hnone]
    simp [Output.answer?]

lemma grant (h : Truthful addresses request w) (hnone : firstAnswer w = none)
    (hup : ∀ address ∈ addresses, shown address w = .active) :
    Truthful addresses request (w ++ [.answered request .done] ++ [.reported .ready]) where
  lawful := by
    have hnew : .reported .ready ∉ w := by
      rw [h.opened, hnone]
      exact nofun
    have hgranted : Lawful addresses (w ++ [.answered request .done]) := h.lawful.snoc trivial
    refine hgranted.snoc ⟨fun address hmem => ?_, ?_⟩
    · rw [shown_snoc_of_none rfl]
      exact hup address hmem
    · simpa using hnew
  first := by
    intro number a ha
    rw [firstAnswer_snoc, firstAnswer_snoc, hnone] at ha
    exact (congrArg Prod.fst (Option.some.inj ha)).symm
  opened := by
    rw [firstAnswer_snoc, firstAnswer_snoc, hnone]
    simp [Output.answer?]

lemma firstAnswer_ne_none (h : Truthful addresses request w) (hopen : .reported .ready ∈ w) :
    firstAnswer w ≠ none := by
  rw [h.opened.1 hopen]
  exact Option.some_ne_none _

end Truthful

end Primary

end Telecontrol
