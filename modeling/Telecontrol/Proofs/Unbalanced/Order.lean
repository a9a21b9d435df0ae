import Telecontrol.Proofs.Unbalanced.Course

/-!
# Which request a response answers

Responses bear no frame count bit: the primary takes the first one that it finds for the answer to
what it has asked last. On a line that loses nothing the letters are read in the order in which
their requests were written, so that this is right for the exchanges that begin when nothing is on
the line, and wrong for all others.
-/

namespace Telecontrol.Unbalanced

variable {line : Line} {link : LinkParameters} {widths : FieldWidths} {address : Nat}
  {c c' : Scene} {d : Demand} {repeats : Nat}

namespace Scene

/-- The marks of what is on the line, in the order in which the primary will come to read it. -/
def marks (c : Scene) : List Mark :=
  c.responses.map Letter.mark ++ c.requests.map Letter.mark

/-- How the exchanges began, and what ended them. -/
def notes (c : Scene) : List (Bool × Option Mark) := c.exchanges.map fun a => (a.quiet, a.answer)

/-- Exchanges are ended by responses to them if they began when nothing was on the line, and by
other responses if not. -/
structure Ordered (c : Scene) : Prop where
  known : ∀ number, some number ∈ c.marks → number < c.notes.length
  going : ∀ d repeats, c.stage = .exchanging d repeats → ∃ past quiet,
    c.notes = past ++ [(quiet, none)] ∧
      if quiet then ∀ m ∈ c.marks, m = some past.length
      else ∃ m others, c.marks = m :: others ∧ m ≠ some past.length
  matched : ∀ (number : Nat) (quiet : Bool) (m : Mark), c.notes[number]? = some (quiet, some m) →
    (m = some number ↔ quiet = true)

end Scene

lemma Scene.length_notes (c : Scene) : c.notes.length = c.exchanges.length := List.length_map _

lemma getElem?_snoc {notes : List (Bool × Option Mark)} {last note : Bool × Option Mark}
    {number : Nat} (h : (notes ++ [last])[number]? = some note) :
    notes[number]? = some note ∨ number = notes.length ∧ last = note := by
  by_cases hlt : number < notes.length
  · rw [List.getElem?_append_left hlt] at h
    exact .inl h
  · rw [List.getElem?_append_right (Nat.le_of_not_lt hlt)] at h
    obtain ⟨hzero, hlast⟩ := List.getElem?_eq_some_iff.1 h
    have hnumber : number = notes.length := by
      rw [List.length_singleton] at hzero
      omega
    exact .inr ⟨hnumber, by simpa using hlast⟩

lemma marks_post {c' : Scene} {a : Ask} {mark : Mark}
    (hrequests : c'.requests = post false ⟨a, mark⟩ c.requests)
    (hresponses : c'.responses = c.responses) : c'.marks = c.marks ++ [mark] := by
  simp [Scene.marks, hrequests, hresponses, post]

lemma marks_respond {q : Letter Ask} {rest : List (Letter Ask)} {s : Secondary} {r : LinkFrame}
    (hrequests : c.requests = q :: rest) : (c.respond q.mark s r false).marks = c.marks := by
  simp [Scene.marks, Scene.respond, hrequests, post]

lemma marks_pop {r : Letter LinkFrame} {rest : List (Letter LinkFrame)}
    (hresponses : c.responses = r :: rest) : c.marks = r.mark :: c.pop.marks := by
  simp [Scene.marks, Scene.pop, hresponses]

lemma marks_eq_nil : c.marks = [] ↔ c.Silent := by
  simp [Scene.marks, Scene.Silent, and_comm]

lemma Scene.Ordered.keep (hc : c.Ordered) (hstage : c'.stage = c.stage)
    (hmarks : c'.marks = c.marks) (hnotes : c'.notes = c.notes) : c'.Ordered := by
  refine ⟨?_, ?_, ?_⟩
  · rw [hmarks, hnotes]
    exact hc.known
  · rw [hstage, hmarks, hnotes]
    exact hc.going
  · rw [hnotes]
    exact hc.matched

lemma Scene.Ordered.rest (hc : c.Ordered) (hrests : ∀ d repeats, c'.stage ≠ .exchanging d repeats)
    (hmarks : ∀ number, some number ∈ c'.marks → some number ∈ c.marks)
    (hnotes : c'.notes = c.notes) : c'.Ordered := by
  refine ⟨?_, fun d repeats h => absurd h (hrests d repeats), ?_⟩
  · rw [hnotes]
    exact fun number hmem => hc.known number (hmarks number hmem)
  · rw [hnotes]
    exact hc.matched

lemma Scene.Ordered.respond {q : Letter Ask} {rest : List (Letter Ask)} {s : Secondary}
    {r : LinkFrame} {lost : Bool} (hc : c.Ordered) (hlost : Line.slow = .slow → lost = false)
    (hrequests : c.requests = q :: rest) : (c.respond q.mark s r lost).Ordered := by
  obtain rfl := hlost rfl
  exact hc.keep rfl (marks_respond hrequests) rfl

lemma Scene.Ordered.begin {quiet : Bool} (hc : c.Ordered) (hquiet : quiet = true ↔ c.Silent) :
    ((c.callFor d).begin link d quiet false).Ordered := by
  have hmarks : ((c.callFor d).begin link d quiet false).marks =
      c.marks ++ [some c.notes.length] := by
    rw [Scene.length_notes]
    exact marks_post rfl rfl
  have hnotes : ((c.callFor d).begin link d quiet false).notes = c.notes ++ [(quiet, none)] := by
    simp [Scene.notes, Scene.begin, Scene.callFor]
  refine ⟨?_, ?_, ?_⟩
  · intro number hmem
    rw [hnotes, List.length_append, List.length_singleton]
    rw [hmarks, List.mem_append, List.mem_singleton] at hmem
    rcases hmem with hmem | heq
    · have hbefore := hc.known number hmem
      omega
    · obtain rfl : number = c.notes.length := by simpa using heq
      omega
  · rintro d' repeats -
    refine ⟨c.notes, quiet, hnotes, ?_⟩
    rw [hmarks]
    -- On a quiet line the request is alone. Otherwise some older letter will be read first.
    cases hmarks' : c.marks with
    | nil =>
      rw [if_pos (hquiet.2 (marks_eq_nil.1 hmarks'))]
      simp
    | cons m others =>
      have hnoise : ¬quiet = true := by
        intro h
        rw [marks_eq_nil.2 (hquiet.1 h)] at hmarks'
        cases hmarks'
      rw [if_neg hnoise]
      refine ⟨m, others ++ [some c.notes.length], rfl, ?_⟩
      -- Marks on the line are numbers of exchanges that have begun before.
      rintro rfl
      have hbefore := hc.known _ (hmarks' ▸ List.mem_cons_self)
      omega
  · intro number q m hfound
    rw [hnotes] at hfound
    obtain hbefore | ⟨-, hlast⟩ := getElem?_snoc hfound
    · exact hc.matched number q m hbefore
    · simp at hlast

lemma Scene.Ordered.again (hc : c.Ordered) (hstage : c.stage = .exchanging d (repeats + 1)) :
    (c.again d repeats false).Ordered := by
  have hnotes : (c.again d repeats false).notes = c.notes := map_modifyLast fun _ => rfl
  have hmarks : (c.again d repeats false).marks = c.marks ++ [some (c.notes.length - 1)] := by
    rw [Scene.length_notes]
    exact marks_post rfl rfl
  obtain ⟨past, quiet, hpast, hgoing⟩ := hc.going _ _ hstage
  have hlength : c.notes.length = past.length + 1 := by simp [hpast]
  refine ⟨?_, ?_, ?_⟩
  · intro number hmem
    rw [hmarks, List.mem_append, List.mem_singleton] at hmem
    rw [hnotes]
    rcases hmem with hmem | heq
    · exact hc.known number hmem
    · obtain rfl : number = c.notes.length - 1 := by simpa using heq
      omega
  · rintro d' repeats' -
    refine ⟨past, quiet, hnotes.trans hpast, ?_⟩
    rw [hmarks, hlength]
    cases quiet with
    | true =>
      intro m hmem
      rw [List.mem_append, List.mem_singleton] at hmem
      rcases hmem with hmem | rfl
      · exact hgoing m hmem
      · rfl
    | false =>
      obtain ⟨m, others, heq, hne⟩ := hgoing
      exact ⟨m, others ++ [some past.length], by simp [heq], hne⟩
  · rw [hnotes]
    exact hc.matched

lemma Scene.Ordered.finish {answer : Option Mark} (hc : c.Ordered)
    (hstage : c.stage = .exchanging d repeats) (hrests : ∀ d repeats, c'.stage ≠ .exchanging d repeats)
    (hexchanges : ∃ reported, c'.exchanges =
      c.exchanges.modifyLast fun a => { a with ended := true, answer, reported })
    (hmarks : ∀ m ∈ c'.marks, m ∈ c.marks)
    (hanswer : ∀ m, answer = some m → ∃ others, c.marks = m :: others) : c'.Ordered := by
  obtain ⟨past, quiet, hpast, hgoing⟩ := hc.going _ _ hstage
  have hnotes : c'.notes = past ++ [(quiet, answer)] := by
    obtain ⟨reported, hexchanges⟩ := hexchanges
    rcases List.eq_nil_or_concat c.exchanges with hnil | ⟨before, last, hlast⟩
    · simp [Scene.notes, hnil] at hpast
    · rw [List.concat_eq_append] at hlast
      rw [Scene.notes, hlast, List.map_append] at hpast
      obtain ⟨hbefore, hsame⟩ := List.append_inj' hpast rfl
      rw [Scene.notes, hexchanges, hlast, List.modifyLast_concat, List.map_append, hbefore]
      obtain ⟨hquiet, -⟩ : last.quiet = quiet ∧ last.answer = none := by simpa using hsame
      simp [hquiet]
  refine ⟨?_, fun d repeats h => absurd h (hrests d repeats), ?_⟩
  · intro number hmem
    have hknown := hc.known number (hmarks _ hmem)
    rw [hpast, List.length_append] at hknown
    rwa [hnotes, List.length_append]
  · intro number q m hfound
    rw [hnotes] at hfound
    obtain hbefore | ⟨rfl, hlast⟩ := getElem?_snoc hfound
    · refine hc.matched number q m ?_
      obtain ⟨hlt, -⟩ := List.getElem?_eq_some_iff.1 hbefore
      rwa [hpast, List.getElem?_append_left hlt]
    · obtain ⟨rfl, hm⟩ := Prod.mk.inj hlast
      obtain ⟨others, hhead⟩ := hanswer m hm
      cases quiet with
      | true => exact iff_of_true (hgoing m (hhead ▸ List.mem_cons_self)) rfl
      | false =>
        obtain ⟨m', others', heq, hne⟩ := hgoing
        rw [hhead] at heq
        obtain ⟨rfl, -⟩ := List.cons.inj heq
        exact iff_of_false hne (by simp)

lemma some_mem_post {letters : List (Letter Ask)} {a : Ask} {lost : Bool} {number : Nat}
    (h : some number ∈ (post lost ⟨a, none⟩ letters).map Letter.mark) :
    some number ∈ letters.map Letter.mark := by
  obtain ⟨x, hmem, hmark⟩ := List.mem_map.1 h
  obtain hmem | rfl := mem_post hmem
  · exact List.mem_map.2 ⟨x, hmem, hmark⟩
  · cases hmark

lemma Move.ordered (h : Move .slow link widths address c c') (hc : c.Ordered) : c'.Ordered := by
  have hpop : ∀ m ∈ c.pop.marks, m ∈ c.marks := by
    intro m hmem
    cases hresponses : c.responses with
    | nil => simpa [Scene.marks, Scene.pop, hresponses] using hmem
    | cons r rest => exact marks_pop hresponses ▸ List.mem_cons_of_mem _ hmem
  have hask : ∀ (x : Scene) s lost number,
      some number ∈ (x.ask (.step s) none lost).marks → some number ∈ x.marks := by
    intro x s lost number hmem
    rw [Scene.marks, List.mem_append] at hmem ⊢
    exact hmem.imp_right some_mem_post
  cases h with
  | ask => exact hc.rest (by simp) (hask c _ _) rfl
  | askAgain hstage => exact hc.rest (by simp [Scene.ask, hstage]) (hask c _ _) rfl
  | giveUp => exact hc.rest (by simp) (fun _ hmem => hmem) rfl
  | known =>
    exact hc.rest (by simp) (fun _ hmem => hpop _ (hask c.pop _ _ _ hmem)) rfl
  | up => exact hc.rest (by simp) (fun _ hmem => hpop _ hmem) rfl
  | fail => exact hc.keep rfl rfl rfl
  | drop hrests => exact hc.rest hrests (fun _ hmem => hpop _ hmem) rfl
  | begin hstage hproper hquiet hlost =>
    obtain rfl := hlost rfl
    exact hc.begin hquiet
  | again hstage hlost =>
    obtain rfl := hlost rfl
    exact hc.again hstage
  | exhaust hstage =>
    exact hc.finish hstage (by simp [Scene.finish]) ⟨_, rfl⟩ (fun _ hmem => hmem) (by simp)
  | conclude hstage hresponses =>
    refine hc.finish hstage (by simp [Scene.finish]) ⟨_, rfl⟩ hpop ?_
    rintro m ⟨⟩
    exact ⟨_, marks_pop hresponses⟩
  | refuse hstage => exact hc.keep rfl rfl rfl
  | repeated hrequests _ _ hlost | told hrequests _ hlost => exact hc.respond hlost hrequests
  | reset hrequests _ _ _ _ _ hlost => exact hc.respond hlost hrequests
  | @served d fcb mark rest r s lost hrequests hfcb hserves hlost =>
    have hafter : (c.respond mark s r lost).Ordered := hc.respond hlost hrequests
    refine hafter.keep rfl rfl ?_
    cases mark with
    | none => rfl
    | some number => exact map_modify fun _ => rfl
  | queue => exact hc.keep rfl rfl rfl

end Telecontrol.Unbalanced
