import Telecontrol.Proofs.Unbalanced.Scene

/-!
# Letters on the line

Whatever happens, the stations write only frames that the other one can read and takes for what they
are. On a fast line there is never more than one of them, and it belongs to what the primary is
doing.
-/

namespace Telecontrol.Unbalanced

open Primary (HandshakeStep Stage)

variable {line : Line} {link : LinkParameters} {widths : FieldWidths} {address : Nat}
  {c c' : Scene} {a : Account} {past : List Account}

lemma mem_post {α : Type} {lost : Bool} {x y : Letter α} {letters : List (Letter α)}
    (h : x ∈ post lost y letters) : x ∈ letters ∨ x = y := by
  unfold post at h
  split at h
  · exact .inl h
  · simpa using h

/-- The letters are ones that the stations write. -/
structure Scene.Sound (link : LinkParameters) (widths : FieldWidths) (address : Nat) (c : Scene) :
    Prop where
  secondary : c.secondary.Sound
  parameters : c.secondary.address = address ∧ c.secondary.link = link ∧
    c.secondary.widths = widths
  requests : ∀ d fcb mark, ⟨.demand d fcb, mark⟩ ∈ c.requests → d.Proper link.addressLength widths
  responses : ∀ r ∈ c.responses, r.content.Answers link.addressLength address
  stage : ∀ d repeats, c.stage = .exchanging d repeats → d.Proper link.addressLength widths

lemma Scene.Sound.fits (h : c.Sound link widths address) :
    address ≤ maxLinkAddress link.addressLength := by
  obtain ⟨rfl, rfl, -⟩ := h.parameters
  exact h.secondary.fits

lemma proper_post {requests : List (Letter Ask)} {x : Ask} {lost : Bool} {mark : Mark}
    (h : ∀ d fcb mark, ⟨.demand d fcb, mark⟩ ∈ requests → d.Proper link.addressLength widths)
    (hx : ∀ d fcb, x = .demand d fcb → d.Proper link.addressLength widths) :
    ∀ d fcb mark', ⟨.demand d fcb, mark'⟩ ∈ post lost ⟨x, mark⟩ requests →
      d.Proper link.addressLength widths := by
  intro d fcb mark' hmem
  obtain hmem | heq := mem_post hmem
  · exact h d fcb mark' hmem
  · exact hx d fcb (congrArg Letter.content heq).symm

lemma answers_post {responses : List (Letter LinkFrame)} {r : LinkFrame} {lost : Bool} {mark : Mark}
    (h : ∀ r ∈ responses, r.content.Answers link.addressLength address)
    (hr : r.Answers link.addressLength address) :
    ∀ x ∈ post lost ⟨r, mark⟩ responses, x.content.Answers link.addressLength address := by
  intro x hmem
  obtain hmem | rfl := mem_post hmem
  · exact h x hmem
  · exact hr

lemma Scene.Sound.respond {mark : Mark} {s : Secondary} {r : LinkFrame} {lost : Bool}
    (h : c.Sound link widths address) (hsame : c.secondary.Same s) (hs : s.Sound)
    (hr : r.Answers link.addressLength address) :
    (c.respond mark s r lost).Sound link widths address := by
  obtain ⟨haddress, hlink, hwidths⟩ := h.parameters
  refine ⟨hs, ⟨hsame.address.trans haddress, hsame.link.trans hlink, hsame.widths.trans hwidths⟩,
    ?_, answers_post h.responses hr, h.stage⟩
  intro d fcb mark hmem
  exact h.requests d fcb mark (List.mem_of_mem_tail hmem)

lemma Scene.Sound.kept {fcb : Bool} {r : LinkFrame} {s : Secondary} (hs : s.Sound)
    (hparameters : s.address = address ∧ s.link = link ∧ s.widths = widths)
    (hfcb : s.lastFcb = some fcb) (hkept : s.lastResponse = some r) :
    r.Answers link.addressLength address := by
  obtain ⟨rfl, rfl, -⟩ := hparameters
  obtain ⟨r', hr', hanswers⟩ := hs.kept fcb hfcb
  obtain rfl : r = r' := by simpa [hkept] using hr'
  exact hanswers

lemma Move.sound (h : Move line link widths address c c') (hc : c.Sound link widths address) :
    c'.Sound link widths address := by
  obtain ⟨hs, hparameters, hrequests, hresponses, hstage⟩ := hc
  have hrest : ∀ r ∈ c.responses.tail, r.content.Answers link.addressLength address :=
    fun r hmem => hresponses r (List.mem_of_mem_tail hmem)
  cases h with
  | ask => exact ⟨hs, hparameters, proper_post hrequests (by simp), hresponses, by simp⟩
  | askAgain => exact ⟨hs, hparameters, proper_post hrequests (by simp), hresponses, hstage⟩
  | giveUp => exact ⟨hs, hparameters, hrequests, hresponses, by simp⟩
  | known => exact ⟨hs, hparameters, proper_post hrequests (by simp), hrest, by simp⟩
  | up => exact ⟨hs, hparameters, hrequests, hrest, by simp⟩
  | fail => exact ⟨hs, hparameters, hrequests, hresponses, hstage⟩
  | drop => exact ⟨hs, hparameters, hrequests, hrest, hstage⟩
  | begin _ hproper =>
    refine ⟨hs, hparameters, proper_post hrequests ?_, hresponses, ?_⟩
    · rintro d fcb ⟨⟩
      exact hproper
    · rintro d repeats ⟨⟩
      exact hproper
  | again hgoing =>
    have hproper := hstage _ _ hgoing
    refine ⟨hs, hparameters, proper_post hrequests ?_, hresponses, ?_⟩
    · rintro d fcb ⟨⟩
      exact hproper
    · rintro d repeats ⟨⟩
      exact hproper
  | exhaust => exact ⟨hs, hparameters, hrequests, hresponses, by simp [Scene.finish]⟩
  | conclude => exact ⟨hs, hparameters, hrequests, hrest, by simp [Scene.finish]⟩
  | refuse => exact ⟨hs, hparameters, hrequests, hresponses, hstage⟩
  | repeated _ hfcb hkept =>
    exact Scene.Sound.respond ⟨hs, hparameters, hrequests, hresponses, hstage⟩ (.refl _) hs
      (Scene.Sound.kept hs hparameters hfcb hkept)
  | @served d fcb mark rest r s lost _ _ hserves =>
    have hparameters' : s.address = address ∧ s.link = link ∧ s.widths = widths :=
      ⟨hserves.same.address.trans hparameters.1, hserves.same.link.trans hparameters.2.1,
        hserves.same.widths.trans hparameters.2.2⟩
    have hr := Scene.Sound.kept hserves.sound hparameters' hserves.numbered hserves.kept
    have hafter : (c.respond mark s r lost).Sound link widths address :=
      Scene.Sound.respond ⟨hs, hparameters, hrequests, hresponses, hstage⟩ hserves.same
        hserves.sound hr
    exact ⟨hafter.secondary, hafter.parameters, hafter.requests, hafter.responses, hafter.stage⟩
  | told _ hanswers =>
    exact Scene.Sound.respond ⟨hs, hparameters, hrequests, hresponses, hstage⟩ (.refl _) hs hanswers
  | reset _ hanswers hsame hsound =>
    exact Scene.Sound.respond ⟨hs, hparameters, hrequests, hresponses, hstage⟩ hsame hsound hanswers
  | queue hsame hsound =>
    exact ⟨hsound, ⟨hsame.address.trans hparameters.1, hsame.link.trans hparameters.2.1,
      hsame.widths.trans hparameters.2.2⟩, hrequests, hresponses, hstage⟩

/-- On a fast line there is one letter at most, and it belongs to what the primary does. -/
structure Scene.Paced (c : Scene) : Prop where
  few : c.requests.length + c.responses.length ≤ 1
  idle : ∀ active, c.stage = .idle active → c.Silent
  asking : ∀ s, c.stage = .asking s → ∀ q ∈ c.requests, q.content = .step s
  reset : c.stage = .asking .reset → c.responses ≠ [] → c.secondary.lastFcb = none
  quiet : ∀ a ∈ c.exchanges, a.quiet = true

lemma forall_modify {P : Account → Prop} {accounts : List Account} {number : Nat}
    {f : Account → Account} (h : ∀ a ∈ accounts, P a) (hf : ∀ a, P a → P (f a)) :
    ∀ a ∈ accounts.modify number f, P a := by
  intro a hmem
  obtain ⟨i, hi⟩ := List.mem_iff_getElem?.1 hmem
  rw [List.getElem?_modify] at hi
  obtain ⟨b, hb, rfl⟩ := Option.map_eq_some_iff.1 hi
  have hP := h b (List.mem_of_getElem? hb)
  split
  · exact hf b hP
  · exact hP

lemma forall_modifyLast {P : Account → Prop} {accounts : List Account} {f : Account → Account}
    (h : ∀ a ∈ accounts, P a) (hf : ∀ a, P a → P (f a)) : ∀ a ∈ accounts.modifyLast f, P a := by
  rcases List.eq_nil_or_concat accounts with rfl | ⟨past, last, rfl⟩
  · intro a hmem
    cases hmem
  · intro a hmem
    simp only [List.concat_eq_append] at h hmem
    rw [List.modifyLast_concat, List.mem_append, List.mem_singleton] at hmem
    rcases hmem with hmem | rfl
    · exact h a (List.mem_append_left _ hmem)
    · exact hf last (h last (List.mem_append_right _ (List.mem_singleton_self last)))

lemma Scene.Paced.written {c' : Scene} {a : Ask} {mark : Mark} {lost : Bool} (hsilent : c.Silent)
    (hrequests : c'.requests = post lost ⟨a, mark⟩ c.requests)
    (hresponses : c'.responses = c.responses) (hidle : ∀ active, c'.stage ≠ .idle active)
    (hasking : ∀ s, c'.stage = .asking s → a = .step s)
    (hquiet : ∀ a ∈ c'.exchanges, a.quiet = true) : c'.Paced := by
  rw [hsilent.1] at hrequests
  rw [hsilent.2] at hresponses
  refine ⟨?_, fun active h => absurd h (hidle active), ?_, fun _ h => absurd hresponses h, hquiet⟩
  · rw [hrequests, hresponses]
    unfold post
    split <;> simp
  · intro s hstage q hmem
    rw [hrequests] at hmem
    obtain hmem | rfl := mem_post hmem
    · cases hmem
    · exact hasking s hstage

lemma Scene.Paced.silent {c' : Scene} (hsilent : c'.Silent)
    (hquiet : ∀ a ∈ c'.exchanges, a.quiet = true) : c'.Paced where
  few := by simp [hsilent.1, hsilent.2]
  idle _ _ := hsilent
  asking _ _ := by simp [hsilent.1]
  reset _ h := absurd hsilent.2 h
  quiet := hquiet

lemma Scene.Paced.pop {r : Letter LinkFrame} {rest : List (Letter LinkFrame)} (hc : c.Paced)
    (hresponses : c.responses = r :: rest) : c.pop.Silent := by
  have hfew := hc.few
  rw [hresponses, List.length_cons] at hfew
  have hrequests : c.requests = [] := List.eq_nil_of_length_eq_zero (by omega)
  have hrest : rest = [] := List.eq_nil_of_length_eq_zero (by omega)
  exact ⟨hrequests, by simp [Scene.pop, hresponses, hrest]⟩

lemma Scene.Paced.answered {q : Letter Ask} {rest : List (Letter Ask)} {s : Secondary}
    {r : LinkFrame} {lost : Bool} (hc : c.Paced) (hrequests : c.requests = q :: rest)
    (hreset : c.stage = .asking .reset → s.lastFcb = none) :
    (c.respond q.mark s r lost).Paced := by
  have hfew := hc.few
  rw [hrequests, List.length_cons] at hfew
  have hrest : rest = [] := List.eq_nil_of_length_eq_zero (by omega)
  have hresponses : c.responses = [] := List.eq_nil_of_length_eq_zero (by omega)
  refine ⟨?_, ?_, ?_, fun hstage _ => hreset hstage, hc.quiet⟩
  · simp only [Scene.respond, hrequests, hrest, hresponses, List.tail_cons, post]
    split <;> simp
  · intro active hstage
    have hsilent := (hc.idle active hstage).1
    rw [hrequests] at hsilent
    cases hsilent
  · intro step hstage x hmem
    simp [Scene.respond, hrequests, hrest] at hmem

lemma Move.paced (h : Move .lossy link widths address c c') (hc : c.Paced) : c'.Paced := by
  cases h with
  | ask hstage _ hsilent =>
    exact .written (hsilent rfl) rfl rfl (by simp) (by simp) hc.quiet
  | @askAgain s lost hstage _ hsilent =>
    have hstage' : (c.ask (.step s) none lost).stage = .asking s := hstage
    exact .written (hsilent rfl) rfl rfl (by simp [hstage']) (by simp [hstage']) hc.quiet
  | giveUp hstage hsilent => exact .silent (hsilent rfl) hc.quiet
  | known hstage hresponses _ =>
    exact .written (hc.pop hresponses) rfl rfl (by simp) (by simp) hc.quiet
  | up hstage hresponses => exact .silent (hc.pop hresponses) hc.quiet
  | fail => exact ⟨hc.few, hc.idle, hc.asking, hc.reset, hc.quiet⟩
  | drop hstage hresponses => exact .silent (hc.pop hresponses) hc.quiet
  | begin hstage hproper hquiet _ =>
    refine .written (hc.idle true hstage) rfl rfl (by simp [Scene.begin]) (by simp [Scene.begin]) ?_
    intro a hmem
    obtain hmem | hmem := List.mem_append.1 hmem
    · exact hc.quiet a hmem
    · obtain rfl := List.mem_singleton.1 hmem
      exact hquiet.2 (hc.idle true hstage)
  | again hstage _ hsilent =>
    exact .written (hsilent rfl) rfl rfl (by simp [Scene.again]) (by simp [Scene.again])
      (forall_modifyLast hc.quiet fun _ h => h)
  | exhaust hstage hsilent =>
    exact .silent (hsilent rfl) (forall_modifyLast hc.quiet fun _ h => h)
  | conclude hstage hresponses =>
    exact .silent (hc.pop hresponses) (forall_modifyLast hc.quiet fun _ h => h)
  | refuse hstage => exact ⟨hc.few, hc.idle, hc.asking, hc.reset, hc.quiet⟩
  | repeated hrequests hfcb hkept _ =>
    refine hc.answered hrequests fun hstage => ?_
    have hask := hc.asking .reset hstage _ (hrequests ▸ List.mem_cons_self)
    simp at hask
  | @served d fcb mark rest r s lost hrequests hfcb hserves _ =>
    have hafter : (c.respond mark s r lost).Paced := by
      refine hc.answered hrequests fun hstage => ?_
      have hask := hc.asking .reset hstage _ (hrequests ▸ List.mem_cons_self)
      simp at hask
    refine ⟨hafter.few, hafter.idle, hafter.asking, hafter.reset, ?_⟩
    cases mark with
    | none => exact hc.quiet
    | some number => exact forall_modify hc.quiet fun _ h => h
  | told hrequests hanswers _ =>
    refine hc.answered hrequests fun hstage => ?_
    have hask := hc.asking .reset hstage _ (hrequests ▸ List.mem_cons_self)
    simp at hask
  | reset hrequests hanswers hsame hsound hfcb _ _ => exact hc.answered hrequests fun _ => hfcb
  | queue hsame hsound hfcb =>
    exact ⟨hc.few, hc.idle, hc.asking, fun hstage hne => hfcb.trans (hc.reset hstage hne), hc.quiet⟩

end Telecontrol.Unbalanced
