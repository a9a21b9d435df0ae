import Telecontrol.Proofs.Unbalanced.Simulation

/-!
# Runs

A run of the system is a sequence of moves of its scene, from the scene in which the primary begins
to open.
-/

namespace Telecontrol

lemma Asdu.payload_proper {widths : FieldWidths} {addressLength : Nat} {asdu : Asdu}
    {octets : Octets} (h : asdu.Faithful widths)
    (hpayload : asdu.payload widths addressLength = .ok octets) :
    Asdu.decode widths octets = .ok asdu ∧ LinkFrame.Holds addressLength octets := by
  obtain ⟨encoded, hencode, hlimit⟩ := bind_eq_ok hpayload
  by_cases hlong : LinkFrame.maxAsduLength addressLength < encoded.length
  · simp [hlong] at hlimit
  · obtain rfl : encoded = octets := by simpa [hlong] using hlimit
    have hlength := h.length_encode hencode
    have hpos := Asdu.encodedLength_pos widths asdu
    refine ⟨h _ hencode, ?_⟩
    simp only [LinkFrame.maxAsduLength, LinkFrame.maxLength] at hlong
    simp only [LinkFrame.Holds, LinkFrame.maxLength]
    omega

namespace Unbalanced

variable {line : Line} {link : LinkParameters} {widths : FieldWidths} {address : Nat}
  {c c' c'' : Scene} {u u' : Unbalanced}

/-! ## Moves one after the other -/

lemma Moves.trans (h : Moves line link widths address c c')
    (h' : Moves line link widths address c' c'') : Moves line link widths address c c'' := by
  induction h with
  | none => exact h'
  | more hmove _ ih => exact .more hmove (ih h')

lemma Moves.keep {P : Scene → Prop} (h : Moves line link widths address c c')
    (hmove : ∀ {c c'}, Move line link widths address c c' → P c → P c') (hc : P c) : P c' := by
  induction h with
  | none => exact hc
  | more hfirst _ ih => exact ih (hmove hfirst hc)

/-! ## Actions -/

lemma Shows.enqueue {asdu : Asdu} {payload : Octets} {request : Nat}
    (h : u.Shows link widths address c) (hsound : c.Sound link widths address)
    (hpayload : Asdu.decode widths payload = .ok asdu ∧
      LinkFrame.Holds link.addressLength payload) :
    ∃ c', (u.enqueue (.enqueue asdu.dataClass payload request) asdu request).Shows link widths
        address c' ∧ Moves line link widths address c c' := by
  have hs := hsound.secondary
  obtain ⟨rfl, rfl, rfl⟩ := hsound.parameters
  let command : Secondary.Command := .enqueue asdu.dataClass payload request
  let t := c.secondary.step ⟨u.now, none⟩ (.command command)
  have hstep : u.secondary.step ⟨u.now, none⟩ (.command command) = t := by rw [h.secondary]
  have hstate : (u.enqueue command asdu request).secondary = t.state := congrArg Turn.state hstep
  have haccepted : (u.enqueue command asdu request).accepted =
      if t.answers.lookup request = some .done then c.accepted ++ [asdu] else c.accepted := by
    rw [← h.accepted, ← hstep]
    rfl
  obtain ⟨hsame, hsound', hfcb, hkept, -, hresult⟩ :
      c.secondary.Same t.state ∧ t.state.Sound ∧ _ :=
    Secondary.step_enqueue hs hpayload.2 hpayload.1 rfl
  obtain ⟨hanswers, hwaiting⟩ | ⟨⟨fault, hanswers⟩, hrefused⟩ := hresult
  · refine ⟨{ c with secondary := t.state, accepted := c.accepted ++ [asdu] },
      { h with secondary := hstate, accepted := ?_ },
      .more (.queue hsame hsound' hfcb hkept hwaiting) (.none _)⟩
    have hlookup : t.answers.lookup request = some .done := by simp [t, command, hanswers]
    exact haccepted.trans (if_pos hlookup)
  · refine ⟨c, { h with secondary := hstate.trans hrefused, accepted := ?_ }, .none c⟩
    have hlookup : t.answers.lookup request ≠ some .done := by simp [t, command, hanswers]
    exact haccepted.trans (if_neg hlookup)

lemma sendCommand_eq {receiver request : Nat} {asdu : Asdu} {command : Primary.Command}
    (h : (Primary.sendCommand link widths receiver asdu request).toOption = some command) :
    ∃ payload, asdu.payload widths link.addressLength = .ok payload ∧
      command = .userData receiver payload request := by
  unfold Primary.sendCommand at h
  cases hpayload : asdu.payload widths link.addressLength with
  | error fault => simp [hpayload, Except.toOption] at h
  | ok payload => exact ⟨payload, rfl, by simpa [hpayload, Except.toOption, eq_comm] using h⟩

lemma commandOf_eq {request : Nat} {asdu : Asdu} {command : Secondary.Command}
    (h : (Secondary.commandOf link widths asdu request).toOption = some command) :
    ∃ payload, asdu.payload widths link.addressLength = .ok payload ∧
      command = .enqueue asdu.dataClass payload request := by
  unfold Secondary.commandOf at h
  cases hpayload : asdu.payload widths link.addressLength with
  | error fault => simp [hpayload, Except.toOption] at h
  | ok payload => exact ⟨payload, rfl, by simpa [hpayload, Except.toOption, eq_comm] using h⟩

lemma Shows.act {action : Action} (h : u.Shows link widths address c)
    (hsound : c.Sound link widths address) (hallows : u.Allows line action)
    (hfaithful : ∀ asdu, action.asdu? = some asdu → asdu.Faithful widths)
    (hact : u.act action = some u') :
    ∃ c', u'.Shows link widths address c' ∧ Moves line link widths address c c' := by
  have hlost : line = .slow → action.lost = false := by
    rintro rfl
    exact hallows
  cases action with
  | send receiver asdu request lost =>
    simp only [Unbalanced.act] at hact
    split at hact
    · next hopen =>
      obtain ⟨command, hcommand, rfl⟩ := Option.map_eq_some_iff.1 hact
      rw [h.primary.link, h.primary.widths] at hcommand
      obtain ⟨payload, hpayload, rfl⟩ := sendCommand_eq hcommand
      exact h.send hsound.fits hlost hopen.2
        (Asdu.payload_proper (hfaithful asdu rfl) hpayload)
    · cases hact
  | queue asdu request =>
    simp only [Unbalanced.act] at hact
    split at hact
    · obtain ⟨command, hcommand, rfl⟩ := Option.map_eq_some_iff.1 hact
      rw [h.secondary, hsound.parameters.2.1, hsound.parameters.2.2] at hcommand
      obtain ⟨payload, hpayload, rfl⟩ := commandOf_eq hcommand
      exact h.enqueue hsound (Asdu.payload_proper (hfaithful asdu rfl) hpayload)
    · cases hact
  | carryRequests count =>
    obtain rfl : { u with requests := u.requests.carry count } = u' := by
      simpa [Unbalanced.act] using hact
    exact ⟨c, { h with requests := h.requests.carry count }, .none c⟩
  | carryResponses count =>
    obtain rfl : { u with responses := u.responses.carry count } = u' := by
      simpa [Unbalanced.act] using hact
    exact ⟨c, { h with responses := h.responses.carry count }, .none c⟩
  | hear lost =>
    simp only [Unbalanced.act] at hact
    split at hact
    · obtain ⟨⟨input, inbox⟩, htake, rfl⟩ := Option.map_eq_some_iff.1 hact
      exact h.hear hsound hlost htake
    · cases hact
  | serve lost =>
    simp only [Unbalanced.act] at hact
    split at hact
    · obtain ⟨⟨input, inbox⟩, htake, rfl⟩ := Option.map_eq_some_iff.1 hact
      exact h.serve hsound hlost htake
    · cases hact
  | expire lost =>
    simp only [Unbalanced.act] at hact
    split at hact
    · next hopen =>
      obtain rfl := Option.some.inj hact
      obtain ⟨due, hdue, -⟩ := (Option.any_eq_true _ _).1 hopen.2
      refine h.expire hsound hlost (fun hline => ?_) hdue
      subst hline
      exact h.silent.1 hallows
    · cases hact
  | elapse duration =>
    obtain rfl : { u with now := u.now + duration } = u' := by
      simpa [Unbalanced.act] using hact
    exact ⟨c, { h with }, .none c⟩

/-! ## From the start -/

/-- The primary has written its first request to a secondary. -/
def Scene.start (secondary : Secondary) (lost : Bool) : Scene where
  fcb := false
  stage := .asking .status
  secondary
  requests := post lost ⟨.step .status, none⟩ []
  responses := []
  exchanges := []
  calls := []
  accepted := []
  received := []
  reported := []

lemma Scene.start_sound {secondary : Secondary} {lost : Bool} (hs : secondary.Sound)
    (hparameters : secondary.address = address ∧ secondary.link = link ∧
      secondary.widths = widths) : (Scene.start secondary lost).Sound link widths address := by
  refine ⟨hs, hparameters, ?_, by simp [Scene.start], by simp [Scene.start]⟩
  intro d fcb mark hmem
  obtain hmem | heq := mem_post hmem
  · cases hmem
  · simp at heq

lemma shows_start {request now : Nat} {lost : Bool}
    (h : start address link widths request now lost = .ok u) :
    ∃ secondary, (∀ dataClass, secondary.queue dataClass = []) ∧
      (Scene.start secondary lost).Sound link widths address ∧
      u.Shows link widths address (Scene.start secondary lost) := by
  obtain ⟨secondary, hsecondary, h⟩ := bind_eq_ok h
  obtain ⟨t, hprimary, h⟩ := bind_eq_ok h
  obtain rfl := Except.ok.inj h
  obtain ⟨hs, hparameters, hqueue⟩ := Secondary.start_sound hsecondary
  have hsound : (Scene.start secondary lost).Sound link widths address :=
    Scene.start_sound hs hparameters
  obtain ⟨p, hshows, hyields⟩ := Primary.start_leads (m := ⟨now, none⟩) rfl hsound.fits hprimary
  refine ⟨secondary, hqueue, hsound, ⟨?_, rfl, ?_, Lane.holds_empty, rfl, rfl, rfl, rfl, rfl⟩⟩
  · rw [← hyields.state] at hshows
    exact hshows
  · have hlane : ({} : Lane).Holds link.addressLength (Ask.frame address) [] := Lane.holds_empty
    exact hlane.write hyields

theorem shows_run {actions : List Action} (h : u.Shows link widths address c)
    (hsound : c.Sound link widths address)
    (hfaithful : ∀ asdu ∈ actions.filterMap Action.asdu?, asdu.Faithful widths)
    (hkeeps : Keeps line actions u) (hrun : u.run actions = some u') :
    ∃ c', u'.Shows link widths address c' ∧ Moves line link widths address c c' := by
  -- The scene is found action by action; that it stays sound is carried along.
  induction actions generalizing u c with
  | nil =>
    obtain rfl : u = u' := by simpa [run] using hrun
    exact ⟨c, h, .none c⟩
  | cons action actions ih =>
    obtain ⟨v, hact, hrest⟩ := Option.bind_eq_some_iff.1 hrun
    have hfirst : ∀ asdu, action.asdu? = some asdu → asdu.Faithful widths := by
      intro asdu hasdu
      exact hfaithful asdu (List.mem_filterMap.2 ⟨action, List.mem_cons_self, hasdu⟩)
    obtain ⟨d, hshows, hmoves⟩ := h.act hsound hkeeps.1 hfirst hact
    have hothers : ∀ asdu ∈ actions.filterMap Action.asdu?, asdu.Faithful widths := by
      intro asdu hmem
      obtain ⟨other, hother, hasdu⟩ := List.mem_filterMap.1 hmem
      exact hfaithful asdu (List.mem_filterMap.2 ⟨other, List.mem_cons_of_mem _ hother, hasdu⟩)
    obtain ⟨c', hshows', hmoves'⟩ :=
      ih hshows (hmoves.keep Move.sound hsound) hothers (hkeeps.2 v hact) hrest
    exact ⟨c', hshows', hmoves.trans hmoves'⟩

end Unbalanced

end Telecontrol
