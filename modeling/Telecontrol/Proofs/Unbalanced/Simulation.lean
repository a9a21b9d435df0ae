import Telecontrol.Proofs.Asdu.RoundTrip
import Telecontrol.Proofs.Fallible
import Telecontrol.Proofs.Unbalanced.Letters

/-!
# From stations and octets to scenes

Every action of the system is a move of its scene, or two moves, or none. The stations never find
anything on the line but what the other one has written, and an exchange that has begun is told from
the one before by its frame.
-/

namespace Telecontrol

open Primary (Stage)

namespace Unbalanced.Lane

open FrameReader (Spells)

variable {α σ : Type} {addressLength : Nat} {frame : α → LinkFrame} {letters : List (Letter α)}
  {lane : Lane} {t : Turn σ LinkFrame} {s : σ} {asdus : List Asdu} {answers : List (Nat × Answer)}

/-- The letters are on their way, and nobody has hung up. -/
structure Holds (addressLength : Nat) (frame : α → LinkFrame) (letters : List (Letter α))
    (lane : Lane) : Prop where
  spells : (LinkFrame.reader addressLength).Spells (letters.map fun x => frame x.content)
    lane.channel.contents
  marks : lane.marks = letters.map Letter.mark
  ending : lane.channel.inbox.ending = none

lemma holds_empty : Holds addressLength frame [] {} := ⟨.nil, rfl, rfl⟩

lemma Holds.carry (h : lane.Holds addressLength frame letters) (count : Nat) :
    (lane.carry count).Holds addressLength frame letters := by
  refine ⟨?_, h.marks, h.ending⟩
  rw [Lane.carry, Channel.contents_carry]
  exact h.spells

lemma Holds.write {a : α} {mark : Mark} {lost : Bool} (h : lane.Holds addressLength frame letters)
    (ht : t.Yields addressLength s [frame a] asdus answers) :
    (lane.write mark lost t).Holds addressLength frame (post lost ⟨a, mark⟩ letters) := by
  cases lost with
  | true => exact h
  | false =>
    refine ⟨?_, ?_, h.ending⟩
    · change Spells _ _ (lane.channel.put t.octets).contents
      rw [Channel.contents_put]
      simpa [post] using h.spells.append ht.spells
    · change lane.marks ++ _ = _
      simp [h.marks, ht.written, post]

lemma Holds.writeNothing {mark : Mark} {lost : Bool} (h : lane.Holds addressLength frame letters)
    (ht : t.Yields addressLength s [] asdus answers) :
    (lane.write mark lost t).Holds addressLength frame letters := by
  cases lost with
  | true => exact h
  | false =>
    refine ⟨?_, ?_, h.ending⟩
    · change Spells _ _ (lane.channel.put t.octets).contents
      rw [Channel.contents_put]
      simpa using h.spells.append ht.spells
    · change lane.marks ++ _ = _
      simp [h.marks, ht.written]

lemma Holds.takeFrame {result : Except Fault LinkFrame} {inbox : Inbox}
    (h : lane.Holds addressLength frame letters)
    (htake : lane.channel.inbox.takeFrame (LinkFrame.reader addressLength) = some (result, inbox)) :
    ∃ x rest, letters = x :: rest ∧ result = .ok (frame x.content) ∧
      (lane.read inbox).Holds addressLength frame rest := by
  obtain ⟨a, others, hletters, rfl, hothers⟩ := h.spells.takeFrame (LinkFrame.reader_stable _) htake
  obtain ⟨x, rest, rfl, rfl, rfl⟩ := List.map_eq_cons_iff.1 hletters
  obtain ⟨found, -, heq⟩ := Option.map_eq_some_iff.1 htake
  have hinbox : inbox.ending = none := by
    rw [← (Prod.mk.inj heq).2]
    exact h.ending
  exact ⟨x, rest, rfl, rfl, hothers, by simp [Lane.read, h.marks], hinbox⟩

lemma Holds.take {arrival : Arrival LinkFrame} {inbox : Inbox}
    (h : lane.Holds addressLength frame letters)
    (htake : lane.channel.inbox.take (LinkFrame.reader addressLength) = some (arrival, inbox)) :
    ∃ x rest, letters = x :: rest ∧ arrival = .frame (frame x.content) ∧
      (lane.read inbox).Holds addressLength frame rest := by
  unfold Inbox.take at htake
  cases hfound : lane.channel.inbox.takeFrame (LinkFrame.reader addressLength) with
  | none => simp [hfound, Inbox.takeFrameEnd, Inbox.takeEnd, h.ending] at htake
  | some found =>
    obtain ⟨result, inbox'⟩ := found
    obtain ⟨x, rest, hletters, rfl, hread⟩ := h.takeFrame hfound
    rw [hfound] at htake
    obtain ⟨rfl, rfl⟩ : Arrival.frame (frame x.content) = arrival ∧ inbox' = inbox := by
      simpa using htake
    exact ⟨x, rest, hletters, rfl, hread⟩

lemma Holds.isEmpty (h : lane.Holds addressLength frame letters) :
    lane.channel.contents.isEmpty = true ↔ letters = [] := by
  rw [List.isEmpty_iff, h.spells.eq_nil_iff, List.map_eq_nil_iff]

end Unbalanced.Lane

/-! ## The primary -/

/-- The frame of the exchange that is under way at a stage. -/
def Primary.Stage.frame? (address : Nat) (fcb : Bool) : Stage → Option LinkFrame
  | .exchanging d _ => some (d.frame address fcb)
  | .idle _ | .asking _ => none

lemma Primary.Shows.frame?_eq {p : Primary} {link : LinkParameters} {widths : FieldWidths}
    {address : Nat} {fcb : Bool} {stage : Stage} (h : p.Shows link widths address fcb stage) :
    p.frame? = stage.frame? address fcb := by
  obtain ⟨peer, -, rfl, rfl, hat⟩ := h.peer
  unfold Primary.frame?
  generalize p.activity = activity at hat
  cases hat with
  | idle | asking => rfl
  | deliver x request asdu payload _ _ hframe => exact congrArg some hframe
  | poll x dataClass _ _ hframe => exact congrArg some hframe
  | drain x more context _ _ hframe => exact congrArg some hframe

lemma Primary.Shows.idle {p : Primary} {link : LinkParameters} {widths : FieldWidths}
    {address : Nat} {fcb : Bool} {stage : Stage} (h : p.Shows link widths address fcb stage)
    (hidle : p.isIdle = true) : ∃ active, stage = .idle active := by
  obtain ⟨peer, -, -, -, hat⟩ := h.peer
  unfold Primary.isIdle at hidle
  generalize p.activity = activity at hat hidle
  cases hat with
  | idle active => exact ⟨active, rfl⟩
  | _ => cases hidle

namespace Unbalanced

variable {line : Line} {link : LinkParameters} {widths : FieldWidths} {address : Nat}
  {c c' : Scene} {u u' : Unbalanced}

/-! ## Accounts of exchanges -/

section

variable {p : Primary} {t : Primary.Turn} {heard : Option Mark} {silent : Bool}
  {accounts : List Account} {frame frame' written : LinkFrame}

lemma settle_rest (hbefore : p.frame? = none) (hafter : t.state.frame? = none) :
    settle p t heard silent accounts = accounts := by
  simp [settle, hbefore, hafter]

lemma settle_begin (hbefore : p.frame? = none) (hafter : t.state.frame? = some frame)
    (hwritten : t.frames = [written]) :
    settle p t heard silent accounts = accounts ++ [{ quiet := silent, attempts := 1 }] := by
  simp [settle, hbefore, hafter, hwritten, List.modifyLast_concat]

lemma settle_again (hbefore : p.frame? = some frame) (hafter : t.state.frame? = some frame)
    (hwritten : t.frames = [written]) :
    settle p t heard silent accounts =
      accounts.modifyLast fun a => { a with attempts := a.attempts + 1 } := by
  simp [settle, hbefore, hafter, hwritten]

lemma settle_finish (hbefore : p.frame? = some frame) (hafter : t.state.frame? = none) :
    settle p t heard silent accounts =
      accounts.modifyLast fun a => { a with ended := true, answer := heard, reported := t.asdus } := by
  simp [settle, hbefore, hafter]

lemma settle_next (hbefore : p.frame? = some frame) (hafter : t.state.frame? = some frame')
    (hne : frame' ≠ frame) (hwritten : t.frames = [written]) :
    settle p t heard silent accounts =
      (accounts.modifyLast fun a => { a with ended := true, answer := heard, reported := t.asdus }) ++
        [{ quiet := silent, attempts := 1 }] := by
  simp [settle, hbefore, hafter, hne, hwritten, List.modifyLast_concat]

end

/-! ## Turns -/

/-- The system looks like the scene. -/
structure Shows (link : LinkParameters) (widths : FieldWidths) (address : Nat) (c : Scene)
    (u : Unbalanced) : Prop where
  primary : u.primary.Shows link widths address c.fcb c.stage
  secondary : u.secondary = c.secondary
  requests : u.requests.Holds link.addressLength (Ask.frame address) c.requests
  responses : u.responses.Holds link.addressLength id c.responses
  exchanges : u.exchanges = c.exchanges
  calls : u.calls = c.calls
  accepted : u.accepted = c.accepted
  received : u.received = c.received
  reported : u.reported = c.reported

lemma Shows.silent (h : u.Shows link widths address c) : u.silent = true ↔ c.Silent := by
  rw [Unbalanced.silent, Bool.and_eq_true, h.requests.isEmpty, h.responses.isEmpty, Scene.Silent]

section

variable {input : Primary.Input} {heard : Option Mark} {lost : Bool} {fcb : Bool} {stage : Stage}
  {asdus : List Asdu} {answers : List (Nat × Answer)} {exchanges : List Account} {mark : Mark}

lemma Shows.speak {a : Ask} (h : u.Shows link widths address c)
    (hleads : Primary.Leads link widths address fcb stage [a.frame address] asdus answers
      (u.primary.step ⟨u.now, none⟩ input))
    (hexchanges : ∀ t : Primary.Turn, t.state.frame? = stage.frame? address fcb →
      t.frames = [a.frame address] → t.asdus = asdus →
      settle u.primary t heard u.silent c.exchanges = exchanges)
    (hmark : mark = if (stage.frame? address fcb).isSome then some (exchanges.length - 1) else none)
    (hc : c' = { c with
      fcb, stage, exchanges
      requests := post lost ⟨a, mark⟩ c.requests
      calls := c.calls.modifyLast (Call.conclude answers)
      reported := c.reported ++ asdus }) :
    (u.prompt input heard lost).Shows link widths address c' := by
  obtain ⟨p, hshows, hyields⟩ := hleads
  have hframe : (u.primary.step ⟨u.now, none⟩ input).state.frame? = stage.frame? address fcb := by
    rw [hyields.state]
    exact hshows.frame?_eq
  have hsettle := hexchanges _ hframe hyields.written hyields.handed
  subst hc
  refine ⟨?_, h.secondary, ?_, h.responses, ?_, ?_, h.accepted, h.received, ?_⟩
  · change (u.primary.step ⟨u.now, none⟩ input).state.Shows _ _ _ _ _
    rwa [hyields.state]
  · simp only [prompt, hframe, h.exchanges, hsettle]
    rw [← hmark]
    exact h.requests.write hyields
  · simpa only [prompt, h.exchanges] using hsettle
  · simp only [prompt, h.calls, hyields.answered]
  · simp only [prompt, h.reported, hyields.handed]

lemma Shows.hush (h : u.Shows link widths address c)
    (hleads : Primary.Leads link widths address fcb stage [] asdus answers
      { u.primary.step ⟨u.now, none⟩ input with ending := none })
    (hexchanges : ∀ t : Primary.Turn, t.state.frame? = stage.frame? address fcb → t.asdus = asdus →
      settle u.primary t heard u.silent c.exchanges = exchanges)
    (hc : c' = { c with
      fcb, stage, exchanges
      calls := c.calls.modifyLast (Call.conclude answers)
      reported := c.reported ++ asdus }) :
    (u.prompt input heard lost).Shows link widths address c' := by
  obtain ⟨p, hshows, hyields⟩ := hleads
  have hstate : (u.primary.step ⟨u.now, none⟩ input).state = p := hyields.state
  have hhanded : (u.primary.step ⟨u.now, none⟩ input).asdus = asdus := hyields.handed
  have hanswered : (u.primary.step ⟨u.now, none⟩ input).answers = answers := hyields.answered
  have hframe : (u.primary.step ⟨u.now, none⟩ input).state.frame? = stage.frame? address fcb := by
    rw [hstate]
    exact hshows.frame?_eq
  have hsettle := hexchanges _ hframe hhanded
  subst hc
  refine ⟨?_, h.secondary, ?_, h.responses, ?_, ?_, h.accepted, h.received, ?_⟩
  · change (u.primary.step ⟨u.now, none⟩ input).state.Shows _ _ _ _ _
    rwa [hstate]
  · change (u.requests.write _ lost
      { u.primary.step ⟨u.now, none⟩ input with ending := none }).Holds _ _ _
    exact h.requests.writeNothing hyields
  · simpa only [prompt, h.exchanges] using hsettle
  · simp only [prompt, h.calls, hanswered]
  · simp only [prompt, h.reported, hhanded]

end

lemma leads_mended {frames : List LinkFrame} {asdus : List Asdu} {answers : List (Nat × Answer)}
    {fcb : Bool} {stage : Stage} {t : Primary.Turn}
    (h : Primary.Leads link widths address fcb stage frames asdus answers t) :
    Primary.Leads link widths address fcb stage frames asdus answers { t with ending := none } := by
  obtain ⟨p, hshows, hyields⟩ := h
  exact ⟨p, hshows, hyields.state, rfl, hyields.written, hyields.spells, hyields.handed,
    hyields.answered⟩

lemma Shows.begin {input : Primary.Input} {lost : Bool} {d : Demand}
    (h : u.Shows link widths address (c.callFor d)) (hstage : c.stage = .idle true)
    (hlost : line = .slow → lost = false) (hproper : d.Proper link.addressLength widths)
    (hleads : Primary.Leads link widths address (!c.fcb) (.exchanging d link.retries)
      [d.frame address (!c.fcb)] [] [] (u.primary.step ⟨u.now, none⟩ input)) :
    ∃ c', (u.prompt input none lost).Shows link widths address c' ∧
      Moves line link widths address c c' := by
  have hbefore : u.primary.frame? = Stage.frame? address c.fcb (.idle true) :=
    hstage ▸ h.primary.frame?_eq
  refine ⟨(c.callFor d).begin link d u.silent lost, ?_,
    .more (.begin hstage hproper h.silent hlost) (.none _)⟩
  refine h.speak (a := .demand d (!c.fcb)) hleads (fun t hafter hwritten _ =>
    settle_begin hbefore hafter hwritten) rfl ?_
  simp [Scene.begin, Scene.callFor, conclude_nil, Stage.frame?]

lemma Shows.send {receiver request : Nat} {asdu : Asdu} {payload : Octets} {lost : Bool}
    (h : u.Shows link widths address c) (hfits : address ≤ maxLinkAddress link.addressLength)
    (hlost : line = .slow → lost = false) (hidle : u.primary.isIdle = true)
    (hproper : (Demand.deliver request asdu payload).Proper link.addressLength widths) :
    ∃ c', ((u.call asdu request).prompt (.command (.userData receiver payload request)) none
        lost).Shows link widths address c' ∧ Moves line link widths address c c' := by
  obtain ⟨active, hstage⟩ := h.primary.idle hidle
  have hcalled : (u.call asdu request).Shows link widths address
      (c.callFor (.deliver request asdu payload)) :=
    { h with calls := congrArg (· ++ _) h.calls }
  have hprimary := h.primary
  rw [hstage] at hprimary
  obtain ⟨rfl, hleads⟩ | ⟨fault, hfault, hleads⟩ :=
    Primary.step_send receiver (m := ⟨u.now, none⟩) rfl hfits hproper hprimary
  · exact hcalled.begin hstage hlost hproper hleads
  · have hbefore := hprimary.frame?_eq
    refine ⟨{ c with calls := c.calls ++ [⟨request, asdu, [], some (.refused fault)⟩] }, ?_,
      .more (.refuse hstage ?_) (.none _)⟩
    · refine hcalled.hush (leads_mended hleads) (fun t hafter _ => settle_rest hbefore hafter) ?_
      simp [Scene.callFor, Demand.calls, Call.conclude, hstage, List.modifyLast_concat]
    · obtain rfl | rfl := hfault
      · exact .inl rfl
      · exact .inr ⟨receiver, rfl⟩

lemma Shows.takeResponse {input : Primary.Input} {inbox : Inbox}
    (h : u.Shows link widths address c)
    (htake : u.primary.take u.responses.channel.inbox = some (input, inbox)) :
    ∃ x rest, c.responses = x :: rest ∧ input = .frame x.content ∧
      u.responses.marks.head? = some x.mark ∧
      ({ u with responses := u.responses.read inbox } : Unbalanced).Shows link widths address
        c.pop := by
  unfold Primary.take at htake
  rw [h.primary.link] at htake
  cases hfound : u.responses.channel.inbox.take (LinkFrame.reader link.addressLength) with
  | none => simp [hfound] at htake
  | some found =>
    obtain ⟨arrival, inbox'⟩ := found
    obtain ⟨x, rest, hresponses, rfl, hread⟩ := h.responses.take hfound
    rw [hfound] at htake
    obtain ⟨rfl, rfl⟩ : Primary.Input.frame x.content = input ∧ inbox' = inbox := by
      simpa using htake
    refine ⟨x, rest, hresponses, rfl, ?_, { h with responses := ?_ }⟩
    · rw [h.responses.marks, hresponses]
      rfl
    · rw [Scene.pop, hresponses]
      exact hread

lemma Shows.hear {input : Primary.Input} {inbox : Inbox} {lost : Bool}
    (h : u.Shows link widths address c) (hsound : c.Sound link widths address)
    (hlost : line = .slow → lost = false)
    (htake : u.primary.take u.responses.channel.inbox = some (input, inbox)) :
    ∃ c', ({ u with responses := u.responses.read inbox }.prompt input u.responses.marks.head?
        lost).Shows link widths address c' ∧ Moves line link widths address c c' := by
  obtain ⟨x, rest, hresponses, rfl, hheard, hpopped⟩ := h.takeResponse htake
  have hframe := hsound.responses x (by simp [hresponses])
  have hfits := hsound.fits
  have hprimary := h.primary
  have hbefore := hprimary.frame?_eq
  rw [hheard]
  cases hstage : c.stage with
  | idle active =>
    rw [hstage] at hprimary hbefore
    refine ⟨c.pop, ?_, .more (.drop (by simp [hstage]) hresponses) (.none _)⟩
    refine hpopped.hush (leads_mended (Primary.step_dropped hprimary))
      (fun t hafter _ => settle_rest hbefore hafter) ?_
    simp [Scene.pop, conclude_nil, hstage]
  | asking s =>
    rw [hstage] at hprimary hbefore
    obtain hleads | ⟨rfl, hleads⟩ | ⟨rfl, answers, hleads⟩ :=
      Primary.step_answered (m := ⟨u.now, none⟩) rfl hfits hframe hprimary
    · refine ⟨c.pop, ?_, .more (.drop (by simp [hstage]) hresponses) (.none _)⟩
      refine hpopped.hush (leads_mended hleads) (fun t hafter _ => settle_rest hbefore hafter) ?_
      simp [Scene.pop, conclude_nil, hstage]
    · refine ⟨_, ?_, .more (.known hstage hresponses hlost) (.none _)⟩
      refine hpopped.speak (a := .step .reset) hleads
        (fun t hafter _ _ => settle_rest hbefore hafter) rfl ?_
      simp [Scene.pop, Scene.ask, conclude_nil, Stage.frame?]
    · have hmove : Move line link widths address c
          { c.pop with stage := .idle true, calls := c.calls.modifyLast (Call.conclude answers) } :=
        .up hstage hresponses
      refine ⟨_, ?_, .more hmove (.none _)⟩
      refine hpopped.hush (leads_mended hleads) (fun t hafter _ => settle_rest hbefore hafter) ?_
      simp [Scene.pop]
  | exchanging d repeats =>
    rw [hstage] at hprimary hbefore
    obtain hleads | hleads :=
      Primary.step_responded (m := ⟨u.now, none⟩) rfl hfits hframe hprimary
    · refine ⟨_, ?_, .more (.conclude hstage hresponses) (.none _)⟩
      refine hpopped.hush (leads_mended hleads) (fun t hafter hhanded => ?_) rfl
      rw [settle_finish hbefore hafter, hhanded]
    · let v : Unbalanced := { u with responses := u.responses.read inbox }
      let c₁ := c.pop.finish (some x.mark) true (d.reported widths x.content) (d.concluded x.content)
      have hproper : (Demand.fetch .class1).Proper link.addressLength widths := trivial
      have hsettle : ∀ t : Primary.Turn,
          t.state.frame? = Stage.frame? address (!c.fcb) (.exchanging (.fetch .class1) link.retries) →
          t.frames = [(Demand.fetch .class1).frame address (!c.fcb)] →
          t.asdus = d.reported widths x.content →
          settle v.primary t (some x.mark) v.silent c.pop.exchanges =
            c₁.exchanges ++ [{ quiet := v.silent, attempts := 1 }] := by
        intro t hafter hwritten hhanded
        rw [settle_next hbefore hafter (Ne.symm Demand.frame_ne) hwritten, hhanded]
        rfl
      refine ⟨(c₁.callFor (.fetch .class1)).begin link (.fetch .class1) v.silent lost, ?_,
        .more (.conclude hstage hresponses) (.more (.begin rfl hproper hpopped.silent hlost)
          (.none _))⟩
      refine hpopped.speak (a := .demand (.fetch .class1) (!c.fcb)) hleads hsettle rfl ?_
      simp [c₁, Scene.begin, Scene.callFor, Scene.finish, Scene.pop, Demand.calls, Stage.frame?]

lemma supply_nothing (mark : Mark) (c : Scene) : c.supply mark [] [] = c := by
  cases mark with
  | none => simp [Scene.supply, witness_nil]
  | some number =>
    simp only [Scene.supply, witness_nil, List.append_nil]
    change { c with exchanges := c.exchanges.modify number id } = c
    rw [List.modify_id]

lemma Shows.reply {input : Secondary.Input} {s : Secondary} {r : LinkFrame} {asdus : List Asdu}
    (mark : Mark) (lost : Bool)
    (h : u.Shows link widths address { c with requests := c.requests.tail })
    (hyields : (c.secondary.step ⟨u.now, none⟩ input).Yields link.addressLength s [r] asdus []) :
    (u.reply input mark lost).Shows link widths address
      ((c.respond mark s r lost).supply mark (c.secondary.taken s) asdus) := by
  rw [← show u.secondary = c.secondary from h.secondary] at hyields ⊢
  refine ⟨h.primary, hyields.state, h.requests, h.responses.write hyields, ?_, ?_, h.accepted, ?_,
    h.reported⟩
  · cases mark with
    | none => exact h.exchanges
    | some number =>
      have htaken : u.exchanges.modify number (fun a => { a with
            taken := a.taken ++ u.secondary.taken (u.secondary.step ⟨u.now, none⟩ input).state }) =
          c.exchanges.modify number fun a => { a with taken := a.taken ++ u.secondary.taken s } := by
        rw [hyields.state, h.exchanges]
      exact htaken
  · simp only [Unbalanced.reply, Scene.supply, Scene.respond, h.calls, hyields.handed]
  · simp only [Unbalanced.reply, Scene.supply, Scene.respond, h.received, hyields.handed]

lemma Shows.takeRequest {input : Secondary.Input} {inbox : Inbox}
    (h : u.Shows link widths address c) (hsound : c.Sound link widths address)
    (htake : u.secondary.take u.requests.channel.inbox = some (input, inbox)) :
    ∃ x rest, c.requests = x :: rest ∧ input = .frame (x.content.frame address) ∧
      u.requests.marks.head?.join = x.mark ∧
      ({ u with requests := u.requests.read inbox } : Unbalanced).Shows link widths address
        { c with requests := c.requests.tail } := by
  unfold Secondary.take at htake
  rw [h.secondary, hsound.parameters.2.1] at htake
  cases hfound : u.requests.channel.inbox.takeFrame (LinkFrame.reader link.addressLength) with
  | none => simp [hfound, Inbox.takeEnd, h.requests.ending] at htake
  | some found =>
    obtain ⟨result, inbox'⟩ := found
    obtain ⟨x, rest, hrequests, rfl, hread⟩ := h.requests.takeFrame hfound
    rw [hfound] at htake
    obtain ⟨rfl, rfl⟩ : Secondary.Input.frame (x.content.frame address) = input ∧
        inbox' = inbox := by
      simpa using htake
    refine ⟨x, rest, hrequests, rfl, ?_, { h with requests := ?_ }⟩
    · rw [h.requests.marks, hrequests]
      rfl
    · rw [hrequests]
      exact hread

lemma Shows.serve {input : Secondary.Input} {inbox : Inbox} {lost : Bool}
    (h : u.Shows link widths address c) (hsound : c.Sound link widths address)
    (hlost : line = .slow → lost = false)
    (htake : u.secondary.take u.requests.channel.inbox = some (input, inbox)) :
    ∃ c', ({ u with requests := u.requests.read inbox }.reply input u.requests.marks.head?.join
        lost).Shows link widths address c' ∧ Moves line link widths address c c' := by
  have hs := hsound.secondary
  obtain ⟨x, rest, hrequests, rfl, hmark, hpopped⟩ := h.takeRequest hsound htake
  obtain ⟨rfl, rfl, rfl⟩ := hsound.parameters
  rw [hmark]
  obtain ⟨content, mark⟩ := x
  rcases content with (_ | _) | ⟨d, fcb⟩
  · obtain ⟨r, hanswers, hyields⟩ := Secondary.step_status (m := ⟨u.now, none⟩) hs rfl
    have hafter := hpopped.reply mark lost hyields
    rw [Secondary.taken_self, supply_nothing] at hafter
    exact ⟨_, hafter, .more (.told hrequests hanswers hlost) (.none _)⟩
  · obtain ⟨r, s, hanswers, hsame, hsound', hfcb, hqueue, hyields⟩ :=
      Secondary.step_reset (m := ⟨u.now, none⟩) hs rfl
    have hafter := hpopped.reply mark lost hyields
    rw [Secondary.taken_eq_nil hqueue, supply_nothing] at hafter
    exact ⟨_, hafter, .more (.reset hrequests hanswers hsame hsound' hfcb
      (Secondary.waiting_eq hsame hqueue) hlost) (.none _)⟩
  · have hproper := hsound.requests d fcb mark (by simp [hrequests])
    by_cases hlast : c.secondary.lastFcb = some fcb
    · obtain ⟨r, hkept, hanswers⟩ := hs.kept fcb hlast
      have hyields := Secondary.step_again (m := ⟨u.now, none⟩) hs rfl d hlast hkept
      have hafter := hpopped.reply mark lost hyields
      rw [Secondary.taken_self, supply_nothing] at hafter
      exact ⟨_, hafter, .more (.repeated hrequests hlast hkept hlost) (.none _)⟩
    · obtain ⟨r, s, hserves, hyields⟩ :=
        Secondary.step_fresh (m := ⟨u.now, none⟩) hs rfl hproper hlast
      have hafter := hpopped.reply mark lost hyields
      rw [hserves.taken] at hafter
      exact ⟨_, hafter, .more (.served hrequests hlast hserves hlost) (.none _)⟩

lemma Shows.expire {due : Nat} {lost : Bool} (h : u.Shows link widths address c)
    (hsound : c.Sound link widths address) (hlost : line = .slow → lost = false)
    (hsilent : line = .lossy → c.Silent) (hdue : u.primary.deadline = some due) :
    ∃ c', (u.prompt .deadline none lost).Shows link widths address c' ∧
      Moves line link widths address c c' := by
  have hfits := hsound.fits
  have hprimary := h.primary
  have hbefore := hprimary.frame?_eq
  cases hstage : c.stage with
  | idle active =>
    rw [hstage] at hprimary hbefore
    obtain ⟨rfl, dataClass, hleads⟩ | ⟨rfl, hleads⟩ :=
      Primary.step_cycle (m := ⟨u.now, none⟩) rfl hfits hdue hprimary
    · have hcalled : u.Shows link widths address (c.callFor (.fetch dataClass)) := by
        refine { h with calls := ?_ }
        simp [Scene.callFor, Demand.calls, h.calls]
      exact hcalled.begin hstage hlost trivial hleads
    · refine ⟨_, ?_, .more (.ask hstage hlost hsilent) (.none _)⟩
      refine h.speak (a := .step .status) hleads
        (fun t hafter _ _ => settle_rest hbefore hafter) rfl ?_
      simp [Scene.ask, conclude_nil, Stage.frame?]
  | asking s =>
    rw [hstage] at hprimary hbefore
    obtain hleads | hleads | ⟨answers, -, hleads⟩ :=
      Primary.step_unanswered (m := ⟨u.now, none⟩) rfl hfits hprimary
    · refine ⟨_, ?_, .more (.askAgain hstage hlost hsilent) (.none _)⟩
      refine h.speak (a := .step s) hleads (fun t hafter _ _ => settle_rest hbefore hafter) rfl ?_
      simp [Scene.ask, conclude_nil, Stage.frame?, hstage]
    · refine ⟨_, ?_, .more (.giveUp hstage hsilent) (.none _)⟩
      refine h.hush (leads_mended hleads) (fun t hafter _ => settle_rest hbefore hafter) ?_
      simp [conclude_nil]
    · have hmove : Move line link widths address c
          { c with calls := c.calls.modifyLast (Call.conclude answers) } := .fail hstage
      refine ⟨_, ?_, .more hmove (.none _)⟩
      refine h.hush hleads (fun t hafter _ => settle_rest hbefore hafter) ?_
      simp [hstage]
  | exchanging d repeats =>
    rw [hstage] at hprimary hbefore
    have hproper := hsound.stage d repeats hstage
    obtain ⟨left, rfl, hleads⟩ | ⟨rfl, hleads⟩ :=
      Primary.step_missed (m := ⟨u.now, none⟩) rfl hfits hproper hprimary
    · refine ⟨_, ?_, .more (.again hstage hlost hsilent) (.none _)⟩
      refine h.speak (a := .demand d c.fcb) hleads
        (fun t hafter hwritten _ => settle_again hbefore hafter hwritten) rfl ?_
      simp [Scene.again, Scene.current, conclude_nil, length_modifyLast, Stage.frame?]
    · refine ⟨_, ?_, .more (.exhaust hstage hsilent) (.none _)⟩
      refine h.hush (leads_mended hleads) (fun t hafter hhanded => ?_) rfl
      rw [settle_finish hbefore hafter, hhanded]

end Unbalanced

end Telecontrol
