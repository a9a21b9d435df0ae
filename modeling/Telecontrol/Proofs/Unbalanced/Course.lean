import Telecontrol.Proofs.Unbalanced.Letters

/-!
# The course of an exchange

What the frame count bit brings about. As long as every exchange begins on a quiet line, all numbered
requests on the line are copies of the one of the last exchange, and the secondary has either served
it, and has its bit, or not. When a link is up, the next exchange has a bit that the secondary does
not remember.
-/

namespace Telecontrol.Unbalanced

open Primary (HandshakeStep Stage)

variable {line : Line} {link : LinkParameters} {widths : FieldWidths} {address : Nat}
  {c c' : Scene} {a : Account} {past : List Account}

/-! ## The frame count bit -/

/-- The bit that the secondary remembers after a request, given the one before. -/
def Ask.leaves (last : Option Bool) : Ask → Option Bool
  | step .status => last
  | step .reset => none
  | demand _ fcb => some fcb

/-- The bit that the secondary remembers after all requests on the line. -/
def lastAfter (last : Option Bool) (requests : List (Letter Ask)) : Option Bool :=
  requests.foldl (fun last q => q.content.leaves last) last

lemma lastAfter_post (last : Option Bool) (requests : List (Letter Ask)) (q : Letter Ask) :
    lastAfter last (requests ++ [q]) = q.content.leaves (lastAfter last requests) := by
  simp [lastAfter]

lemma lastAfter_reset (last : Option Bool) (requests : List (Letter Ask)) (mark : Mark) :
    lastAfter last (post false ⟨.step .reset, mark⟩ requests) = none :=
  lastAfter_post last requests _

lemma lastAfter_copies {requests : List (Letter Ask)} {d : Demand} {fcb : Bool} {mark : Mark}
    (h : ∀ q ∈ requests, q = ⟨.demand d fcb, mark⟩) : lastAfter (some fcb) requests = some fcb := by
  induction requests with
  | nil => rfl
  | cons q rest ih =>
    obtain rfl := h q List.mem_cons_self
    exact ih fun q hmem => h q (List.mem_cons_of_mem _ hmem)

/-! ## Accounts -/

/-- The exchange has been given up after all its attempts. -/
structure Account.Exhausted (link : LinkParameters) (a : Account) : Prop where
  reported : a.reported = []
  answer : a.answer = none
  attempts : a.attempts = link.retries + 1

/-- The exchange is over, and what was taken has been handed out unless it was given up. -/
def Account.Settled (link : LinkParameters) (a : Account) : Prop :=
  a.ended = true ∧ (a.reported = a.taken ∨ a.Exhausted link)

/-- The exchange is under way, and its frame may be repeated so many times. -/
structure Account.Open (link : LinkParameters) (repeats : Nat) (a : Account) : Prop where
  going : a.ended = false
  reported : a.reported = []
  answer : a.answer = none
  attempts : a.attempts + repeats = link.retries + 1

/-- What the secondary has done for an exchange that is under way: nothing, or it has served it and
keeps the response. -/
inductive Scene.Progress (widths : FieldWidths) (d : Demand) (a : Account) (c : Scene) : Prop
  | waiting (htaken : a.taken = []) (hfcb : c.secondary.lastFcb ≠ some c.fcb)
    (hresponses : c.responses = [])
  | served (r : LinkFrame) (htaken : a.taken = r.asdus widths)
    (hfcb : c.secondary.lastFcb = some c.fcb) (hkept : c.secondary.lastResponse = some r)
    (hresponses : ∀ x ∈ c.responses, x.content = r)
    (hack : ∀ request asdu payload, d = .deliver request asdu payload → r.isAck)

/-- Where the last exchange stands. When it is over, copies of its frame may be on the line before
the requests of handshakes; they are not served afresh unless it was given up. -/
inductive Scene.Course (link : LinkParameters) (widths : FieldWidths) (c : Scene) : Prop
  | fresh (hstage : ∀ d repeats, c.stage ≠ .exchanging d repeats) (hexchanges : c.exchanges = [])
    (hrequests : ∀ q ∈ c.requests, ∃ s, q = ⟨.step s, none⟩)
  | going (past : List Account) (a : Account) (d : Demand) (repeats : Nat)
    (hstage : c.stage = .exchanging d repeats) (hexchanges : c.exchanges = past ++ [a])
    (hpast : ∀ b ∈ past, b.Settled link)
    (hrequests : ∀ q ∈ c.requests, q = ⟨.demand d c.fcb, some past.length⟩)
    (hopen : a.Open link repeats) (hprogress : c.Progress widths d a)
  | ended (past : List Account) (a : Account) (d : Demand) (fcb : Bool)
    (copies steps : List (Letter Ask)) (hstage : ∀ d repeats, c.stage ≠ .exchanging d repeats)
    (hexchanges : c.exchanges = past ++ [a]) (hpast : ∀ b ∈ past, b.Settled link)
    (hrequests : c.requests = copies ++ steps)
    (hcopies : ∀ q ∈ copies, q = ⟨.demand d fcb, some past.length⟩)
    (hsteps : ∀ q ∈ steps, ∃ s, q = ⟨.step s, none⟩) (hsettled : a.Settled link)
    (hserved : (a.Exhausted link ∧ a.taken = [] ∧ c.secondary.lastFcb ≠ some fcb) ∨
      (copies ≠ [] → c.secondary.lastFcb = some fcb))

lemma Scene.Course.underWay {d : Demand} {repeats : Nat} (hc : c.Course link widths)
    (hstage : c.stage = .exchanging d repeats) :
    ∃ past a, c.exchanges = past ++ [a] ∧ (∀ b ∈ past, b.Settled link) ∧
      (∀ q ∈ c.requests, q = ⟨.demand d c.fcb, some past.length⟩) ∧ a.Open link repeats ∧
      c.Progress widths d a := by
  cases hc with
  | fresh hrests => exact absurd hstage (hrests _ _)
  | ended _ _ _ _ _ _ hrests => exact absurd hstage (hrests _ _)
  | going past a d' repeats' hgoing hlast hpast hrequests hopen hprogress =>
    rw [hstage] at hgoing
    cases hgoing
    exact ⟨past, a, hlast, hpast, hrequests, hopen, hprogress⟩

lemma Scene.Progress.heard {d : Demand} {r : Letter LinkFrame} {rest : List (Letter LinkFrame)}
    (h : c.Progress widths d a) (hresponses : c.responses = r :: rest) :
    a.taken = r.content.asdus widths ∧ c.secondary.lastFcb = some c.fcb ∧
      ∀ request asdu payload, d = .deliver request asdu payload → r.content.isAck := by
  cases h with
  | waiting _ _ hnone =>
    rw [hnone] at hresponses
    cases hresponses
  | served r' htaken hfcb _ hall hack =>
    obtain rfl : r.content = r' := hall r (by simp [hresponses])
    exact ⟨htaken, hfcb, hack⟩

/-- The next exchange of a link that is up has a bit that the secondary does not remember. -/
structure Scene.Numbered (line : Line) (c : Scene) : Prop where
  active : c.stage = .idle true → lastAfter c.secondary.lastFcb c.requests ≠ some (!c.fcb)
  reset : c.stage = .asking .reset → line = .slow ∨ c.responses ≠ [] →
    lastAfter c.secondary.lastFcb c.requests ≠ some (!c.fcb)

/-! ## The next bit -/

lemma Scene.Numbered.respond {q : Letter Ask} {rest : List (Letter Ask)} {mark : Mark}
    {s : Secondary} {r : LinkFrame} {lost : Bool} (hc : c.Numbered line)
    (hpaced : line = .lossy → c.Paced) (hrequests : c.requests = q :: rest)
    (hs : s.lastFcb = q.content.leaves c.secondary.lastFcb) :
    (c.respond mark s r lost).Numbered line := by
  have hafter : lastAfter s.lastFcb rest = lastAfter c.secondary.lastFcb c.requests := by
    rw [hrequests, hs]
    rfl
  have htail : (c.respond mark s r lost).requests = rest := by simp [Scene.respond, hrequests]
  refine ⟨fun hstage => ?_, fun hstage _ => ?_⟩
  · rw [htail]
    exact hafter ▸ hc.active hstage
  · rw [htail]
    cases line with
    | slow => exact hafter ▸ hc.reset hstage (.inl rfl)
    | lossy =>
      have hreset := (hpaced rfl).asking .reset hstage q (by rw [hrequests]; exact List.mem_cons_self)
      have hfew := (hpaced rfl).few
      rw [hrequests, List.length_cons] at hfew
      obtain rfl : rest = [] := List.eq_nil_of_length_eq_zero (by omega)
      rw [hreset] at hs
      change lastAfter s.lastFcb [] ≠ _
      rw [hs]
      simp [lastAfter, Ask.leaves]

/-- The secondary will have forgotten the bit when a response to a reset comes. -/
lemma reset_forgotten {responses : List (Letter LinkFrame)} {requests : List (Letter Ask)}
    {last : Option Bool} {fcb lost : Bool} (hlost : line = .slow → lost = false)
    (hnone : line = .lossy → responses = []) (hheard : line = .slow ∨ responses ≠ []) :
    lastAfter last (post lost ⟨.step .reset, none⟩ requests) ≠ some fcb := by
  cases line with
  | slow =>
    obtain rfl := hlost rfl
    rw [lastAfter_reset]
    simp
  | lossy =>
    obtain hslow | hsome := hheard
    · cases hslow
    · exact absurd (hnone rfl) hsome

lemma Move.numbered (h : Move line link widths address c c') (hc : c.Numbered line)
    (hcourse : c.Course link widths) (hpaced : line = .lossy → c.Paced) : c'.Numbered line := by
  cases h with
  | ask hstage _ hsilent => exact ⟨by simp, by simp⟩
  | @askAgain s lost hstage hlost hsilent =>
    have hasking : (c.ask (.step s) none lost).stage = .asking s := hstage
    refine ⟨by simp [hasking], fun hreset hheard => ?_⟩
    obtain rfl : s = .reset := by simpa [hasking] using hreset
    exact reset_forgotten hlost (fun hline => (hsilent hline).2) hheard
  | giveUp hstage hsilent => exact ⟨by simp, by simp⟩
  | known hstage hresponses hlost =>
    refine ⟨by simp, fun _ hheard => ?_⟩
    exact reset_forgotten hlost (fun hline => ((hpaced hline).pop hresponses).2) hheard
  | up hstage hresponses =>
    refine ⟨fun _ => ?_, by simp⟩
    exact hc.reset hstage (.inr (by simp [hresponses]))
  | fail => exact ⟨hc.active, hc.reset⟩
  | drop hstage hresponses =>
    refine ⟨hc.active, fun hreset _ => ?_⟩
    exact hc.reset hreset (.inr (by simp [hresponses]))
  | begin hstage hproper hquiet _ => exact ⟨by simp [Scene.begin], by simp [Scene.begin]⟩
  | again hstage _ hsilent => exact ⟨by simp [Scene.again], by simp [Scene.again]⟩
  | exhaust hstage hsilent => exact ⟨by simp [Scene.finish], by simp [Scene.finish]⟩
  | conclude hstage hresponses =>
    -- All requests on the line are copies that carry the bit of the exchange, so none changes it.
    refine ⟨fun _ => ?_, by simp [Scene.finish]⟩
    obtain ⟨past, a, -, -, hrequests, -, hprogress⟩ := hcourse.underWay hstage
    obtain ⟨-, hfcb, -⟩ := hprogress.heard hresponses
    change lastAfter c.secondary.lastFcb c.requests ≠ some (!c.fcb)
    rw [hfcb, lastAfter_copies hrequests]
    simp
  | refuse hstage => exact ⟨hc.active, hc.reset⟩
  | repeated hrequests hfcb hkept _ => exact hc.respond hpaced hrequests hfcb
  | @served d fcb mark rest r s lost hrequests hfcb hserves _ =>
    have hafter : (c.respond mark s r lost).Numbered line :=
      hc.respond hpaced hrequests hserves.numbered
    exact ⟨hafter.active, hafter.reset⟩
  | told hrequests hanswers _ => exact hc.respond hpaced hrequests rfl
  | reset hrequests hanswers hsame hsound hfcb _ _ => exact hc.respond hpaced hrequests hfcb
  | queue hsame hsound hfcb =>
    refine ⟨fun hstage => ?_, fun hstage hheard => ?_⟩
    · rw [hfcb]
      exact hc.active hstage
    · rw [hfcb]
      exact hc.reset hstage hheard

/-! ## The last exchange -/

lemma steps_post {requests : List (Letter Ask)} {step : HandshakeStep} {lost : Bool}
    (h : ∀ q ∈ requests, ∃ s, q = ⟨.step s, none⟩) :
    ∀ q ∈ post lost ⟨.step step, none⟩ requests, ∃ s, q = ⟨.step s, none⟩ := by
  intro q hmem
  obtain hmem | rfl := mem_post hmem
  · exact h q hmem
  · exact ⟨step, rfl⟩

lemma post_append {α : Type} (lost : Bool) (x : Letter α) (first second : List (Letter α)) :
    post lost x (first ++ second) = first ++ post lost x second := by
  cases lost <;> simp [post]

lemma Scene.Course.ask {step : HandshakeStep} {lost : Bool} (hc : c.Course link widths)
    (hrests : ∀ d repeats, c.stage ≠ .exchanging d repeats)
    (hrests' : ∀ d repeats, c'.stage ≠ .exchanging d repeats)
    (hexchanges : c'.exchanges = c.exchanges) (hsecondary : c'.secondary = c.secondary)
    (hrequests : c'.requests = post lost ⟨.step step, none⟩ c.requests) :
    c'.Course link widths := by
  cases hc with
  | going _ _ d repeats hstage => exact absurd hstage (hrests d repeats)
  | fresh _ hnone hsteps =>
    refine .fresh hrests' (hexchanges.trans hnone) ?_
    rw [hrequests]
    exact steps_post hsteps
  | ended past a d fcb copies steps _ hlast hpast hsplit hcopies hsteps hsettled hserved =>
    refine .ended past a d fcb copies (post lost ⟨.step step, none⟩ steps) hrests'
      (hexchanges.trans hlast) hpast ?_ hcopies (steps_post hsteps) hsettled ?_
    · rw [hrequests, hsplit, post_append]
    · rw [hsecondary]
      exact hserved

lemma Scene.Course.rest (hc : c.Course link widths)
    (hrests : ∀ d repeats, c.stage ≠ .exchanging d repeats)
    (hrests' : ∀ d repeats, c'.stage ≠ .exchanging d repeats)
    (hexchanges : c'.exchanges = c.exchanges) (hsecondary : c'.secondary = c.secondary)
    (hrequests : c'.requests = c.requests) : c'.Course link widths := by
  have hnothing : c'.requests = post true ⟨.step .status, none⟩ c.requests := hrequests
  exact hc.ask hrests hrests' hexchanges hsecondary hnothing

lemma Scene.Course.respondStep {step : HandshakeStep} {mark : Mark} {rest : List (Letter Ask)}
    {s : Secondary} {r : LinkFrame} {lost : Bool} (hc : c.Course link widths)
    (hrequests : c.requests = ⟨.step step, mark⟩ :: rest)
    (hs : s.lastFcb = c.secondary.lastFcb ∨ s.lastFcb = none) :
    (c.respond mark s r lost).Course link widths := by
  have htail : (c.respond mark s r lost).requests = rest := by simp [Scene.respond, hrequests]
  cases hc with
  | going past a d repeats _ _ _ hcopies =>
    rw [hrequests] at hcopies
    have hhead := hcopies _ List.mem_cons_self
    simp at hhead
  | fresh hrests hnone hsteps =>
    refine .fresh hrests hnone ?_
    rw [htail]
    rw [hrequests] at hsteps
    exact fun q hmem => hsteps q (List.mem_cons_of_mem _ hmem)
  | ended past a d fcb copies steps hrests hlast hpast hsplit hcopies hsteps hsettled hserved =>
    cases copies with
    | cons q copies =>
      obtain rfl := hcopies q List.mem_cons_self
      rw [hrequests] at hsplit
      simp at hsplit
    | nil =>
      rw [hrequests, List.nil_append] at hsplit
      subst hsplit
      refine .ended past a d fcb [] rest hrests hlast hpast htail (by simp)
        (fun q hmem => hsteps q (List.mem_cons_of_mem _ hmem)) hsettled ?_
      rcases hserved with ⟨hexhausted, htaken, hfcb⟩ | _
      · refine .inl ⟨hexhausted, htaken, ?_⟩
        obtain hs | hs := hs
        · exact hs ▸ hfcb
        · simp [Scene.respond, hs]
      · exact .inr fun h => absurd rfl h

lemma Scene.Course.begin {d : Demand} {lost : Bool} (hc : c.Course link widths)
    (hstage : c.stage = .idle true) (hsilent : c.Silent)
    (hfcb : c.secondary.lastFcb ≠ some (!c.fcb)) :
    ((c.callFor d).begin link d true lost).Course link widths := by
  have hpast : ∀ b ∈ c.exchanges, b.Settled link := by
    cases hc with
    | going _ _ d repeats hgoing =>
      rw [hstage] at hgoing
      cases hgoing
    | fresh _ hnone => simp [hnone]
    | ended past a _ _ _ _ _ hlast hpast _ _ _ hsettled =>
      intro b hmem
      rw [hlast, List.mem_append, List.mem_singleton] at hmem
      rcases hmem with hmem | rfl
      · exact hpast b hmem
      · exact hsettled
  refine .going c.exchanges { quiet := true, attempts := 1 } d link.retries rfl rfl hpast ?_
    ⟨rfl, rfl, rfl, Nat.add_comm 1 _⟩ (.waiting rfl hfcb hsilent.2)
  intro q hmem
  obtain hmem | rfl := mem_post hmem
  · have hnone : c.requests = [] := hsilent.1
    rw [show (c.callFor d).requests = c.requests from rfl, hnone] at hmem
    cases hmem
  · rfl

lemma Scene.Course.again {d : Demand} {repeats : Nat} {lost : Bool} (hc : c.Course link widths)
    (hstage : c.stage = .exchanging d (repeats + 1)) :
    (c.again d repeats lost).Course link widths := by
  obtain ⟨past, a, hlast, hpast, hrequests, hopen, hprogress⟩ := hc.underWay hstage
  have hattempts := hopen.attempts
  refine .going past { a with attempts := a.attempts + 1 } d repeats rfl ?_ hpast ?_
    ⟨hopen.going, hopen.reported, hopen.answer, ?_⟩ ?_
  · simp only [Scene.again, hlast, List.modifyLast_concat]
  · intro q hmem
    obtain hmem | rfl := mem_post hmem
    · exact hrequests q hmem
    · simp [Scene.current, Scene.again, hlast]
  · dsimp only
    omega
  · cases hprogress with
    | waiting htaken hfcb hresponses => exact .waiting htaken hfcb hresponses
    | served r htaken hfcb hkept hresponses hack =>
      exact .served r htaken hfcb hkept hresponses hack

lemma LinkFrame.asdus_of_isAck {r : LinkFrame} (h : r.isAck = true) : r.asdus widths = [] := by
  cases r with
  | userData control address payload => cases h
  | _ => rfl

lemma reported_eq {d : Demand} {r : LinkFrame}
    (hack : ∀ request asdu payload, d = .deliver request asdu payload → r.isAck) :
    d.reported widths r = r.asdus widths := by
  cases d with
  | deliver request asdu payload => exact (LinkFrame.asdus_of_isAck (hack _ _ _ rfl)).symm
  | fetch dataClass => rfl

lemma Scene.Course.finish {d : Demand} {repeats : Nat} {answer : Option Mark}
    {reported : List Asdu} (hc : c.Course link widths) (hstage : c.stage = .exchanging d repeats)
    (hrests : ∀ d repeats, c'.stage ≠ .exchanging d repeats)
    (hexchanges : c'.exchanges =
      c.exchanges.modifyLast fun a => { a with ended := true, answer, reported })
    (hsecondary : c'.secondary = c.secondary) (hrequests' : c'.requests = c.requests)
    (hsettled : ∀ a, a.Open link repeats → c.Progress widths d a →
      ({ a with ended := true, answer, reported } : Account).Settled link ∧
        (c.secondary.lastFcb ≠ some c.fcb →
          ({ a with ended := true, answer, reported } : Account).Exhausted link)) :
    c'.Course link widths := by
  obtain ⟨past, a, hlast, hpast, hrequests, hopen, hprogress⟩ := hc.underWay hstage
  obtain ⟨hsettled, hexhausted⟩ := hsettled a hopen hprogress
  refine .ended past { a with ended := true, answer, reported } d c.fcb c.requests [] hrests ?_
    hpast (by simp [hrequests']) hrequests (by simp) hsettled ?_
  · rw [hexchanges, hlast, List.modifyLast_concat]
  · rw [hsecondary]
    cases hprogress with
    | waiting htaken hfcb => exact .inl ⟨hexhausted hfcb, htaken, hfcb⟩
    | served r _ hfcb => exact .inr fun _ => hfcb

lemma demand_not_mem {requests : List (Letter Ask)} {d : Demand} {fcb : Bool} {mark : Mark}
    (hsteps : ∀ q ∈ requests, ∃ s, q = ⟨.step s, none⟩) : ⟨.demand d fcb, mark⟩ ∉ requests := by
  intro hmem
  obtain ⟨s, heq⟩ := hsteps _ hmem
  simp at heq

lemma oldest_copy {rest copies steps : List (Letter Ask)} {d : Demand} {fcb : Bool} {mark : Mark}
    (hsteps : ∀ q ∈ steps, ∃ s, q = ⟨.step s, none⟩)
    (hsplit : ⟨.demand d fcb, mark⟩ :: rest = copies ++ steps) :
    ∃ others, copies = ⟨.demand d fcb, mark⟩ :: others ∧ rest = others ++ steps := by
  cases copies with
  | nil =>
    rw [List.nil_append] at hsplit
    exact absurd (hsplit ▸ List.mem_cons_self) (demand_not_mem hsteps)
  | cons q copies =>
    obtain ⟨rfl, rfl⟩ := List.cons.inj hsplit
    exact ⟨copies, rfl, rfl⟩

lemma Scene.Course.last {d : Demand} {fcb : Bool} {mark : Mark} {rest : List (Letter Ask)}
    (hc : c.Course link widths) (hrequests : c.requests = ⟨.demand d fcb, mark⟩ :: rest) :
    ∃ past a, c.exchanges = past ++ [a] ∧ mark = some past.length := by
  cases hc with
  | fresh _ _ hsteps => exact absurd (hrequests ▸ List.mem_cons_self) (demand_not_mem hsteps)
  | going past a d' repeats _ hlast _ hcopies =>
    rw [hrequests] at hcopies
    have hhead := hcopies _ List.mem_cons_self
    exact ⟨past, a, hlast, congrArg Letter.mark hhead⟩
  | ended past a d' fcb' copies steps _ hlast _ hsplit hcopies hsteps =>
    obtain ⟨others, rfl, -⟩ := oldest_copy hsteps (hrequests.symm.trans hsplit)
    exact ⟨past, a, hlast, congrArg Letter.mark (hcopies _ List.mem_cons_self)⟩

lemma Scene.Course.repeated {d : Demand} {fcb lost : Bool} {mark : Mark}
    {rest : List (Letter Ask)} {r : LinkFrame} (hc : c.Course link widths)
    (hrequests : c.requests = ⟨.demand d fcb, mark⟩ :: rest)
    (hfcb : c.secondary.lastFcb = some fcb) (hkept : c.secondary.lastResponse = some r) :
    (c.respond mark c.secondary r lost).Course link widths := by
  have htail : (c.respond mark c.secondary r lost).requests = rest := by
    simp [Scene.respond, hrequests]
  cases hc with
  | fresh _ _ hsteps => exact absurd (hrequests ▸ List.mem_cons_self) (demand_not_mem hsteps)
  | going past a d' repeats hstage hlast hpast hcopies hopen hprogress =>
    rw [hrequests] at hcopies
    obtain ⟨⟨rfl, rfl⟩, rfl⟩ : (d = d' ∧ fcb = c.fcb) ∧ mark = some past.length := by
      simpa using hcopies _ List.mem_cons_self
    refine .going past a d repeats hstage hlast hpast ?_ hopen ?_
    · rw [htail]
      exact fun q hmem => hcopies q (List.mem_cons_of_mem _ hmem)
    · cases hprogress with
      | waiting _ hnew => exact absurd hfcb hnew
      -- The response that is repeated is the one that the secondary has kept.
      | served r' htaken _ hkept' hresponses hack =>
        obtain rfl : r = r' := by simpa [hkept] using hkept'
        refine .served r htaken hfcb hkept ?_ hack
        intro x hmem
        obtain hmem | rfl := mem_post hmem
        · exact hresponses x hmem
        · rfl
  | ended past a d' fcb' copies steps hrests hlast hpast hsplit hcopies hsteps hsettled hserved =>
    obtain ⟨others, rfl, rfl⟩ := oldest_copy hsteps (hrequests.symm.trans hsplit)
    obtain ⟨⟨rfl, rfl⟩, rfl⟩ : (d = d' ∧ fcb = fcb') ∧ mark = some past.length := by
      simpa using hcopies _ List.mem_cons_self
    exact .ended past a d fcb others steps hrests hlast hpast htail
      (fun q hmem => hcopies q (List.mem_cons_of_mem _ hmem)) hsteps hsettled (.inr fun _ => hfcb)

lemma modify_length (past : List Account) (a : Account) (f : Account → Account) :
    (past ++ [a]).modify past.length f = past ++ [f a] := by
  induction past with
  | nil => rfl
  | cons b past ih => simp [ih]

lemma Scene.Course.served {d : Demand} {fcb lost : Bool} {mark : Mark} {rest : List (Letter Ask)}
    {r : LinkFrame} {s : Secondary} {taken delivered : List Asdu} (hc : c.Course link widths)
    (hrequests : c.requests = ⟨.demand d fcb, mark⟩ :: rest)
    (hfcb : c.secondary.lastFcb ≠ some fcb) (hserves : Secondary.Serves d fcb r c.secondary s)
    (htaken : taken = r.asdus widths) :
    ((c.respond mark s r lost).supply mark taken delivered).Course link widths := by
  have htail : (c.respond mark s r lost).requests = rest := by simp [Scene.respond, hrequests]
  cases hc with
  | fresh _ _ hsteps => exact absurd (hrequests ▸ List.mem_cons_self) (demand_not_mem hsteps)
  | going past a d' repeats hstage hlast hpast hcopies hopen hprogress =>
    rw [hrequests] at hcopies
    obtain ⟨⟨rfl, rfl⟩, rfl⟩ : (d = d' ∧ fcb = c.fcb) ∧ mark = some past.length := by
      simpa using hcopies _ List.mem_cons_self
    cases hprogress with
    | served r' _ hold => exact absurd hold hfcb
    | waiting hnone _ hresponses =>
      refine .going past { a with taken := a.taken ++ taken } d repeats hstage ?_ hpast ?_
        ⟨hopen.going, hopen.reported, hopen.answer, hopen.attempts⟩ ?_
      · simp [Scene.supply, Scene.respond, hlast, modify_length]
      · change ∀ q ∈ (c.respond (some past.length) s r lost).requests, _
        rw [htail]
        exact fun q hmem => hcopies q (List.mem_cons_of_mem _ hmem)
      · refine .served r (by simp [hnone, htaken]) hserves.numbered hserves.kept ?_
          hserves.acknowledges
        intro x hmem
        obtain hmem | rfl := mem_post hmem
        · rw [hresponses] at hmem
          cases hmem
        · rfl
  | ended past a d' fcb' copies steps hrests hlast hpast hsplit hcopies hsteps hsettled hserved =>
    obtain ⟨others, rfl, rfl⟩ := oldest_copy hsteps (hrequests.symm.trans hsplit)
    obtain ⟨⟨rfl, rfl⟩, rfl⟩ : (d = d' ∧ fcb = fcb') ∧ mark = some past.length := by
      simpa using hcopies _ List.mem_cons_self
    -- Only an exchange that has used up its attempts can be served after its end.
    rcases hserved with ⟨hexhausted, -, -⟩ | hold
    · refine .ended past { a with taken := a.taken ++ taken } d fcb others steps hrests ?_ hpast htail
        (fun q hmem => hcopies q (List.mem_cons_of_mem _ hmem)) hsteps
        ⟨hsettled.1, .inr ⟨hexhausted.reported, hexhausted.answer, hexhausted.attempts⟩⟩
        (.inr fun _ => hserves.numbered)
      simp [Scene.supply, Scene.respond, hlast, modify_length]
    · exact absurd (hold (by simp)) hfcb

lemma Scene.Course.queue {s : Secondary} {accepted : List Asdu} (hc : c.Course link widths)
    (hfcb : s.lastFcb = c.secondary.lastFcb) (hkept : s.lastResponse = c.secondary.lastResponse) :
    ({ c with secondary := s, accepted } : Scene).Course link widths := by
  cases hc with
  | fresh hrests hnone hsteps => exact .fresh hrests hnone hsteps
  | going past a d repeats hstage hlast hpast hcopies hopen hprogress =>
    refine .going past a d repeats hstage hlast hpast hcopies hopen ?_
    cases hprogress with
    | waiting hnone hnew hresponses => exact .waiting hnone (hfcb ▸ hnew) hresponses
    | served r htaken hold hlastResponse hresponses hack =>
      exact .served r htaken (hfcb.trans hold) (hkept.trans hlastResponse) hresponses hack
  | ended past a d fcb copies steps hrests hlast hpast hsplit hcopies hsteps hsettled hserved =>
    refine .ended past a d fcb copies steps hrests hlast hpast hsplit hcopies hsteps hsettled ?_
    change (_ ∧ _ ∧ s.lastFcb ≠ _) ∨ (_ → s.lastFcb = _)
    rw [hfcb]
    exact hserved

lemma Move.course (h : Move line link widths address c c') (hc : c.Course link widths)
    (hnumbered : c.Numbered line) (hquiet : ∀ a ∈ c'.exchanges, a.quiet = true) :
    c'.Course link widths := by
  cases h with
  | ask hstage => exact hc.ask (by simp [hstage]) (by simp) rfl rfl rfl
  | askAgain hstage => exact hc.ask (by simp [hstage]) (by simp [Scene.ask, hstage]) rfl rfl rfl
  | giveUp hstage => exact hc.rest (by simp [hstage]) (by simp) rfl rfl rfl
  | known hstage => exact hc.ask (by simp [hstage]) (by simp) rfl rfl rfl
  | up hstage => exact hc.rest (by simp [hstage]) (by simp) rfl rfl rfl
  | fail hstage => exact hc.rest (by simp [hstage]) (by simp [hstage]) rfl rfl rfl
  | drop hrests => exact hc.rest hrests hrests rfl rfl rfl
  | @begin d quiet lost hstage hproper hsilent =>
    obtain rfl : quiet = true := hquiet { quiet, attempts := 1 } (List.mem_append_right _ (by simp))
    have hnone := hsilent.1 rfl
    refine hc.begin hstage hnone ?_
    have hnew := hnumbered.active hstage
    rwa [hnone.1] at hnew
  | again hstage => exact hc.again hstage
  | exhaust hstage =>
    refine hc.finish hstage (by simp [Scene.finish]) rfl rfl rfl fun a hopen _ => ?_
    have hexhausted : ({ a with ended := true, answer := none, reported := [] } : Account).Exhausted
        link := ⟨rfl, rfl, hopen.attempts⟩
    exact ⟨⟨rfl, .inr hexhausted⟩, fun _ => hexhausted⟩
  | @conclude d repeats r rest hstage hresponses =>
    refine hc.finish hstage (by simp [Scene.finish]) rfl rfl rfl fun a hopen hprogress => ?_
    obtain ⟨htaken, hfcb, hack⟩ := hprogress.heard hresponses
    refine ⟨⟨rfl, .inl ?_⟩, fun hnew => absurd hfcb hnew⟩
    rw [reported_eq hack, htaken]
  | refuse hstage => exact hc.rest (by simp [hstage]) (by simp [hstage]) rfl rfl rfl
  | repeated hrequests hfcb hkept => exact hc.repeated hrequests hfcb hkept
  | served hrequests hfcb hserves => exact hc.served hrequests hfcb hserves rfl
  | told hrequests => exact hc.respondStep hrequests (.inl rfl)
  | reset hrequests _ _ _ hfcb => exact hc.respondStep hrequests (.inr hfcb)
  | queue hsame hsound hfcb hkept => exact hc.queue hfcb hkept

end Telecontrol.Unbalanced
