import Telecontrol.Proofs.Channel
import Telecontrol.Proofs.Primary.Counting
import Telecontrol.Proofs.Primary.Turns

/-!
# A secondary is called for a bounded time

Each of the two steps that bring up a link calls a secondary: the same request is written at regular
times until it is answered as it should be or the time of the step is over. Frames of others and
answers of the wrong kind may arrive meanwhile, as many as there are and whenever they like.

`Waits` says how a station stands that is calling, `Waiting` how a run stands that has come to such
a station, with what is on record of the call. Each step of a run leaves the run waiting or brings
the call to its end (`Waiting.advance`).
-/

namespace Telecontrol.Primary

open Telecontrol.Turn (done)

/-- The clock does not pass the time at which the station goes on by itself. -/
def OnTime (r : Run) : Action → Prop
  | .elapse duration => r.ending = none → ∀ time ∈ r.station.deadline, r.now + duration ≤ time
  | _ => True

instance (r : Run) (action : Action) : Decidable (OnTime r action) := by
  unfold OnTime
  split <;> infer_instance

/-- The station goes on by itself when it is time, in each action of a run. -/
def Timely : List Action → Run → Prop
  | [], _ => True
  | action :: actions, r =>
    OnTime r action ∧ ∀ r', r.act conduct action = some r' → Timely actions r'

instance decidableTimely : ∀ actions r, Decidable (Timely actions r)
  | [], _ => isTrue trivial
  | action :: actions, r =>
    if htimely : OnTime r action then
      match hact : r.act conduct action with
      | none => isTrue ⟨htimely, by simp [hact]⟩
      | some r' =>
        have := decidableTimely actions r'
        decidable_of_iff (Timely actions r') (by simp [Timely, htimely, hact])
    else isFalse fun h => htimely h.1

lemma timely_append {earlier later : List Action} {r : Run} :
    Timely (earlier ++ later) r ↔
      Timely earlier r ∧ ∀ r', r.run conduct earlier = some r' → Timely later r' := by
  induction earlier generalizing r with
  | nil => simp [Timely, Running.run]
  | cons action earlier ih =>
    simp only [List.cons_append, Timely, Running.run, ih, Option.bind_eq_some_iff]
    constructor
    · rintro ⟨htime, hrest⟩
      refine ⟨⟨htime, fun r' hact => (hrest r' hact).1⟩, ?_⟩
      rintro r'' ⟨r', hact, hrun⟩
      exact (hrest r' hact).2 r'' hrun
    · rintro ⟨⟨htime, hrest⟩, hlater⟩
      exact ⟨htime, fun r' hact => ⟨hrest r' hact, fun r'' hrun => hlater r'' ⟨r', hact, hrun⟩⟩⟩

/-- The octets that an action brings. -/
def arriving : Action → Octets
  | .arrive octets => octets
  | _ => []

/-- The line brings the frames, cut into pieces in any way, and nothing goes wrong on it. -/
structure Brings (addressLength : Nat) (frames : List LinkFrame) (actions : List Action)
    (r : Run) : Prop where
  lasting : r.inbox.ending = none
  spells : (LinkFrame.reader addressLength).Spells frames
    (r.inbox.waiting ++ actions.flatMap arriving)
  sound : ∀ action ∈ actions, action.isSound = true
  connected : ∀ ending, .hangUp ending ∉ actions

/-- What is still to come in a run is brought by a sound line, if all is. -/
def Inherits (addressLength : Nat) (actions : List Action) (r : Run) (remaining : List Action)
    (r' : Run) : Prop :=
  ∀ frames, Brings addressLength frames actions r →
    ∃ others, others ⊆ frames ∧ Brings addressLength others remaining r'

/-- One step of bringing up a link: which secondary is called, on behalf of what, and since when. -/
structure Call where
  link : LinkParameters
  index : Nat
  step : HandshakeStep
  occasion : Occasion
  address : Nat
  begun : Nat

namespace Call

/-- The request that is repeated. -/
def request (q : Call) : LinkFrame := q.step.frame q.address

/-- When the time of the step is over. -/
def limit (q : Call) : Nat := q.begun + q.link.initTimeout

/-- When the request is due for the `n`th time, counted from 0. -/
def due (q : Call) (n : Nat) : Nat := q.begun + n * q.link.ackTimeout

/-- How often the request fits into the time of the step. -/
def attempts (q : Call) : Nat :=
  (q.link.initTimeout + q.link.ackTimeout - 1) / q.link.ackTimeout

/-- The handshake after `n` repetitions. -/
def handshake (q : Call) (n : Nat) (paused : Bool) : Handshake where
  index := q.index
  step := q.step
  deadline := q.limit
  retryAt := min q.limit (q.due (n + 1))
  paused := paused

/-- The frame is the answer that is asked for. -/
def Accepts (q : Call) (frame : LinkFrame) : Prop :=
  isResponseOf q.address frame = true ∧ (q.handshake 0 false).accepts frame = true

instance (q : Call) (frame : LinkFrame) : Decidable (q.Accepts frame) :=
  inferInstanceAs (Decidable (_ ∧ _))

/-- The times are those of a line that can be run, and the address fits. -/
structure Valid (q : Call) : Prop where
  fits : q.address ≤ maxLinkAddress q.link.addressLength
  positive : 0 < q.link.ackTimeout
  enough : q.link.ackTimeout ≤ q.link.initTimeout

end Call

/-- The station has called a secondary and has repeated the request `n` times. -/
structure Waits (q : Call) (n : Nat) (p : Primary) : Prop where
  link : p.link = q.link
  peer : ∃ peer, p.peers[q.index]? = some peer ∧ peer.address = q.address
  activity : ∃ paused, p.activity = .handshake (q.handshake n paused) q.occasion

variable {q : Call} {n : Nat} {p : Primary} {m : Moment} {frame : LinkFrame}

namespace Call

lemma due_succ (q : Call) (n : Nat) : q.due (n + 1) = q.due n + q.link.ackTimeout := by
  rw [due, due, Nat.succ_mul, Nat.add_assoc]

lemma due_zero (q : Call) : q.due 0 = q.begun := by
  rw [due, Nat.zero_mul, Nat.add_zero]

lemma begun_le_due (q : Call) (n : Nat) : q.begun ≤ q.due n := Nat.le_add_right ..

lemma accepts_handshake (q : Call) (n : Nat) (paused : Bool) (frame : LinkFrame) :
    (q.handshake n paused).accepts frame = (q.handshake 0 false).accepts frame := by
  unfold Handshake.accepts handshake
  cases q.step <;> rfl

lemma lt_attempts (hq : q.Valid) (h : q.due n < q.limit) : n + 1 ≤ q.attempts := by
  have hpositive := hq.positive
  unfold due limit at h
  rw [attempts, Nat.le_div_iff_mul_le hpositive, Nat.succ_mul]
  omega

lemma eq_attempts (hq : q.Valid) (h : q.due n < q.limit) (hlast : q.limit ≤ q.due (n + 1)) :
    n + 1 = q.attempts := by
  apply Nat.le_antisymm (lt_attempts hq h)
  have hpositive := hq.positive
  unfold due limit at hlast
  rw [attempts, ← Nat.lt_succ_iff, Nat.div_lt_iff_lt_mul hpositive, Nat.succ_mul]
  omega

end Call

/-! ### Turns -/

lemma breakOff_ended (fault : Fault) (p : Primary) : (breakOff fault p).ending ≠ none :=
  Option.some_ne_none _

lemma transmit_of_encode (h : ∃ octets, frame.encode p.link.addressLength = .ok octets) :
    (m.writeFault = none → ∃ octets, transmit m frame p = ⟨p, [.wrote frame octets], none⟩) ∧
      (m.writeFault ≠ none → (transmit m frame p).ending ≠ none) := by
  obtain ⟨octets, hencode⟩ := h
  constructor
  · intro hm
    refine ⟨octets, ?_⟩
    simp [transmit, Moment.transmit, hencode, hm]
  · intro hm
    obtain ⟨text, htext⟩ := Option.ne_none_iff_exists'.1 hm
    simp only [transmit, Moment.transmit, hencode, htext, ok_bind, throw_eq_error]
    exact breakOff_ended _ p

lemma Call.Valid.encode (hq : q.Valid) :
    ∃ octets, q.request.encode q.link.addressLength = .ok octets := by
  unfold Call.request
  cases q.step <;> exact LinkFrame.encode_fixed _ hq.fits

lemma sendRequest_waits {h : Handshake} (hq : q.Valid) (hlink : p.link = q.link)
    (hpeer : ∃ peer, p.peers[q.index]? = some peer ∧ peer.address = q.address)
    (hindex : h.index = q.index) (hstep : h.step = q.step) (hlimit : h.deadline = q.limit)
    (hnow : m.now = q.due n) :
    (m.writeFault = none → ∃ p' octets, p'.Waits q n ∧
        sendRequest m h q.occasion q.address p = ⟨p', [.wrote q.request octets], none⟩) ∧
      (m.writeFault ≠ none → (sendRequest m h q.occasion q.address p).ending ≠ none) := by
  have hnext : ({ h with
      retryAt := min h.deadline (m.now + p.link.ackTimeout), paused := false } : Handshake) =
      q.handshake n false := by
    rw [hlink, hnow, ← q.due_succ, hindex, hstep, hlimit]
    rfl
  let called : Primary := { p with activity := .handshake (q.handshake n false) q.occasion }
  have hwrites : sendRequest m h q.occasion q.address p = transmit m q.request called := by
    rw [sendRequest, hnext, request_frame]
    rfl
  have hencode : ∃ octets, q.request.encode called.link.addressLength = .ok octets := by
    rw [show called.link = q.link from hlink]
    exact hq.encode
  obtain ⟨hsound, hbroken⟩ := transmit_of_encode (m := m) hencode
  rw [hwrites]
  refine ⟨fun hm => ?_, hbroken⟩
  obtain ⟨octets, heq⟩ := hsound hm
  exact ⟨called, octets, ⟨hlink, hpeer, false, rfl⟩, heq⟩

lemma beginHandshake_waits (hq : q.Valid) (hlink : p.link = q.link)
    (hpeer : ∃ peer, p.peers[q.index]? = some peer ∧ peer.address = q.address)
    (hnow : m.now = q.begun) :
    (m.writeFault = none → ∃ p' octets, p'.Waits q 0 ∧
        beginHandshake m q.index q.step q.occasion q.address p =
          ⟨p', [.wrote q.request octets], none⟩) ∧
      (m.writeFault ≠ none →
        (beginHandshake m q.index q.step q.occasion q.address p).ending ≠ none) := by
  have hlimit : m.now + p.link.initTimeout = q.limit := by rw [hnow, hlink, Call.limit]
  have hdue : m.now = q.due 0 := by rw [hnow, q.due_zero]
  exact sendRequest_waits hq hlink hpeer rfl rfl hlimit hdue

lemma transmit_state (m : Moment) (frame : LinkFrame) (p : Primary) :
    (transmit m frame p).state = p := by
  unfold transmit
  split <;> rfl

lemma cycleFrom_peers {i j : Nat} (h : i ≠ j) (m : Moment) (p : Primary) :
    (cycleFrom m j p).state.peers[i]? = p.peers[i]? := by
  unfold cycleFrom
  split
  · rfl
  · split
    · rw [beginPoll, beginExchange, transmit_state]
      simp [setPeer, Ne.symm h]
    · rw [beginHandshake, sendRequest, transmit_state]

lemma linkFailed_peers {index : Nat} {peer : Peer} (hpeer : p.peers[index]? = some peer)
    (m : Moment) (occasion : Occasion) (address : Nat) :
    (linkFailed m index occasion address p).state.peers[index]? =
      some { peer with state := .disconnected } := by
  have hdown := peers_setLinkState .disconnected hpeer
  rw [linkFailed, Turn.andThen_of_none (silent_setLinkState ..).ending]
  cases occasion with
  | opening request => exact hdown
  | cycle =>
    dsimp only
    rw [cycleFrom_peers (Nat.ne_of_lt (Nat.lt_succ_self index)), hdown]

lemma Waits.step_frame (h : p.Waits q n) (m : Moment) (frame : LinkFrame) :
    (∃ p', p.step m (.frame frame) = done p' ∧ p'.Waits q n ∧ ¬q.Accepts frame) ∨
      q.Accepts frame ∧ ∃ paused, p.step m (.frame frame) =
        handshakeAnswered m (q.handshake n paused) q.occasion q.address p := by
  obtain ⟨peer, hpeer, haddress⟩ := h.peer
  obtain ⟨paused, hactivity⟩ := h.activity
  have hindex : p.peers[(q.handshake n paused).index]? = some peer := hpeer
  simp only [step, onFrame, hactivity, hindex, haddress]
  by_cases hresponse : isResponseOf q.address frame = true
  · rw [if_neg (by simp [hresponse])]
    by_cases haccepts : (q.handshake n paused).accepts frame = true
    · rw [if_pos haccepts]
      exact .inr ⟨⟨hresponse, (q.accepts_handshake ..).symm.trans haccepts⟩, paused, rfl⟩
    · rw [if_neg haccepts]
      refine .inl ⟨_, rfl, ⟨h.link, h.peer, true, rfl⟩, fun hq => haccepts ?_⟩
      exact (q.accepts_handshake ..).trans hq.2
  · rw [if_pos (by simp [hresponse])]
    exact .inl ⟨p, rfl, h, fun hq => hresponse hq.1⟩

lemma Waits.step_deadline (hq : q.Valid) (h : p.Waits q n)
    (hnow : m.now = min q.limit (q.due (n + 1))) :
    (m.now = q.limit ∧ p.step m .deadline = linkFailed m q.index q.occasion q.address p) ∨
      m.now = q.due (n + 1) ∧ m.now < q.limit ∧
        (m.writeFault = none → ∃ p' octets, p'.Waits q (n + 1) ∧
          p.step m .deadline = ⟨p', [.wrote q.request octets], none⟩) ∧
        (m.writeFault ≠ none → (p.step m .deadline).ending ≠ none) := by
  obtain ⟨peer, hpeer, haddress⟩ := h.peer
  obtain ⟨paused, hactivity⟩ := h.activity
  have hindex : p.peers[(q.handshake n paused).index]? = some peer := hpeer
  have hstep : p.step m .deadline =
      handshakeExpired m (q.handshake n paused) q.occasion q.address p := by
    simp only [step, onDeadline, hactivity, hindex, haddress]
  rw [hstep, handshakeExpired]
  by_cases hover : q.limit ≤ m.now
  · left
    exact ⟨by omega, if_pos hover⟩
  · right
    have hdue : m.now = q.due (n + 1) := by omega
    rw [if_neg (show ¬(q.handshake n paused).deadline ≤ m.now from hover)]
    exact ⟨hdue, Nat.lt_of_not_le hover, sendRequest_waits hq h.link h.peer rfl rfl rfl hdue⟩

/-! ### Runs -/

lemma inherits_refl (addressLength : Nat) (actions : List Action) (r : Run) :
    Inherits addressLength actions r actions r :=
  fun frames hframes => ⟨frames, List.Subset.refl _, hframes⟩

lemma Inherits.trans {addressLength : Nat} {actions remaining later : List Action}
    {r r₁ r₂ : Run} (h : Inherits addressLength actions r remaining r₁)
    (h' : Inherits addressLength remaining r₁ later r₂) :
    Inherits addressLength actions r later r₂ := by
  intro frames hframes
  obtain ⟨others, hothers, hframes⟩ := h frames hframes
  obtain ⟨fewer, hfewer, hframes⟩ := h' others hframes
  exact ⟨fewer, List.Subset.trans hfewer hothers, hframes⟩

lemma Inherits.unsound {addressLength : Nat} {action : Action} {actions remaining : List Action}
    {r r' : Run} (h : Inherits addressLength actions r (action :: remaining) r')
    (haction : action.isSound = false) (frames : List LinkFrame) :
    ¬Brings addressLength frames actions r := by
  intro hframes
  obtain ⟨others, -, hframes⟩ := h frames hframes
  exact Bool.eq_false_iff.1 haction (hframes.sound action (List.mem_cons_self ..))

lemma Brings.congr {addressLength : Nat} {frames : List LinkFrame} {actions : List Action}
    {r r' : Run} (h : Brings addressLength frames actions r) (hinbox : r'.inbox = r.inbox) :
    Brings addressLength frames actions r' :=
  ⟨hinbox ▸ h.lasting, hinbox ▸ h.spells, h.sound, h.connected⟩

lemma take_spelled {frames : List LinkFrame} {c : Channel} {input : Input} {inbox : Inbox}
    (h : (LinkFrame.reader p.link.addressLength).Spells frames c.contents)
    (hlasting : c.inbox.ending = none) (htake : p.take c.inbox = some (input, inbox)) :
    ∃ frame others, frames = frame :: others ∧ input = .frame frame ∧ inbox.ending = none ∧
      (LinkFrame.reader p.link.addressLength).Spells others { c with inbox }.contents := by
  have hend : c.inbox.takeFrameEnd (α := LinkFrame) = none := by
    simp [Inbox.takeFrameEnd, Inbox.takeEnd, hlasting]
  unfold take Inbox.take at htake
  cases hframe : c.inbox.takeFrame (LinkFrame.reader p.link.addressLength) with
  | none => simp [hframe, hend] at htake
  | some found =>
    obtain ⟨result, rest⟩ := found
    obtain ⟨frame, others, rfl, rfl, hothers⟩ := h.takeFrame (LinkFrame.reader_stable _) hframe
    rw [hframe] at htake
    obtain ⟨rfl, rfl⟩ : Input.frame frame = input ∧ rest = inbox := by simpa using htake
    exact ⟨frame, others, rfl, rfl, (Inbox.ending_of_takeFrame hframe).trans hlasting, hothers⟩

lemma Brings.read {addressLength : Nat} {frames : List LinkFrame} {actions : List Action} {r : Run}
    {input : Input} {inbox : Inbox} (h : Brings addressLength frames actions r)
    (hlink : r.station.link.addressLength = addressLength)
    (hread : r.station.take r.inbox = some (input, inbox)) :
    ∃ frame others, frames = frame :: others ∧ input = .frame frame ∧
      ∀ mail t, Brings addressLength others actions (r.proceed conduct input inbox mail t) := by
  subst hlink
  obtain ⟨frame, others, rfl, rfl, hlasting, hothers⟩ :=
    take_spelled (c := ⟨r.inbox, actions.flatMap arriving⟩) h.spells h.lasting hread
  exact ⟨frame, others, rfl, rfl, fun _ _ => ⟨hlasting, hothers, h.sound, h.connected⟩⟩

/-- The frames that a turn has written, each with the time. -/
def sent (e : Record) : List (Nat × LinkFrame) :=
  (e.output.filterMap Output.frame?).map (e.time, ·)

/-- What is on record of a call with `n` repetitions: the same request each time that it is due,
never at the limit, and frames that are not the answer. -/
structure Call.Paced (q : Call) (n : Nat) (during : List Record) : Prop where
  requests : (q.begun, q.request) :: during.flatMap sent =
    (List.range (n + 1)).map fun i => (q.due i, q.request)
  early : q.due n < q.limit
  within : ∀ e ∈ during, q.begun ≤ e.time ∧ e.time ≤ q.limit
  unanswered : ∀ e ∈ during, ∀ frame, e.input = .frame frame → ¬q.Accepts frame

/-- A run in which a call is going on. Each turn since has read at least one of the octets that have
arrived, or has repeated the request. -/
structure Waiting (q : Call) (before : List Record) (octets n : Nat) (r : Run) : Prop where
  station : r.station.Waits q n
  opened : r.ending = none
  since : q.due n ≤ r.now
  till : r.now ≤ min q.limit (q.due (n + 1))
  record : ∃ during, r.past = before ++ during ∧ q.Paced n during ∧
    during.length + r.inbox.waiting.length ≤ octets + n

/-- How a turn ends a call: with the answer that is asked for, without one at the limit, or because
the line has failed. -/
inductive Ends (q : Call) (n : Nat) (p : Primary) (m : Moment) : Running.Occasion → Input → Prop
  | answered {frame : LinkFrame} {paused : Bool} : q.Accepts frame →
      p.step m (.frame frame) = handshakeAnswered m (q.handshake n paused) q.occasion q.address p →
      Ends q n p m .arrival (.frame frame)
  | failed : m.now = q.limit →
      p.step m .deadline = linkFailed m q.index q.occasion q.address p →
      Ends q n p m .expiry .deadline
  | broken (fault : Fault) : Ends q n p m .arrival (.broken fault)
  | unsent : m.writeFault ≠ none → (p.step m .deadline).ending ≠ none →
      Ends q n p m .expiry .deadline

/-- The action that ends a call, and the run that it leaves. -/
inductive Leaves (q : Call) (n : Nat) (r : Run) : Action → Run → Prop
  | intro {occasion : Running.Occasion} {fault : Option String} {input : Input} {inbox : Inbox}
      {mail : List Command} : r.input? conduct occasion = some (input, inbox, mail) →
      Ends q n r.station ⟨r.now, fault⟩ occasion input →
      Leaves q n r (.turn occasion fault)
        (r.proceed conduct input inbox mail (r.station.step ⟨r.now, fault⟩ input))

variable {r r' : Run} {action : Action} {actions : List Action} {before : List Record}
  {octets : Nat} {occasion : Running.Occasion} {input : Input} {inbox : Inbox}
  {mail : List Command} {t : Turn}

lemma left_eq (t : Turn) : Running.left conduct t = t.state :=
  Running.left_eq_state (fun _ _ => rfl) t

lemma take_shorter {b b' : Inbox} (h : p.take b = some (.frame frame, b')) :
    b'.waiting.length < b.waiting.length := by
  unfold take at h
  split at h
  · next htake =>
    obtain ⟨rfl, rfl⟩ := by simpa using h
    exact (LinkFrame.reader _).shorter (Inbox.next_of_take htake)
  · simp at h
  · simp at h
  · cases h

lemma Waits.input_cases (h : r.station.Waits q n)
    (hinput : r.input? conduct occasion = some (input, inbox, mail)) :
    (occasion = .arrival ∧
      ((∃ frame, input = .frame frame ∧ inbox.waiting.length < r.inbox.waiting.length) ∨
        ∃ fault, input = .broken fault)) ∨
      occasion = .expiry ∧ input = .deadline ∧ inbox = r.inbox ∧
        min q.limit (q.due (n + 1)) ≤ r.now := by
  obtain ⟨paused, hactivity⟩ := h.activity
  have hbusy : r.station.isIdle = false := by simp [isIdle, hactivity]
  cases occasion with
  | arrival =>
    have hread := take_of_arrival hinput
    refine .inl ⟨rfl, ?_⟩
    cases input with
    | frame frame => exact .inl ⟨frame, rfl, take_shorter hread⟩
    | broken fault => exact .inr ⟨fault, rfl⟩
    | _ =>
      unfold take at hread
      split at hread <;> cases hread
  | command =>
    cases hmail : r.mail with
    | nil => simp [Running.input?, hmail] at hinput
    | cons command rest => simp [Running.input?, hmail, conduct, hbusy] at hinput
  | expiry =>
    right
    obtain ⟨input', hexpiry, heq⟩ := Option.map_eq_some_iff.1 hinput
    obtain ⟨rfl, rfl, rfl⟩ : input' = input ∧ r.inbox = inbox ∧ r.mail = mail := by simpa using heq
    dsimp only [conduct] at hexpiry
    split at hexpiry
    · next hdue =>
      obtain rfl := Option.some.inj hexpiry
      exact ⟨rfl, rfl, rfl, by simpa [deadline, hactivity, Call.handshake] using hdue⟩
    · cases hexpiry
  | abandoned => simp [Running.input?, conduct, hbusy] at hinput

lemma Call.Paced.heard {during : List Record} {e : Record} (h : q.Paced n during)
    (hwithin : q.begun ≤ e.time ∧ e.time ≤ q.limit) (hinput : e.input = .frame frame)
    (hframe : ¬q.Accepts frame) (houtput : e.output = []) : q.Paced n (during ++ [e]) where
  requests := by
    rw [List.flatMap_append, List.flatMap_singleton, sent, houtput]
    simpa using h.requests
  early := h.early
  within := List.forall_mem_append.2 ⟨h.within, List.forall_mem_singleton.2 hwithin⟩
  unanswered := by
    refine List.forall_mem_append.2 ⟨h.unanswered, List.forall_mem_singleton.2 ?_⟩
    intro frame' hinput'
    obtain rfl := Input.frame.inj (hinput.symm.trans hinput')
    exact hframe

lemma Call.Paced.again {during : List Record} {e : Record} {written : Octets}
    (h : q.Paced n during) (hinput : e.input = .deadline)
    (htime : e.time = q.due (n + 1)) (hearly : e.time < q.limit)
    (houtput : e.output = [.wrote q.request written]) : q.Paced (n + 1) (during ++ [e]) where
  requests := by
    rw [List.flatMap_append, List.flatMap_singleton, sent, houtput, List.range_succ,
      List.map_append, ← h.requests, htime]
    rfl
  early := htime ▸ hearly
  within := by
    have hsince : q.begun ≤ e.time := htime ▸ q.begun_le_due (n + 1)
    exact List.forall_mem_append.2
      ⟨h.within, List.forall_mem_singleton.2 ⟨hsince, Nat.le_of_lt hearly⟩⟩
  unanswered := by
    refine List.forall_mem_append.2 ⟨h.unanswered, List.forall_mem_singleton.2 ?_⟩
    exact fun frame hframe => nomatch hinput.symm.trans hframe

lemma past_proceed {during : List Record} (hpast : r.past = before ++ during) (input : Input)
    (inbox : Inbox) (mail : List Command) (t : Turn) :
    (r.proceed conduct input inbox mail t).past =
      before ++ (during ++ [⟨r.now, r.station, input, Running.issued conduct mail t⟩]) := by
  rw [Running.proceed, hpast, List.append_assoc]

lemma Waiting.reads {fault : Option String} (h : Waiting q before octets n r)
    (hinput : r.input? conduct .arrival = some (.frame frame, inbox, mail))
    (hshorter : inbox.waiting.length < r.inbox.waiting.length) :
    Waiting q before octets n (r.proceed conduct (.frame frame) inbox mail
        (r.station.step ⟨r.now, fault⟩ (.frame frame))) ∨
      Leaves q n r (.turn .arrival fault) (r.proceed conduct (.frame frame) inbox mail
        (r.station.step ⟨r.now, fault⟩ (.frame frame))) := by
  obtain ⟨during, hpast, hpaced, hcount⟩ := h.record
  rcases h.station.step_frame ⟨r.now, fault⟩ frame with
    ⟨p', hstep, hwaits, hframe⟩ | ⟨haccepts, paused, hstep⟩
  · left
    rw [hstep]
    refine ⟨hwaits, rfl, h.since, h.till, _, past_proceed hpast .., ?_, ?_⟩
    · refine hpaced.heard ⟨Nat.le_trans (q.begun_le_due n) h.since, ?_⟩ rfl hframe rfl
      exact Nat.le_trans h.till (Nat.min_le_left ..)
    · rw [List.length_append]
      dsimp only [Running.proceed, List.length_singleton]
      omega
  · exact .inr (.intro hinput (.answered haccepts hstep))

lemma Waiting.expires {fault : Option String} (hq : q.Valid) (h : Waiting q before octets n r)
    (hinput : r.input? conduct .expiry = some (.deadline, r.inbox, mail))
    (hdue : min q.limit (q.due (n + 1)) ≤ r.now) :
    Waiting q before octets (n + 1) (r.proceed conduct .deadline r.inbox mail
        (r.station.step ⟨r.now, fault⟩ .deadline)) ∨
      Leaves q n r (.turn .expiry fault) (r.proceed conduct .deadline r.inbox mail
        (r.station.step ⟨r.now, fault⟩ .deadline)) := by
  obtain ⟨during, hpast, hpaced, hcount⟩ := h.record
  have hnow : r.now = min q.limit (q.due (n + 1)) := Nat.le_antisymm h.till hdue
  rcases h.station.step_deadline (m := ⟨r.now, fault⟩) hq hnow with
    ⟨hlimit, hstep⟩ | ⟨hrepeat, hearly, hsound, hbroken⟩
  · exact .inr (.intro hinput (.failed hlimit hstep))
  by_cases hfault : fault = none
  · left
    obtain ⟨p', written, hwaits, hstep⟩ := hsound hfault
    have hlater := q.due_succ (n + 1)
    dsimp only at hrepeat hearly
    rw [hstep]
    refine ⟨hwaits, rfl, Nat.le_of_eq hrepeat.symm, ?_, _, past_proceed hpast .., ?_, ?_⟩
    · dsimp only [Running.proceed]
      omega
    · exact hpaced.again rfl hrepeat hearly rfl
    · rw [List.length_append]
      dsimp only [Running.proceed, List.length_singleton]
      omega
  · exact .inr (.intro hinput (.unsent hfault (hbroken hfault)))

lemma Waiting.passes (h : Waiting q before octets n r) (htimely : OnTime r action)
    (hadvances : Running.Advances conduct r action r')
    (hno : ∀ occasion fault, action ≠ .turn occasion fault) :
    Waiting q before (octets + (arriving action).length) n r' := by
  obtain ⟨during, hpast, hpaced, hcount⟩ := h.record
  cases hadvances with
  | arrives arrived =>
    refine ⟨h.station, h.opened, h.since, h.till, during, hpast, hpaced, ?_⟩
    simp only [Inbox.add, List.length_append, arriving]
    omega
  | hangsUp | asked =>
    exact ⟨h.station, h.opened, h.since, h.till, during, hpast, hpaced, hcount⟩
  | askedLate command hended => exact absurd h.opened hended
  | elapses duration =>
    obtain ⟨paused, hactivity⟩ := h.station.activity
    have htill : r.now + duration ≤ min q.limit (q.due (n + 1)) := by
      apply htimely h.opened
      simp [deadline, hactivity, Call.handshake]
    exact ⟨h.station, h.opened, Nat.le_trans h.since (Nat.le_add_right ..), htill, during,
      hpast, hpaced, hcount⟩
  | turns => exact absurd rfl (hno _ _)

theorem Waiting.advance (hq : q.Valid) (h : Waiting q before octets n r) (htimely : OnTime r action)
    (hadvances : Running.Advances conduct r action r') :
    (∃ n', Waiting q before (octets + (arriving action).length) n' r') ∨
      Leaves q n r action r' := by
  cases hadvances with
  | arrives | hangsUp | asked | askedLate | elapses =>
    refine .inl ⟨n, h.passes htimely ?_ nofun⟩
    constructor <;> assumption
  | turns hopen hinput =>
    rcases h.station.input_cases hinput with
      ⟨rfl, ⟨frame, rfl, hshorter⟩ | ⟨fault, rfl⟩⟩ | ⟨rfl, rfl, rfl, hdue⟩
    · exact (h.reads hinput hshorter).imp_left fun hwaits => ⟨n, hwaits⟩
    · exact .inr (.intro hinput (.broken fault))
    · exact (h.expires hq hinput hdue).imp_left fun hwaits => ⟨n + 1, hwaits⟩

lemma Waiting.inherits (h : Waiting q before octets n r)
    (hadvances : Running.Advances conduct r action r') :
    Inherits q.link.addressLength (action :: actions) r actions r' := by
  rintro frames ⟨hlasting, hspells, hsound, hconnected⟩
  have hrest := (List.forall_mem_cons.1 hsound).2
  have hstill : ∀ ending, .hangUp ending ∉ actions :=
    fun ending hmem => hconnected ending (List.mem_cons_of_mem _ hmem)
  cases hadvances with
  | arrives arrived =>
    rw [List.flatMap_cons, ← List.append_assoc] at hspells
    exact ⟨frames, List.Subset.refl _, hlasting, hspells, hrest, hstill⟩
  | hangsUp ending => exact absurd (List.mem_cons_self ..) (hconnected ending)
  | asked | elapses => exact ⟨frames, List.Subset.refl _, hlasting, hspells, hrest, hstill⟩
  | askedLate command hended => exact absurd h.opened hended
  | turns hopen hinput =>
    have hbrings : Brings q.link.addressLength frames actions r :=
      ⟨hlasting, hspells, hrest, hstill⟩
    rcases h.station.input_cases hinput with ⟨rfl, -⟩ | ⟨rfl, rfl, rfl, -⟩
    · obtain ⟨frame, others, rfl, rfl, hothers⟩ :=
        hbrings.read (congrArg _ h.station.link) (take_of_arrival hinput)
      exact ⟨others, List.subset_cons_self .., hothers _ _⟩
    · exact ⟨frames, List.Subset.refl _, hbrings.congr rfl⟩

theorem Waiting.run (hq : q.Valid) (h : Waiting q before octets n r) (htimely : Timely actions r)
    (hrun : r.run conduct actions = some r') :
    (∃ n', Waiting q before (octets + (actions.flatMap arriving).length) n' r') ∨
      ∃ earlier action later n' r₁ r₂, actions = earlier ++ action :: later ∧
        Waiting q before (octets + (earlier.flatMap arriving).length) n' r₁ ∧
        Inherits q.link.addressLength actions r (action :: later) r₁ ∧
        r₁.act conduct action = some r₂ ∧ Leaves q n' r₁ action r₂ ∧
        Timely later r₂ ∧ r₂.run conduct later = some r' := by
  induction actions generalizing r n octets with
  | nil =>
    obtain rfl := Option.some.inj hrun
    exact .inl ⟨n, h⟩
  | cons action actions ih =>
    obtain ⟨r₁, hact, hrun⟩ := Option.bind_eq_some_iff.1 hrun
    have hrest := htimely.2 r₁ hact
    have hadvances := Running.act_advances hact
    rcases h.advance hq htimely.1 hadvances with ⟨n', hwaits⟩ | hleaves
    · rcases ih hwaits hrest hrun with
        ⟨n'', hwaits'⟩ | ⟨earlier, last, later, n'', r₂, r₃, rfl, hwaits', hinherits, hlater⟩
      · left
        rw [List.flatMap_cons, List.length_append, ← Nat.add_assoc]
        exact ⟨n'', hwaits'⟩
      · right
        refine ⟨action :: earlier, last, later, n'', r₂, r₃, rfl, ?_, ?_, hlater⟩
        · rw [List.flatMap_cons, List.length_append, ← Nat.add_assoc]
          exact hwaits'
        · exact (h.inherits hadvances).trans hinherits
    · exact .inr ⟨[], action, actions, n, r, r₁, rfl, by simpa using h,
        inherits_refl _ _ _, hact, hleaves, hrest, hrun⟩

lemma Call.Valid.paced (hq : q.Valid) : q.Paced 0 [] where
  requests := by rw [List.flatMap_nil, List.range_one, List.map_singleton, q.due_zero]
  early := by
    rw [q.due_zero]
    exact Nat.lt_add_of_pos_right (Nat.lt_of_lt_of_le hq.positive hq.enough)
  within e hmem := absurd hmem List.not_mem_nil
  unanswered e hmem := absurd hmem List.not_mem_nil

lemma waiting_begun (hq : q.Valid) (h : r.station.Waits q 0) (hopen : r.ending = none)
    (hnow : r.now = q.begun) : Waiting q r.past r.inbox.waiting.length 0 r where
  station := h
  opened := hopen
  since := Nat.le_of_eq (q.due_zero.trans hnow.symm)
  till := by
    rw [hnow, q.due_succ, q.due_zero]
    exact Nat.le_min.2 ⟨Nat.le_add_right .., Nat.le_add_right ..⟩
  record := ⟨[], (List.append_nil _).symm, hq.paced, by simp⟩

end Telecontrol.Primary
