import Telecontrol.Proofs.Primary.Calls

/-!
# Bringing up a link takes a bounded time

A call is over when it has been answered, when it is given up at its limit, or when the line has
failed. Two calls bring up a link, the second one if the first has been answered, so that a
secondary that does not answer holds the line for no longer than the time of two steps.
-/

namespace Telecontrol.Primary

open Running (await receive)

/-- The station that the first of the turns was taken by, or else the one behind all turns. -/
def behind (later : List Record) (p : Primary) : Primary :=
  (later.head?.map Episode.station).getD p

namespace Call

/-- The second step, which begins when the first one has been answered. -/
def next (q : Call) (now : Nat) : Call := { q with step := .reset, begun := now }

/-- The station has just begun the call, and a run has come to this. -/
structure Begun (q : Call) (p : Primary) (r : Run) : Prop where
  link : p.link = q.link
  peer : ∃ peer, p.peers[q.index]? = some peer ∧ peer.address = q.address
  station : r.station =
    (beginHandshake ⟨q.begun, none⟩ q.index q.step q.occasion q.address p).state
  opened : r.ending = none
  now : r.now = q.begun

/-- The link to the secondary is down. -/
def Down (q : Call) (p : Primary) : Prop :=
  ∃ peer, p.peers[q.index]? = some peer ∧ peer.state = .disconnected

/-- The turn has read the answer. If a sound line brings frames, it is one of these. -/
def Heard (q : Call) (actions : List Action) (r : Run) (e : Record) : Prop :=
  ∃ frame, e.input = .frame frame ∧ q.Accepts frame ∧
    ∀ frames, Brings q.link.addressLength frames actions r → frame ∈ frames

/-- The turn has given up the call: its time is over, all requests that fit have been written, and
the link is down. -/
structure GivenUp (q : Call) (n : Nat) (e : Record) (p : Primary) : Prop where
  input : e.input = .deadline
  time : e.time = q.limit
  complete : n + 1 = q.attempts
  down : q.Down p

/-- The station has ended, and the line is not a sound one that brings frames. -/
structure Lost (q : Call) (actions : List Action) (r : Run) (later : List Record) (r' : Run) :
    Prop where
  last : later = []
  ended : r'.ending ≠ none
  unsound : ∀ frames, ¬Brings q.link.addressLength frames actions r

/-- If nothing happens any more, time runs out for the secondary, and the link is down. -/
def Expires (q : Call) (limit : Nat) (r : Run) : Prop :=
  ∃ (pauses : List Nat) (r' : Run) (during : List Record) (e : Record),
    Timely (pauses.flatMap Running.await) r ∧
    r.run conduct (pauses.flatMap Running.await) = some r' ∧
    r'.past = r.past ++ (during ++ [e]) ∧ e.input = .deadline ∧ e.time ≤ limit ∧ q.Down r'.station

/-- The course of a call in a run from where it has begun, with `n` repetitions of the request: the
turns in which it has gone on, and those from the one on that has ended it. -/
structure Course (q : Call) (actions : List Action) (r : Run) (n : Nat)
    (during after : List Record) (r' : Run) : Prop where
  paced : q.Paced n during
  few : n + 1 ≤ q.attempts
  lasting : after = [] →
    q.due n ≤ r'.now ∧ r'.now ≤ min q.limit (q.due (n + 1)) ∧ q.Expires q.limit r'
  closing : ∀ e later, after = e :: later →
    q.due n ≤ e.time ∧ e.time ≤ min q.limit (q.due (n + 1)) ∧
      (q.Heard actions r e ∨ q.GivenUp n e (behind later r'.station) ∨ q.Lost actions r later r')
  silent : ∀ frames, Brings q.link.addressLength frames actions r →
    (∀ frame ∈ frames, ¬q.Accepts frame) → ∀ e later, after = e :: later →
      q.GivenUp n e (behind later r'.station)

/-- The course of both steps in a run from where the first one has begun: the turns in which the
line is held for the secondary, and those from the one on with which this is over. -/
structure BothSteps (q : Call) (actions : List Action) (r : Run) (held after : List Record)
    (r' : Run) : Prop where
  requests : ∀ w ∈ held.flatMap sent, ∃ step : HandshakeStep, w.2 = step.frame q.address
  bounded : ∀ e ∈ held, e.time ≤ q.begun + 2 * q.link.initTimeout
  lasting : after = [] → r'.now ≤ q.begun + 2 * q.link.initTimeout ∧
    q.Expires (q.begun + 2 * q.link.initTimeout) r'
  closing : ∀ e later, after = e :: later → e.time ≤ q.begun + 2 * q.link.initTimeout ∧
    ((q.next e.time).Heard actions r e ∨
      (e.input = .deadline ∧ q.Down (behind later r'.station)) ∨ q.Lost actions r later r')
  silent : ∀ frames, Brings q.link.addressLength frames actions r →
    (∀ frame ∈ frames, ¬(q.next 0).Accepts frame) → ∀ e later, after = e :: later →
      e.input = .deadline ∧ q.Down (behind later r'.station)

end Call

variable {q : Call} {n : Nat} {p : Primary} {m : Moment} {r r' r₁ r₂ : Run} {action : Action}
  {actions : List Action} {before during : List Record} {octets : Nat}

lemma Call.Valid.next (hq : q.Valid) (now : Nat) : (q.next now).Valid :=
  ⟨hq.fits, hq.positive, hq.enough⟩

/-! ### The answer -/

lemma link_setLinkState (index : Nat) (state : LinkState) (p : Primary) :
    (setLinkState index state p).state.link = p.link := by
  unfold setLinkState
  split
  · rfl
  · split <;> rfl

lemma handshakeAnswered_waits {paused : Bool} (hq : q.Valid) (h : p.Waits q n)
    (hstep : q.step = .status) (m : Moment) {t : Turn}
    (ht : t = handshakeAnswered m (q.handshake n paused) q.occasion q.address p) :
    (m.writeFault = none → t.state.Waits (q.next m.now) 0 ∧ t.ending = none ∧
        t.frames = [(q.next m.now).request]) ∧
      (m.writeFault ≠ none → t.ending ≠ none) := by
  obtain ⟨peer, hpeer, haddress⟩ := h.peer
  have hlink := link_setLinkState q.index .statusKnown p
  obtain ⟨hopen, hquiet⟩ := mute_setLinkState q.index .statusKnown p
  have hknown := peers_setLinkState .statusKnown hpeer
  let known := (setLinkState q.index .statusKnown p).state.setPeer q.index ({ · with fcb := false })
  have hpeer' : ∃ peer, known.peers[(q.next m.now).index]? = some peer ∧
      peer.address = (q.next m.now).address :=
    ⟨_, peers_setPeer ({ · with fcb := false }) hknown, haddress⟩
  have hlink' : known.link = (q.next m.now).link := hlink.trans h.link
  obtain ⟨hsound, hbroken⟩ := beginHandshake_waits (m := m) (hq.next m.now) hlink' hpeer' rfl
  have hanswered : handshakeAnswered m (q.handshake n paused) q.occasion q.address p =
      (setLinkState q.index .statusKnown p).andThen fun p =>
        beginHandshake m q.index .reset q.occasion q.address
          (p.setPeer q.index ({ · with fcb := false })) := by
    simp only [handshakeAnswered, Call.handshake, hstep]
  rw [hanswered, Turn.andThen_of_none hopen] at ht
  subst ht
  refine ⟨fun hm => ?_, hbroken⟩
  obtain ⟨p', written, hwaits, hturn⟩ := hsound hm
  refine ⟨?_, congrArg Turn.ending hturn, ?_⟩
  · rwa [← show _ = p' from congrArg Turn.state hturn] at hwaits
  · have hframes := congrArg Turn.frames hturn
    rw [Turn.frames] at hframes hquiet ⊢
    rw [List.filterMap_append, hquiet]
    exact hframes

/-! ### The course of a call -/

lemma behind_of_path {p' : Primary} {ending ending' : Option CloseReason} {later : List Record}
    (h : Running.Path conduct p ending later p' ending') : behind later p' = p := by
  cases h <;> rfl

lemma ended_of_path {p' : Primary} {ending ending' : Option CloseReason} {later : List Record}
    (hended : ending ≠ none) (h : Running.Path conduct p ending later p' ending') :
    later = [] ∧ ending' ≠ none := by
  obtain ⟨reason, rfl⟩ := Option.ne_none_iff_exists'.1 hended
  obtain ⟨rfl, -, rfl⟩ := h.of_ended
  exact ⟨rfl, Option.some_ne_none reason⟩

lemma Waits.down {input : Input} (h : p.Waits q n)
    (hstep : p.step m input = linkFailed m q.index q.occasion q.address p) :
    q.Down (p.step m input).state := by
  obtain ⟨peer, hpeer, -⟩ := h.peer
  rw [hstep]
  exact ⟨_, linkFailed_peers hpeer .., rfl⟩

/-- What has become of a call with the turn that has ended it. -/
inductive Call.Outcome (q : Call) (actions : List Action) (r : Run) (n : Nat) (e : Record)
    (r₁ : Run) : Prop
  | answered : q.Heard actions r e → (q.step = .status →
      r₁.station.Waits (q.next e.time) 0 ∧ r₁.ending = none ∧
        sent e = [(e.time, (q.next e.time).request)]) → Outcome q actions r n e r₁
  | failed : q.GivenUp n e r₁.station → Outcome q actions r n e r₁
  | lost : r₁.ending ≠ none → (∀ frames, ¬Brings q.link.addressLength frames actions r) →
      Outcome q actions r n e r₁

lemma Call.Outcome.closing {e : Record} {later : List Record} (h : q.Outcome actions r n e r₁)
    (hpath : Running.Path conduct r₁.station r₁.ending later r'.station r'.ending) :
    q.Heard actions r e ∨ q.GivenUp n e (behind later r'.station) ∨ q.Lost actions r later r' := by
  cases h with
  | answered hheard _ => exact .inl hheard
  | failed hgiven => exact .inr (.inl (behind_of_path hpath ▸ hgiven))
  | lost hended hunsound =>
    obtain ⟨hlast, hended'⟩ := ended_of_path hended hpath
    exact .inr (.inr ⟨hlast, hended', hunsound⟩)

lemma Call.unanswered {frames : List LinkFrame} {e : Record} {later : List Record} {given : Prop}
    (hframes : Brings q.link.addressLength frames actions r)
    (hnone : ∀ frame ∈ frames, ¬q.Accepts frame)
    (h : q.Heard actions r e ∨ given ∨ q.Lost actions r later r') : given := by
  rcases h with ⟨frame, -, haccepts, hmem⟩ | hgiven | hlost
  · exact absurd haccepts (hnone frame (hmem frames hframes))
  · exact hgiven
  · exact absurd hframes (hlost.unsound frames)

section Leaving

variable {occasion : Running.Occasion} {fault : Option String} {input : Input} {inbox : Inbox}
  {mail : List Command} {remaining : List Action}

lemma Waiting.outcome_answered {frame : LinkFrame} {paused : Bool} (hq : q.Valid)
    (h : Waiting q before octets n r₁)
    (hinput : r₁.input? conduct .arrival = some (.frame frame, inbox, mail))
    (haccepts : q.Accepts frame)
    (hstep : r₁.station.step ⟨r₁.now, fault⟩ (.frame frame) =
      handshakeAnswered ⟨r₁.now, fault⟩ (q.handshake n paused) q.occasion q.address r₁.station)
    (hinherits : Inherits q.link.addressLength actions r (.turn .arrival fault :: remaining) r₁) :
    let t := r₁.station.step ⟨r₁.now, fault⟩ (.frame frame)
    q.Outcome actions r n ⟨r₁.now, r₁.station, .frame frame, Running.issued conduct mail t⟩
      (r₁.proceed conduct (.frame frame) inbox mail t) := by
  intro t
  have hheard : q.Heard actions r
      ⟨r₁.now, r₁.station, .frame frame, Running.issued conduct mail t⟩ := by
    refine ⟨frame, rfl, haccepts, fun frames hframes => ?_⟩
    obtain ⟨others, hothers, hframes⟩ := hinherits frames hframes
    obtain ⟨first, rest, rfl, heq, -⟩ :=
      hframes.read (congrArg _ h.station.link) (take_of_arrival hinput)
    rw [Input.frame.inj heq]
    exact hothers (List.mem_cons_self ..)
  by_cases hstatus : q.step = .status
  · obtain ⟨hsound, hbroken⟩ := handshakeAnswered_waits hq h.station hstatus ⟨r₁.now, fault⟩ hstep
    by_cases hfault : fault = none
    · obtain ⟨hnext, hopen, hwritten⟩ := hsound hfault
      refine .answered hheard fun _ => ⟨?_, hopen, ?_⟩
      · rw [Running.proceed, left_eq]
        exact hnext
      · have hissued : Running.issued conduct mail t = t.output := by
          simp only [Running.issued, show t.ending = none from hopen]
        rw [hissued, sent, show t.output.filterMap Output.frame? = _ from hwritten]
        rfl
    · refine .lost (hbroken hfault) (hinherits.unsound ?_)
      simpa [Running.Action.isSound, Option.isSome_iff_ne_none] using hfault
  · exact .answered hheard fun h => absurd h hstatus

lemma Ends.outcome (hq : q.Valid) (hends : Ends q n r₁.station ⟨r₁.now, fault⟩ occasion input)
    (h : Waiting q before octets n r₁) (hearly : q.due n < q.limit)
    (hinput : r₁.input? conduct occasion = some (input, inbox, mail))
    (hinherits : Inherits q.link.addressLength actions r (.turn occasion fault :: remaining) r₁) :
    let t := r₁.station.step ⟨r₁.now, fault⟩ input
    q.Outcome actions r n ⟨r₁.now, r₁.station, input, Running.issued conduct mail t⟩
      (r₁.proceed conduct input inbox mail t) := by
  cases hends with
  | answered haccepts hstep => exact h.outcome_answered hq hinput haccepts hstep hinherits
  | failed hlimit hstep =>
    refine .failed ⟨rfl, hlimit, ?_, ?_⟩
    · have htill := h.till
      dsimp only at hlimit
      exact Call.eq_attempts hq hearly (by omega)
    · rw [Running.proceed, left_eq]
      exact h.station.down hstep
  | broken fault' =>
    refine .lost (breakOff_ended fault' r₁.station) fun frames hframes => ?_
    obtain ⟨others, -, hframes⟩ := hinherits frames hframes
    obtain ⟨first, rest, -, heq, -⟩ :=
      hframes.read (congrArg _ h.station.link) (take_of_arrival hinput)
    cases heq
  | unsent hfault hended =>
    refine .lost hended (hinherits.unsound ?_)
    simpa [Running.Action.isSound, Option.isSome_iff_ne_none] using hfault

lemma Waiting.leave (hq : q.Valid) (h : Waiting q before octets n r₁)
    (hleaves : Leaves q n r₁ action r₂)
    (hinherits : Inherits q.link.addressLength actions r (action :: remaining) r₁) :
    ∃ during e, r₂.past = before ++ (during ++ [e]) ∧ q.Paced n during ∧
      during.length ≤ octets + n ∧ e.time = r₁.now ∧ e.station = r₁.station ∧ r₂.now = r₁.now ∧
      q.Outcome actions r n e r₂ := by
  obtain ⟨during, hpast, hpaced, hcount⟩ := h.record
  cases hleaves with
  | intro hinput hends =>
    exact ⟨during, _, past_proceed hpast .., hpaced, by omega, rfl, rfl, rfl,
      hends.outcome hq h hpaced.early hinput hinherits⟩

end Leaving

lemma Waiting.await (hq : q.Valid) (h : Waiting q before octets n r) :
    ∃ pause r', OnTime r (.elapse pause) ∧ r.run conduct (Running.await pause) = some r' ∧
      (∃ e, r'.past = r.past ++ [e] ∧ e.time = min q.limit (q.due (n + 1)) ∧ e.input = .deadline) ∧
      (Waiting q before octets (n + 1) r' ∨
        min q.limit (q.due (n + 1)) = q.limit ∧ q.Down r'.station) := by
  obtain ⟨paused, hactivity⟩ := h.station.activity
  have htill := h.till
  have hnext : r.station.deadline = some (min q.limit (q.due (n + 1))) := by
    simp [deadline, hactivity, Call.handshake]
  generalize hpause : min q.limit (q.due (n + 1)) - r.now = pause
  have hthen : r.now + pause = min q.limit (q.due (n + 1)) := by omega
  have htime : OnTime r (.elapse pause) := by
    intro _ time hmem
    rw [hnext] at hmem
    exact Nat.le_of_eq (hthen.trans (Option.some.inj hmem))
  let later : Run := { r with now := r.now + pause }
  have hlater : Waiting q before octets n later :=
    ⟨h.station, h.opened, Nat.le_trans h.since (Nat.le_add_right ..), Nat.le_of_eq hthen, h.record⟩
  have hinput : later.input? conduct .expiry = some (.deadline, later.inbox, later.mail) := by
    simp [Running.input?, conduct, later, hnext, hthen]
  let ended : Run := later.proceed conduct .deadline later.inbox later.mail
    (later.station.step ⟨later.now, none⟩ .deadline)
  have hturn : later.act conduct (.turn .expiry none) = some ended := by
    rw [Running.act, if_pos hlater.opened, hinput]
    rfl
  have hrun : r.run conduct (Running.await pause) = some ended := by
    rw [Running.await, Running.run]
    exact congrArg (Option.bind · (Running.run conduct [])) hturn
  have hends : Waiting q before octets (n + 1) ended ∨
      Leaves q n later (.turn .expiry none) ended :=
    hlater.expires hq hinput (Nat.le_of_eq hthen.symm)
  refine ⟨pause, ended, htime, hrun, ⟨_, rfl, hthen, rfl⟩, hends.imp_right fun hleaves => ?_⟩
  generalize ended = r' at hleaves
  cases hleaves with
  | intro hinput' hends =>
    cases hends with
    | failed hlimit hstep =>
      refine ⟨hthen.symm.trans hlimit, ?_⟩
      rw [Running.proceed, left_eq]
      exact h.station.down hstep
    | unsent hfault => exact absurd rfl hfault

lemma Waiting.lt_attempts (hq : q.Valid) (h : Waiting q before octets n r) :
    n + 1 ≤ q.attempts := by
  obtain ⟨during, -, hpaced, -⟩ := h.record
  exact Call.lt_attempts hq hpaced.early

lemma Waiting.expires_call (hq : q.Valid) (h : Waiting q before octets n r) :
    q.Expires q.limit r := by
  have hfew := h.lt_attempts hq
  -- Each time the request is repeated there is one less that fits into the time of the step.
  generalize hleft : q.attempts - n = left
  induction left generalizing n r with
  | zero => omega
  | succ left ih =>
    obtain ⟨pause, r₁, htime, hrun, ⟨e, hpast, hthen, hinput⟩, hends⟩ := h.await hq
    have htimely : Timely (Running.await pause) r :=
      ⟨htime, fun r' _ => ⟨trivial, fun r'' _ => trivial⟩⟩
    rcases hends with hwaits | ⟨hlimit, hdown⟩
    · obtain ⟨pauses, r₂, during, e', htimely', hrun', hpast', hrest⟩ :=
        ih hwaits (hwaits.lt_attempts hq) (by omega)
      refine ⟨pause :: pauses, r₂, e :: during, e', ?_, ?_, ?_, hrest⟩
      · rw [List.flatMap_cons, timely_append, hrun]
        exact ⟨htimely, fun r' heq => Option.some.inj heq ▸ htimely'⟩
      · rw [List.flatMap_cons, Running.run_append, hrun]
        exact hrun'
      · rw [hpast', hpast]
        simp
    · exact ⟨[pause], r₁, [], e, htimely, hrun, hpast, hinput, Nat.le_of_eq (hthen.trans hlimit),
        hdown⟩

/-- The second step has begun behind a turn of a run. -/
structure Call.Follows (q : Call) (actions : List Action) (r : Run) (before : List Record)
    (e : Record) (r' : Run) (remaining : List Action) (r₁ : Run) : Prop where
  station : r₁.station.Waits (q.next e.time) 0
  opened : r₁.ending = none
  now : r₁.now = e.time
  past : r₁.past = before ++ [e]
  written : sent e = [(e.time, (q.next e.time).request)]
  timely : Timely remaining r₁
  run : r₁.run conduct remaining = some r'
  inherits : Inherits q.link.addressLength actions r remaining r₁

theorem Waiting.course (hq : q.Valid) (h : Waiting q r.past octets 0 r) (htimely : Timely actions r)
    (hrun : r.run conduct actions = some r') :
    ∃ n during after, r'.past = r.past ++ (during ++ after) ∧
      during.length ≤ octets + (actions.flatMap arriving).length + n ∧
      q.Course actions r n during after r' ∧
      (q.step = .status → ∀ e later, after = e :: later → q.Heard actions r e →
        q.Lost actions r later r' ∨
          ∃ remaining r₁, q.Follows actions r (r.past ++ during) e r' remaining r₁) := by
  rcases h.run hq htimely hrun with ⟨n, hwaits⟩ |
    ⟨earlier, action, remaining, n, r₁, r₂, rfl, hwaits, hinherits, hact, hleaves, htimely', hrun'⟩
  · have hfew := hwaits.lt_attempts hq
    have hexpires := hwaits.expires_call hq
    obtain ⟨during, hpast, hpaced, hcount⟩ := hwaits.record
    refine ⟨n, during, [], by rw [hpast, List.append_nil], by omega, ?_, by simp⟩
    exact ⟨hpaced, hfew, fun _ => ⟨hwaits.since, hwaits.till, hexpires⟩, by simp, by simp⟩
  · have hfew := hwaits.lt_attempts hq
    obtain ⟨during, e, hpast, hpaced, hcount, htime, -, hnow, houtcome⟩ :=
      hwaits.leave hq hleaves hinherits
    obtain ⟨later, hlater, hpath⟩ := Running.run_path hrun'
    have hover := houtcome.closing hpath
    refine ⟨n, during, e :: later, ?_, ?_, ⟨hpaced, hfew, by simp, ?_, ?_⟩, ?_⟩
    · rw [hlater, hpast]
      simp
    · rw [List.flatMap_append, List.length_append]
      omega
    · rintro e' later' heq
      obtain ⟨rfl, rfl⟩ := List.cons.inj heq
      rw [htime]
      exact ⟨hwaits.since, hwaits.till, hover⟩
    · rintro frames hframes hnone e' later' heq
      obtain ⟨rfl, rfl⟩ := List.cons.inj heq
      exact q.unanswered hframes hnone hover
    · rintro hstatus e' later' heq ⟨frame, hframe, -⟩
      obtain ⟨rfl, rfl⟩ := List.cons.inj heq
      cases houtcome with
      | answered _ hnext =>
        obtain ⟨hstation, hopen, hwritten⟩ := hnext hstatus
        refine .inr ⟨remaining, r₂, hstation, hopen, hnow.trans htime.symm, ?_, hwritten, htimely',
          hrun', ?_⟩
        · rw [hpast, List.append_assoc]
        · exact hinherits.trans (hwaits.inherits (Running.act_advances hact))
      | failed hgiven => exact nomatch hgiven.input.symm.trans hframe
      | lost hended hunsound =>
        obtain ⟨hlast, hended'⟩ := ended_of_path hended hpath
        exact .inl ⟨hlast, hended', hunsound⟩

/-! ### Both steps -/

lemma Call.Paced.request_of_sent (h : q.Paced n during) {w : Nat × LinkFrame}
    (hw : w ∈ during.flatMap sent) : w.2 = q.request := by
  have hmem := List.mem_cons_of_mem (q.begun, q.request) hw
  rw [h.requests] at hmem
  obtain ⟨i, -, rfl⟩ := List.mem_map.1 hmem
  rfl

lemma Call.Lost.inherits {remaining : List Action} {later : List Record} {now : Nat}
    (h : (q.next now).Lost remaining r₁ later r')
    (hinherits : Inherits q.link.addressLength actions r remaining r₁) :
    q.Lost actions r later r' := by
  refine ⟨h.last, h.ended, fun frames hframes => ?_⟩
  obtain ⟨others, -, hframes⟩ := hinherits frames hframes
  exact h.unsound others hframes

lemma Call.Heard.inherits {remaining : List Action} {e : Record} {now : Nat}
    (h : (q.next now).Heard remaining r₁ e)
    (hinherits : Inherits q.link.addressLength actions r remaining r₁) :
    (q.next e.time).Heard actions r e := by
  obtain ⟨frame, hframe, haccepts, hmem⟩ := h
  refine ⟨frame, hframe, haccepts, fun frames hframes => ?_⟩
  obtain ⟨others, hothers, hframes⟩ := hinherits frames hframes
  exact hothers (hmem others hframes)

/-- A secondary that does not answer is taken for one whose link is down. -/
lemma Call.BothSteps.of_closing {held after : List Record}
    (hrequests : ∀ w ∈ held.flatMap sent, ∃ step : HandshakeStep, w.2 = step.frame q.address)
    (hbounded : ∀ e ∈ held, e.time ≤ q.begun + 2 * q.link.initTimeout)
    (hlasting : after = [] → r'.now ≤ q.begun + 2 * q.link.initTimeout ∧
      q.Expires (q.begun + 2 * q.link.initTimeout) r')
    (hover : ∀ e later, after = e :: later → e.time ≤ q.begun + 2 * q.link.initTimeout ∧
      ((q.next e.time).Heard actions r e ∨
        (e.input = .deadline ∧ q.Down (behind later r'.station)) ∨ q.Lost actions r later r')) :
    q.BothSteps actions r held after r' := by
  refine ⟨hrequests, hbounded, hlasting, hover, ?_⟩
  intro frames hframes hnone e later heq
  obtain ⟨-, hends⟩ := hover e later heq
  have hlost (h : q.Lost actions r later r') : (q.next e.time).Lost actions r later r' :=
    ⟨h.last, h.ended, h.unsound⟩
  exact (q.next e.time).unanswered hframes hnone (hends.imp_right (Or.imp_right hlost))

lemma Call.Expires.mono {limit limit' : Nat} (h : q.Expires limit r) (hle : limit ≤ limit') :
    q.Expires limit' r := by
  obtain ⟨pauses, r', during, e, htimely, hrun, hpast, hinput, htime, hdown⟩ := h
  exact ⟨pauses, r', during, e, htimely, hrun, hpast, hinput, Nat.le_trans htime hle, hdown⟩

/-- If the first step is not answered, or is the last thing before the line fails, the second one
does not begin. -/
lemma Call.Course.one_step {after : List Record} (h : q.Course actions r n during after r')
    (hnone : ∀ e later, after = e :: later →
      q.GivenUp n e (behind later r'.station) ∨ q.Lost actions r later r') :
    q.BothSteps actions r during after r' := by
  have hlimit : q.limit ≤ q.begun + 2 * q.link.initTimeout := by
    unfold Call.limit
    omega
  apply Call.BothSteps.of_closing
  · exact fun w hw => ⟨q.step, h.paced.request_of_sent hw⟩
  · exact fun e he => Nat.le_trans (h.paced.within e he).2 hlimit
  · intro hafter
    obtain ⟨-, htill, hexpires⟩ := h.lasting hafter
    exact ⟨by omega, hexpires.mono hlimit⟩
  · intro e later heq
    obtain ⟨-, htill, -⟩ := h.closing e later heq
    refine ⟨by omega, .inr ?_⟩
    exact (hnone e later heq).imp_left fun hgiven => ⟨hgiven.input, hgiven.down⟩

lemma Call.Course.two_steps {later : List Record} {e : Record} {remaining : List Action}
    {during' after' : List Record} {n' : Nat} (h : q.Course actions r n during (e :: later) r')
    (hfollows : q.Follows actions r before e r' remaining r₁)
    (h' : (q.next e.time).Course remaining r₁ n' during' after' r') :
    q.BothSteps actions r (during ++ e :: during') after' r' := by
  obtain ⟨-, htill, -⟩ := h.closing e later rfl
  have hlimit : (q.next e.time).limit ≤ q.begun + 2 * q.link.initTimeout := by
    have hfirst : e.time ≤ q.begun + q.link.initTimeout :=
      Nat.le_trans htill (Nat.min_le_left ..)
    have hsecond : (q.next e.time).limit = e.time + q.link.initTimeout := rfl
    omega
  have hends : q.limit ≤ q.begun + 2 * q.link.initTimeout := by
    unfold Call.limit
    omega
  apply Call.BothSteps.of_closing
  · intro w hw
    rw [List.flatMap_append, List.flatMap_cons, hfollows.written] at hw
    rcases List.mem_append.1 hw with hw | hw
    · exact ⟨q.step, h.paced.request_of_sent hw⟩
    rcases List.mem_cons.1 hw with rfl | hw
    · exact ⟨.reset, rfl⟩
    · exact ⟨.reset, h'.paced.request_of_sent hw⟩
  · intro e' he'
    rcases List.mem_append.1 he' with he' | he'
    · exact Nat.le_trans (h.paced.within e' he').2 hends
    rcases List.mem_cons.1 he' with rfl | he'
    · omega
    · exact Nat.le_trans (h'.paced.within e' he').2 hlimit
  · intro hafter
    obtain ⟨-, htill', hexpires⟩ := h'.lasting hafter
    exact ⟨by omega, hexpires.mono hlimit⟩
  · intro e' later' heq
    obtain ⟨-, htill', hends'⟩ := h'.closing e' later' heq
    refine ⟨by omega, ?_⟩
    rcases hends' with hheard | hgiven | hlost
    · exact .inl (hheard.inherits hfollows.inherits)
    · exact .inr (.inl ⟨hgiven.input, hgiven.down⟩)
    · exact .inr (.inr (hlost.inherits hfollows.inherits))

/-- A secondary is called at regular times until it answers as it should, for no longer than the
time of a step; one that is to be brought up holds the line for no longer than two of them. -/
theorem call_bounded (hq : q.Valid) (hbegun : q.Begun p r) (htimely : Timely actions r)
    (hrun : r.run conduct actions = some r') :
    (beginHandshake ⟨q.begun, none⟩ q.index q.step q.occasion q.address p).frames = [q.request] ∧
      ∃ n during after, r'.past = r.past ++ (during ++ after) ∧
        during.length ≤ r.inbox.waiting.length + (actions.flatMap arriving).length + n ∧
        q.Course actions r n during after r' ∧
        (q.step = .status → ∃ held rest, during ++ after = held ++ rest ∧
          q.BothSteps actions r held rest r') := by
  obtain ⟨hsound, -⟩ := beginHandshake_waits (m := ⟨q.begun, none⟩) hq hbegun.link hbegun.peer rfl
  obtain ⟨p', octets, hwaits, hturn⟩ := hsound rfl
  have hfirst := congrArg Turn.frames hturn
  refine ⟨hfirst, ?_⟩
  rw [← show r.station = p' from hbegun.station.trans (congrArg Turn.state hturn)] at hwaits
  have hwaiting := waiting_begun hq hwaits hbegun.opened hbegun.now
  obtain ⟨n, during, after, hpast, hcount, hcourse, hfollow⟩ := hwaiting.course hq htimely hrun
  refine ⟨n, during, after, hpast, hcount, hcourse, fun hstatus => ?_⟩
  by_cases hheard : ∃ e later, after = e :: later ∧ q.Heard actions r e ∧ ¬q.Lost actions r later r'
  · obtain ⟨e, later, rfl, hheard, hkept⟩ := hheard
    obtain ⟨remaining, r₁, hfollows⟩ := (hfollow hstatus e later rfl hheard).resolve_left hkept
    have hnext := waiting_begun (hq.next e.time) hfollows.station hfollows.opened hfollows.now
    obtain ⟨n', during', after', hpast', -, hcourse', -⟩ :=
      hnext.course (hq.next e.time) hfollows.timely hfollows.run
    refine ⟨during ++ e :: during', after', ?_, hcourse.two_steps hfollows hcourse'⟩
    have hlater : later = during' ++ after' := by
      rw [hfollows.past, hpast] at hpast'
      simpa using hpast'
    rw [hlater]
    simp
  · refine ⟨during, after, rfl, hcourse.one_step fun e later heq => ?_⟩
    obtain ⟨-, -, hends⟩ := hcourse.closing e later heq
    rcases hends with hheard' | hends
    · exact .inr (Classical.byContradiction fun hkept => hheard ⟨e, later, heq, hheard', hkept⟩)
    · exact hends

/-- The first of two secondaries is called in a poll cycle. The time of a step is no multiple of the
time for an answer. -/
def firstCall : Call where
  link := { ackTimeout := 200, initTimeout := 500 }
  index := 0
  step := .status
  occasion := .cycle
  address := 1
  begun := 0

def unlinked : Primary where
  link := firstCall.link
  widths := .serial
  peers := [{ address := 1 }, { address := 2 }]
  activity := .idle
  pollDue := some 1000

def calling : Run where
  now := 0
  station := (beginHandshake ⟨0, none⟩ 0 .status .cycle 1 unlinked).state

/-- What the line brings: the answer of another secondary, an answer of the wrong kind, and the
status. The reset is not answered. -/
def halfHeard : List LinkFrame :=
  [.response .statusOfLink false 2, .response .nack false 1, .response .statusOfLink false 1]

def halfSilent : List Action :=
  [[.elapse 50], receive 1 (.response .statusOfLink false 2), [.elapse 50],
    receive 1 (.response .nack false 1), await 100, [.elapse 30],
    receive 1 (.response .statusOfLink false 1), await 200, await 200, await 100, await 200,
    await 200, await 100].flatten

def called : Run := (calling.run conduct halfSilent).getD calling

lemma brings_halfSilent : Brings 1 halfHeard halfSilent calling where
  lasting := rfl
  spells := by
    have hfirst : (LinkFrame.response .statusOfLink false 2).encode 1 =
        .ok [0x10, 0x0B, 2, 0x0D, 0x16] := rfl
    have hsecond : (LinkFrame.response .nack false 1).encode 1 =
        .ok [0x10, 0x01, 1, 0x02, 0x16] := rfl
    have hthird : (LinkFrame.response .statusOfLink false 1).encode 1 =
        .ok [0x10, 0x0B, 1, 0x0C, 0x16] := rfl
    have hspells := FrameReader.Spells.cons (LinkFrame.reads_of_encode hfirst)
      (.cons (LinkFrame.reads_of_encode hsecond) (.single (LinkFrame.reads_of_encode hthird)))
    exact hspells
  sound := by decide
  connected := by simp [halfSilent, receive, await, Running.Action.read]

theorem call_bounded_halfSilent :
    firstCall.Valid ∧ firstCall.Begun unlinked calling ∧ Timely halfSilent calling ∧
      calling.run conduct halfSilent = some called ∧
      called.past.flatMap sent =
        [(200, .request .requestLinkStatus false 1), (230, .request .resetRemoteLink false 1),
          (430, .request .resetRemoteLink false 1), (630, .request .resetRemoteLink false 1),
          (730, .request .requestLinkStatus false 2), (930, .request .requestLinkStatus false 2),
          (1130, .request .requestLinkStatus false 2)] ∧
      ∃ held e later, called.past = held ++ e :: later ∧ (∀ e ∈ held, e.time ≤ 1000) ∧
        e.time ≤ 1000 ∧ e.input = .deadline ∧ firstCall.Down (behind later called.station) := by
  have hvalid : firstCall.Valid := ⟨by decide, by decide, by decide⟩
  have hbegun : firstCall.Begun unlinked calling := ⟨rfl, ⟨_, rfl, rfl⟩, rfl, rfl, rfl⟩
  have htimely : Timely halfSilent calling := by decide +kernel
  have hrun : calling.run conduct halfSilent = some called := by decide +kernel
  refine ⟨hvalid, hbegun, htimely, hrun, by decide +kernel, ?_⟩
  obtain ⟨-, n, during, after, hpast, -, -, hboth⟩ := call_bounded hvalid hbegun htimely hrun
  obtain ⟨held, rest, hsplit, hboth⟩ := hboth rfl
  cases rest with
  | nil =>
    have hlate : called.now = 1230 := by decide +kernel
    have hnow : called.now ≤ 1000 := (hboth.lasting rfl).1
    omega
  | cons e later =>
    obtain ⟨htime, -⟩ := hboth.closing e later rfl
    have hsilent : ∀ frame ∈ halfHeard, ¬(firstCall.next 0).Accepts frame := by decide
    obtain ⟨hinput, hdown⟩ := hboth.silent halfHeard brings_halfSilent hsilent e later rfl
    refine ⟨held, e, later, ?_, hboth.bounded, htime, hinput, hdown⟩
    rw [hpast, hsplit]
    rfl

end Telecontrol.Primary
