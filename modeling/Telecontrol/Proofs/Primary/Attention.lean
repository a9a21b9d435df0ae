import Telecontrol.Proofs.Primary.BringUp
import Telecontrol.Proofs.Primary.Windows

/-!
# Which answers a call takes

A station that is calling takes one answer in each window. A good answer that finds no window free
any more is missed though it has arrived in time: it waits behind others, or the station does not
listen in the last window because of an answer of the wrong kind. `Attends` says how a run stands in
which nothing has been missed yet, and `call_heard` when the call is answered.
-/

namespace Telecontrol.Primary

open Running (await receive)

/-- The station goes on by itself only if nothing waits that it would read. -/
def ReadsFirst (r : Run) : Action → Prop
  | .turn .expiry _ => r.ending = none → conduct.read r.station r.inbox = none
  | _ => True

instance (r : Run) (action : Action) : Decidable (ReadsFirst r action) := by
  unfold ReadsFirst
  split <;> infer_instance

/-- What has arrived is read before the station goes on by itself, in each action of a run. -/
def Attentive : List Action → Run → Prop
  | [], _ => True
  | action :: actions, r =>
    ReadsFirst r action ∧ ∀ r', r.act conduct action = some r' → Attentive actions r'

instance decidableAttentive : ∀ actions r, Decidable (Attentive actions r)
  | [], _ => isTrue trivial
  | action :: actions, r =>
    if hfirst : ReadsFirst r action then
      match hact : r.act conduct action with
      | none => isTrue ⟨hfirst, by simp [hact]⟩
      | some r' =>
        have := decidableAttentive actions r'
        decidable_of_iff (Attentive actions r') (by simp [Attentive, hfirst, hact])
    else isFalse fun h => hfirst h.1

/-- From a time on the actions bring the frames of a timed script, whole frames each time, and
nothing goes wrong on the line. -/
inductive Delivers (addressLength : Nat) : Nat → List Action → List (Nat × LinkFrame) → Prop
  | nil (now : Nat) : Delivers addressLength now [] []
  | arrive {now : Nat} {octets : Octets} {frames : List LinkFrame} {actions : List Action}
      {script : List (Nat × LinkFrame)} : (LinkFrame.reader addressLength).Spells frames octets →
      Delivers addressLength now actions script →
      Delivers addressLength now (.arrive octets :: actions) (frames.map (now, ·) ++ script)
  | elapse {now duration : Nat} {actions : List Action} {script : List (Nat × LinkFrame)} :
      Delivers addressLength (now + duration) actions script →
      Delivers addressLength now (.elapse duration :: actions) script
  | ask {now : Nat} {actions : List Action} {script : List (Nat × LinkFrame)}
      (command : Command) : Delivers addressLength now actions script →
      Delivers addressLength now (.ask command :: actions) script
  | turn {now : Nat} {actions : List Action} {script : List (Nat × LinkFrame)}
      (occasion : Running.Occasion) : Delivers addressLength now actions script →
      Delivers addressLength now (.turn occasion none :: actions) script

variable {q : Call} {n : Nat} {p : Primary} {m : Moment} {frame : LinkFrame} {r r' : Run}
  {action : Action} {actions : List Action} {before : List Record}
  {script arrived coming : List (Nat × LinkFrame)} {addressLength now : Nat}

namespace Delivers

lemma late (h : Delivers addressLength now actions script) : ∀ w ∈ script, now ≤ w.1 := by
  induction h with
  | nil => exact nofun
  | arrive _ _ ih =>
    refine List.forall_mem_append.2 ⟨?_, ih⟩
    intro w hw
    obtain ⟨frame, -, rfl⟩ := List.mem_map.1 hw
    exact Nat.le_refl _
  | elapse _ ih => exact fun w hw => Nat.le_trans (Nat.le_add_right ..) (ih w hw)
  | ask _ _ ih | turn _ _ ih => exact ih

lemma spells (h : Delivers addressLength now actions script) :
    (LinkFrame.reader addressLength).Spells (script.map Prod.snd) (actions.flatMap arriving) := by
  induction h with
  | nil => exact .nil
  | arrive hspells _ ih =>
    rw [List.map_append, List.map_map, List.flatMap_cons]
    exact FrameReader.Spells.append (by simpa [Function.comp_def, arriving] using hspells) ih
  | elapse _ ih | ask _ _ ih | turn _ _ ih => exact ih

lemma sound (h : Delivers addressLength now actions script) :
    ∀ action ∈ actions, action.isSound = true ∧ ∀ ending, action ≠ .hangUp ending := by
  induction h with
  | nil => exact nofun
  | arrive _ _ ih | elapse _ ih | ask _ _ ih | turn _ _ ih =>
    exact List.forall_mem_cons.2 ⟨⟨rfl, nofun⟩, ih⟩

lemma brings {frames : List LinkFrame} (h : Delivers addressLength now actions script)
    (hlasting : r.inbox.ending = none)
    (hspells : (LinkFrame.reader addressLength).Spells frames r.inbox.waiting) :
    Brings addressLength (frames ++ script.map Prod.snd) actions r where
  lasting := hlasting
  spells := hspells.append h.spells
  sound action hmem := (h.sound action hmem).1
  connected ending hmem := (h.sound _ hmem).2 ending rfl

end Delivers

/-! ### Stations that listen -/

lemma Waits.listening_of_frame (h : p.Waits q n) (hlistening : p.isListening = true)
    (hwrong : ¬q.Accepts frame) (m : Moment) :
    (p.step m (.frame frame)).state.isListening = !isResponseOf q.address frame := by
  obtain ⟨peer, hpeer, haddress⟩ := h.peer
  obtain ⟨paused, hactivity⟩ := h.activity
  have hindex : p.peers[(q.handshake n paused).index]? = some peer := hpeer
  simp only [step, onFrame, hactivity, hindex, haddress]
  by_cases hresponse : isResponseOf q.address frame = true
  · have hnot : ¬(q.handshake n paused).accepts frame = true := by
      rw [q.accepts_handshake]
      exact fun haccepts => hwrong ⟨hresponse, haccepts⟩
    rw [if_neg (by simp [hresponse]), if_neg hnot, hresponse]
    rfl
  · rw [if_pos (by simp [hresponse]), Bool.eq_false_iff.2 hresponse]
    exact hlistening

lemma Waits.listening_of_deadline (h : p.Waits q n) (hearly : m.now < q.limit) :
    (p.step m .deadline).state.isListening = true := by
  obtain ⟨peer, hpeer, -⟩ := h.peer
  obtain ⟨paused, hactivity⟩ := h.activity
  have hindex : p.peers[(q.handshake n paused).index]? = some peer := hpeer
  simp only [step, onDeadline, hactivity, hindex, handshakeExpired]
  rw [if_neg (show ¬(q.handshake n paused).deadline ≤ m.now from Nat.not_le_of_lt hearly),
    sendRequest, transmit_state]
  rfl

/-- The first window of a call in which the station can still take an answer. -/
def free (n : Nat) (p : Primary) : Nat := if p.isListening then n else n + 1

lemma free_of_listening (h : p.isListening = true) : free n p = n := if_pos h

lemma free_of_paused (h : p.isListening = false) : free n p = n + 1 := by
  rw [free, h]
  exact if_neg Bool.false_ne_true

/-- What a station that listens has left unread is not a whole frame. -/
lemma arrived_eq_nil (hlink : p.link = q.link)
    (hspells : (LinkFrame.reader q.link.addressLength).Spells (arrived.map Prod.snd)
      r.inbox.waiting)
    (hlistening : p.isListening = true) (hread : conduct.read p r.inbox = none) : arrived = [] := by
  cases arrived with
  | nil => rfl
  | cons w later =>
    obtain ⟨inbox, htake⟩ := FrameReader.Spells.arrived (c := ⟨r.inbox, []⟩)
      (by simpa [Channel.contents] using hspells) rfl
    simp only [conduct, hlistening, if_true, take, Inbox.take, hlink, htake] at hread
    cases hread

/-! ### Runs -/

/-- A run in which a call is going on. What is left of the script, some of which has arrived and the
rest of which is still to come, has the same prospects as all of it. -/
structure Attends (q : Call) (script : List (Nat × LinkFrame)) (before : List Record) (n : Nat)
    (arrived coming : List (Nat × LinkFrame)) (actions : List Action) (r : Run) : Prop where
  waiting : ∃ octets, Waiting q before octets n r
  lasting : r.inbox.ending = none
  spells : (LinkFrame.reader q.link.addressLength).Spells (arrived.map Prod.snd) r.inbox.waiting
  past : ∀ w ∈ arrived, w.1 ≤ r.now
  delivers : Delivers q.link.addressLength r.now actions coming
  prospects : q.Prospects script (free n r.station) (arrived ++ coming)

/-- What the last turn of a call says about the script. -/
inductive Call.Verdict (q : Call) (script : List (Nat × LinkFrame)) : Input → Prop
  | taken {frame : LinkFrame} : (q.Offbeat script → q.Room script) → Verdict q script (.frame frame)
  | missed : ¬q.Room script → Verdict q script .deadline

def Concludes (q : Call) (script : List (Nat × LinkFrame)) (n : Nat) (r : Run) (action : Action)
    (r' : Run) : Prop :=
  Leaves q n r action r' ∧ ∃ e, r'.past = r.past ++ [e] ∧ q.Verdict script e.input

section Steps

variable {inbox : Inbox} {mail : List Command} {input : Input}

lemma Leaves.accepts {fault : Option String} (h : Leaves q n r (.turn .arrival fault) r')
    (hinput : r.input? conduct .arrival = some (.frame frame, inbox, mail)) : q.Accepts frame := by
  cases h with
  | intro hinput' hends =>
    have hsame := congrArg Prod.fst (Option.some.inj (hinput.symm.trans hinput'))
    cases hends with
    | answered haccepts _ =>
      obtain rfl := Input.frame.inj hsame
      exact haccepts
    | broken => exact nomatch hsame

lemma Leaves.limit (h : Leaves q n r (.turn .expiry none) r') : r.now = q.limit := by
  cases h with
  | intro _ hends =>
    cases hends with
    | failed hlimit _ => exact hlimit
    | unsent hfault => exact absurd rfl hfault

lemma Attends.early (h : Attends q script before n arrived coming actions r) (hq : q.Valid) :
    n < q.attempts ∧ q.due n < q.limit ∧ r.now ≤ min q.limit (q.due (n + 1)) := by
  obtain ⟨octets, hwaiting⟩ := h.waiting
  obtain ⟨during, -, hpaced, -⟩ := hwaiting.record
  exact ⟨Call.lt_attempts hq hpaced.early, hpaced.early, hwaiting.till⟩

lemma Attends.reads (hq : q.Valid)
    (h : Attends q script before n arrived coming (.turn .arrival none :: actions) r)
    (hinput : r.input? conduct .arrival = some (input, inbox, mail)) :
    (∃ arrived', Attends q script before n arrived' coming actions
        (r.proceed conduct input inbox mail (r.station.step ⟨r.now, none⟩ input))) ∨
      Concludes q script n r (.turn .arrival none)
        (r.proceed conduct input inbox mail (r.station.step ⟨r.now, none⟩ input)) := by
  obtain ⟨octets, hwaiting⟩ := h.waiting
  obtain ⟨hfew, -, htill⟩ := h.early hq
  obtain ⟨hlistening, htake⟩ := read_of_arrival hinput
  have hspells : (LinkFrame.reader r.station.link.addressLength).Spells (arrived.map Prod.snd)
      (Channel.contents ⟨r.inbox, []⟩) := by
    rw [hwaiting.station.link, Channel.contents, List.append_nil]
    exact h.spells
  obtain ⟨frame, others, hall, rfl, hlasting, hothers⟩ := take_spelled hspells h.lasting htake
  obtain ⟨w, later, rfl, rfl, rfl⟩ := List.map_eq_cons_iff.1 hall
  obtain ⟨hpast, hlater⟩ := List.forall_mem_cons.1 h.past
  have hprospects : q.Prospects script n (w :: (later ++ coming)) := by
    have hleft := h.prospects
    rwa [free_of_listening hlistening] at hleft
  -- The oldest frame that is left is read: it answers the call, or the call goes on.
  by_cases hgood : q.Accepts w.2
  · right
    rcases hwaiting.station.step_frame ⟨r.now, none⟩ w.2 with
      ⟨-, -, -, hwrong⟩ | ⟨-, paused, hstep⟩
    · exact absurd hgood hwrong
    · refine ⟨.intro hinput (.answered hgood hstep), _, rfl, .taken fun hoffbeat => ?_⟩
      exact hprospects.room hq hgood hoffbeat (Nat.le_trans hpast htill) hfew
  · left
    have hshorter := take_shorter htake
    have hdelivers : Delivers q.link.addressLength r.now actions coming := by
      cases h.delivers with
      | turn _ hrest => exact hrest
    rcases hwaiting.reads hinput hshorter with hstill | hleaves
    · refine ⟨later, ⟨_, hstill⟩, hlasting, ?_, hlater, hdelivers, ?_⟩
      · rw [hwaiting.station.link, Channel.contents, List.append_nil] at hothers
        exact hothers
      · rw [Running.proceed, left_eq]
        have hthen := hwaiting.station.listening_of_frame hlistening hgood ⟨r.now, none⟩
        cases hresponse : isResponseOf q.address w.2 with
        | false =>
          rw [hresponse] at hthen
          rw [free_of_listening hthen]
          exact hprospects.skip hresponse
        | true =>
          rw [hresponse] at hthen
          rw [free_of_paused hthen]
          exact hprospects.take hq hresponse hgood (Nat.le_trans hpast htill) hfew
    · exact absurd (hleaves.accepts hinput) hgood

lemma Attends.expires (hq : q.Valid)
    (h : Attends q script before n arrived coming (.turn .expiry none :: actions) r)
    (hfirst : ReadsFirst r (.turn .expiry none))
    (hinput : r.input? conduct .expiry = some (.deadline, r.inbox, mail))
    (hdue : min q.limit (q.due (n + 1)) ≤ r.now) :
    (∃ n', Attends q script before n' arrived coming actions
        (r.proceed conduct .deadline r.inbox mail (r.station.step ⟨r.now, none⟩ .deadline))) ∨
      Concludes q script n r (.turn .expiry none)
        (r.proceed conduct .deadline r.inbox mail (r.station.step ⟨r.now, none⟩ .deadline)) := by
  obtain ⟨octets, hwaiting⟩ := h.waiting
  obtain ⟨-, hearly, htill⟩ := h.early hq
  have hdelivers : Delivers q.link.addressLength r.now actions coming := by
    cases h.delivers with
    | turn _ hrest => exact hrest
  have hnone (hlistening : r.station.isListening = true) : arrived = [] :=
    arrived_eq_nil hwaiting.station.link h.spells hlistening (hfirst hwaiting.opened)
  rcases hwaiting.expires hq hinput hdue with hstill | hleaves
  · left
    obtain ⟨during, -, hpaced, -⟩ := hstill.record
    have hbefore : r.now < q.limit := by
      have hnext := hpaced.early
      omega
    refine ⟨n + 1, ⟨_, hstill⟩, h.lasting, h.spells, h.past, hdelivers, ?_⟩
    have hthen := hwaiting.station.listening_of_deadline (m := ⟨r.now, none⟩) hbefore
    rw [Running.proceed, left_eq, free_of_listening hthen]
    have hprospects := h.prospects
    cases hlistening : r.station.isListening with
    | false => rwa [free_of_paused hlistening] at hprospects
    | true =>
      obtain rfl := hnone hlistening
      rw [free_of_listening hlistening] at hprospects
      refine hprospects.pass fun w hw => ?_
      exact Call.le_window hq (Nat.le_trans hstill.since (hdelivers.late w hw))
  · right
    refine ⟨hleaves, _, rfl, .missed fun hroom => ?_⟩
    have hhears := h.prospects.hears hroom
    have hlimit := hleaves.limit
    cases hlistening : r.station.isListening with
    | false =>
      -- The last window is taken up by an answer of the wrong kind.
      rw [free_of_paused hlistening, Call.eq_attempts hq hearly (by omega)] at hhears
      exact Nat.lt_irrefl _ hhears.lt_attempts
    | true =>
      -- Nothing is left that has arrived, and what is to come is too late.
      obtain rfl := hnone hlistening
      refine Call.not_hears_of_late (fun w hw => ?_) hhears
      rw [← hlimit]
      exact hdelivers.late w (List.mem_filter.1 hw).1

end Steps

theorem Attends.advance (hq : q.Valid)
    (h : Attends q script before n arrived coming (action :: actions) r)
    (htimely : OnTime r action) (hfirst : ReadsFirst r action)
    (hadvances : Running.Advances conduct r action r') :
    (∃ n' arrived' coming', Attends q script before n' arrived' coming' actions r') ∨
      Concludes q script n r action r' := by
  obtain ⟨⟨octets, hwaiting⟩, hlasting, hspells, hpast, hdelivers, hprospects⟩ := id h
  have hpasses (hno : ∀ occasion fault, action ≠ .turn occasion fault) :=
    hwaiting.passes htimely hadvances hno
  cases hadvances with
  | arrives octets =>
    left
    cases hdelivers with
    | @arrive _ _ frames _ rest hnew hrest =>
      refine ⟨n, arrived ++ frames.map (r.now, ·), rest, ⟨_, hpasses nofun⟩, hlasting, ?_, ?_,
        hrest, ?_⟩
      · rw [List.map_append, List.map_map]
        exact hspells.append (by simpa [Function.comp_def] using hnew)
      · refine List.forall_mem_append.2 ⟨hpast, ?_⟩
        intro w hw
        obtain ⟨frame, -, rfl⟩ := List.mem_map.1 hw
        exact Nat.le_refl _
      · rw [List.append_assoc]
        exact hprospects
  | hangsUp => cases hdelivers
  | asked =>
    left
    cases hdelivers with
    | ask _ hrest =>
      exact ⟨n, arrived, coming, ⟨_, hpasses nofun⟩, hlasting, hspells, hpast, hrest, hprospects⟩
  | askedLate command hended => exact absurd hwaiting.opened hended
  | elapses duration =>
    left
    cases hdelivers with
    | elapse hrest =>
      have hlater : ∀ w ∈ arrived, w.1 ≤ r.now + duration :=
        fun w hw => Nat.le_trans (hpast w hw) (Nat.le_add_right ..)
      exact ⟨n, arrived, coming, ⟨_, hpasses nofun⟩, hlasting, hspells, hlater, hrest, hprospects⟩
  | turns hopen hinput =>
    cases hdelivers with
    | turn _ hrest =>
      rcases hwaiting.station.input_cases hinput with ⟨rfl, -⟩ | ⟨rfl, rfl, rfl, hdue⟩
      · exact (h.reads hq hinput).imp_left fun ⟨arrived', hstill⟩ => ⟨n, arrived', coming, hstill⟩
      · exact (h.expires hq hfirst hinput hdue).imp_left
          fun ⟨n', hstill⟩ => ⟨n', arrived, coming, hstill⟩

theorem Attends.run (hq : q.Valid) (h : Attends q script before n arrived coming actions r)
    (htimely : Timely actions r) (hattentive : Attentive actions r)
    (hrun : r.run conduct actions = some r') :
    (∃ octets n', Waiting q before octets n' r') ∨
      ∃ action later octets n' r₁ r₂, Waiting q before octets n' r₁ ∧
        Inherits q.link.addressLength actions r (action :: later) r₁ ∧
        Concludes q script n' r₁ action r₂ ∧ r₂.run conduct later = some r' := by
  induction actions generalizing r n arrived coming with
  | nil =>
    obtain rfl := Option.some.inj hrun
    obtain ⟨octets, hwaiting⟩ := h.waiting
    exact .inl ⟨octets, n, hwaiting⟩
  | cons action actions ih =>
    obtain ⟨r₁, hact, hrun⟩ := Option.bind_eq_some_iff.1 hrun
    obtain ⟨octets, hwaiting⟩ := h.waiting
    have hadvances := Running.act_advances hact
    rcases h.advance hq htimely.1 hattentive.1 hadvances with
      ⟨n', arrived', coming', hstill⟩ | hends
    · rcases ih hstill (htimely.2 r₁ hact) (hattentive.2 r₁ hact) hrun with hlasts |
        ⟨last, later, octets', n'', r₂, r₃, hwaits, hinherits, hconcludes, hlater⟩
      · exact .inl hlasts
      · exact .inr ⟨last, later, octets', n'', r₂, r₃, hwaits,
          (hwaiting.inherits hadvances).trans hinherits, hconcludes, hlater⟩
    · exact .inr ⟨action, actions, octets, n, r, r₁, hwaiting, inherits_refl _ _ _, hends, hrun⟩

/-- Nothing of the script has been missed when a call begins. What waits then counts as if it had
arrived at that time. -/
lemma attends_begun {early : List LinkFrame} (hq : q.Valid) (hbegun : q.Begun p r)
    (hlasting : r.inbox.ending = none)
    (hearly : (LinkFrame.reader q.link.addressLength).Spells early r.inbox.waiting)
    (hdelivers : Delivers q.link.addressLength r.now actions script) :
    Attends q (early.map (q.begun, ·) ++ script) r.past 0 (early.map (q.begun, ·)) script actions
      r := by
  obtain ⟨hsound, -⟩ := beginHandshake_waits (m := ⟨q.begun, none⟩) hq hbegun.link hbegun.peer rfl
  obtain ⟨p', octets, hwaits, hturn⟩ := hsound rfl
  rw [← show r.station = p' from hbegun.station.trans (congrArg Turn.state hturn)] at hwaits
  have hlistening : r.station.isListening = true := by
    rw [hbegun.station, beginHandshake, sendRequest, transmit_state]
    rfl
  refine ⟨⟨_, waiting_begun hq hwaits hbegun.opened hbegun.now⟩, hlasting, ?_, ?_, hdelivers, ?_⟩
  · simpa [Function.comp_def] using hearly
  · intro w hw
    obtain ⟨frame, -, rfl⟩ := List.mem_map.1 hw
    exact Nat.le_of_eq hbegun.now.symm
  · rw [free_of_listening hlistening]
    exact q.prospects_whole _

/-- A call on a line that works is answered if there is room for a good answer, and given up only if
there is none. As long as no answer comes at the very moment at which a request is due or the time
is over, it is answered exactly if there is room. -/
theorem call_heard {early : List LinkFrame} (hq : q.Valid) (hbegun : q.Begun p r)
    (htimely : Timely actions r) (hattentive : Attentive actions r)
    (hlasting : r.inbox.ending = none)
    (hearly : (LinkFrame.reader q.link.addressLength).Spells early r.inbox.waiting)
    (hdelivers : Delivers q.link.addressLength r.now actions script)
    (hrun : r.run conduct actions = some r') (hover : q.limit < r'.now) :
    ∃ n during e later, r'.past = r.past ++ (during ++ e :: later) ∧ q.Paced n during ∧
      e.station.Waits q n ∧ e.time ≤ q.limit ∧
      (q.Heard actions r e ∧ (q.Offbeat (early.map (q.begun, ·) ++ script) →
          q.Room (early.map (q.begun, ·) ++ script)) ∨
        q.GivenUp n e (behind later r'.station) ∧
          ¬q.Room (early.map (q.begun, ·) ++ script)) := by
  have hattends := attends_begun hq hbegun hlasting hearly hdelivers
  rcases hattends.run hq htimely hattentive hrun with ⟨octets, n, hwaiting⟩ |
    ⟨action, remaining, octets, n, r₁, r₂, hwaiting, hinherits, hconcludes, hrun'⟩
  · have htill := hwaiting.till
    omega
  · obtain ⟨hleaves, e, hlast, hverdict⟩ := hconcludes
    obtain ⟨during, e', hpast, hpaced, -, htime, hstation, -, houtcome⟩ :=
      hwaiting.leave hq hleaves hinherits
    obtain ⟨later, hlater, hpath⟩ := Running.run_path hrun'
    obtain rfl : e' = e := by
      have hends := congrArg List.getLast? (hlast.symm.trans hpast)
      simpa [← List.append_assoc] using hends.symm
    have hbrings := hdelivers.brings hlasting hearly
    refine ⟨n, during, e', later, ?_, hpaced, ?_, ?_, ?_⟩
    · rw [hlater, hpast]
      simp
    · rw [hstation]
      exact hwaiting.station
    · rw [htime]
      exact Nat.le_trans hwaiting.till (Nat.min_le_left ..)
    · cases houtcome with
      | answered hheard _ =>
        obtain ⟨frame, hframe, -⟩ := id hheard
        rw [hframe] at hverdict
        cases hverdict with
        | taken hroom => exact .inl ⟨hheard, hroom⟩
      | failed hgiven =>
        rw [hgiven.input] at hverdict
        cases hverdict with
        | missed hnone => exact .inr ⟨behind_of_path hpath ▸ hgiven, hnone⟩
      | lost _ hunsound => exact absurd hbrings (hunsound _)

/-- The status arrives behind a refusal in the first of three windows, and is taken in the second
one. The reset is not answered. -/
def behindRefusal : List Action :=
  [[.elapse 50], receive 1 (.response .nack false 1),
    [.elapse 50, .arrive [0x10, 0x0B, 1, 0x0C, 0x16]], await 100, [.read], await 200,
    await 200].flatten

def afterRefusal : Run := (calling.run conduct behindRefusal).getD calling

lemma delivers_behindRefusal :
    Delivers 1 0 behindRefusal
      [(50, .response .nack false 1), (100, .response .statusOfLink false 1)] := by
  have hrefusal : (LinkFrame.response .nack false 1).encode 1 = .ok [0x10, 0x01, 1, 0x02, 0x16] :=
    rfl
  have hstatus : (LinkFrame.response .statusOfLink false 1).encode 1 =
      .ok [0x10, 0x0B, 1, 0x0C, 0x16] := rfl
  exact .elapse (.arrive (.single (LinkFrame.reads_of_encode hrefusal)) (.turn _ (.elapse
    (.arrive (.single (LinkFrame.reads_of_encode hstatus)) (.elapse (.turn _ (.turn _ (.elapse
      (.turn _ (.elapse (.turn _ (.nil _))))))))))))

theorem call_heard_behindRefusal :
    firstCall.Valid ∧ firstCall.Begun unlinked calling ∧ Timely behindRefusal calling ∧
      Attentive behindRefusal calling ∧ calling.run conduct behindRefusal = some afterRefusal ∧
      afterRefusal.past.flatMap sent =
        [(200, .request .requestLinkStatus false 1), (200, .request .resetRemoteLink false 1),
          (400, .request .resetRemoteLink false 1), (600, .request .resetRemoteLink false 1)] ∧
      ∃ e ∈ afterRefusal.past, firstCall.Heard behindRefusal calling e := by
  have hvalid : firstCall.Valid := ⟨by decide, by decide, by decide⟩
  have hbegun : firstCall.Begun unlinked calling := ⟨rfl, ⟨_, rfl, rfl⟩, rfl, rfl, rfl⟩
  have htimely : Timely behindRefusal calling := by decide +kernel
  have hattentive : Attentive behindRefusal calling := by decide +kernel
  have hrun : calling.run conduct behindRefusal = some afterRefusal := by decide +kernel
  have hroom : firstCall.Room
      [(50, .response .nack false 1), (100, .response .statusOfLink false 1)] := by
    refine ⟨1, 100, _, rfl, by decide, by decide, ?_⟩
    intro i hi w hw
    obtain rfl | rfl : i = 0 ∨ i = 1 := by omega
    · obtain rfl := Option.some.inj hw
      decide
    · obtain rfl := Option.some.inj hw
      decide
  obtain ⟨n, during, e, later, hpast, -, -, -, ⟨hheard, -⟩ | ⟨-, hnone⟩⟩ :=
    call_heard hvalid hbegun htimely hattentive rfl .nil delivers_behindRefusal hrun
      (by decide +kernel)
  · refine ⟨hvalid, hbegun, htimely, hattentive, hrun, by decide +kernel, e, ?_, hheard⟩
    rw [hpast]
    simp
  · exact absurd hroom hnone

/-- A station is opened whose request fits only once into the time of a step. -/
def hasty : LinkParameters := { ackTimeout := 500, initTimeout := 500 }

def hastyCall : Call where
  link := hasty
  index := 0
  step := .status
  occasion := .opening 0
  address := 1
  begun := 0

def unopened : Primary where
  link := hasty
  widths := .serial
  peers := [{ address := 1 }]
  activity := .idle
  pollDue := none

def opened : Turn :=
  (start ⟨0, none⟩ [1] hasty .serial 0).toOption.getD (Turn.done unopened)

/-- The secondary refuses the request at first, and gives its status long before the time is
over. -/
def refusalThenStatus : List Action :=
  [[.elapse 100], receive 1 (.response .nack false 1),
    [.elapse 100, .arrive [0x10, 0x0B, 1, 0x0C, 0x16]], await 300].flatten

def missed : Run :=
  ((Running.begin conduct 0 opened).run conduct refusalThenStatus).getD
    (Running.begin conduct 0 opened)

/-- The status is the answer that is asked for, and it arrives in time. It is not read, and the link
is given up. -/
theorem status_missed :
    start ⟨0, none⟩ [1] hasty .serial 0 = .ok opened ∧ hastyCall.Valid ∧
      hastyCall.Begun unopened (Running.begin conduct 0 opened) ∧
      Timely refusalThenStatus (Running.begin conduct 0 opened) ∧
      Attentive refusalThenStatus (Running.begin conduct 0 opened) ∧
      Delivers 1 0 refusalThenStatus
        [(100, .response .nack false 1), (200, .response .statusOfLink false 1)] ∧
      hastyCall.Accepts (.response .statusOfLink false 1) ∧ 0 < 200 ∧ 200 < hastyCall.limit ∧
      (Running.begin conduct 0 opened).run conduct refusalThenStatus = some missed ∧
      missed.past.map Episode.input = [.frame (.response .nack false 1), .deadline] ∧
      missed.now = hastyCall.limit ∧ missed.ending = some .handshakeTimeout ∧
      hastyCall.Down missed.station := by
  have hrefusal : (LinkFrame.response .nack false 1).encode 1 = .ok [0x10, 0x01, 1, 0x02, 0x16] :=
    rfl
  have hstatus : (LinkFrame.response .statusOfLink false 1).encode 1 =
      .ok [0x10, 0x0B, 1, 0x0C, 0x16] := rfl
  have hdelivers : Delivers 1 0 refusalThenStatus
      [(100, .response .nack false 1), (200, .response .statusOfLink false 1)] :=
    .elapse (.arrive (.single (LinkFrame.reads_of_encode hrefusal)) (.turn _ (.elapse
      (.arrive (.single (LinkFrame.reads_of_encode hstatus)) (.elapse (.turn _ (.nil _)))))))
  exact ⟨rfl, ⟨by decide, by decide, by decide⟩, ⟨rfl, ⟨_, rfl, rfl⟩, rfl, rfl, rfl⟩,
    by decide +kernel, by decide +kernel, hdelivers, by decide, by decide, by decide,
    by decide +kernel, by decide +kernel, by decide +kernel, by decide +kernel,
    ⟨_, rfl, by decide +kernel⟩⟩

end Telecontrol.Primary
