import Telecontrol.Proofs.Secondary.Responses
import Telecontrol.Proofs.Stream

/-!
# Nothing that arrives ends a secondary station

A secondary station is ended only by its application, by the end of the stream or by a line that
fails. What arrives is read up to the start of a frame that is not complete yet.
-/

namespace Telecontrol

namespace LinkFrame

variable {addressLength : Nat} {octets : Octets}

/-- The octets are the start of a frame that is not complete, or nothing. -/
inductive Begun (addressLength : Nat) : Octets → Prop
  | nothing : Begun addressLength []
  | fixed {octets : Octets} : octets.length < addressLength + 3 →
      Begun addressLength (fixedStart :: octets)
  | header {octets : Octets} : octets.length < 3 → Begun addressLength (variableStart :: octets)
  | body {length : UInt8} {octets : Octets} : 1 + addressLength ≤ length.toNat →
      octets.length < length.toNat + 2 →
      Begun addressLength (variableStart :: length :: length :: variableStart :: octets)

lemma begun_of_next (h : next addressLength octets = none) : Begun addressLength octets := by
  cases octets with
  | nil => exact .nothing
  | cons start octets =>
    unfold next at h
    dsimp only at h
    split at h
    · cases h
    split at h
    · cases h
    split at h
    · next hstart =>
      rw [hstart]
      unfold nextFixed at h
      dsimp only at h
      split at h
      · apply Begun.fixed
        omega
      · cases h
    split at h
    · next hstart =>
      rw [hstart]
      match octets with
      | [] | [_] | [_, _] => exact .header (by simp)
      | lengthByte :: again :: start :: octets =>
        simp only [nextVariable] at h
        split at h
        · cases h
        next hheader =>
        split at h
        · cases h
        next hlength =>
        split at h
        · next hshort =>
          obtain ⟨rfl, rfl⟩ : again = lengthByte ∧ start = variableStart := by
            simpa using hheader
          exact .body (by omega) hshort
        · cases h
    · cases h

end LinkFrame

namespace Secondary

open Running (instruct receive)

/-- The command is the end, or hands over an ASDU that has been accepted. -/
def Command.Issued (link : LinkParameters) (widths : FieldWidths) (command : Command) : Prop :=
  command = .close ∨ ∃ asdu request, commandOf link widths asdu request = .ok command

/-- The station is fit and only commands that the application can issue wait for it. -/
structure FitWithIssuedMail (link : LinkParameters) (widths : FieldWidths) (r : Run) : Prop where
  fit : r.station.Fit
  parameters : r.station.link = link
  short : link.addressLength ≤ 2
  mail : ∀ command ∈ r.mail, command.Issued link widths

variable {s s' : Secondary} {t : Turn} {m : Moment} {input : Input} {service : Service}
  {link : LinkParameters} {widths : FieldWidths} {run run' : Run} {action : Action}
  {actions : List Action} {inbox : Inbox} {mail : List Command} {occasion : Running.Occasion}

lemma Command.Issued.holds {dataClass : DataClass} {payload : Octets} {request : Nat}
    (hshort : link.addressLength ≤ 2)
    (h : Command.Issued link widths (.enqueue dataClass payload request)) :
    LinkFrame.Holds link.addressLength payload := by
  rcases h with h | ⟨asdu, number, h⟩
  · exact nomatch h
  · obtain ⟨octets, hpayload, heq⟩ := bind_eq_ok h
    obtain ⟨-, rfl, -⟩ := Command.enqueue.inj (Except.ok.inj heq)
    exact Asdu.holds_of_payload hshort hpayload

lemma FitWithIssuedMail.queued (h : FitWithIssuedMail link widths run)
    (hinput : run.input? conduct occasion = some (input, inbox, mail))
    {dataClass : DataClass} {payload : Octets} {request : Nat}
    (hqueue : input = .command (.enqueue dataClass payload request)) :
    LinkFrame.Holds run.station.link.addressLength payload := by
  rw [h.parameters]
  rcases input_cases hinput with ⟨command, hmail, rfl, -⟩ | ⟨htake, -⟩ | ⟨rfl, -⟩
  · obtain rfl := Input.command.inj hqueue
    have hmem : Command.enqueue dataClass payload request ∈ run.mail := by
      rw [hmail]
      exact List.mem_cons_self
    exact (h.mail _ hmem).holds h.short
  · rcases take_cases htake with ⟨⟨frame, rfl⟩ | ⟨fault, rfl⟩, -⟩ | ⟨arrival, rfl, -⟩ <;>
      exact nomatch hqueue
  · exact nomatch hqueue

lemma FitWithIssuedMail.remaining (h : FitWithIssuedMail link widths run)
    (hinput : run.input? conduct occasion = some (input, inbox, mail)) :
    ∀ command ∈ mail, command.Issued link widths := by
  rcases input_cases hinput with ⟨command, hmail, -⟩ | ⟨-, rfl⟩ | ⟨-, rfl, -⟩
  · intro other hother
    apply h.mail
    rw [hmail]
    exact List.mem_cons_of_mem _ hother
  · exact h.mail
  · exact nofun

lemma FitWithIssuedMail.advance (h : FitWithIssuedMail link widths run)
    (hadvances : Running.Advances conduct run action run')
    (hasked : ∀ command, action = .ask command → command.Issued link widths) :
    FitWithIssuedMail link widths run' := by
  cases hadvances with
  | arrives | hangsUp | elapses | askedLate => exact ⟨h.fit, h.parameters, h.short, h.mail⟩
  | asked command hopen =>
    refine ⟨h.fit, h.parameters, h.short, ?_⟩
    intro other hother
    rcases List.mem_append.1 hother with hold | hnew
    · exact h.mail other hold
    · obtain rfl := List.mem_singleton.1 hnew
      exact hasked other rfl
  | @turns occasion fault input inbox mail hopen hinput =>
    have hleaves := step_leaves h.fit.single ⟨run.now, fault⟩ input
    constructor
    · rw [Running.proceed, left_eq]
      exact hleaves.fit h.fit fun _ _ _ hqueue => h.queued hinput hqueue
    · rw [Running.proceed, left_eq]
      exact hleaves.same_parameters.link.trans h.parameters
    · exact h.short
    · simp only [Running.proceed]
      split
      · exact h.remaining hinput
      · exact nofun

lemma FitWithIssuedMail.takes (h : FitWithIssuedMail link widths run) {octets rest : Octets}
    {result : Except Fault LinkFrame} (hwaiting : run.inbox.waiting = octets)
    (hnext : (LinkFrame.reader link.addressLength).next octets = some (result, rest)) :
    ∃ (input : Input) (inbox : Inbox), inbox.waiting = rest ∧
      run.station.take run.inbox = some (input, inbox) ∧ input.ending? = none := by
  have hfound : run.inbox.takeFrame (LinkFrame.reader run.station.link.addressLength) =
      some (result, { run.inbox with waiting := rest }) := by
    rw [Inbox.takeFrame, hwaiting, h.parameters, hnext]
    rfl
  unfold take
  rw [hfound]
  cases result with
  | ok frame => exact ⟨.frame frame, _, rfl, rfl, rfl⟩
  | error fault => exact ⟨.malformed fault, _, rfl, rfl, rfl⟩

/-- Reading comes to an end: with each turn the octets that wait are fewer, until there is only the
start of a frame that is not complete. The station has ended by then only if the line has failed. -/
lemma FitWithIssuedMail.reads (h : FitWithIssuedMail link widths run) (hopen : run.ending = none)
    (faults : List (Option String)) (henough : run.inbox.waiting.length ≤ faults.length) :
    ∃ n run', n ≤ run.inbox.waiting.length ∧
      run.run conduct ((faults.take n).map (.turn .arrival)) = some run' ∧
      (run'.ending = none → LinkFrame.Begun link.addressLength run'.inbox.waiting) ∧
      ((∀ fault ∈ faults, fault = none) → run'.ending = none) := by
  generalize hwaiting : run.inbox.waiting = octets at henough
  -- On the calls of the reader: each that finds something is one turn, which may fail to write.
  induction octets using (LinkFrame.reader link.addressLength).call_induction
    generalizing run faults with
  | wants octets hnext =>
    refine ⟨0, run, Nat.zero_le _, rfl, fun _ => ?_, fun _ => hopen⟩
    rw [hwaiting]
    exact LinkFrame.begun_of_next hnext
  | finds octets result rest hnext ih =>
    have hshorter := (LinkFrame.reader link.addressLength).shorter hnext
    cases faults with
    | nil => exact absurd (Nat.lt_of_lt_of_le hshorter henough) (Nat.not_lt_zero _)
    | cons fault faults =>
      obtain ⟨input, inbox, hrest, htake, hheard⟩ := h.takes hwaiting hnext
      let t := conduct.step ⟨run.now, fault⟩ input run.station
      have hact : run.act conduct (.turn .arrival fault) =
          some (run.proceed conduct input inbox run.mail t) := by
        simp [Running.act, hopen, Running.input?, conduct, htake, t]
      have hending : fault = none → t.ending = none := by
        intro hfault
        exact ((step_takes h.fit.single _ input).sound h.fit hfault).2.trans hheard
      cases hopen' : t.ending with
      | some reason =>
        refine ⟨1, run.proceed conduct input inbox run.mail t, by omega, ?_, ?_, ?_⟩
        · rw [List.take_succ_cons, List.map_cons, Running.run, hact]
          rfl
        · intro hstill
          exact absurd (hopen'.symm.trans hstill) (Option.some_ne_none reason)
        · intro hnone
          exact hending (hnone fault List.mem_cons_self)
      | none =>
        rw [List.length_cons] at henough
        have hissued := h.advance (Running.act_advances hact) (by rintro command ⟨⟩)
        obtain ⟨n, run', hn, hrun, hbegun, hsound⟩ := ih hissued hopen' faults hrest (by omega)
        refine ⟨n + 1, run', by omega, ?_, hbegun, fun hnone => ?_⟩
        · rw [List.take_succ_cons, List.map_cons, Running.run, hact]
          exact hrun
        · exact hsound fun fault hmem => hnone fault (List.mem_cons_of_mem _ hmem)

/-- The station has ended for the given reason: it was closed or abandoned, or the stream came to
its end. -/
def Input.Ends (input : Input) (reason : CloseReason) : Prop :=
  (input = .command .close ∨ input = .abandoned) ∧ reason = .localClose ∨
    input = .streamEnd .ended ∧ reason = .remoteClosed

/-- The line has not failed, and the station has ended only if it had to. -/
structure Unbroken (r : Run) : Prop where
  stream : ∀ text, r.inbox.ending ≠ some (.failed text)
  ended : ∀ reason, r.ending = some reason → ∃ e, r.past.getLast? = some e ∧ e.input.Ends reason

lemma unbroken_launch : Unbroken (launch s) where
  stream _ := (Option.some_ne_none _).symm
  ended _ h := absurd h.symm (Option.some_ne_none _)

lemma ends_of_input (hinput : run.input? conduct occasion = some (input, inbox, mail))
    (hstream : ∀ text, run.inbox.ending ≠ some (.failed text)) {reason : CloseReason}
    (h : input.ending? = some reason) : input.Ends reason := by
  rcases input_cases hinput with ⟨command, -, rfl, -⟩ | ⟨htake, -⟩ | ⟨rfl, -⟩
  · cases command with
    | enqueue => exact nomatch h
    | close =>
      obtain rfl := Option.some.inj h
      exact .inl ⟨.inl rfl, rfl⟩
  · rcases take_cases htake with ⟨⟨frame, rfl⟩ | ⟨fault, rfl⟩, -⟩ | ⟨arrival, rfl, hend, -⟩
    · exact nomatch h
    · exact nomatch h
    · obtain ⟨ending, hending, rfl⟩ := Option.map_eq_some_iff.1 hend
      cases ending with
      | finished =>
        obtain rfl := Option.some.inj h
        exact .inr ⟨rfl, rfl⟩
      | failed text => exact absurd hending (hstream text)
  · obtain rfl := Option.some.inj h
    exact .inl ⟨.inr rfl, rfl⟩

lemma ending_of_input (hinput : run.input? conduct occasion = some (input, inbox, mail)) :
    inbox.ending = run.inbox.ending := by
  rcases input_cases hinput with ⟨command, -, -, rfl⟩ | ⟨htake, -⟩ | ⟨-, -, rfl⟩
  · rfl
  · rcases take_cases htake with ⟨-, hending⟩ | ⟨arrival, -, -, rfl⟩
    · exact hending
    · rfl
  · rfl

lemma Unbroken.advance (h : Unbroken run) (hfit : run.station.Fit)
    (hadvances : Running.Advances conduct run action run') (hsound : action.isSound = true) :
    Unbroken run' := by
  cases hadvances with
  | arrives | elapses | askedLate | asked => exact ⟨h.stream, h.ended⟩
  | hangsUp ending =>
    refine ⟨?_, h.ended⟩
    intro text
    have hfinished : ending = .finished := by simpa [Running.Action.isSound] using hsound
    cases hstream : run.inbox.ending with
    | none => simp [Inbox.stop, hstream, hfinished]
    | some before =>
      have hbefore := h.stream text
      rw [hstream] at hbefore
      simpa [Inbox.stop, hstream] using hbefore
  | @turns occasion fault input inbox mail hopen hinput =>
    have hfault : fault = none := by simpa [Running.Action.isSound] using hsound
    constructor
    · intro text
      rw [Running.proceed, ending_of_input hinput]
      exact h.stream text
    · intro reason hending
      refine ⟨_, List.getLast?_concat, ?_⟩
      apply ends_of_input hinput h.stream
      rw [← hending]
      exact ((step_takes hfit.single _ input).sound hfit hfault).2.symm

/-! ## Reports -/

/-- The station is reported to be ready when its link is reset for the first time, and no end is
reported. -/
structure Reports (s s' : Secondary) (events : List Event) : Prop where
  ready : events.count .ready + s.everReset.toNat = s'.everReset.toNat
  ongoing : ∀ reason, Event.lost reason ∉ events

lemma reports_nil (h : s'.everReset = s.everReset) : Reports s s' [] where
  ready := by simp [h]
  ongoing _ := List.not_mem_nil

lemma reports_asdus (asdus : List Asdu) : Reports s s (asdus.map .asduReceived) where
  ready := by simp [List.count_eq_zero]
  ongoing := by simp

lemma Reports.append {s₁ s₂ s₃ : Secondary} {events more : List Event} (h : Reports s₁ s₂ events)
    (hmore : Reports s₂ s₃ more) : Reports s₁ s₃ (events ++ more) where
  ready := by
    have hfirst := h.ready
    have hsecond := hmore.ready
    rw [List.count_append]
    omega
  ongoing reason hmem := by
    rcases List.mem_append.1 hmem with hmem | hmem
    · exact h.ongoing reason hmem
    · exact hmore.ongoing reason hmem

lemma serveData_everReset (dataClass : DataClass) :
    (serveData dataClass s).state.everReset = s.everReset ∧
      (serveData dataClass s).events = [] := by
  unfold serveData
  split
  · cases dataClass <;> exact ⟨rfl, rfl⟩
  · exact ⟨rfl, rfl⟩

lemma serve_reports {function : PrimaryFunction} {payload : Option Octets}
    (h : s.serve function payload = some service) : Reports s service.state service.events := by
  cases function with
  | resetRemoteLink =>
    obtain rfl := Option.some.inj h
    cases hreset : s.everReset with
    | false => exact ⟨by simp [hreset], by simp⟩
    | true => exact ⟨by simp [hreset], by simp⟩
  | userDataConfirmed =>
    obtain ⟨asdu, -, rfl⟩ := Option.map_eq_some_iff.1 h
    exact reports_asdus [asdu]
  | userDataNoReply =>
    obtain rfl := Option.some.inj h
    exact reports_asdus _
  | requestClass1 | requestClass2 =>
    obtain rfl := Option.some.inj h
    rw [(serveData_everReset _).2]
    exact reports_nil (serveData_everReset _).1
  | _ =>
    obtain rfl := Option.some.inj h
    exact reports_nil rfl

lemma write_events : (write m r s).output.filterMap Output.event? = [] := by
  unfold write Turn.write
  split <;> rfl

lemma reply_events {response : Option LinkFrame} :
    (reply m response s).output.filterMap Output.event? = [] := by
  cases response with
  | none => rfl
  | some r => exact write_events

lemma Takes.reports (h : s.Takes m input t) :
    Reports s t.state (t.output.filterMap Output.event?) := by
  cases h with
  | repeats | rejects | protests =>
    rw [write_events, write_state]
    exact reports_nil rfl
  | @serves _ q service hq hkept hserve =>
    have hevents : (service.events.map Output.reported : List (Output LinkFrame)).filterMap
        Output.event? = service.events := by
      simp [List.filterMap_map, Function.comp_def, Output.event?]
    have hreset : (after q service).everReset = service.state.everReset := by
      unfold after remember
      split <;> rfl
    rw [Turn.andThen_of_none rfl]
    dsimp only
    rw [List.filterMap_append, hevents, reply_events, reply_state]
    exact (serve_reports hserve).append (reports_nil hreset)
  | overhears asdus hq =>
    have hevents : (asdus.map fun asdu => Output.reported (.asduReceived asdu) :
        List (Output LinkFrame)).filterMap Output.event? = asdus.map .asduReceived := by
      simp [List.filterMap_map, Function.comp_def, Output.event?]
    rw [hevents]
    exact reports_asdus asdus
  | @queues dataClass => cases dataClass <;> exact reports_nil rfl
  | overflows | closes | abandons | breaks | hangsUp => exact reports_nil rfl

lemma issued_events (mail : List Command) (t : Turn) :
    (Running.issued conduct mail t).filterMap Output.event? =
      t.output.filterMap Output.event? ++ t.ending.toList.map Event.lost := by
  have hrefusals : (Running.refusals conduct mail : List (Output LinkFrame)).filterMap
      Output.event? = [] := by
    simp [Running.refusals, List.filterMap_map, Function.comp_def, Output.event?]
  unfold Running.issued
  cases t.ending with
  | none => simp
  | some reason =>
    dsimp only
    rw [List.filterMap_append, List.filterMap_append, hrefusals, List.append_nil]
    rfl

lemma path_reports {ending ending' : Option CloseReason} {later : List Record}
    (h : Running.Path conduct s ending later s' ending') (hopen : ending = none)
    (hsingle : s.link.isBroadcast s.address = false) :
    ∃ events, (later.flatMap Episode.output).filterMap Output.event? =
        events ++ ending'.toList.map Event.lost ∧ Reports s s' events := by
  induction h with
  | nil =>
    rw [hopen]
    exact ⟨[], rfl, reports_nil rfl⟩
  | @cons s s' ending' later m input mail _ hlater ih =>
    have hturn : Reports s (conduct.step m input s).state
        ((conduct.step m input s).output.filterMap Output.event?) :=
      (step_takes hsingle m input).reports
    rw [List.flatMap_cons, List.filterMap_append, issued_events]
    cases hending : (conduct.step m input s).ending with
    | some reason =>
      rw [hending] at hlater
      obtain ⟨rfl, rfl, rfl⟩ := hlater.of_ended
      rw [left_eq]
      exact ⟨_, List.append_nil _, hturn⟩
    | none =>
      rw [left_eq] at ih
      obtain ⟨events, hevents, hreports⟩ :=
        ih hending ((step_leaves hsingle m input).same_parameters.single hsingle)
      refine ⟨_, ?_, hturn.append hreports⟩
      rw [hevents]
      simp

lemma fitWithIssuedMail_launch {address : Nat} (hstart : start address link widths = .ok s) :
    FitWithIssuedMail link widths (launch s) := by
  obtain ⟨hsound, ⟨-, hlink, -⟩, hempty⟩ := start_sound hstart
  obtain ⟨hnumbered, hshort⟩ := start_fresh hstart
  refine ⟨⟨hsound.fits, hsound.single, ?_, ?_⟩, hlink, hshort, nofun⟩
  · intro r hr
    exact nomatch hnumbered.symm.trans hr
  · intro dataClass payload hmem
    change payload ∈ s.queue dataClass at hmem
    rw [hempty] at hmem
    exact nomatch hmem

lemma fitWithIssuedMail_of_run {address : Nat} (hstart : start address link widths = .ok s)
    (hasked : ∀ command, Running.Action.ask command ∈ actions → command.Issued link widths)
    (hrun : (launch s).run conduct actions = some run) : FitWithIssuedMail link widths run := by
  apply Running.run_keeps (fitWithIssuedMail_launch hstart) _ hrun
  intro action hmem r r' hr hadvances
  apply hr.advance hadvances
  rintro command rfl
  exact hasked command hmem

/-- A secondary station reads everything that arrives up to the start of a frame that is not
complete. All that it may write can be encoded, so that on a line that works it is ended by its
application or by the end of the stream. It is reported to be ready at most once, and its end is
reported once, as the last. -/
theorem ends_only_if_told {address : Nat} (hstart : start address link widths = .ok s)
    (hasked : ∀ command, Running.Action.ask command ∈ actions → command.Issued link widths)
    (hrun : (launch s).run conduct actions = some run) :
    (run.ending = none → ∀ faults : List (Option String),
      run.inbox.waiting.length ≤ faults.length →
      ∃ n run', n ≤ run.inbox.waiting.length ∧
        run.run conduct ((faults.take n).map (.turn .arrival)) = some run' ∧
        (run'.ending = none → LinkFrame.Begun link.addressLength run'.inbox.waiting) ∧
        ((∀ fault ∈ faults, fault = none) → run'.ending = none)) ∧
    (∀ input, ∀ frame ∈ run.station.handed input,
      ∃ octets, frame.encode link.addressLength = .ok octets) ∧
    (∀ m input, m.writeFault = none →
      (run.station.step m input).frames = run.station.handed input) ∧
    ((∀ action ∈ actions, action.isSound = true) → ∀ reason, run.ending = some reason →
      ∃ e, run.past.getLast? = some e ∧ e.input.Ends reason) ∧
    ∃ events, run.events = events ++ run.ending.toList.map Event.lost ∧
      (∀ reason, Event.lost reason ∉ events) ∧ events.count .ready ≤ 1 := by
  have hlaunch := fitWithIssuedMail_launch hstart
  have hissued := fitWithIssuedMail_of_run hstart hasked hrun
  refine ⟨hissued.reads, ?_, ?_, ?_, ?_⟩
  · intro input frame hmem
    rw [← hissued.parameters]
    exact hissued.fit.encode_handed hmem
  · intro m input hm
    exact ((step_takes hissued.fit.single m input).sound hissued.fit hm).1
  · intro hsound
    have hboth : FitWithIssuedMail link widths run ∧ Unbroken run := by
      apply Running.run_keeps (P := fun r => FitWithIssuedMail link widths r ∧ Unbroken r)
        ⟨hlaunch, unbroken_launch⟩ _ hrun
      intro action hmem r r' ⟨hr, hunbroken⟩ hadvances
      constructor
      · apply hr.advance hadvances
        rintro command rfl
        exact hasked command hmem
      · exact hunbroken.advance hr.fit hadvances (hsound action hmem)
    exact hboth.2.ended
  · obtain ⟨events, hevents, hreports⟩ := path_reports (path_of_run hrun) rfl hlaunch.fit.single
    refine ⟨events, ?_, hreports.ongoing, ?_⟩
    · rw [Running.events, Running.output, Running.opening_of_run hrun]
      exact hevents
    · have hready := hreports.ready
      have hle := Bool.toNat_le run.station.everReset
      omega

/-- Data is queued and the link is reset. Then an octet that is none of a frame, a poll and the
start of another one arrive together. -/
def crowded : List Action :=
  [instruct (.enqueue .class1 [102, 0, 5, 1] 0), receive 1 (.request .resetRemoteLink false 3),
    [.arrive [0x00, 0x10, 0x7A, 3, 0x7D, 0x16, 0x10, 0x7A]]].flatten

def afterCrowded : Run := ((launch usual).run conduct crowded).getD (launch usual)

/-- All is read that can be read, and the stream comes to its end. -/
def crowdedThenEnd : List Action :=
  [crowded, [.read, .read, .hangUp .finished, .read]].flatten

def afterEnd : Run := ((launch usual).run conduct crowdedThenEnd).getD (launch usual)

theorem ends_only_if_told_crowded :
    start 3 {} .serial = .ok usual ∧ (launch usual).run conduct crowded = some afterCrowded ∧
      (∃ n run', n ≤ 8 ∧ afterCrowded.run conduct
        (((List.replicate 8 none).take n).map (.turn .arrival)) = some run' ∧
          run'.ending = none ∧ LinkFrame.Begun 1 run'.inbox.waiting) ∧
      (launch usual).run conduct crowdedThenEnd = some afterEnd ∧
      afterEnd.past.length = 5 ∧ afterEnd.events = [.ready, .lost .remoteClosed] ∧
      ∃ e, afterEnd.past.getLast? = some e ∧ e.input.Ends .remoteClosed := by
  have hstart : start 3 {} .serial = .ok usual := rfl
  have hcommand : Command.Issued {} .serial (.enqueue .class1 [102, 0, 5, 1] 0) :=
    .inr ⟨.empty .readCommand .request 1, 0, rfl⟩
  have hrun : (launch usual).run conduct crowded = some afterCrowded := by decide +kernel
  have hrun' : (launch usual).run conduct crowdedThenEnd = some afterEnd := by decide +kernel
  have hasked : ∀ command, Running.Action.ask command ∈ crowded → command.Issued {} .serial := by
    intro command hmem
    obtain rfl : command = .enqueue .class1 [102, 0, 5, 1] 0 := by
      simpa [crowded, instruct, receive, Running.Action.read] using hmem
    exact hcommand
  have hasked' : ∀ command, Running.Action.ask command ∈ crowdedThenEnd →
      command.Issued {} .serial := by
    intro command hmem
    apply hasked command
    simpa [crowdedThenEnd, Running.Action.read] using hmem
  obtain ⟨hreads, -⟩ := ends_only_if_told hstart hasked hrun
  obtain ⟨-, -, -, hends, -⟩ := ends_only_if_told hstart hasked' hrun'
  obtain ⟨n, run', hn, hturns, hbegun, hopen⟩ :=
    hreads (by decide +kernel) (List.replicate 8 none) (by decide +kernel)
  have hopen := hopen (by simp)
  have hwaiting : afterCrowded.inbox.waiting.length = 8 := by decide +kernel
  rw [hwaiting] at hn
  exact ⟨hstart, hrun, ⟨n, run', hn, hturns, hopen, hbegun hopen⟩, hrun', by decide +kernel,
    by decide +kernel, hends (by decide +kernel) _ (by decide +kernel)⟩

end Secondary

end Telecontrol
