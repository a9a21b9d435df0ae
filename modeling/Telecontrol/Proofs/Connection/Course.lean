import Telecontrol.Proofs.Connection.Answers

/-!
# The course of a connection

What a connection reports is a row of periods, each of which begins, hands out data and is stopped,
perhaps one that is not stopped yet, and at last the end. Together with the handshakes and the
answers this says what an application sees of a connection (`handshake_course`), whatever the other
end does and whether the line works or not.
-/

namespace Telecontrol.Connection

def Happening.reports : Happening → Option Event
  | .put output => output.event?
  | _ => none

/-- What is reported of periods that are over, each with the data handed out in it, and of one that
is not. -/
def course (periods : List (List Asdu)) (current : Option (List Asdu)) : List Event :=
  periods.flatMap (fun asdus => .ready :: asdus.map .asduReceived ++ [.transferStopped]) ++
    (current.elim [] fun asdus => .ready :: asdus.map .asduReceived)

lemma course_begins (periods : List (List Asdu)) :
    course periods none ++ [.ready] = course periods (some []) := by
  simp [course]

lemma course_data (periods : List (List Asdu)) (asdus : List Asdu) (asdu : Asdu) :
    course periods (some asdus) ++ [.asduReceived asdu] =
      course periods (some (asdus ++ [asdu])) := by
  simp [course]

lemma course_ends (periods : List (List Asdu)) (asdus : List Asdu) :
    course periods (some asdus) ++ [.transferStopped] = course (periods ++ [asdus]) none := by
  simp [course]

/-- What a turn reports, and whether data may arrive before it and behind it. -/
inductive Reports (c c' : Connection) (output : List (Output Apdu)) : Prop
  | begins : output.filterMap Output.event? = [.ready] → ¬c.InTransfer → c'.InTransfer →
      Reports c c' output
  | data (asdu : Asdu) : output.filterMap Output.event? = [.asduReceived asdu] → c.InTransfer →
      c'.InTransfer → Reports c c' output
  | ends : output.filterMap Output.event? = [.transferStopped] → c.InTransfer → ¬c'.InTransfer →
      Reports c c' output
  | nothing : output.filterMap Output.event? = [] → (c'.InTransfer ↔ c.InTransfer) →
      Reports c c' output

variable {m : Moment} {c c' : Connection} {input : Input} {output : List (Output Apdu)}

lemma inTransfer_congr (h : c'.state = c.state) : c'.InTransfer ↔ c.InTransfer := by
  rw [InTransfer, InTransfer, h]

lemma inTransfer_of_state {state : TransferState} (h : c.state = state) :
    c.InTransfer ↔ state = .active ∨ state = .stopping := by
  rw [InTransfer, h]

lemma Settles.events {receipt rest : List (Output Apdu)} (h : Settles c receipt c') :
    (receipt ++ rest).filterMap Output.event? = rest.filterMap Output.event? := by
  cases h <;> rfl

lemma Proceeds.reports (hc : Coupled c) (h : Proceeds m c input output c') :
    Reports c c' output := by
  have hheeded (number : Nat) : ((heard m c).onAcknowledgment number).state = c.state :=
    (onAcknowledgment_state number _).trans heard_state
  cases h with
  | heed => exact .nothing rfl (inTransfer_congr (hheeded _))
  | accept number hstate =>
    exact .data _ rfl hstate ((inTransfer_congr (hheeded number)).2 hstate)
  | confirm number hstate =>
    exact .data _ rfl hstate ((inTransfer_congr (hheeded number)).2 hstate)
  | start _ hrole hstate =>
    refine .begins rfl ?_ (.inl rfl)
    rintro (hactive | hstopping)
    · exact hstate hactive
    · exact (hc.controlled hrole).2 hstopping
  | started _ _ hhandshake hawaiting =>
    refine .begins rfl ?_ (.inl rfl)
    rw [inTransfer_of_state (hc.startPending hhandshake hawaiting)]
    simp
  | stop _ _ hstate hsettles =>
    exact .ends hsettles.events (.inl hstate) (by simp [InTransfer])
  | stopped _ _ hhandshake hawaiting =>
    exact .ends rfl (.inr (hc.stopping hhandshake hawaiting)) (by simp [InTransfer])
  | stopAgain _ _ _ hsettles =>
    exact .nothing hsettles.events (inTransfer_congr (hsettles.state.trans heard_state))
  | askStart _ hstate =>
    refine .nothing rfl ?_
    rw [inTransfer_of_state hstate]
    simp [InTransfer]
  | askStop _ hstate hsettles =>
    refine .nothing hsettles.events ?_
    rw [inTransfer_of_state hstate]
    simp [InTransfer]
  | answerTest | passOver | startAgain => exact .nothing rfl (inTransfer_congr heard_state)
  | _ => exact .nothing rfl (inTransfer_congr rfl)

namespace Life

variable {l l' : Life} {action : Action} {actions : List Action} {role : Role}
  {apci : ApciParameters} {widths : FieldWidths} {begun : Nat}

/-- What has been reported is a course of periods, one of which is open while data may arrive, and
the end if there has been one. -/
def Reported (l : Life) : Prop :=
  ∃ periods current, l.history.gather Happening.reports =
      course periods current ++ l.ending.toList.map .lost ∧
    (l.ending = none → (current.isSome ↔ l.connection.InTransfer))

lemma reports_seen (input : Input) (output : List (Output Apdu)) :
    (l.seen input output).gather Happening.reports =
      l.history.gather Happening.reports ++ output.filterMap Output.event? := by
  rw [seen, History.gather_note, List.filterMap_cons_none rfl, List.filterMap_map]
  rfl

lemma Reported.goesOn {mail : List Command} (hl : l.Reported) (hopen : l.ending = none)
    (hreports : Reports l.connection c output) : (l.goOn input mail output c).Reported := by
  obtain ⟨periods, current, hevents, hcurrent⟩ := hl
  have hcurrent := hcurrent hopen
  have hbefore : (l.seen input output).gather Happening.reports =
      course periods current ++ output.filterMap Output.event? := by
    rw [reports_seen, hevents, hopen]
    simp
  have hafter (periods : List (List Asdu)) (current : Option (List Asdu))
      (hevents : (l.seen input output).gather Happening.reports = course periods current)
      (hcurrent : current.isSome ↔ c.InTransfer) : (l.goOn input mail output c).Reported := by
    refine ⟨periods, current, ?_, fun _ => hcurrent⟩
    rw [goOn, hevents, hopen]
    simp
  cases hreports with
  | begins heq hbefore' hafter' =>
    obtain rfl : current = none := by simpa [hbefore'] using hcurrent
    rw [heq, course_begins] at hbefore
    exact hafter _ _ hbefore (by simp [hafter'])
  | data asdu heq hbefore' hafter' =>
    obtain ⟨asdus, rfl⟩ := Option.isSome_iff_exists.1 (hcurrent.2 hbefore')
    rw [heq, course_data] at hbefore
    exact hafter _ _ hbefore (by simp [hafter'])
  | ends heq hbefore' hafter' =>
    obtain ⟨asdus, rfl⟩ := Option.isSome_iff_exists.1 (hcurrent.2 hbefore')
    rw [heq, course_ends] at hbefore
    exact hafter _ _ hbefore (by simp [hafter'])
  | nothing heq hsame =>
    rw [heq, List.append_nil] at hbefore
    exact hafter _ _ hbefore (hcurrent.trans hsame.symm)

lemma events_refusals (mail : List Command) :
    (refusals mail).filterMap Output.event? = [] := by
  simp [refusals, List.filterMap_map, Output.event?]

lemma Reported.finish {mail : List Command} {reason : CloseReason} (hl : l.Reported)
    (hopen : l.ending = none) (hfails : Fails l.connection input output c) :
    (l.finish input mail output c reason).Reported := by
  obtain ⟨periods, current, hevents, -⟩ := hl
  refine ⟨periods, current, ?_, (nomatch ·)⟩
  have houtput : output.filterMap Output.event? = [] := by
    cases hfails <;> rfl
  have hclose : (c.close reason).2.filterMap Output.event? = [.lost reason] := by
    simp [close, List.filterMap_map, Output.event?]
  simp only [Life.finish, reports_seen, hevents, hopen, List.filterMap_append, houtput,
    events_refusals, hclose]
  simp

lemma Reported.advances (hl : l.Reported) (hcoupled : l.ending = none → l.connection.Coupled)
    (hadvances : l.Advances action l') : l'.Reported := by
  cases hadvances with
  | asked command hopen =>
    obtain ⟨periods, current, hevents, hcurrent⟩ := hl
    refine ⟨periods, current, ?_, hcurrent⟩
    rw [History.gather_note, List.filterMap_cons_none rfl, hevents]
    exact List.append_nil _
  | askedLate command hended =>
    obtain ⟨periods, current, hevents, hcurrent⟩ := hl
    refine ⟨periods, current, ?_, hcurrent⟩
    have hsilent : ((refusals [command]).map Happening.put).filterMap Happening.reports = [] := by
      rw [List.filterMap_map]
      exact events_refusals [command]
    rw [History.gather_note, List.filterMap_cons_none rfl, hsilent, hevents]
    exact List.append_nil _
  | goesOn hopen hinput hproceeds => exact hl.goesOn hopen (hproceeds.reports (hcoupled hopen))
  | finishes hopen hinput hfails hending => exact hl.finish hopen hfails
  | elapses duration => exact hl

/-- What is kept of requests and reports as long as a connection lives. -/
structure Orderly (l : Life) : Prop where
  waits : l.ending = none → l.Waits
  ended : l.ending ≠ none → l.mail = [] ∧ l.connection.handshake = none ∧
    l.connection.state = .disconnected
  balanced : l.Balanced
  grants : l.history.Grants
  reported : l.Reported

lemma orderly_begin (hstart : Connection.start role apci widths begun = .ok c) :
    (begin begun c).Orderly where
  waits := fun _ => waits_begin hstart
  ended := (absurd rfl ·)
  balanced := balanced_begin hstart
  grants := by
    intro before entry after h
    simp [begin] at h
  reported := by
    obtain ⟨-, rfl⟩ := start_eq_ok hstart
    exact ⟨[], none, rfl, fun _ => by simp [begin, InTransfer]⟩

lemma Orderly.advances (hl : l.Orderly) (hadvances : l.Advances action l') : l'.Orderly where
  waits := fun hopen => Waits.advances hl.waits hadvances hopen
  ended := fun hended => ended_advances hl.ended hadvances hended
  balanced := hl.balanced.advances (fun hopen => (hl.waits hopen).coupled) hadvances
  grants := grants_advances hl.grants hl.waits hadvances
  reported := hl.reported.advances (fun hopen => (hl.waits hopen).coupled) hadvances

lemma Orderly.coupled (hl : l.Orderly) : l.connection.Coupled := by
  cases hending : l.ending with
  | none => exact (hl.waits hending).coupled
  | some reason =>
    obtain ⟨-, hhandshake, hstate⟩ := hl.ended (by simp [hending])
    exact ⟨by rw [hhandshake, hstate]; rfl, fun _ => by simp [hstate]⟩

lemma orderly_run (hstart : Connection.start role apci widths begun = .ok c)
    (hrun : (begin begun c).run actions = some l) : l.Orderly :=
  run_keeps (P := Orderly) (orderly_begin hstart)
    (fun _ _ _ _ hl hadvances => hl.advances hadvances) hrun

lemma punctual_run (hstart : Connection.start role apci widths begun = .ok c)
    (htimely : (begin begun c).Timely actions) (hrun : (begin begun c).run actions = some l)
    (hopen : l.ending = none) :
    ∀ handshake ∈ l.connection.handshake, l.now ≤ handshake.deadline := by
  have hpunctual := run_keeps_timely
    (P := fun l => l.Orderly ∧
      (l.ending = none → ∀ handshake ∈ l.connection.handshake, l.now ≤ handshake.deadline))
    ⟨orderly_begin hstart, fun _ => ?_⟩ htimely
    (fun _ _ _ hl htimely hadvances => ⟨hl.1.advances hadvances, punctual_advances hl.2
      (fun hopen => (hl.1.waits hopen).coupled) htimely hadvances⟩) hrun
  · exact hpunctual.2 hopen
  · obtain ⟨-, rfl⟩ := start_eq_ok hstart
    exact nofun

/-- The course of a connection, over all runs:
- it waits for a confirmation exactly in the states that wait for one, and as the controlled end
  never;
- a confirmation that it does not wait for changes neither state nor handshake, and nothing is put
  out;
- each request is answered as often as it is handed over, unless it still waits in line or with the
  handshake, and at the end none waits;
- a request is granted only for a reason;
- the request of a handshake that waits has been taken up and not been confirmed since, not more
  than `t1` ago if timers are handled when they are due;
- the reports are those of periods that follow one another, with the last one open exactly while
  data may arrive, and of the end. -/
theorem handshake_course (hstart : Connection.start role apci widths begun = .ok c)
    (hrun : (begin begun c).run actions = some l) :
    l.connection.handshake.map Handshake.awaiting = l.connection.state.awaits ∧
      (role = .controlled →
        l.connection.state ≠ .startPending ∧ l.connection.state ≠ .stopping) ∧
      (∀ a function fault, l.ending = none → function ∈ [.startDtCon, .stopDtCon] →
        a.apci = .uFrame function →
        l.connection.handshake.map Handshake.awaiting ≠ some function →
        ∃ c', l.act (.turn (.arrival (.frame a)) fault) =
            some (l.goOn (.arrival (.frame a)) l.mail [] c') ∧
          c'.state = l.connection.state ∧ c'.handshake = l.connection.handshake) ∧
      (∀ request, (l.history.gather Happening.asks).count request =
        (l.history.gather Happening.answers).count request + l.pending.count request) ∧
      (l.ending ≠ none → l.pending = []) ∧
      l.history.Grants ∧
      (∀ handshake ∈ l.connection.handshake, ∃ time,
        l.history.TakenUp time handshake.awaiting handshake.request ∧
          ((begin begun c).Timely actions → l.now ≤ time + apci.t1)) ∧
      ∃ periods current, l.history.gather Happening.reports =
          course periods current ++ l.ending.toList.map .lost ∧
        (l.ending = none → (current.isSome ↔ l.connection.InTransfer)) := by
  have hl := orderly_run hstart hrun
  have hsame (hopen : l.ending = none) :
      l.connection.role = role ∧ l.connection.apci = apci := by
    obtain ⟨hrole, hapci⟩ := run_apci hrun hopen
    obtain ⟨-, rfl⟩ := start_eq_ok hstart
    exact ⟨hrole, hapci⟩
  refine ⟨hl.coupled.awaiting, ?_, ?_, hl.balanced, ?_, hl.grants, ?_, hl.reported⟩
  · intro hcontrolled
    cases hending : l.ending with
    | none => exact hl.coupled.controlled ((hsame hending).1.trans hcontrolled)
    | some reason => simp [(hl.ended (by simp [hending])).2.2]
  · intro a function fault hopen hconfirms hapci hunasked
    have hstep := step_unasked ⟨l.now, fault⟩ hconfirms hapci hunasked
    refine ⟨heard ⟨l.now, fault⟩ l.connection, ?_, heard_state, heard_handshake⟩
    simp only [act, if_pos hopen, input?, Option.map_some, hstep, Turn.done]
  · intro hended
    obtain ⟨hmail, hhandshake, -⟩ := hl.ended hended
    rw [pending, held, hmail, hhandshake]
    rfl
  · intro handshake hmem
    have hopen : l.ending = none := Decidable.byContradiction fun hended =>
      absurd hmem (by simp [(hl.ended hended).2.1])
    obtain ⟨time, hdeadline, htaken⟩ := (hl.waits hopen).awaited handshake hmem
    rw [(hsame hopen).2] at hdeadline
    exact ⟨time, htaken, fun htimely => hdeadline ▸ punctual_run hstart htimely hrun hopen _ hmem⟩

/-- A period that is stopped, with a confirmation of a start behind the stop, and a start that is
never confirmed. -/
def unconfirmed : List Action :=
  tell (.startTransfer 0) ++ [hear (.uFrame .startDtCon),
    hear (.iFrame 0 0 (.empty .readCommand .request 1))] ++
    tell (.stopTransfer 1) ++ [hear (.uFrame .startDtCon), hear (.uFrame .stopDtCon)] ++
    tell (.startTransfer 2) ++ [.ask (.startTransfer 3), .elapse 15000,
      .turn (.timer .confirmation) none, .ask .close, .ask (.stopTransfer 4)]

theorem handshake_course_unconfirmed :
    ∃ c l, Connection.start .controlling {} .network 0 = .ok c ∧
      (begin 0 c).run unconfirmed = some l ∧ l.ending = some .handshakeTimeout ∧
      l.history.gather Happening.reports = [.ready, .asduReceived (.empty .readCommand .request 1),
        .transferStopped, .lost .handshakeTimeout] ∧
      l.history.gather Happening.asks = [0, 1, 2, 3, 4] ∧ l.pending = [] ∧
      (∀ request, (l.history.gather Happening.asks).count request =
        (l.history.gather Happening.answers).count request + l.pending.count request) ∧
      l.history.Grants := by
  obtain ⟨c, hstart⟩ : ∃ c, Connection.start .controlling {} .network 0 = .ok c := ⟨_, rfl⟩
  obtain ⟨l, hrun⟩ : ∃ l, (begin 0 c).run unconfirmed = some l := by
    obtain ⟨-, rfl⟩ := start_eq_ok hstart
    exact ⟨_, rfl⟩
  have hseen : l.ending = some .handshakeTimeout ∧
      l.history.gather Happening.reports = [.ready, .asduReceived (.empty .readCommand .request 1),
        .transferStopped, .lost .handshakeTimeout] ∧
      l.history.gather Happening.asks = [0, 1, 2, 3, 4] := by
    obtain ⟨-, rfl⟩ := start_eq_ok hstart
    obtain rfl := Option.some.inj hrun
    decide +kernel
  obtain ⟨hending, hreports, hasks⟩ := hseen
  obtain ⟨-, -, -, hbalanced, hpending, hgrants, -, -⟩ := handshake_course hstart hrun
  exact ⟨c, l, hstart, hrun, hending, hreports, hasks, hpending (by simp [hending]), hbalanced,
    hgrants⟩

end Life

end Telecontrol.Connection
