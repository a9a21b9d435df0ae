import Telecontrol.Proofs.Connection.Life

/-!
# Supervision of silence

An open connection waits either for the next frame or for the answer to a test frame, never for both
and never for neither. It tests the other end when nothing has been heard for `t3`, and gives up
when the test has not been answered for `t1`; hence a connection on which nothing is heard ends
within `t3 + t1`.
-/

namespace Telecontrol.Connection

namespace Happening

/-- A frame is read. -/
def hears : Happening → Bool
  | met _ (.arrival (.frame _)) => true
  | _ => false

/-- A test frame is written. -/
def Tests (x : Happening) : Prop := ∃ octets, x = .put (.wrote (.uFrame .testFrAct) octets)

/-- The confirmation of a test frame is read. -/
def ConfirmsTest (x : Happening) : Prop :=
  ∃ state a, x = .met state (.arrival (.frame a)) ∧ a.apci = .uFrame .testFrCon

end Happening

namespace History

/-- When the last frame was read, or else when the connection began. -/
def lastHeard (begun : Nat) (h : History) : Nat :=
  h.foldl (fun last entry => if entry.2.hears then entry.1 else last) begun

variable {h : History} {begun now : Nat}

lemma lastHeard_note (happenings : List Happening) :
    (h.note now happenings).lastHeard begun =
      if happenings.any Happening.hears then now else h.lastHeard begun := by
  induction happenings generalizing h with
  | nil => simp [note]
  | cons x rest ih =>
    have hfirst : (h.note now [x]).lastHeard begun =
        if x.hears then now else h.lastHeard begun := by
      simp [note, lastHeard, List.foldl_append]
    rw [note_cons, ih, hfirst]
    cases hx : x.hears <;> simp [hx]

end History

variable {m : Moment} {c c' : Connection} {input : Input} {output : List (Output Apdu)}
  {begun : Nat} {h : History}

/-- What a turn does to the two timers that supervise the other end. -/
inductive Supervises (m : Moment) (c : Connection) : Input → List (Output Apdu) → Connection → Prop
  /-- A frame breaks the silence, or does not answer the test. -/
  | heard {a : Apdu} {output : List (Output Apdu)} {c' : Connection} :
      (a.apci = .uFrame .testFrCon → c.testDeadline = none) →
      c'.testDue = (heard m c).testDue → c'.testDeadline = c.testDeadline →
      Supervises m c (.arrival (.frame a)) output c'
  | tested {a : Apdu} {output : List (Output Apdu)} {c' : Connection} :
      c'.testDue = some (m.now + c.apci.t3) → c'.testDeadline = none →
      Supervises m c (.arrival (.frame a)) output c'
  | probed {octets : Octets} {c' : Connection} :
      c'.testDue = none → c'.testDeadline = some (m.now + c.apci.t1) →
      Supervises m c (.timer .silence) [.wrote (.uFrame .testFrAct) octets] c'
  | unheard {input : Input} {output : List (Output Apdu)} {c' : Connection} :
      (∀ a, input ≠ .arrival (.frame a)) → c'.testDue = c.testDue →
      c'.testDeadline = c.testDeadline → Supervises m c input output c'

lemma Proceeds.supervises (h : Proceeds m c input output c') : Supervises m c input output c' := by
  have hheard {a : Apdu} {c' : Connection} (hfunction : a.apci ≠ .uFrame .testFrCon)
      (hdue : c'.testDue = (heard m c).testDue)
      (hdeadline : c'.testDeadline = (heard m c).testDeadline) :
      Supervises m c (.arrival (.frame a)) output c' :=
    .heard (fun h => absurd h hfunction) hdue (hdeadline.trans heard_testDeadline)
  cases h with
  | heed hnumber =>
    exact hheard (by simp [hnumber]) (onAcknowledgment_testDue ..)
      (onAcknowledgment_testDeadline ..)
  | accept number hstate hroom =>
    exact hheard (by simp [Apdu.iFrame]) (onAcknowledgment_testDue ..)
      (onAcknowledgment_testDeadline ..)
  | confirm number hstate hfull =>
    exact hheard (by simp [Apdu.iFrame]) (onAcknowledgment_testDue ..)
      (onAcknowledgment_testDeadline ..)
  | answerTest hfunction => exact hheard (by simp [hfunction]) rfl rfl
  | tested hfunction htesting => exact .tested rfl rfl
  | passOver hfunction hunheeded =>
    cases hunheeded with
    | untested hnone => exact .heard (fun _ => hnone) rfl heard_testDeadline
    | unasked hconfirms =>
      refine hheard (fun h => ?_) rfl rfl
      obtain rfl : _ = UFunction.testFrCon := Apci.uFrame.inj (hfunction.symm.trans h)
      simp at hconfirms
    | misdirected hactivates =>
      refine hheard (fun h => ?_) rfl rfl
      obtain rfl : _ = UFunction.testFrCon := Apci.uFrame.inj (hfunction.symm.trans h)
      simp at hactivates
  | start hfunction => exact hheard (by simp [hfunction]) rfl rfl
  | startAgain hfunction => exact hheard (by simp [hfunction]) rfl rfl
  | stop hfunction _ _ hsettles =>
    exact hheard (by simp [hfunction]) hsettles.testDue hsettles.testDeadline
  | stopAgain hfunction _ _ hsettles =>
    exact hheard (by simp [hfunction]) hsettles.testDue hsettles.testDeadline
  | started hfunction => exact hheard (by simp [hfunction]) rfl rfl
  | stopped hfunction => exact hheard (by simp [hfunction]) rfl rfl
  | askStop _ _ hsettles => exact .unheard (by simp) hsettles.testDue hsettles.testDeadline
  | probe => exact .probed rfl rfl
  | refuse | alreadyActive | alreadyStopped | askStart | send | receipt =>
    exact .unheard (by simp) rfl rfl

/-- Either the next frame is awaited, for `t3` since the last one, or the answer to a test frame,
for `t1` since it was written. -/
def Supervised (begun : Nat) (c : Connection) (h : History) : Prop :=
  (c.testDue = some (h.lastHeard begun + c.apci.t3) ∧ c.testDeadline = none) ∨
    ∃ time, c.testDue = none ∧ c.testDeadline = some (time + c.apci.t1) ∧
      h.Since time Happening.Tests Happening.ConfirmsTest

lemma Happening.ConfirmsTest.hears {x : Happening} (h : x.ConfirmsTest) : x.hears = true := by
  obtain ⟨_, _, rfl, -⟩ := h
  rfl

lemma any_hears_put (output : List (Output Apdu)) :
    (output.map Happening.put).any Happening.hears = false := by
  simp [Happening.hears]

lemma Supervised.note {now : Nat} {happenings : List Happening} (hc : Supervised begun c h)
    (hsilent : happenings.any Happening.hears = false) :
    Supervised begun c (h.note now happenings) := by
  unfold Supervised
  rw [History.lastHeard_note, hsilent]
  refine hc.imp id ?_
  rintro ⟨time, hdue, hdeadline, hsince⟩
  refine ⟨time, hdue, hdeadline, hsince.note fun x hx hconfirms => ?_⟩
  have hhears := List.any_eq_true.2 ⟨x, hx, hconfirms.hears⟩
  exact nomatch hsilent.symm.trans hhears

lemma Supervised.congr (hc : Supervised begun c h) (hdue : c'.testDue = c.testDue)
    (hdeadline : c'.testDeadline = c.testDeadline) (hapci : c'.apci = c.apci) :
    Supervised begun c' h := by
  unfold Supervised
  rw [hdue, hdeadline, hapci]
  exact hc

lemma Supervised.proceeds {now : Nat} {fault : Option String} (hc : Supervised begun c h)
    (hproceeds : Proceeds ⟨now, fault⟩ c input output c') :
    Supervised begun c' (h.note now (.met c.state input :: output.map .put)) := by
  have hapci := hproceeds.role_apci.2
  have hputs := any_hears_put output
  cases hproceeds.supervises with
  | @heard a _ _ hfunction hdue hdeadline =>
    obtain ⟨hwaiting, hnone⟩ | ⟨time, hdue', hdeadline', hsince⟩ := hc
    · left
      rw [History.lastHeard_note, hdue, hdeadline, hapci]
      exact ⟨by simp [Connection.heard, hnone, Happening.hears], hnone⟩
    · right
      rw [hdue, hdeadline, hapci]
      refine ⟨time, by simp [Connection.heard, hdeadline', hdue'], hdeadline', hsince.note ?_⟩
      rintro x (_ | ⟨_, hx⟩) hconfirms
      · obtain ⟨_, _, heq, hfunction'⟩ := hconfirms
        obtain ⟨-, rfl⟩ := by simpa using heq
        simp [hfunction hfunction'] at hdeadline'
      · have hhears := List.any_eq_true.2 ⟨x, hx, hconfirms.hears⟩
        simp [hputs] at hhears
  | tested hdue hdeadline =>
    left
    rw [History.lastHeard_note, hdue, hapci]
    exact ⟨by simp [Happening.hears], hdeadline⟩
  | probed hdue hdeadline =>
    right
    rw [hdue, hdeadline, hapci]
    exact ⟨now, rfl, rfl, History.since_note h now [_] [] ⟨_, rfl⟩ (by simp)⟩
  | unheard hinput hdue hdeadline =>
    refine (hc.congr hdue hdeadline hapci).note ?_
    rw [List.any_cons, hputs, Bool.or_false]
    cases input with
    | arrival arrival =>
      cases arrival with
      | frame a => exact absurd rfl (hinput a)
      | _ => rfl
    | _ => rfl

namespace Life

variable {l l' : Life} {action : Action} {actions : List Action} {role : Role}
  {apci : ApciParameters} {widths : FieldWidths}

/-- Timers have been handled when they were due, as far as the supervision is concerned. -/
structure Attended (begun : Nat) (l : Life) : Prop where
  supervised : Supervised begun l.connection l.history
  heard : l.history.lastHeard begun ≤ l.now
  due : ∀ due ∈ l.connection.testDue, l.now ≤ due
  deadline : ∀ deadline ∈ l.connection.testDeadline, l.now ≤ deadline ∧
    deadline ≤ l.history.lastHeard begun + l.connection.apci.t3 + l.connection.apci.t1

lemma lastHeard_seen (hheard : l.history.lastHeard begun ≤ l.now) (input : Input)
    (output : List (Output Apdu)) :
    l.history.lastHeard begun ≤ (l.seen input output).lastHeard begun ∧
      (l.seen input output).lastHeard begun ≤ l.now := by
  rw [seen, History.lastHeard_note]
  split <;> omega

lemma Attended.silence (hl : l.Attended begun) {occasion : Occasion} {mail : List Command}
    (hinput : l.input? occasion = some (.timer .silence, mail)) :
    l.now ≤ l.history.lastHeard begun + l.connection.apci.t3 := by
  obtain ⟨_, heq, -⟩ | ⟨-, -, htimer⟩ := input?_eq_some hinput
  · exact nomatch heq
  · obtain ⟨due, hdue, -⟩ := htimer .silence rfl
    obtain ⟨hwaiting, -⟩ | ⟨time, hnone, -⟩ := hl.supervised
    · exact hl.due _ hwaiting
    · exact nomatch hnone.symm.trans hdue

lemma Attended.goesOn (hl : l.Attended begun) {occasion : Occasion} {mail : List Command}
    {fault : Option String} (hinput : l.input? occasion = some (input, mail))
    (hproceeds : Proceeds ⟨l.now, fault⟩ l.connection input output c) :
    (l.goOn input mail output c).Attended begun := by
  obtain ⟨hlater, hheard⟩ := lastHeard_seen hl.heard input output
  have hapci := hproceeds.role_apci.2
  have hdue : ∀ due ∈ c.testDue, l.now ≤ due := by
    cases hproceeds.supervises with
    | heard hfunction hdue hdeadline =>
      rw [hdue, Connection.heard]
      split
      · simp
      · exact hl.due
    | tested hdue hdeadline => simp [hdue]
    | probed hdue hdeadline => simp [hdue]
    | unheard _ hdue hdeadline =>
      rw [hdue]
      exact hl.due
  have hdeadline : ∀ deadline ∈ c.testDeadline, l.now ≤ deadline ∧
      deadline ≤ (l.seen input output).lastHeard begun + l.connection.apci.t3 +
        l.connection.apci.t1 := by
    have hsame (h : c.testDeadline = l.connection.testDeadline) : ∀ deadline ∈ c.testDeadline,
        l.now ≤ deadline ∧ deadline ≤ (l.seen input output).lastHeard begun +
          l.connection.apci.t3 + l.connection.apci.t1 := by
      intro deadline hmem
      rw [h] at hmem
      have hold := hl.deadline deadline hmem
      omega
    cases hproceeds.supervises with
    | heard hfunction hdue hdeadline => exact hsame hdeadline
    | tested hdue hdeadline => simp [hdeadline]
    | probed hdue hdeadline =>
      have hsilence := hl.silence hinput
      intro deadline hmem
      rw [hdeadline] at hmem
      obtain rfl : l.now + l.connection.apci.t1 = deadline := by simpa using hmem
      omega
    | unheard _ hdue hdeadline => exact hsame hdeadline
  refine ⟨hl.supervised.proceeds hproceeds, hheard, hdue, ?_⟩
  rw [← hapci] at hdeadline
  exact hdeadline

lemma attended_advances (hl : l.ending = none → l.Attended begun) (htimely : action.Timely l)
    (hadvances : l.Advances action l') (hopen : l'.ending = none) : l'.Attended begun := by
  cases hadvances with
  | asked command hopen =>
    have hheard : (l.history.note l.now [.asked command]).lastHeard begun =
        l.history.lastHeard begun := History.lastHeard_note _
    obtain ⟨hsupervised, hbefore, hdue, hdeadline⟩ := hl hopen
    rw [← hheard] at hbefore hdeadline
    exact ⟨hsupervised.note rfl, hbefore, hdue, hdeadline⟩
  | askedLate command hended => exact absurd hopen hended
  | goesOn hopen hinput hproceeds => exact (hl hopen).goesOn hinput hproceeds
  | finishes => exact nomatch hopen
  | elapses duration =>
    obtain ⟨hsupervised, hbefore, hdue, hdeadline⟩ := hl hopen
    refine ⟨hsupervised, Nat.le_add_right_of_le hbefore, ?_, ?_⟩
    · exact htimely hopen .silence (by decide)
    · exact fun deadline hmem =>
        ⟨htimely hopen .test (by decide) deadline hmem, (hdeadline deadline hmem).2⟩

end Life

end Telecontrol.Connection
