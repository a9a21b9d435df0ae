import Telecontrol.Primary.Step
import Telecontrol.Proofs.Primary.Discipline
import Telecontrol.Proofs.Running

/-!
# The course of the primary station

The primary station takes a command only when it is idle, does not listen while it pauses in a
handshake, and goes on without an answer when its time is over. The signs of a secondary are what
passes between the two that counts for the frame count bit.
-/

namespace Telecontrol.Primary

def conduct : Conduct Primary Command Input LinkFrame where
  step := step
  close := close
  read p b := if p.isListening then p.take b else none
  isFree := isIdle
  carryOut := .command
  request? := Command.request?
  abandoned := .abandoned
  expiry now p := if p.deadline.any (· ≤ now) then some .deadline else none

/-- The primary station as it runs. -/
abbrev Run := Running Primary Command Input LinkFrame

abbrev Record := Episode Primary Input LinkFrame

abbrev Action := Running.Action Command

variable {r : Run} {occasion : Running.Occasion} {input : Input} {inbox : Inbox}
  {mail : List Command}

lemma read_of_arrival (hinput : r.input? conduct .arrival = some (input, inbox, mail)) :
    r.station.isListening = true ∧ r.station.take r.inbox = some (input, inbox) := by
  obtain ⟨⟨input', inbox'⟩, hread, heq⟩ := Option.map_eq_some_iff.1 hinput
  obtain ⟨rfl, rfl, rfl⟩ : input' = input ∧ inbox' = inbox ∧ r.mail = mail := by simpa using heq
  dsimp only [conduct] at hread
  split at hread
  · next hlistening => exact ⟨hlistening, hread⟩
  · cases hread

lemma take_of_arrival (hinput : r.input? conduct .arrival = some (input, inbox, mail)) :
    r.station.take r.inbox = some (input, inbox) :=
  (read_of_arrival hinput).2

/-- What the station is confronted with. It carries out commands, and its application goes away, only
when it is idle. -/
lemma input_cases (h : r.input? conduct occasion = some (input, inbox, mail)) :
    (((∃ frame, input = .frame frame) ∨ ∃ fault, input = .broken fault) ∧
        r.station.take r.inbox = some (input, inbox) ∧ mail = r.mail) ∨
      (∃ command, input = .command command ∧ r.mail = command :: mail ∧
        r.station.isIdle = true) ∨
      (input = .deadline ∧ r.station.deadline.any (· ≤ r.now) = true ∧ inbox = r.inbox ∧
        mail = r.mail) ∨
      input = .abandoned ∧ mail = [] ∧ r.station.isIdle = true := by
  cases occasion with
  | arrival =>
    have htake := take_of_arrival h
    have hmail : mail = r.mail := by
      obtain ⟨_, -, heq⟩ := Option.map_eq_some_iff.1 h
      exact (congrArg (·.2.2) heq).symm
    refine .inl ⟨?_, htake, hmail⟩
    unfold take at htake
    split at htake
    · next frame _ _ => exact .inl ⟨frame, (congrArg Prod.fst (Option.some.inj htake)).symm⟩
    · next fault _ _ => exact .inr ⟨fault, (congrArg Prod.fst (Option.some.inj htake)).symm⟩
    · exact .inr ⟨_, (congrArg Prod.fst (Option.some.inj htake)).symm⟩
    · cases htake
  | command =>
    cases hmail : r.mail with
    | nil => simp [Running.input?, hmail] at h
    | cons command rest =>
      simp only [Running.input?, hmail, Option.ite_none_right_eq_some] at h
      obtain ⟨hidle, heq⟩ := h
      obtain ⟨rfl, -, rfl⟩ : Input.command command = input ∧ r.inbox = inbox ∧ rest = mail := by
        simpa [conduct] using heq
      exact .inr (.inl ⟨command, rfl, rfl, hidle⟩)
  | expiry =>
    obtain ⟨input', hexpiry, heq⟩ := Option.map_eq_some_iff.1 h
    obtain ⟨rfl, rfl, rfl⟩ : input' = input ∧ r.inbox = inbox ∧ r.mail = mail := by simpa using heq
    dsimp only [conduct] at hexpiry
    split at hexpiry
    · next hdue =>
      obtain rfl := Option.some.inj hexpiry
      exact .inr (.inr (.inl ⟨rfl, hdue, rfl, rfl⟩))
    · cases hexpiry
  | abandoned =>
    simp only [Running.input?, Option.ite_none_right_eq_some, Bool.and_eq_true] at h
    obtain ⟨⟨-, hidle⟩, heq⟩ := h
    obtain ⟨rfl, -, rfl⟩ : Input.abandoned = input ∧ r.inbox = inbox ∧ [] = mail := by
      simpa [conduct] using heq
    exact .inr (.inr (.inr ⟨rfl, rfl, hidle⟩))

/-- The sign that a frame to a secondary is. -/
def frameSigns (address : Nat) (frame : LinkFrame) : List Sign :=
  if frame.address? = some address then
    match frame.control? with
    | some (.primary _ _ true) => [.numbered frame]
    | some (.primary .resetRemoteLink _ false) => [.reset]
    | _ => []
  else []

def outputSigns (address : Nat) : Output LinkFrame → List Sign
  | .wrote frame _ => frameSigns address frame
  | _ => []

/-- The sign that an input is, for a secondary with which a reset of the link or an exchange is
under way. -/
def inputSigns (address : Nat) (input : Input) (p : Primary) : List Sign :=
  match p.activity, input with
  | .handshake h _, .frame frame =>
    if h.step = .reset ∧ (p.peers[h.index]?).map Peer.address = some address ∧
        isResponseOf address frame ∧ frame.isAck then [.confirmed]
    else []
  | .exchange x _, .frame frame =>
    if x.frame.address? = some address ∧ isResponseOf address frame then
      [if frame.isNack then .missed else .answered]
    else []
  | .exchange x _, .deadline => if x.frame.address? = some address then [.missed] else []
  | _, _ => []

/-- The signs of a turn. -/
def turnSigns (address : Nat) (e : Record) : List Sign :=
  inputSigns address e.input e.station ++ e.output.flatMap (outputSigns address)

/-- All signs of a secondary so far. -/
def signs (address : Nat) (r : Run) : List Sign :=
  r.opening.flatMap (outputSigns address) ++ r.past.flatMap (turnSigns address)

end Telecontrol.Primary
