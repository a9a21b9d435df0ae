import Telecontrol.Proofs.Secondary.Requests
import Telecontrol.Proofs.Secondary.Turns

/-!
# The course of a secondary station

A secondary station takes a frame or a command, whichever is ready, and has no timers. Its
parameters stay as they are. Each turn is on record with the request that it was about.
-/

namespace Telecontrol.Secondary

def conduct : Conduct Secondary Command Input LinkFrame where
  step := step
  close := close
  read s b := s.take b
  isFree _ := true
  carryOut := .command
  request? := Command.request?
  abandoned := .abandoned
  expiry _ _ := none

/-- A secondary station that runs. -/
abbrev Run := Running Secondary Command Input LinkFrame

abbrev Record := Episode Secondary Input LinkFrame

abbrev Action := Running.Action Command

/-- A station that has not taken any turn. -/
def launch (s : Secondary) : Run := Running.begin conduct 0 (Turn.done s)

/-- A station with the usual parameters. -/
def usual : Secondary :=
  { address := 3, link := {}, widths := .serial, class1 := [], class2 := [], lastFcb := none,
    lastResponse := none, everReset := false }

/-- The request that a turn was about. -/
def asked? (e : Record) : Option Request := e.input.request? e.station.address

/-- The request that was served afresh in a turn. -/
def accepted? (e : Record) : Option Request :=
  (asked? e).filter fun q => (e.station.served? q).isSome

variable {s s' t : Secondary} {r : Run} {actions : List Action} {input : Input} {m : Moment}
  {ending ending' : Option CloseReason} {earlier later : List Record} {e : Record}
  {service : Service}

lemma left_eq (t : Turn) : Running.left conduct t = t.state :=
  Running.left_eq_state (fun _ _ => rfl) t

lemma wrote_mem_issued {mail : List Command} {t : Turn} {frame : LinkFrame} {octets : Octets} :
    .wrote frame octets ∈ Running.issued conduct mail t ↔ .wrote frame octets ∈ t.output := by
  unfold Running.issued
  split
  · exact Iff.rfl
  · simp [Running.refusals, conduct, close]

lemma mem_accepted {q : Request} :
    q ∈ accepted? e ↔ asked? e = some q ∧ (e.station.served? q).isSome := by
  rw [accepted?, Option.mem_def, Option.filter_eq_some_iff]

lemma input_cases {occasion : Running.Occasion} {inbox : Inbox} {mail : List Command}
    (h : r.input? conduct occasion = some (input, inbox, mail)) :
    (∃ command, r.mail = command :: mail ∧ input = .command command ∧ inbox = r.inbox) ∨
      (r.station.take r.inbox = some (input, inbox) ∧ mail = r.mail) ∨
      (input = .abandoned ∧ mail = [] ∧ inbox = r.inbox) := by
  rcases Running.input?_cases h with ⟨htake, rfl⟩ | ⟨command, hmail, -, rfl, rfl⟩ |
    ⟨hexpiry, -⟩ | habandoned
  · exact .inr (.inl ⟨htake, rfl⟩)
  · exact .inl ⟨command, hmail, rfl, rfl⟩
  · exact nomatch hexpiry
  · exact .inr (.inr habandoned)

lemma take_cases {b b' : Inbox} (h : s.take b = some (input, b')) :
    ((∃ frame, input = .frame frame) ∨ ∃ fault, input = .malformed fault) ∧
        b'.ending = b.ending ∨
      ∃ arrival, input = .streamEnd arrival ∧ b.takeEnd = some arrival ∧ b' = b := by
  unfold take at h
  split at h
  · next frame rest htake =>
    obtain ⟨rfl, rfl⟩ : .frame frame = input ∧ rest = b' := by simpa using h
    obtain ⟨⟨result, octets⟩, -, heq⟩ := Option.map_eq_some_iff.1 htake
    exact .inl ⟨.inl ⟨frame, rfl⟩, (congrArg Inbox.ending (congrArg Prod.snd heq)).symm⟩
  · next fault rest htake =>
    obtain ⟨rfl, rfl⟩ : .malformed fault = input ∧ rest = b' := by simpa using h
    obtain ⟨⟨result, octets⟩, -, heq⟩ := Option.map_eq_some_iff.1 htake
    exact .inl ⟨.inr ⟨fault, rfl⟩, (congrArg Inbox.ending (congrArg Prod.snd heq)).symm⟩
  · obtain ⟨arrival, hend, heq⟩ := Option.map_eq_some_iff.1 h
    obtain ⟨rfl, rfl⟩ : .streamEnd arrival = input ∧ b = b' := by simpa using heq
    exact .inr ⟨arrival, rfl, hend, rfl⟩

lemma frame_of_asked {q : Request} (h : asked? e = some q) :
    ∃ frame, e.input = .frame frame ∧ frame.request? e.station.address = some q := by
  unfold asked? at h
  cases hinput : e.input with
  | frame frame =>
    rw [hinput] at h
    exact ⟨frame, rfl, h⟩
  | _ =>
    rw [hinput] at h
    exact nomatch h

lemma start_fresh {address : Nat} {link : LinkParameters} {widths : FieldWidths}
    (h : start address link widths = .ok s) : s.lastResponse = none ∧ link.addressLength ≤ 2 := by
  obtain ⟨_, hvalid, h⟩ := bind_eq_ok h
  obtain ⟨_, -, h⟩ := bind_eq_ok h
  have hshort : ¬2 < link.addressLength := (ite_error_eq_ok_iff.1 hvalid).1
  refine ⟨?_, Nat.le_of_not_lt hshort⟩
  cases hbroadcast : link.isBroadcast address with
  | true => simp [hbroadcast] at h
  | false =>
    rw [hbroadcast] at h
    obtain rfl := Except.ok.inj h
    rfl

lemma path_of_run (hrun : (launch s).run conduct actions = some r) :
    Running.Path conduct s none r.past r.station r.ending := by
  obtain ⟨later, hpast, hpath⟩ := Running.run_path hrun
  have hpast : r.past = later := hpast
  rw [hpast]
  exact hpath

lemma Same.trans {u : Secondary} (h : s.Same t) (h' : t.Same u) : s.Same u where
  address := h'.address.trans h.address
  link := h'.link.trans h.link
  widths := h'.widths.trans h.widths

lemma Same.single (h : s.Same t) (hsingle : s.link.isBroadcast s.address = false) :
    t.link.isBroadcast t.address = false := by
  rw [h.link, h.address]
  exact hsingle

lemma setQueue_same (dataClass : DataClass) (queue : List Octets) :
    s.Same (s.setQueue dataClass queue) := by
  cases dataClass <;> exact ⟨rfl, rfl, rfl⟩

lemma remember_same (fcb fcv : Bool) (response : Option LinkFrame) :
    s.Same (s.remember fcb fcv response) := by
  unfold remember
  split <;> exact ⟨rfl, rfl, rfl⟩

lemma serveData_same (dataClass : DataClass) : s.Same (serveData dataClass s).state := by
  unfold serveData
  split
  · exact setQueue_same dataClass _
  · exact .refl s

lemma serve_same {function : PrimaryFunction} {payload : Option Octets}
    (h : s.serve function payload = some service) : s.Same service.state := by
  cases function with
  | userDataConfirmed =>
    obtain ⟨asdu, -, rfl⟩ := Option.map_eq_some_iff.1 h
    exact .refl s
  | requestClass1 | requestClass2 =>
    obtain rfl := Option.some.inj h
    exact serveData_same _
  | _ =>
    obtain rfl := Option.some.inj h
    exact ⟨rfl, rfl, rfl⟩

/-- Only a reset of the link makes the service of a request forget. -/
lemma serve_keeps {function : PrimaryFunction} {payload : Option Octets}
    (h : s.serve function payload = some service) (hfunction : function ≠ .resetRemoteLink) :
    service.state.lastFcb = s.lastFcb ∧ service.state.lastResponse = s.lastResponse := by
  cases function with
  | resetRemoteLink => exact absurd rfl hfunction
  | userDataConfirmed =>
    obtain ⟨asdu, -, rfl⟩ := Option.map_eq_some_iff.1 h
    exact ⟨rfl, rfl⟩
  | requestClass1 | requestClass2 =>
    obtain rfl := Option.some.inj h
    unfold serveData
    split <;> exact ⟨rfl, rfl⟩
  | _ =>
    obtain rfl := Option.some.inj h
    exact ⟨rfl, rfl⟩

lemma serve_forgets {payload : Option Octets}
    (h : s.serve .resetRemoteLink payload = some service) :
    service.state.lastFcb = none ∧ service.state.lastResponse = none := by
  obtain rfl := Option.some.inj h
  exact ⟨rfl, rfl⟩

lemma after_same {q : Request} (h : s.served? q = some service) :
    s.Same (after q service) :=
  (serve_same (serve_of_served h).2).trans (remember_same ..)

lemma Leaves.same_parameters (h : s.Leaves input t) : s.Same t := by
  cases h with
  | same => exact .refl s
  | served _ hserved => exact after_same hserved
  | queued => exact setQueue_same ..

theorem path_same (hsingle : s.link.isBroadcast s.address = false)
    (h : Running.Path conduct s ending later s' ending') :
    s.Same s' ∧ ∀ e ∈ later, s.Same e.station := by
  apply h.keeps _ (.refl s)
  intro m input t hsame
  rw [left_eq]
  exact hsame.trans (step_leaves (hsame.single hsingle) m input).same_parameters

lemma path_through (hsingle : s.link.isBroadcast s.address = false)
    (h : Running.Path conduct s ending (earlier ++ e :: later) s' ending') :
    ∃ m mail, s.Same e.station ∧
      e.output = Running.issued conduct mail (e.station.step m e.input) ∧ s.Same s' ∧
      Running.Path conduct (e.station.step m e.input).state (e.station.step m e.input).ending later
        s' ending' := by
  have hsame := path_same hsingle h
  obtain ⟨m, mail, houtput, -, hlater⟩ := h.split
  rw [left_eq] at hlater
  exact ⟨m, mail, hsame.2 e List.mem_append_cons_self, houtput, hsame.1, hlater⟩

end Telecontrol.Secondary
