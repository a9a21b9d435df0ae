import Mathlib.Tactic.Lemma
import Telecontrol.Server.Action

/-!
# Runs of a server

The activities of a server take turns as they like, so that a run is any list of actions of which
each is possible when its turn comes. `act_advances` says once what an action finds and what it
changes; what is kept of a run is shown of its steps.
-/

namespace Telecontrol

/-- The event reports the end of a connection. -/
def Event.isLost : Event → Bool
  | .lost _ => true
  | _ => false

namespace Server

variable {κ : Type}

/-- What actions one after the other make of a server, if each is possible. -/
def run : List (Action κ) → Server κ → Option (Server κ)
  | [], s => some s
  | action :: actions, s => (s.act action).bind (run actions)

/-- The connection that the acceptor finds waiting. -/
def Action.handle? : Action κ → Option κ
  | accept handle => some handle
  | _ => none

/-- The event that the connection of a number puts out. -/
def Action.event? (id : Nat) : Action κ → Option Event
  | emit other event => if other = id then some event else none
  | _ => none

/-- Events that the connection of a number has put out. -/
def events (id : Nat) (actions : List (Action κ)) : List Event :=
  actions.filterMap (Action.event? id)

/-- The event that the forwarder of a connection has taken over and not passed on. -/
def Member.inHand (m : Member κ) : List Event :=
  match m.forwarding with
  | .idle => []
  | .releasing event | .sending event => [event]

/-- What the application hears of a connection first. -/
def Member.heading (m : Member κ) : List Notice := if m.announced then [.accepted m.id] else []

/-- What the application has heard of the connection of a number. -/
def about (id : Nat) (s : Server κ) : List Notice := s.notices.filter (·.id = id)

/-- The connection of a number is in the registry. -/
def Registered (id : Nat) (s : Server κ) : Prop := ∃ entry ∈ s.registry, entry.id = id

/-- A step of a server. -/
inductive Advances (s : Server κ) : Action κ → Server κ → Prop
  | admits (handle : κ) : s.acceptor = .waiting → s.registry.length < s.parameters.limit →
      Advances s (.accept handle)
        { s with
          nextId := s.nextId + 1
          members := s.members ++ [{ id := s.nextId, handle }]
          acceptor := .registering ⟨s.nextId, handle⟩ }
  | rejects (handle : κ) : s.acceptor = .waiting → s.parameters.limit ≤ s.registry.length →
      Advances s (.accept handle) (s.notify .rejected)
  | registers {entry : Entry κ} : s.acceptor = .registering entry →
      Advances s .register
        { s with registry := s.registry ++ [entry], acceptor := .announcing entry.id }
  | announces {m : Member κ} : s.acceptor = .announcing m.id → m ∈ s.members →
      Advances s .announce
        { (s.setMember { m with announced := true }).notify (.accepted m.id) with
          acceptor := .waiting }
  | stops : s.acceptor = .waiting → s.isStopping = true →
      Advances s .stop { s with acceptor := .stopped }
  | emits {m : Member κ} (event : Event) : m ∈ s.members → m.ended = false →
      Advances s (.emit m.id event)
        (s.setMember { m with queue := m.queue ++ [event], ended := event.isLost })
  | takes {m : Member κ} {event : Event} {queue : List Event} : m ∈ s.members →
      m.announced = true → m.forwarding = .idle → m.queue = event :: queue →
      Advances s (.take m.id)
        (s.setMember { m with
          queue
          forwarding := if event.isLost then .releasing event else .sending event })
  | releases {m : Member κ} {event : Event} : m ∈ s.members → m.forwarding = .releasing event →
      Advances s (.release m.id)
        { s.setMember { m with forwarding := .sending event } with
          registry := s.registry.filter (·.id != m.id) }
  | forwards {m : Member κ} {event : Event} : m ∈ s.members → m.forwarding = .sending event →
      Advances s (.forward m.id)
        ((s.setMember { m with forwarding := .idle }).notify (.connection m.id event))
  | requests : s.shutdown = .absent ∨ s.shutdown = .closing [] →
      Advances s .requestShutdown { s with shutdown := .requested }
  | drains : s.shutdown = .requested →
      Advances s .drain { s with shutdown := .closing s.registry, registry := [] }
  | tells {entry : Entry κ} {rest : List (Entry κ)} : s.shutdown = .closing (entry :: rest) →
      Advances s .tellNext
        { s with
          shutdown := .closing rest
          members := s.members.map fun m => if m.id = entry.id then { m with told := true } else m }

variable {s s' : Server κ} {m : Member κ} {id : Nat} {action : Action κ}
  {actions first rest : List (Action κ)}

lemma member?_eq_some (h : s.member? id = some m) : m ∈ s.members ∧ m.id = id :=
  ⟨List.mem_of_find?_eq_some h, by simpa using List.find?_some h⟩

lemma entry?_eq_none_iff : s.entry? id = none ↔ ¬s.Registered id := by
  simp [Server.entry?, Registered]

lemma acceptor_advances (h : s.act action = some s')
    (haction : (∃ handle, action = .accept handle) ∨
      action ∈ [.register, .announce, .stop]) : Advances s action s' := by
  obtain ⟨handle, rfl⟩ | hmem := haction
  · simp only [act, accept] at h
    split at h
    · next hwaiting =>
      by_cases hroom : s.hasRoom = true
      · rw [if_pos hroom] at h
        obtain rfl := Option.some.inj h
        exact .admits handle hwaiting (by simpa [hasRoom] using hroom)
      · rw [if_neg hroom] at h
        obtain rfl := Option.some.inj h
        exact .rejects handle hwaiting (by simpa [hasRoom] using hroom)
    · exact nomatch h
  · simp only [List.mem_cons, List.not_mem_nil, or_false] at hmem
    obtain rfl | rfl | rfl := hmem
    · simp only [act, register] at h
      split at h
      · next hregistering =>
        obtain rfl := Option.some.inj h
        exact .registers hregistering
      · exact nomatch h
    · simp only [act, announce] at h
      split at h
      · next hannouncing =>
        obtain ⟨m, hm, heq⟩ := Option.bind_eq_some_iff.1 h
        obtain rfl := Option.some.inj heq
        obtain ⟨hmem, rfl⟩ := member?_eq_some hm
        exact .announces hannouncing hmem
      · exact nomatch h
    · simp only [act, stop] at h
      split at h
      · next hwaiting =>
        by_cases hstopping : s.isStopping = true
        · rw [if_pos hstopping] at h
          obtain rfl := Option.some.inj h
          exact .stops hwaiting hstopping
        · rw [if_neg hstopping] at h
          exact nomatch h
      · exact nomatch h

lemma emit_advances {event : Event} (h : s.emit id event = some s') :
    Advances s (.emit id event) s' := by
  obtain ⟨m, hm, hrest⟩ := Option.bind_eq_some_iff.1 h
  obtain ⟨hmem, rfl⟩ := member?_eq_some hm
  by_cases hended : m.ended = true
  · simp [hended] at hrest
  · rw [if_neg hended] at hrest
    obtain rfl : s.setMember { m with
        queue := m.queue ++ [event], ended := event.isLost } = s' := by
      cases event <;> exact Option.some.inj hrest
    exact .emits event hmem (by simpa using hended)

lemma take_advances (h : s.take id = some s') : Advances s (.take id) s' := by
  obtain ⟨m, hm, hrest⟩ := Option.bind_eq_some_iff.1 h
  obtain ⟨hmem, rfl⟩ := member?_eq_some hm
  split at hrest
  · next event queue hannounced hidle hqueue =>
    obtain rfl : s.setMember { m with
        queue, forwarding := if event.isLost then .releasing event else .sending event } = s' := by
      cases event <;> exact Option.some.inj hrest
    exact .takes hmem hannounced hidle hqueue
  · exact nomatch hrest

lemma release_advances (h : s.release id = some s') : Advances s (.release id) s' := by
  obtain ⟨m, hm, h⟩ := Option.bind_eq_some_iff.1 h
  obtain ⟨hmem, rfl⟩ := member?_eq_some hm
  split at h
  · next event hreleasing =>
    obtain rfl := Option.some.inj h
    exact .releases hmem hreleasing
  · exact nomatch h

lemma forward_advances (h : s.forward id = some s') : Advances s (.forward id) s' := by
  obtain ⟨m, hm, h⟩ := Option.bind_eq_some_iff.1 h
  obtain ⟨hmem, rfl⟩ := member?_eq_some hm
  split at h
  · next event hsending =>
    obtain rfl := Option.some.inj h
    exact .forwards hmem hsending
  · exact nomatch h

theorem act_advances (h : s.act action = some s') : Advances s action s' := by
  cases action with
  | accept handle => exact acceptor_advances h (.inl ⟨handle, rfl⟩)
  | register => exact acceptor_advances h (.inr (by simp))
  | announce => exact acceptor_advances h (.inr (by simp))
  | stop => exact acceptor_advances h (.inr (by simp))
  | emit id event => exact emit_advances h
  | take id => exact take_advances h
  | release id => exact release_advances h
  | forward id => exact forward_advances h
  | requestShutdown =>
    simp only [act, requestShutdown] at h
    split at h
    · next habsent =>
      obtain rfl := Option.some.inj h
      exact .requests (.inl habsent)
    · next hover =>
      obtain rfl := Option.some.inj h
      exact .requests (.inr hover)
    · exact nomatch h
  | drain =>
    simp only [act, drain] at h
    split at h
    · next hrequested =>
      obtain rfl := Option.some.inj h
      exact .drains hrequested
    · exact nomatch h
  | tellNext =>
    simp only [act, tellNext] at h
    split at h
    · next hclosing =>
      obtain rfl := Option.some.inj h
      exact .tells hclosing
    · exact nomatch h

/-! ## Runs -/

lemma run_append (first rest : List (Action κ)) (s : Server κ) :
    s.run (first ++ rest) = (s.run first).bind (run rest) := by
  induction first generalizing s with
  | nil => rfl
  | cons action first ih =>
    simp only [List.cons_append, run]
    cases s.act action with
    | none => rfl
    | some s₁ => exact ih s₁

lemma run_concat (actions : List (Action κ)) (action : Action κ) (s : Server κ) :
    s.run (actions ++ [action]) = (s.run actions).bind (act action) := by
  rw [run_append]
  congr 1
  funext s₁
  exact Option.bind_fun_some _

lemma run_snoc (h : s.run (actions ++ [action]) = some s') :
    ∃ s₁, s.run actions = some s₁ ∧ Advances s₁ action s' := by
  rw [run_concat] at h
  obtain ⟨s₁, hrun, hact⟩ := Option.bind_eq_some_iff.1 h
  exact ⟨s₁, hrun, act_advances hact⟩

/-! ## Members -/

lemma mem_setMember {m' : Member κ} (h : m' ∈ (s.setMember m).members) :
    m' = m ∨ m' ∈ s.members ∧ m'.id ≠ m.id := by
  obtain ⟨other, hmem, rfl⟩ := List.mem_map.1 h
  by_cases hid : other.id = m.id
  · exact .inl (if_pos hid)
  · rw [if_neg hid]
    exact .inr ⟨hmem, hid⟩

lemma about_notify (id : Nat) (notice : Notice) (s : Server κ) :
    (s.notify notice).about id = s.about id ++ if notice.id = id then [notice] else [] := by
  simp only [about, notify, List.filter_append]
  by_cases hid : notice.id = id <;> simp [hid]

end Server

end Telecontrol
