import Telecontrol.Proofs.Server.Registry

/-!
# The shutdown of a server

A shutdown takes the connections out of the registry once, and tells those that it has found to
close. Until then every connection that has not ended is in the registry, or on the way into it, or
one of those that are to be told (`Attended`). The acceptor can still be on the way when the
registry is emptied, and it can take in what waits instead of stopping. A connection that comes into
the registry behind its back is not told by the shutdown (`latecomer_is_left`). Nothing else is left
(`shutdown_reaches`).
-/

namespace Telecontrol.Server

variable {κ : Type} {s s' : Server κ} {m : Member κ} {action : Action κ}
  {actions : List (Action κ)}

/-- The connection that the acceptor takes into the registry. -/
def Acceptor.brings : Acceptor κ → List (Entry κ)
  | registering entry => [entry]
  | _ => []

/-- The connections that are to be told. -/
def Shutdown.waiting : Shutdown κ → List (Entry κ)
  | closing entries => entries
  | _ => []

/-- The connections that a shutdown has found or can still find. -/
def reach (s : Server κ) : List (Entry κ) :=
  s.registry ++ s.acceptor.brings ++ s.shutdown.waiting

lemma mem_reach {entry : Entry κ} : entry ∈ s.reach ↔
    entry ∈ s.registry ∨ entry ∈ s.acceptor.brings ∨ entry ∈ s.shutdown.waiting := by
  simp [reach]

/-- A connection has ended, or was told to close, or is within reach. -/
structure Attended (s : Server κ) (m : Member κ) : Prop where
  releasing : ∀ event, m.forwarding = .releasing event → m.ended = true
  reached : m.ended = true ∨ m.told = true ∨ ∃ entry ∈ s.reach, entry.id = m.id

lemma Attended.frame (h : Attended s m) (hreach : ∀ entry ∈ s.reach, entry.id = m.id →
    entry ∈ s'.reach) : Attended s' m where
  releasing := h.releasing
  reached := by
    obtain hended | htold | ⟨entry, hentry, hid⟩ := h.reached
    · exact .inl hended
    · exact .inr (.inl htold)
    · exact .inr (.inr ⟨entry, hreach entry hentry hid, hid⟩)

lemma attended_setMember {m' : Member κ} (h : ∀ m ∈ s.members, Attended s m)
    (hmembers : s'.members = (s.setMember m').members)
    (hreach : ∀ entry ∈ s.reach, entry.id ≠ m'.id → entry ∈ s'.reach) (hown : Attended s' m') :
    ∀ m ∈ s'.members, Attended s' m := by
  intro m hm
  rw [hmembers] at hm
  obtain rfl | ⟨hm, hne⟩ := mem_setMember hm
  · exact hown
  · exact (h m hm).frame fun entry hentry hid => hreach entry hentry (hid ▸ hne)

/-- A connection goes out of reach only when it leaves the registry at its end, or when it is
told. -/
lemma reach_advances (hadvances : Advances s action s') {entry : Entry κ} (hentry : entry ∈ s.reach)
    (hstays : action ≠ .release entry.id) (htell : action ≠ .tellNext) : entry ∈ s'.reach := by
  have hplace := mem_reach.1 hentry
  cases hadvances with
  | admits handle hwaiting =>
    rw [hwaiting] at hplace
    simp only [mem_reach]
    obtain hplace | hplace | hplace := hplace
    · exact .inl hplace
    · exact (List.not_mem_nil hplace).elim
    · exact .inr (.inr hplace)
  | registers hacceptor =>
    rw [hacceptor] at hplace
    simp only [mem_reach, List.mem_append]
    obtain hplace | hplace | hplace := hplace
    · exact .inl (.inl hplace)
    · exact .inl (.inr hplace)
    · exact .inr (.inr hplace)
  | announces hacceptor | stops hacceptor =>
    rw [hacceptor] at hplace
    exact mem_reach.2 hplace
  | @releases m event hm =>
    obtain hplace | hplace := hplace
    · have hother : entry.id ≠ m.id := fun heq => hstays (congrArg Action.release heq.symm)
      exact mem_reach.2 (.inl (List.mem_filter.2 ⟨hplace, by simpa using hother⟩))
    · exact mem_reach.2 (.inr hplace)
  | requests hover =>
    obtain hplace | hplace | hplace := hplace
    · exact mem_reach.2 (.inl hplace)
    · exact mem_reach.2 (.inr (.inl hplace))
    · obtain hover | hover := hover <;> simp [hover, Shutdown.waiting] at hplace
  | drains hrequested =>
    obtain hplace | hplace | hplace := hplace
    · exact mem_reach.2 (.inr (.inr hplace))
    · exact mem_reach.2 (.inr (.inl hplace))
    · simp [hrequested, Shutdown.waiting] at hplace
  | tells => exact absurd rfl htell
  | rejects | emits | takes | forwards => exact hentry

lemma attended_tells {entry : Entry κ} {rest : List (Entry κ)} (h : ∀ m ∈ s.members, Attended s m)
    (hclosing : s.shutdown = .closing (entry :: rest)) :
    let s' : Server κ := { s with
      shutdown := .closing rest
      members := s.members.map fun m => if m.id = entry.id then { m with told := true } else m }
    ∀ m ∈ s'.members, Attended s' m := by
  intro s' m' hm'
  obtain ⟨m, hm, rfl⟩ := List.mem_map.1 hm'
  by_cases hid : m.id = entry.id
  · rw [if_pos hid]
    exact ⟨(h m hm).releasing, .inr (.inl rfl)⟩
  · rw [if_neg hid]
    refine (h m hm).frame fun other hother heq => ?_
    obtain hother | hother | hother := mem_reach.1 hother
    · exact mem_reach.2 (.inl hother)
    · exact mem_reach.2 (.inr (.inl hother))
    · rw [hclosing] at hother
      obtain rfl | hother := List.mem_cons.1 hother
      · exact absurd heq.symm hid
      · exact mem_reach.2 (.inr (.inr hother))

lemma attended_advances (haccounted : Accounted actions s) (h : ∀ m ∈ s.members, Attended s m)
    (hadvances : Advances s action s') : ∀ m ∈ s'.members, Attended s' m := by
  have hreach : ∀ entry ∈ s.reach, action ≠ .release entry.id → action ≠ .tellNext →
      entry ∈ s'.reach := fun _ => reach_advances hadvances
  have hothers (hstay : ∀ id, action ≠ .release id) (htell : action ≠ .tellNext) :
      ∀ m ∈ s.members, Attended s' m :=
    fun m hm => (h m hm).frame fun entry hentry _ => hreach entry hentry (hstay _) htell
  cases hadvances with
  | admits handle =>
    intro m hm
    obtain hm | hm := List.mem_append.1 hm
    · exact hothers (by simp) (by simp) m hm
    · obtain rfl := List.mem_singleton.1 hm
      refine ⟨by simp, .inr (.inr ⟨⟨s.nextId, handle⟩, ?_, rfl⟩)⟩
      exact mem_reach.2 (.inr (.inl List.mem_cons_self))
  | rejects | registers | stops | requests | drains => exact hothers (by simp) (by simp)
  | @announces m _ hm =>
    have hattended := hothers (by simp) (by simp) m hm
    exact attended_setMember h rfl (fun entry hentry _ => hreach entry hentry (by simp) (by simp))
      ⟨hattended.releasing, hattended.reached⟩
  | @emits m event hm hopen =>
    have hattended := h m hm
    refine attended_setMember h rfl (fun _ hentry _ => hentry) ⟨fun other hreleasing => ?_, ?_⟩
    · exact absurd (hattended.releasing other hreleasing) (by simp [hopen])
    · exact .inr (hattended.reached.resolve_left (by simp [hopen]))
  | @takes m event queue hm hheard hidle hqueue =>
    -- The forwarder is about to release the connection only if the event is its end.
    refine attended_setMember h rfl (fun _ hentry _ => hentry)
      ⟨fun other hreleasing => ?_, (h m hm).reached⟩
    obtain ⟨forwarded, haccounts⟩ := haccounted.members m hm
    by_contra hopen
    have hnotLost := haccounts.unended (by simpa using hopen) event (by
      rw [haccounts.events, hqueue]
      simp)
    simp [hnotLost] at hreleasing
  | @releases m event hm hreleasing =>
    exact attended_setMember h rfl
      (fun entry hentry hne => hreach entry hentry (by simpa using Ne.symm hne) (by simp))
      ⟨by simp, .inl ((h m hm).releasing event hreleasing)⟩
  | @forwards m event hm =>
    exact attended_setMember h rfl (fun _ hentry _ => hentry) ⟨by simp, (h m hm).reached⟩
  | tells hclosing => exact attended_tells h hclosing

lemma attended_run {parameters : ServerParameters} {s₀ : Server κ}
    (hlisten : listen parameters = .ok s₀) (hrun : s₀.run actions = some s) :
    ∀ m ∈ s.members, Attended s m := by
  induction actions using List.reverseRecOn generalizing s with
  | nil =>
    obtain rfl := Option.some.inj hrun
    obtain rfl := eq_of_listen hlisten
    simp
  | append_singleton actions action ih =>
    obtain ⟨before, hbefore, hadvances⟩ := run_snoc hrun
    exact attended_advances (run_keeps hlisten hbefore).accounted (ih hbefore) hadvances

/-! ## Behind the drain -/

/-- The number of the connection that comes into the registry with an action. -/
def joining? (action : Action κ) (s : Server κ) : Option Nat :=
  match action, s.acceptor with
  | .register, .registering entry => some entry.id
  | _, _ => none

/-- Numbers of the connections that come into the registry in a run. -/
def joined : List (Action κ) → Server κ → List Nat
  | [], _ => []
  | action :: actions, s =>
    (s.joining? action).toList ++ (s.act action).elim [] (joined actions)

lemma joined_snoc (hrun : s.run actions = some s') :
    s.joined (actions ++ [action]) = s.joined actions ++ (s'.joining? action).toList := by
  induction actions generalizing s with
  | nil =>
    obtain rfl := Option.some.inj hrun
    cases hact : s.act action <;> simp [joined, hact]
  | cons first actions ih =>
    obtain ⟨s₁, hact, hrest⟩ := Option.bind_eq_some_iff.1 hrun
    simp only [List.cons_append, joined, hact, Option.elim_some, ih hrest, List.append_assoc]

lemma registry_joined (hempty : s.registry = []) (hrun : s.run actions = some s')
    {entry : Entry κ} (hentry : entry ∈ s'.registry) : entry.id ∈ s.joined actions := by
  induction actions using List.reverseRecOn generalizing s' with
  | nil =>
    obtain rfl := Option.some.inj hrun
    simp [hempty] at hentry
  | append_singleton actions action ih =>
    obtain ⟨before, hbefore, hadvances⟩ := run_snoc hrun
    rw [joined_snoc hbefore, List.mem_append]
    have hold (hmem : entry ∈ before.registry) :
        entry.id ∈ s.joined actions ∨ entry.id ∈ (before.joining? action).toList :=
      .inl (ih hbefore hmem)
    cases hadvances with
    | @registers new hacceptor =>
      obtain hentry | hentry := List.mem_append.1 hentry
      · exact hold hentry
      · obtain rfl := List.mem_singleton.1 hentry
        exact .inr (by simp [joining?, hacceptor])
    | releases => exact hold (List.mem_of_mem_filter hentry)
    | drains => exact (List.not_mem_nil hentry).elim
    | _ => exact hold hentry

/-- A shutdown has emptied the registry, and this was the last time. -/
structure DrainedAt (s₀ s : Server κ) (before after : List (Action κ)) (s₁ s₂ : Server κ) :
    Prop where
  once : .drain ∉ after
  before : s₀.run before = some s₁
  drain : s₁.drain = some s₂
  after : s₂.run after = some s

lemma drained_at {s₀ : Server κ} (hfirst : s₀.shutdown = .absent) (hrun : s₀.run actions = some s)
    {entries : List (Entry κ)} (hclosing : s.shutdown = .closing entries) :
    ∃ before after s₁ s₂,
      actions = before ++ .drain :: after ∧ DrainedAt s₀ s before after s₁ s₂ := by
  induction actions using List.reverseRecOn generalizing s entries with
  | nil =>
    obtain rfl := Option.some.inj hrun
    simp [hfirst] at hclosing
  | append_singleton actions action ih =>
    rw [run_concat] at hrun
    obtain ⟨last, hlast, hact⟩ := Option.bind_eq_some_iff.1 hrun
    by_cases hdrain : action = .drain
    · subst hdrain
      exact ⟨actions, [], last, s, rfl, ⟨List.not_mem_nil, hlast, hact, rfl⟩⟩
    · obtain ⟨entries', hclosing'⟩ : ∃ entries', last.shutdown = .closing entries' := by
        cases act_advances hact with
        | requests => exact nomatch hclosing
        | drains => exact absurd rfl hdrain
        | tells h => exact ⟨_, h⟩
        | _ => exact ⟨entries, hclosing⟩
      obtain ⟨before, after, s₁, s₂, rfl, h⟩ := ih hlast hclosing'
      refine ⟨before, after ++ [action], s₁, s₂, by simp, ⟨?_, h.before, h.drain, ?_⟩⟩
      · simpa [h.once] using Ne.symm hdrain
      · rw [run_concat, h.after]
        exact hact

/-- A shutdown is over and the acceptor has stopped. The connections that have neither ended nor
been told to close are in the registry, and those in the registry came into it behind the back of
the shutdown, when it had emptied it for the last time. So nothing is left open unless one of these
is left. -/
theorem shutdown_reaches {parameters : ServerParameters} {s₀ : Server κ}
    (hlisten : listen parameters = .ok s₀) (hrun : s₀.run actions = some s)
    (hstopped : s.acceptor = .stopped) (hover : s.shutdown = .closing []) :
    ∃ before after s₁ s₂, actions = before ++ .drain :: after ∧ DrainedAt s₀ s before after s₁ s₂ ∧
      (∀ m ∈ s.members, m.ended = true ∨ m.told = true ∨ s.Registered m.id) ∧
      (∀ entry ∈ s.registry, entry.id ∈ s₂.joined after) ∧
      ((∀ m ∈ s.members, m.ended = true ∨ m.told = true) ∧ s.registry = [] ↔
        ∀ id ∈ s₂.joined after, ¬s.Registered id) := by
  have hfirst : s₀.shutdown = .absent := by
    rw [eq_of_listen hlisten]
  obtain ⟨before, after, s₁, s₂, hactions, h⟩ := drained_at hfirst hrun hover
  have hreached : ∀ m ∈ s.members, m.ended = true ∨ m.told = true ∨ s.Registered m.id := by
    intro m hm
    obtain hended | htold | ⟨entry, hentry, hid⟩ := (attended_run hlisten hrun m hm).reached
    · exact .inl hended
    · exact .inr (.inl htold)
    · rw [mem_reach, hstopped, hover] at hentry
      exact .inr (.inr ⟨entry, by simpa [Acceptor.brings, Shutdown.waiting] using hentry, hid⟩)
  have hlate : ∀ entry ∈ s.registry, entry.id ∈ s₂.joined after := by
    have hempty : s₂.registry = [] := by
      have hdrained : Advances s₁ .drain s₂ := act_advances h.drain
      cases hdrained
      rfl
    exact fun entry hentry => registry_joined hempty h.after hentry
  refine ⟨before, after, s₁, s₂, hactions, h, hreached, hlate, ?_, fun hgone => ?_⟩
  · rintro ⟨-, hnone⟩ id - ⟨entry, hentry, -⟩
    rw [hnone] at hentry
    exact List.not_mem_nil hentry
  · have hnone : s.registry = [] := List.eq_nil_iff_forall_not_mem.2 fun entry hentry =>
      hgone entry.id (hlate entry hentry) ⟨entry, hentry, rfl⟩
    refine ⟨fun m hm => ?_, hnone⟩
    obtain hended | htold | ⟨entry, hentry, -⟩ := hreached m hm
    · exact .inl hended
    · exact .inr htold
    · rw [hnone] at hentry
      exact (List.not_mem_nil hentry).elim

/-- One connection is there when the registry is emptied. Before it is told to close, the acceptor
takes in another one that waited. -/
def lateArrival : List (Action Nat) :=
  [.accept 7, .register, .announce, .requestShutdown, .drain, .accept 8, .tellNext, .register,
    .announce, .stop]

/-- A server for more than one connection. -/
def wide : Server Nat := { parameters := {} }

def left : Server Nat := (wide.run lateArrival).getD wide

theorem shutdown_reaches_lateArrival :
    listen {} = .ok wide ∧ wide.run lateArrival = some left ∧ left.acceptor = .stopped ∧
      left.shutdown = .closing [] ∧
      (∀ m ∈ left.members, m.ended = true ∨ m.told = true ∨ left.Registered m.id) ∧
      left.members.map (fun m => (m.id, m.told)) = [(1, true), (2, false)] ∧
      left.registry = [⟨2, 8⟩] := by
  have hlisten : listen {} = .ok wide := rfl
  have hrun : wide.run lateArrival = some left := by decide
  have hstopped : left.acceptor = .stopped := by decide
  have hover : left.shutdown = .closing [] := by decide
  obtain ⟨_, _, _, _, -, -, hreached, -⟩ := shutdown_reaches hlisten hrun hstopped hover
  exact ⟨hlisten, hrun, hstopped, hover, hreached, by decide, by decide⟩

/-- When shutdown and acceptor are through, the connection that came late is open and nobody has
told it to close. -/
theorem latecomer_is_left :
    ¬∀ (parameters : ServerParameters) (s₀ s : Server Nat) (actions : List (Action Nat)),
      listen parameters = .ok s₀ → s₀.run actions = some s → s.acceptor = .stopped →
      s.shutdown = .closing [] →
      (∀ m ∈ s.members, m.ended = true ∨ m.told = true) ∧ s.registry = [] := by
  intro h
  obtain ⟨-, hnone⟩ := h {} wide left lateArrival rfl (by decide) (by decide) (by decide)
  exact absurd hnone (by decide)

end Telecontrol.Server
