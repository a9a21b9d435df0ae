import Mathlib.Data.List.Induction
import Mathlib.Data.List.Nodup
import Telecontrol.Proofs.Connection.Course
import Telecontrol.Proofs.Server.Actions

/-!
# The registry of a server

Whatever order the activities of a server take their turns in: the registry stays within the limit,
the connections are numbered one after the other, and what the application hears of a connection is
that it was accepted, then the events that the connection puts out, in order, with the end last.
When it hears of the end the connection is not in the registry any more (`registry_in_order`).

The registry is kept by `Enrolled`, the way of the events by `Accounted`. Both speak of the actions
that were taken as well, since a server does not remember what was put out.
-/

namespace Telecontrol.Server

variable {κ : Type} {s s' : Server κ} {m : Member κ} {action : Action κ}
  {actions : List (Action κ)}

/-- The connections that were admitted, as the registry knows them. -/
def entries (s : Server κ) : List (Entry κ) := s.members.map (·.toEntry)

/-- Numbers that were given away. -/
def numbers (s : Server κ) : List Nat := s.entries.map (·.id)

/-- The number of the connection that the acceptor is busy with. -/
def Acceptor.newcomer? : Acceptor κ → Option Nat
  | registering entry => some entry.id
  | announcing id => some id
  | _ => none

/-- Places that the acceptor has promised. -/
def Acceptor.reserved : Acceptor κ → Nat
  | registering _ => 1
  | _ => 0

lemma mem_numbers {id : Nat} : id ∈ s.numbers ↔ ∃ m ∈ s.members, m.id = id := by
  simp [numbers, entries]

lemma entries_setMember {m' : Member κ} (hnodup : s.numbers.Nodup) (hm : m ∈ s.members)
    (hentry : m'.toEntry = m.toEntry) : (s.setMember m').entries = s.entries := by
  simp only [entries, setMember, List.map_map]
  apply List.map_congr_left
  intro other hother
  by_cases hid : other.id = m'.id
  · have hsame : other = m := by
      simp only [numbers, entries, List.map_map] at hnodup
      exact List.inj_on_of_nodup_map hnodup hother hm (by simpa [hentry] using hid)
    simp [hsame, hentry]
  · simp [hid]

lemma entries_tell (id : Nat) (members : List (Member κ)) :
    (members.map fun m => if m.id = id then { m with told := true } else m).map (·.toEntry) =
      members.map (·.toEntry) := by
  rw [List.map_map]
  apply List.map_congr_left
  intro m _
  dsimp only [Function.comp]
  split <;> rfl

/-! ## Who is in the registry -/

/-- The connections that were admitted have the numbers from one on; those in the registry are among
them, each once, and there is room for the one that the acceptor brings. -/
structure Enrolled (s : Server κ) : Prop where
  numbers : s.numbers = List.range' 1 s.entries.length
  nextId : s.nextId = s.entries.length + 1
  room : s.registry.length + s.acceptor.reserved ≤ s.parameters.limit
  once : (s.registry.map (·.id)).Nodup
  registered : ∀ entry ∈ s.registry, entry ∈ s.entries
  registering : ∀ entry, s.acceptor = .registering entry →
    entry ∈ s.entries ∧ ¬s.Registered entry.id
  newcomer : ∀ m ∈ s.members, s.acceptor.newcomer? = some m.id → m.announced = false

namespace Enrolled

lemma nodup (h : Enrolled s) : s.numbers.Nodup := by
  rw [h.numbers]
  exact List.nodup_range'

lemma positive (h : Enrolled s) : 0 ∉ s.numbers := by
  rw [h.numbers]
  simp

lemma fresh (h : Enrolled s) : s.nextId ∉ s.numbers := by
  rw [h.numbers, h.nextId, List.mem_range'_1]
  omega

lemma keeps (h : Enrolled s) (hentries : s'.entries = s.entries)
    (hparameters : s'.parameters = s.parameters) (hnextId : s'.nextId = s.nextId)
    (hregistry : s'.registry.Sublist s.registry) (hacceptor : s'.acceptor = s.acceptor)
    (hnewcomer : ∀ m ∈ s'.members, s.acceptor.newcomer? = some m.id → m.announced = false) :
    Enrolled s' where
  numbers := by rw [Server.numbers, hentries]; exact h.numbers
  nextId := by rw [hnextId, hentries]; exact h.nextId
  room := by
    have hlength := hregistry.length_le
    have hroom := h.room
    rw [hacceptor, hparameters]
    omega
  once := (hregistry.map (·.id)).nodup h.once
  registered entry hentry := by
    rw [hentries]
    exact h.registered entry (hregistry.subset hentry)
  registering entry hregistering := by
    obtain ⟨hmem, hnew⟩ := h.registering entry (hacceptor ▸ hregistering)
    refine ⟨hentries ▸ hmem, ?_⟩
    rintro ⟨other, hother, hid⟩
    exact hnew ⟨other, hregistry.subset hother, hid⟩
  newcomer := by rw [hacceptor]; exact hnewcomer

lemma setMember (h : Enrolled s) (m' : Member κ) (hm : m ∈ s.members)
    (hentry : m'.toEntry = m.toEntry) (hannounced : m'.announced = m.announced) :
    Enrolled (s.setMember m') := by
  refine h.keeps (entries_setMember h.nodup hm hentry) rfl rfl (List.Sublist.refl _) rfl ?_
  intro other hother hnewcomer
  obtain rfl | ⟨hother, -⟩ := mem_setMember hother
  · rw [hannounced]
    exact h.newcomer m hm (by rw [hnewcomer, hentry])
  · exact h.newcomer other hother hnewcomer

lemma rests (h : Enrolled s) (acceptor : Acceptor κ) (hnobody : acceptor.newcomer? = none) :
    Enrolled { s with acceptor } where
  numbers := h.numbers
  nextId := h.nextId
  room := by
    have hreserved : acceptor.reserved = 0 := by
      cases acceptor with
      | registering => exact nomatch hnobody
      | _ => rfl
    have hroom := h.room
    simp only [hreserved]
    omega
  once := h.once
  registered := h.registered
  registering entry heq := by
    obtain rfl : acceptor = .registering entry := heq
    exact nomatch hnobody
  newcomer _ _ hnewcomer := nomatch hnobody.symm.trans hnewcomer

lemma admits (h : Enrolled s) (handle : κ) (hroom : s.registry.length < s.parameters.limit) :
    Enrolled { s with
      nextId := s.nextId + 1
      members := s.members ++ [{ id := s.nextId, handle }]
      acceptor := .registering ⟨s.nextId, handle⟩ } where
  numbers := by
    have hnumbers := h.numbers
    simp only [Server.numbers, entries, List.map_append] at hnumbers ⊢
    rw [hnumbers, List.length_append, List.length_map, List.length_map, List.length_singleton,
      List.range'_1_concat, h.nextId, Nat.add_comm 1]
    simp [entries]
  nextId := by simp [entries, h.nextId]
  room := hroom
  once := h.once
  registered entry hentry := by
    simp only [entries, List.map_append]
    exact List.mem_append_left _ (h.registered entry hentry)
  registering entry heq := by
    obtain rfl := Acceptor.registering.inj heq
    refine ⟨by simp [entries], ?_⟩
    rintro ⟨other, hother, hid⟩
    have hnumber : other.id ∈ s.numbers := List.mem_map_of_mem (h.registered other hother)
    rw [hid] at hnumber
    exact h.fresh hnumber
  newcomer m hm hid := by
    obtain hm | hm := List.mem_append.1 hm
    · have hnumber : m.id ∈ s.numbers := mem_numbers.2 ⟨m, hm, rfl⟩
      rw [← Option.some.inj hid] at hnumber
      exact (h.fresh hnumber).elim
    · obtain rfl := List.mem_singleton.1 hm
      rfl

lemma registers (h : Enrolled s) {entry : Entry κ} (hacceptor : s.acceptor = .registering entry) :
    Enrolled { s with
      registry := s.registry ++ [entry], acceptor := .announcing entry.id } where
  numbers := h.numbers
  nextId := h.nextId
  room := by
    have hroom := h.room
    rw [hacceptor] at hroom
    simpa [Acceptor.reserved] using hroom
  once := by
    rw [List.map_append, List.nodup_append]
    refine ⟨h.once, List.nodup_singleton _, ?_⟩
    intro id hid other hother heq
    obtain ⟨registered, hregistered, rfl⟩ := List.mem_map.1 hid
    obtain rfl := List.mem_singleton.1 hother
    exact (h.registering entry hacceptor).2 ⟨registered, hregistered, heq⟩
  registered other hother := by
    obtain hother | hother := List.mem_append.1 hother
    · exact h.registered other hother
    · obtain rfl := List.mem_singleton.1 hother
      exact (h.registering _ hacceptor).1
  registering _ heq := nomatch heq
  newcomer m hm hid := h.newcomer m hm (by rw [hacceptor]; exact hid)

theorem advances (h : Enrolled s) (hadvances : Advances s action s') : Enrolled s' := by
  cases hadvances with
  | admits handle _ hroom => exact h.admits handle hroom
  | rejects => exact h.keeps rfl rfl rfl (List.Sublist.refl _) rfl h.newcomer
  | registers hacceptor => exact h.registers hacceptor
  | announces _ hm =>
    have hwaiting := h.rests .waiting rfl
    exact hwaiting.keeps (entries_setMember h.nodup hm rfl) rfl rfl (List.Sublist.refl _) rfl
      fun _ _ hid => absurd hid.symm nofun
  | stops => exact h.rests .stopped rfl
  | emits event hm => exact h.setMember _ hm rfl rfl
  | takes hm => exact h.setMember _ hm rfl rfl
  | @releases m event hm =>
    have hset := h.setMember { m with forwarding := .sending event } hm rfl rfl
    exact hset.keeps rfl rfl rfl List.filter_sublist rfl hset.newcomer
  | @forwards m event hm =>
    have hset := h.setMember { m with forwarding := .idle } hm rfl rfl
    exact hset.keeps rfl rfl rfl (List.Sublist.refl _) rfl hset.newcomer
  | requests => exact h.keeps rfl rfl rfl (List.Sublist.refl _) rfl h.newcomer
  | drains => exact h.keeps rfl rfl rfl (List.nil_sublist _) rfl h.newcomer
  | tells =>
    refine h.keeps (entries_tell _ _) rfl rfl (List.Sublist.refl _) rfl fun m' hm' hid => ?_
    obtain ⟨m, hm, rfl⟩ := List.mem_map.1 hm'
    have hsilent : m.announced = false := h.newcomer m hm (by rw [hid]; split <;> rfl)
    split <;> exact hsilent

end Enrolled

/-! ## What is heard of a connection -/

/-- Nothing follows the end of a connection. -/
def LostLast (events : List Event) : Prop := ∀ event ∈ events.dropLast, event.isLost = false

/-- Where the events of a connection are, those that the application has heard of being
`forwarded`. While the connection is in the registry its end is not among them. -/
structure Accounts (actions : List (Action κ)) (s : Server κ) (m : Member κ)
    (forwarded : List Event) : Prop where
  events : events m.id actions = forwarded ++ (m.inHand ++ m.queue)
  notices : s.about m.id = m.heading ++ forwarded.map (.connection m.id)
  unheard : m.announced = false → forwarded = [] ∧ m.forwarding = .idle
  lostLast : LostLast (Server.events m.id actions)
  unended : m.ended = false → ∀ event ∈ Server.events m.id actions, event.isLost = false
  present : s.Registered m.id → (∀ event ∈ forwarded, event.isLost = false) ∧
    ∀ event, m.forwarding = .sending event → event.isLost = false

/-- The books of all connections. Nothing comes from others. -/
structure Accounted (actions : List (Action κ)) (s : Server κ) : Prop where
  members : ∀ m ∈ s.members, ∃ forwarded, Accounts actions s m forwarded
  strangers : ∀ id ∉ s.numbers, events id actions = []
  notices : ∀ notice ∈ s.notices, notice = .rejected ∨ notice.id ∈ s.numbers

lemma filterMap_snoc {α β : Type} (f : α → Option β) (l : List α) (a : α) :
    (l ++ [a]).filterMap f = l.filterMap f ++ (f a).toList := by
  rw [List.filterMap_append, List.filterMap_cons]
  cases f a <;> rfl

lemma events_snoc (id : Nat) (actions : List (Action κ)) (action : Action κ) :
    events id (actions ++ [action]) = events id actions ++ (action.event? id).toList :=
  filterMap_snoc ..

lemma event?_emit_of_ne {id other : Nat} (event : Event) (h : id ≠ other) :
    (Action.emit other event : Action κ).event? id = none := if_neg (Ne.symm h)

namespace Accounts

variable {forwarded : List Event}

lemma opening (hevents : Server.events m.id actions = []) (habout : s.about m.id = [])
    (hsilent : m.announced = false) (hhand : m.inHand = []) (hqueue : m.queue = [])
    (hidle : m.forwarding = .idle) : Accounts actions s m [] where
  events := by rw [hevents, hhand, hqueue]; rfl
  notices := by rw [habout, Member.heading, hsilent]; rfl
  unheard _ := ⟨rfl, hidle⟩
  lostLast := by simp [LostLast, hevents]
  unended := by simp [hevents]
  present _ := by simp [hidle]

lemma frame (h : Accounts actions s m forwarded) (told : Bool) (hevent : action.event? m.id = none)
    (habout : s'.about m.id = s.about m.id)
    (hregistered : s'.Registered m.id → s.Registered m.id ∨ m.announced = false) :
    Accounts (actions ++ [action]) s' { m with told } forwarded := by
  have hevents : Server.events m.id (actions ++ [action]) = Server.events m.id actions := by
    rw [events_snoc, hevent]
    exact List.append_nil _
  exact {
    events := hevents.trans h.events
    notices := habout.trans h.notices
    unheard := h.unheard
    lostLast := hevents ▸ h.lostLast
    unended := hevents ▸ h.unended
    present := fun hin => by
      obtain hbefore | hsilent := hregistered hin
      · exact h.present hbefore
      · obtain ⟨rfl, hidle⟩ := h.unheard hsilent
        simp [hidle] }

lemma announce (h : Accounts actions s m forwarded) (hsilent : m.announced = false)
    (habout : s'.about m.id = s.about m.id ++ [.accepted m.id])
    (hregistered : s'.Registered m.id → s.Registered m.id) :
    Accounts (actions ++ [.announce]) s' { m with announced := true } forwarded := by
  have hevents : Server.events m.id (actions ++ [.announce]) = Server.events m.id actions := by
    rw [events_snoc]
    exact List.append_nil _
  obtain ⟨hnone, -⟩ := h.unheard hsilent
  exact {
    events := hevents.trans h.events
    notices := by
      rw [habout, h.notices, hnone]
      simp [Member.heading, hsilent]
    unheard := by simp
    lostLast := hevents ▸ h.lostLast
    unended := hevents ▸ h.unended
    present := fun hin => h.present (hregistered hin) }

lemma emit (h : Accounts actions s m forwarded) (event : Event) (hopen : m.ended = false)
    (habout : s'.about m.id = s.about m.id)
    (hregistered : s'.Registered m.id → s.Registered m.id) :
    Accounts (actions ++ [.emit m.id event]) s'
      { m with queue := m.queue ++ [event], ended := event.isLost } forwarded := by
  have hevents : Server.events m.id (actions ++ [.emit m.id event]) =
      Server.events m.id actions ++ [event] := by
    rw [events_snoc, Action.event?, if_pos rfl]
    rfl
  have hbefore := h.unended hopen
  exact {
    events := by
      rw [hevents, h.events]
      simp [Member.inHand]
    notices := habout.trans h.notices
    unheard := h.unheard
    lostLast := by
      rw [LostLast, hevents, List.dropLast_concat]
      exact hbefore
    unended := by
      intro hlost other hother
      rw [hevents] at hother
      obtain hother | hother := List.mem_append.1 hother
      · exact hbefore other hother
      · exact List.mem_singleton.1 hother ▸ hlost
    present := fun hin => h.present (hregistered hin) }

lemma move (h : Accounts actions s m forwarded) {m' : Member κ} {forwarded' : List Event}
    (hid : m'.id = m.id) (hannounced : m'.announced = m.announced) (hended : m'.ended = m.ended)
    (hevent : action.event? m.id = none)
    (hmoved : forwarded' ++ (m'.inHand ++ m'.queue) = forwarded ++ (m.inHand ++ m.queue))
    (habout : s'.about m.id = m.heading ++ forwarded'.map (.connection m.id))
    (hheard : m.announced = true)
    (hpresent : s'.Registered m.id → (∀ event ∈ forwarded', event.isLost = false) ∧
      ∀ event, m'.forwarding = .sending event → event.isLost = false) :
    Accounts (actions ++ [action]) s' m' forwarded' := by
  have hevents : Server.events m.id (actions ++ [action]) = Server.events m.id actions := by
    rw [events_snoc, hevent]
    exact List.append_nil _
  rw [← hid] at hevents
  exact {
    events := by rw [hevents, hmoved, hid]; exact h.events
    notices := by
      have hheading : m'.heading = m.heading := by simp [Member.heading, hannounced, hid]
      rw [hid, habout, hheading]
    unheard := fun hsilent => by simp [hannounced, hheard] at hsilent
    lostLast := by rw [hevents, hid]; exact h.lostLast
    unended := by rw [hevents, hid, hended]; exact h.unended
    present := by rw [hid]; exact hpresent }

lemma heard (h : Accounts actions s m forwarded) (hbusy : m.forwarding ≠ .idle) :
    m.announced = true := by
  by_contra hsilent
  exact hbusy (h.unheard (by simpa using hsilent)).2

lemma take (h : Accounts actions s m forwarded) {event : Event} {queue : List Event}
    (hheard : m.announced = true) (hidle : m.forwarding = .idle)
    (hqueue : m.queue = event :: queue) (habout : s'.about m.id = s.about m.id)
    (hregistered : s'.Registered m.id → s.Registered m.id) :
    Accounts (actions ++ [.take m.id]) s'
      { m with
        queue
        forwarding := if event.isLost then .releasing event else .sending event } forwarded := by
  refine h.move rfl rfl rfl rfl ?_ (habout.trans h.notices) hheard fun hin => ?_
  · have hhand : m.inHand = [] := by simp [Member.inHand, hidle]
    rw [hhand, hqueue]
    cases event <;> rfl
  · refine ⟨(h.present (hregistered hin)).1, fun other hsending => ?_⟩
    cases event <;> cases hsending <;> rfl

lemma release (h : Accounts actions s m forwarded) {event : Event}
    (hreleasing : m.forwarding = .releasing event) (habout : s'.about m.id = s.about m.id)
    (hgone : ¬s'.Registered m.id) :
    Accounts (actions ++ [.release m.id]) s' { m with forwarding := .sending event }
      forwarded := by
  have hheard := h.heard (by simp [hreleasing])
  refine h.move rfl rfl rfl rfl ?_ (habout.trans h.notices) hheard fun hin => absurd hin hgone
  simp [Member.inHand, hreleasing]

lemma forward (h : Accounts actions s m forwarded) {event : Event}
    (hsending : m.forwarding = .sending event)
    (habout : s'.about m.id = s.about m.id ++ [.connection m.id event])
    (hregistered : s'.Registered m.id → s.Registered m.id) :
    Accounts (actions ++ [.forward m.id]) s' { m with forwarding := .idle }
      (forwarded ++ [event]) := by
  have hheard := h.heard (by simp [hsending])
  refine h.move rfl rfl rfl rfl ?_ ?_ hheard fun hin => ?_
  · simp [Member.inHand, hsending]
  · rw [habout, h.notices]
    simp
  · obtain ⟨hbefore, hlast⟩ := h.present (hregistered hin)
    refine ⟨fun other hother => ?_, by simp⟩
    obtain hother | hother := List.mem_append.1 hother
    · exact hbefore other hother
    · exact List.mem_singleton.1 hother ▸ hlast event hsending

end Accounts

lemma Accounted.setMember {m' : Member κ} (h : Accounted actions s)
    (hmembers : s'.members = (s.setMember m').members) (hid : m'.id = m.id)
    (hevent : ∀ id ≠ m.id, action.event? id = none) (habout : ∀ id ≠ m.id, s'.about id = s.about id)
    (hregistered : ∀ id, s'.Registered id → s.Registered id)
    (hown : ∃ forwarded, Accounts (actions ++ [action]) s' m' forwarded) :
    ∀ other ∈ s'.members, ∃ forwarded, Accounts (actions ++ [action]) s' other forwarded := by
  intro other hother
  rw [hmembers] at hother
  obtain rfl | ⟨hother, hne⟩ := mem_setMember hother
  · exact hown
  · rw [hid] at hne
    obtain ⟨forwarded, haccounts⟩ := h.members other hother
    exact ⟨forwarded, haccounts.frame other.told (hevent other.id hne) (habout other.id hne)
      fun hin => .inl (hregistered other.id hin)⟩

lemma Accounted.elsewhere (h : Accounted actions s)
    (hmembers : ∀ m' ∈ s'.members, ∃ m ∈ s.members, m' = { m with told := m'.told })
    (hevent : ∀ id, action.event? id = none) (habout : ∀ id ∈ s.numbers, s'.about id = s.about id)
    (hregistered : ∀ m ∈ s.members, s'.Registered m.id → s.Registered m.id ∨ m.announced = false) :
    ∀ m ∈ s'.members, ∃ forwarded, Accounts (actions ++ [action]) s' m forwarded := by
  intro m' hm'
  obtain ⟨m, hm, heq⟩ := hmembers m' hm'
  obtain ⟨forwarded, haccounts⟩ := h.members m hm
  rw [heq]
  exact ⟨forwarded, haccounts.frame m'.told (hevent m.id)
    (habout m.id (mem_numbers.2 ⟨m, hm, rfl⟩)) (hregistered m hm)⟩

lemma about_notify_of_ne {id : Nat} (notice : Notice) (h : notice.id ≠ id) :
    (s.notify notice).about id = s.about id := by
  rw [about_notify, if_neg h, List.append_nil]

lemma about_notify_self (notice : Notice) (s : Server κ) :
    (s.notify notice).about notice.id = s.about notice.id ++ [notice] := by
  rw [about_notify, if_pos rfl]

lemma Accounted.about_fresh (hs : Enrolled s) (h : Accounted actions s) :
    s.about s.nextId = [] := by
  refine List.filter_eq_nil_iff.2 fun notice hnotice hid => ?_
  have hnext : notice.id = s.nextId := of_decide_eq_true hid
  obtain rfl | hnumber := h.notices notice hnotice
  · have hpositive : s.nextId = s.entries.length + 1 := hs.nextId
    have hzero : 0 = s.nextId := hnext
    omega
  · rw [hnext] at hnumber
    exact hs.fresh hnumber

lemma accounts_advance (hs : Enrolled s) (h : Accounted actions s)
    (hadvances : Advances s action s') :
    ∀ m ∈ s'.members, ∃ forwarded, Accounts (actions ++ [action]) s' m forwarded := by
  have hsame : ∀ m ∈ s.members, ∃ m₀ ∈ s.members, m = { m₀ with told := m.told } :=
    fun m hm => ⟨m, hm, rfl⟩
  cases hadvances with
  | admits handle =>
    intro m hm
    obtain hm | hm := List.mem_append.1 hm
    · obtain ⟨forwarded, haccounts⟩ := h.members m hm
      exact ⟨forwarded, haccounts.frame m.told rfl rfl .inl⟩
    · obtain rfl := List.mem_singleton.1 hm
      refine ⟨[], .opening ?_ (h.about_fresh hs) rfl rfl rfl rfl⟩
      rw [events_snoc, h.strangers s.nextId hs.fresh]
      rfl
  | rejects =>
    refine h.elsewhere hsame (fun _ => rfl) (fun id hid => about_notify_of_ne .rejected ?_)
      (fun _ _ => .inl)
    rintro rfl
    exact hs.positive hid
  | @registers entry hacceptor =>
    refine h.elsewhere hsame (fun _ => rfl) (fun _ _ => rfl) ?_
    rintro m hm ⟨other, hother, hid⟩
    obtain hother | hother := List.mem_append.1 hother
    · exact .inl ⟨other, hother, hid⟩
    · obtain rfl := List.mem_singleton.1 hother
      exact .inr (hs.newcomer m hm (by rw [hacceptor, ← hid]; rfl))
  | @announces m hacceptor hm =>
    obtain ⟨forwarded, haccounts⟩ := h.members m hm
    have hsilent : m.announced = false := hs.newcomer m hm (by rw [hacceptor]; rfl)
    exact h.setMember rfl rfl (fun _ _ => rfl)
      (fun id hne => about_notify_of_ne (.accepted m.id) (Ne.symm hne)) (fun _ => id)
      ⟨forwarded, haccounts.announce hsilent (about_notify_self (.accepted m.id) s) id⟩
  | stops => exact h.elsewhere hsame (fun _ => rfl) (fun _ _ => rfl) (fun _ _ => .inl)
  | @emits m event hm hopen =>
    obtain ⟨forwarded, haccounts⟩ := h.members m hm
    exact h.setMember rfl rfl (fun _ hne => event?_emit_of_ne event hne) (fun _ _ => rfl)
      (fun _ => id) ⟨forwarded, haccounts.emit event hopen rfl id⟩
  | takes hm hheard hidle hqueue =>
    obtain ⟨forwarded, haccounts⟩ := h.members _ hm
    exact h.setMember rfl rfl (fun _ _ => rfl) (fun _ _ => rfl) (fun _ => id)
      ⟨forwarded, haccounts.take hheard hidle hqueue rfl id⟩
  | @releases m event hm hreleasing =>
    obtain ⟨forwarded, haccounts⟩ := h.members m hm
    refine h.setMember rfl rfl (fun _ _ => rfl) (fun _ _ => rfl) ?_
      ⟨forwarded, haccounts.release hreleasing rfl ?_⟩
    · rintro id ⟨entry, hentry, hid⟩
      exact ⟨entry, List.mem_of_mem_filter hentry, hid⟩
    · rintro ⟨entry, hentry, hid⟩
      have hother := (List.mem_filter.1 hentry).2
      simp [hid] at hother
  | @forwards m event hm hsending =>
    obtain ⟨forwarded, haccounts⟩ := h.members m hm
    exact h.setMember rfl rfl (fun _ _ => rfl)
      (fun id hne => about_notify_of_ne (.connection m.id event) (Ne.symm hne)) (fun _ => id)
      ⟨_, haccounts.forward hsending (about_notify_self (.connection m.id event) s) id⟩
  | requests => exact h.elsewhere hsame (fun _ => rfl) (fun _ _ => rfl) (fun _ _ => .inl)
  | drains =>
    refine h.elsewhere hsame (fun _ => rfl) (fun _ _ => rfl) ?_
    rintro m hm ⟨entry, hentry, -⟩
    exact (List.not_mem_nil hentry).elim
  | tells =>
    refine h.elsewhere ?_ (fun _ => rfl) (fun _ _ => rfl) (fun _ _ => .inl)
    intro m' hm'
    obtain ⟨m, hm, rfl⟩ := List.mem_map.1 hm'
    refine ⟨m, hm, ?_⟩
    split <;> rfl

/-- Who comes to a server in a step, and what is heard of it. -/
inductive Admission (s s' : Server κ) (action : Action κ) : Prop
  | granted (handle : κ) : action = .accept handle →
      s'.entries = s.entries ++ [⟨s.nextId, handle⟩] → s'.notices = s.notices →
      Admission s s' action
  | denied (handle : κ) : action = .accept handle → s'.entries = s.entries →
      s'.notices = s.notices ++ [.rejected] → Admission s s' action
  | nobody (notices : List Notice) : action.handle? = none → s'.entries = s.entries →
      s'.notices = s.notices ++ notices →
      (∀ notice ∈ notices, notice ≠ .rejected ∧ notice.id ∈ s.numbers) → Admission s s' action

lemma Advances.admission (hs : Enrolled s) (h : Advances s action s') : Admission s s' action := by
  have hnothing : ∀ notice ∈ ([] : List Notice), notice ≠ .rejected ∧ notice.id ∈ s.numbers := by
    simp
  cases h with
  | admits handle => exact .granted handle rfl (List.map_append ..) rfl
  | rejects handle => exact .denied handle rfl rfl rfl
  | registers => exact .nobody [] rfl rfl (List.append_nil _).symm hnothing
  | @announces m _ hm =>
    refine .nobody [.accepted m.id] rfl (entries_setMember hs.nodup hm rfl) rfl ?_
    simpa [Notice.id] using mem_numbers.2 ⟨m, hm, rfl⟩
  | stops => exact .nobody [] rfl rfl (List.append_nil _).symm hnothing
  | emits event hm =>
    exact .nobody [] rfl (entries_setMember hs.nodup hm rfl) (List.append_nil _).symm hnothing
  | takes hm =>
    exact .nobody [] rfl (entries_setMember hs.nodup hm rfl) (List.append_nil _).symm hnothing
  | @releases m event hm =>
    have hentries : (s.setMember { m with forwarding := .sending event }).entries = s.entries :=
      entries_setMember hs.nodup hm rfl
    exact .nobody [] rfl hentries (List.append_nil _).symm hnothing
  | @forwards m event hm =>
    refine .nobody [.connection m.id event] rfl (entries_setMember hs.nodup hm rfl) rfl ?_
    simpa [Notice.id] using mem_numbers.2 ⟨m, hm, rfl⟩
  | requests => exact .nobody [] rfl rfl (List.append_nil _).symm hnothing
  | drains => exact .nobody [] rfl rfl (List.append_nil _).symm hnothing
  | tells => exact .nobody [] rfl (entries_tell _ _) (List.append_nil _).symm hnothing

/-- Everyone who comes is admitted or turned away, in the order of coming. -/
structure Admitted (actions : List (Action κ)) (s : Server κ) : Prop where
  handles : (s.entries.map (·.handle)).Sublist (actions.filterMap Action.handle?)
  counted : s.entries.length + s.notices.count .rejected =
    (actions.filterMap Action.handle?).length

lemma Admitted.advances (h : Admitted actions s) (hadmission : Admission s s' action) :
    Admitted (actions ++ [action]) s' := by
  have hcame : (actions ++ [action]).filterMap Action.handle? =
      actions.filterMap Action.handle? ++ action.handle?.toList := filterMap_snoc ..
  have hcounted := h.counted
  cases hadmission with
  | granted handle haction hentries hnotices =>
    rw [haction] at hcame ⊢
    refine ⟨?_, ?_⟩
    · rw [hcame, hentries, List.map_append]
      exact h.handles.append (List.Sublist.refl _)
    · rw [hcame, hentries, hnotices, List.length_append, List.length_append, ← hcounted]
      exact Nat.add_right_comm ..
  | denied handle haction hentries hnotices =>
    rw [haction] at hcame ⊢
    refine ⟨?_, ?_⟩
    · rw [hcame, hentries]
      exact h.handles.trans (List.sublist_append_left _ _)
    · rw [hcame, hentries, hnotices, List.length_append, List.count_append, ← hcounted]
      exact (Nat.add_assoc ..).symm
  | nobody notices haction hentries hnotices hothers =>
    rw [haction, Option.toList_none, List.append_nil] at hcame
    refine ⟨?_, ?_⟩
    · rw [hcame, hentries]
      exact h.handles
    · have hnone : notices.count .rejected = 0 :=
        List.count_eq_zero.2 fun hmem => (hothers _ hmem).1 rfl
      rw [hcame, hentries, hnotices, List.count_append, hnone]
      exact hcounted

lemma Admission.numbers {id : Nat} (h : Admission s s' action) (hid : id ∈ s.numbers) :
    id ∈ s'.numbers := by
  cases h with
  | granted _ _ hentries =>
    rw [Server.numbers, hentries, List.map_append]
    exact List.mem_append_left _ hid
  | denied _ _ hentries =>
    rw [Server.numbers, hentries]
    exact hid
  | nobody _ _ hentries =>
    rw [Server.numbers, hentries]
    exact hid

theorem Accounted.advances (hs : Enrolled s) (h : Accounted actions s)
    (hadvances : Advances s action s') : Accounted (actions ++ [action]) s' where
  members := accounts_advance hs h hadvances
  strangers id hid := by
    have hadmission := hadvances.admission hs
    have hbefore : id ∉ s.numbers := fun hmem => hid (hadmission.numbers hmem)
    have hnothing : action.event? id = none := by
      cases hadvances with
      | emits event hm =>
        exact event?_emit_of_ne event fun heq => hbefore (mem_numbers.2 ⟨_, hm, heq.symm⟩)
      | _ => rfl
    rw [events_snoc, hnothing, h.strangers id hbefore]
    rfl
  notices notice hnotice := by
    have hadmission := hadvances.admission hs
    have hold : notice ∈ s.notices → notice = .rejected ∨ notice.id ∈ s'.numbers := fun hmem =>
      (h.notices notice hmem).imp_right hadmission.numbers
    cases hadmission with
    | granted _ _ _ hnotices => exact hold (hnotices ▸ hnotice)
    | denied _ _ _ hnotices =>
      rw [hnotices] at hnotice
      obtain hnotice | hnotice := List.mem_append.1 hnotice
      · exact hold hnotice
      · exact .inl (List.mem_singleton.1 hnotice)
    | nobody _ _ hentries hnotices hothers =>
      rw [hnotices] at hnotice
      obtain hnotice | hnotice := List.mem_append.1 hnotice
      · exact hold hnotice
      · rw [Server.numbers, hentries]
        exact .inr (hothers notice hnotice).2

/-! ## Runs -/

lemma parameters_advance (h : Advances s action s') : s'.parameters = s.parameters := by
  cases h <;> rfl

lemma eq_of_listen {parameters : ServerParameters} (h : listen parameters = .ok s) :
    s = { parameters } := by
  obtain ⟨_, _, heq⟩ := bind_eq_ok h
  exact (Except.ok.inj heq).symm

/-- The registry of a server that was opened, and the books of its connections. -/
structure Kept (parameters : ServerParameters) (actions : List (Action κ)) (s : Server κ) :
    Prop where
  parameters : s.parameters = parameters
  enrolled : Enrolled s
  admitted : Admitted actions s
  accounted : Accounted actions s

theorem run_keeps {parameters : ServerParameters} {s₀ : Server κ}
    (hlisten : listen parameters = .ok s₀) (hrun : s₀.run actions = some s) :
    Kept parameters actions s := by
  obtain rfl := eq_of_listen hlisten
  induction actions using List.reverseRecOn generalizing s with
  | nil =>
    obtain rfl := Option.some.inj hrun
    exact {
      parameters := rfl
      enrolled := ⟨rfl, rfl, Nat.zero_le _, List.nodup_nil, by simp, by simp, by simp⟩
      admitted := ⟨List.nil_sublist _, rfl⟩
      accounted := ⟨by simp, fun _ _ => rfl, by simp⟩ }
  | append_singleton actions action ih =>
    obtain ⟨before, hbefore, hadvances⟩ := run_snoc hrun
    have hkept := ih hbefore
    exact {
      parameters := (parameters_advance hadvances).trans hkept.parameters
      enrolled := hkept.enrolled.advances hadvances
      admitted := hkept.admitted.advances (hadvances.admission hkept.enrolled)
      accounted := hkept.accounted.advances hkept.enrolled hadvances }

lemma LostLast.of_append {first rest : List Event} (h : LostLast (first ++ rest)) :
    LostLast first := by
  intro event hevent
  obtain rfl | hrest := eq_or_ne rest []
  · exact h event (by simpa using hevent)
  · apply h event
    rw [List.dropLast_append_of_ne_nil hrest]
    exact List.mem_append_left _ (List.dropLast_subset _ hevent)

lemma Accounts.heard_in_order {forwarded : List Event} (h : Accounts actions s m forwarded) :
    s.about m.id = [] ∧ forwarded = [] ∨
      s.about m.id = .accepted m.id :: forwarded.map (.connection m.id) := by
  have hnotices := h.notices
  obtain hsilent | hheard := Bool.eq_false_or_eq_true m.announced |>.symm
  · obtain ⟨rfl, -⟩ := h.unheard hsilent
    exact .inl ⟨by simpa [Member.heading, hsilent] using hnotices, rfl⟩
  · exact .inr (by simpa [Member.heading, hheard] using hnotices)

lemma Kept.lost_unregistered {parameters : ServerParameters} (h : Kept parameters actions s)
    {id : Nat} {reason : CloseReason} (hlost : .connection id (.lost reason) ∈ s.notices) :
    s.entry? id = none := by
  rw [entry?_eq_none_iff]
  intro hin
  obtain heq | hnumber := h.accounted.notices _ hlost
  · exact nomatch heq
  · obtain ⟨m, hm, rfl⟩ := mem_numbers.1 hnumber
    obtain ⟨forwarded, haccounts⟩ := h.accounted.members m hm
    have habout : Notice.connection m.id (.lost reason) ∈ s.about m.id :=
      List.mem_filter.2 ⟨hlost, by simp [Notice.id]⟩
    have hforwarded : Event.lost reason ∈ forwarded := by
      obtain ⟨hnone, -⟩ | hsome := haccounts.heard_in_order
      · rw [hnone] at habout
        exact (List.not_mem_nil habout).elim
      · rw [hsome] at habout
        simpa using habout
    exact nomatch (haccounts.present hin).1 _ hforwarded

/-- In whatever order the acceptor, the connections, their forwarders and a shutdown take their
turns:
- the registry stays within the limit, and holds connections that were admitted, each once;
- those that come are admitted or turned away in the order of coming, and the ones admitted have the
  numbers from one on;
- the application hears of a connection that it was accepted, and then the events that the
  connection has put out, in order and with the end last, up to those that are still on their way;
- it hears of nobody else, except that somebody was turned away;
- a connection is not in the registry once its end was heard of. -/
theorem registry_in_order {parameters : ServerParameters} {s₀ : Server κ}
    (hlisten : listen parameters = .ok s₀) (hrun : s₀.run actions = some s) :
    (s.registry.length ≤ parameters.limit ∧ (s.registry.map (·.id)).Nodup ∧
        ∀ entry ∈ s.registry, entry ∈ s.entries) ∧
      (s.numbers = List.range' 1 s.entries.length ∧
        (s.entries.map (·.handle)).Sublist (actions.filterMap Action.handle?) ∧
        s.entries.length + s.notices.count .rejected =
          (actions.filterMap Action.handle?).length) ∧
      (∀ m ∈ s.members, ∃ forwarded,
        events m.id actions = forwarded ++ (m.inHand ++ m.queue) ∧
          LostLast (events m.id actions) ∧ LostLast forwarded ∧
          (s.about m.id = [] ∧ forwarded = [] ∨
            s.about m.id = .accepted m.id :: forwarded.map (.connection m.id))) ∧
      (∀ notice ∈ s.notices, notice = .rejected ∨ notice.id ∈ s.numbers) ∧
      ∀ id reason, .connection id (.lost reason) ∈ s.notices → s.entry? id = none := by
  have h := run_keeps hlisten hrun
  have hroom := h.enrolled.room
  rw [h.parameters] at hroom
  refine ⟨⟨Nat.le_of_add_right_le hroom, h.enrolled.once, h.enrolled.registered⟩,
    ⟨h.enrolled.numbers, h.admitted.handles, h.admitted.counted⟩, ?_, h.accounted.notices,
    fun _ _ => h.lost_unregistered⟩
  intro m hm
  obtain ⟨forwarded, haccounts⟩ := h.accounted.members m hm
  have hlast := haccounts.lostLast
  refine ⟨forwarded, haccounts.events, hlast, ?_, haccounts.heard_in_order⟩
  rw [haccounts.events] at hlast
  exact hlast.of_append

/-- A server that has room for one connection. -/
def narrow : Server Nat := { parameters := { limit := 1 } }

/-- Connections come to a server that has room for one. The second comes too early, the third when
the first has left the registry, and the end of the first is heard of after that. -/
def succession : List (Action Nat) :=
  [.accept 7, .register, .emit 1 .ready, .announce, .take 1, .accept 8,
    .emit 1 (.lost .remoteClosed), .forward 1, .take 1, .release 1, .accept 9, .forward 1,
    .register, .announce]

/-- The server behind that. -/
def succeeded : Server Nat := (narrow.run succession).getD narrow

theorem registry_in_order_succession :
    listen { limit := 1 } = .ok narrow ∧ narrow.run succession = some succeeded ∧
      succeeded.registry = [⟨2, 9⟩] ∧ succeeded.registry.length ≤ 1 ∧
      succeeded.entries = [⟨1, 7⟩, ⟨2, 9⟩] ∧ succeeded.numbers = [1, 2] ∧
      events 1 succession = [.ready, .lost .remoteClosed] ∧
      LostLast (events 1 succession) ∧
      succeeded.notices = [.accepted 1, .rejected, .connection 1 .ready,
        .connection 1 (.lost .remoteClosed), .accepted 2] ∧
      succeeded.entry? 1 = none := by
  have hlisten : listen { limit := 1 } = .ok narrow := rfl
  have hrun : narrow.run succession = some succeeded := by decide
  have hentries : succeeded.entries = [⟨1, 7⟩, ⟨2, 9⟩] := by decide
  have hnotices : succeeded.notices = [.accepted 1, .rejected, .connection 1 .ready,
      .connection 1 (.lost .remoteClosed), .accepted 2] := by decide
  obtain ⟨⟨hroom, -⟩, ⟨hnumbers, -⟩, hmembers, -, hlost⟩ := registry_in_order hlisten hrun
  rw [hentries] at hnumbers
  have hlast : LostLast (events 1 succession) := by
    obtain ⟨m, hm, hid⟩ := mem_numbers.1 (hnumbers ▸ List.mem_cons_self : 1 ∈ succeeded.numbers)
    obtain ⟨_, -, hlast, -⟩ := hmembers m hm
    rw [hid] at hlast
    exact hlast
  exact ⟨hlisten, hrun, by decide, hroom, hentries, hnumbers, by decide, hlast, hnotices,
    hlost 1 .remoteClosed (by simp [hnotices])⟩

/-! ## Where the events come from -/

lemma member?_of_mem (hs : Enrolled s) (hm : m ∈ s.members) : s.member? m.id = some m := by
  obtain ⟨other, hother⟩ : ∃ other, s.member? m.id = some other :=
    Option.isSome_iff_exists.1 (List.find?_isSome.2 ⟨m, hm, by simp⟩)
  obtain ⟨hmem, hid⟩ := member?_eq_some hother
  have hnodup := hs.nodup
  rw [numbers, entries, List.map_map] at hnodup
  rw [hother, List.inj_on_of_nodup_map hnodup hmem hm hid]

lemma emit_of_open (hs : Enrolled s) (hm : m ∈ s.members) (hopen : m.ended = false)
    (event : Event) : s.emit m.id event =
      some (s.setMember { m with queue := m.queue ++ [event], ended := event.isLost }) := by
  unfold Server.emit
  rw [member?_of_mem hs hm, Option.bind_eq_bind, Option.bind_some, if_neg (by simp [hopen])]
  cases event <;> rfl

lemma run_emits (hs : Enrolled s) (hm : m ∈ s.members) (hopen : m.ended = false)
    {events : List Event} (hlast : LostLast events) :
    ∃ s', s.run (events.map (.emit m.id)) = some s' := by
  induction events generalizing s m with
  | nil => exact ⟨s, rfl⟩
  | cons event rest ih =>
    have hemit := emit_of_open hs hm hopen event
    obtain rfl | hrest := eq_or_ne rest []
    · exact ⟨_, by rw [List.map_cons, run, act, hemit]; rfl⟩
    · rw [LostLast, List.dropLast_cons_of_ne_nil hrest] at hlast
      obtain ⟨hevent, hlast⟩ := List.forall_mem_cons.1 hlast
      let next : Member κ := { m with queue := m.queue ++ [event], ended := event.isLost }
      have hmem : next ∈ (s.setMember next).members := List.mem_map.2 ⟨m, hm, if_pos rfl⟩
      obtain ⟨s', hs'⟩ := ih (hs.setMember next hm rfl rfl) hmem hevent hlast
      exact ⟨s', by rw [List.map_cons, run, act, hemit]; exact hs'⟩

lemma not_isLost_of_mem_course {periods : List (List Asdu)} {current : Option (List Asdu)}
    {event : Event} (h : event ∈ Connection.course periods current) : event.isLost = false := by
  cases event with
  | lost reason => cases current <;> simp [Connection.course] at h
  | _ => rfl

theorem life_can_be_put_out (hs : Enrolled s) (hm : m ∈ s.members) (hopen : m.ended = false)
    {role : Role} {apci : ApciParameters} {widths : FieldWidths} {begun : Nat} {c : Connection}
    {steps : List Connection.Life.Action} {l : Connection.Life}
    (hstart : Connection.start role apci widths begun = .ok c)
    (hlife : (Connection.Life.begin begun c).run steps = some l) :
    ∃ s', s.run ((l.history.gather Connection.Happening.reports).map (.emit m.id)) = some s' := by
  obtain ⟨periods, current, hreports, -⟩ := (Connection.Life.orderly_run hstart hlife).reported
  apply run_emits hs hm hopen
  rw [hreports]
  cases l.ending with
  | none =>
    intro event hevent
    rw [Option.toList_none, List.map_nil, List.append_nil] at hevent
    exact not_isLost_of_mem_course (List.dropLast_subset _ hevent)
  | some reason =>
    intro event hevent
    rw [Option.toList_some, List.map_singleton, List.dropLast_concat] at hevent
    exact not_isLost_of_mem_course hevent

end Telecontrol.Server
