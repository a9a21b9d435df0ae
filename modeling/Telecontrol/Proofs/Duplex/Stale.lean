import Telecontrol.Proofs.Duplex.Invariant

/-!
# What a stale receipt can do

A stale receipt lies behind everything that the controlling end has written before. If the
controlled end first reads what precedes it and then sends as much data as the receipt counts, the
receipt is the next thing that it reads, while all this data is still under way.
-/

namespace Telecontrol

lemma FrameReader.Spells.take_head {α : Type} {reader : FrameReader α} {a : α} {frames : List α}
    {b : Inbox} (h : reader.Spells (a :: frames) b.waiting) :
    ∃ rest, b.take reader = some (.frame a, { b with waiting := rest }) ∧
      reader.Spells frames rest := by
  generalize hall : b.waiting = all at h
  cases h with
  | @cons _ _ octets rest hread hrest =>
    refine ⟨rest, ?_, hrest⟩
    simp only [Inbox.take, Inbox.takeFrame, hall, hread rest, Option.map_some]

namespace Duplex

variable {d d' : Duplex} {kc ks number : Nat} {widths : FieldWidths} {c : Transfer}
  {outward inward read rest : List Apdu} {sent : List Asdu} {frame : Apdu}

lemma run_append (actions later : List Action) (d : Duplex) :
    d.run (actions ++ later) = (d.run actions).bind (run later) := by
  induction actions generalizing d with
  | nil => rfl
  | cons action actions ih =>
    change (d.act action).bind (fun d => d.run (actions ++ later)) =
      ((d.act action).bind (run actions)).bind (run later)
    rw [Option.bind_assoc]
    congr 1
    funext d
    exact ih d

/-- An action of the controlled end alone: octets arrive, it reads, or it sends a read command. -/
def Action.Plain (action : Action) : Prop :=
  (∃ count, action = .carry .controlled count) ∨ action = .turn .controlled .arrival none ∨
    action = .turn .controlled (.command (.send (reading 0) 0)) none

lemma fresh_of_plain {actions : List Action} (h : ∀ action ∈ actions, action.Plain) :
    d.Fresh ks actions := by
  induction actions generalizing d with
  | nil => trivial
  | cons action actions ih =>
    refine ⟨?_, fun d' _ => ih fun a hmem => h a (List.mem_cons_of_mem _ hmem)⟩
    rcases h action List.mem_cons_self with ⟨count, rfl⟩ | rfl | rfl
    · exact id
    · exact id
    · exact id

/-- The controlled end still has to read the frames of a phase in which data transfer is about to
begin, and behind them a receipt. All of it has arrived. -/
structure Lurking (kc ks number : Nat) (widths : FieldWidths) (c : Transfer)
    (outward inward : List Apdu) (d : Duplex) : Prop where
  phase : Phase True kc ks c d.controlled.connection.transfer outward inward
  pending : c.state = .startPending
  opened : d.controlled.ending = none
  spells : (Apdu.reader widths).Spells (outward ++ [.sFrame number])
    d.controlled.inbound.inbox.waiting
  role : d.controlled.connection.role = .controlled
  widths : d.controlled.connection.widths = widths
  accepted : d.controlled.accepted = d.controlling.received ++ Apdu.data inward

/-- What a turn of the controlled end leaves, over a line that works. -/
def afterTurn (input : Connection.Input) (inbox : Inbox) (d : Duplex) : Duplex :=
  let t := d.controlled.connection.step ⟨d.now, none⟩ input
  { d with
    controlled := d.controlled.conclude input inbox t
    controlling := { d.controlling with inbound := d.controlling.inbound.put t.octets } }

lemma act_turn {occasion : Occasion} {input : Connection.Input} {inbox : Inbox}
    (hopen : d.controlled.ending = none)
    (hinput : d.controlled.input? d.now occasion = some (input, inbox)) :
    d.act (.turn .controlled occasion none) = some (d.afterTurn input inbox) := by
  simp [act, turn, side, hopen, hinput, afterTurn, modify, Role.other]

lemma Lurking.performs {input : Connection.Input} {inbox : Inbox}
    (h : Lurking kc ks number widths c (read ++ rest) inward d)
    (hperforms : d.controlled.connection.Performs read
      (input.accepted (d.controlled.connection.step ⟨d.now, none⟩ input))
      (d.controlled.connection.step ⟨d.now, none⟩ input))
    (hspells : (Apdu.reader widths).Spells (rest ++ [.sFrame number]) inbox.waiting) :
    Lurking kc ks number widths c rest
      (inward ++ (d.controlled.connection.step ⟨d.now, none⟩ input).frames)
      (d.afterTurn input inbox) := by
  obtain ⟨hphase, hpending, hopen, -, hrole, hwidths, haccepted⟩ := h
  unfold afterTurn
  generalize d.controlled.connection.step ⟨d.now, none⟩ input = t at hperforms ⊢
  obtain ⟨hending, hrole', hwidths', hmoves, -, -, hsent⟩ := hperforms
  rw [hrole] at hmoves
  have hbetween : Transfer.Between True kc ks .controlled d.controlled.connection.transfer c
      (read ++ rest) inward := hphase
  refine ⟨?_, hpending, hending, hspells, ?_, ?_, ?_⟩
  · simp only [End.conclude, hending]
    exact (hbetween.moves hmoves).1
  · simp only [End.conclude, hending]
    rw [hrole', hrole]
  · simp only [End.conclude, hending]
    rw [hwidths', hwidths]
  · simp only [End.conclude]
    rw [haccepted, ← hsent, Apdu.data_append, List.append_assoc]

lemma Lurking.hear (h : Lurking kc ks number widths c (frame :: outward) inward d) :
    ∃ d' inward', d.act (.turn .controlled .arrival none) = some d' ∧
      Lurking kc ks number widths c outward inward' d' := by
  obtain ⟨remaining, htake, hspells⟩ := h.spells.take_head
  have hinput : d.controlled.input? d.now .arrival = some (.arrival (.frame frame),
      { d.controlled.inbound.inbox with waiting := remaining }) := by
    simp only [End.input?, h.widths, htake, Option.map_some]
  have hproper : Connection.Input.Proper d.controlled.connection (.arrival (.frame frame)) :=
    Phase.outward_front h.phase
  have hperforms := Connection.step_frame (m := ⟨d.now, none⟩) rfl hproper
  have hfront : Lurking kc ks number widths c ([frame] ++ outward) inward d := h
  exact ⟨_, _, act_turn h.opened hinput, hfront.performs hperforms hspells⟩

lemma Lurking.hearAll (h : Lurking kc ks number widths c outward inward d) :
    ∃ later d' inward', (∀ action ∈ later, action.Plain) ∧ d.run later = some d' ∧
      Lurking kc ks number widths c [] inward' d' := by
  induction outward generalizing d inward with
  | nil => exact ⟨[], d, inward, by simp, rfl, h⟩
  | cons frame outward ih =>
    obtain ⟨d₁, inward₁, hact, h₁⟩ := h.hear
    obtain ⟨later, d', inward', hplain, hrun, h'⟩ := ih h₁
    refine ⟨.turn .controlled .arrival none :: later, d', inward', ?_, ?_, h'⟩
    · intro action hmem
      rcases List.mem_cons.1 hmem with rfl | hmem
      · exact .inr (.inl rfl)
      · exact hplain action hmem
    · rw [run, hact]
      exact hrun

lemma reading_sound (widths : FieldWidths) :
    (reading 0).validate widths = .ok () ∧ (reading 0).Faithful widths := by
  have hpush : Asdu.push (.empty .readCommand .request 1) ⟨0, [[]]⟩ = .ok (reading 0) := rfl
  have hwell : (reading 0).WellFormed := (Asdu.wellFormed_of_objects_eq_nil rfl).push hpush
  have hcommon : (reading 0).header.commonAddress ≤ widths.maxCommonAddress :=
    widths.maxCommonAddress_pos
  have hobjects : ∀ o ∈ (reading 0).objects, o.lastAddress ≤ widths.maxObjectAddress :=
    List.forall_mem_singleton.2 (Nat.zero_le _)
  exact ⟨Asdu.validate_eq_ok_iff.2 ⟨⟨fun _ => rfl, hcommon⟩, by decide, hobjects⟩,
    hwell.faithful (by decide)⟩

lemma faithful_of_plain {actions : List Action} (h : ∀ action ∈ actions, action.Plain) :
    ∀ asdu ∈ actions.filterMap Action.asdu?, asdu.Faithful widths := by
  intro asdu hmem
  obtain ⟨action, haction, hasdu⟩ := List.mem_filterMap.1 hmem
  rcases h action haction with ⟨count, rfl⟩ | rfl | rfl
  · cases hasdu
  · cases hasdu
  · obtain rfl := Option.some.inj hasdu
    exact (reading_sound widths).2

lemma performs_reading {c : Connection} {m : Moment} (hm : m.writeFault = none)
    (hactive : c.state = .active) (hroom : c.send.unacked < c.send.k) :
    c.Performs [] [reading 0] (Connection.sendData m (reading 0) 0 c) ∧
      Connection.Grants 0 (Connection.sendData m (reading 0) 0 c) := by
  have hvalid := (reading_sound c.widths).1
  have hshort : ¬Apci.maxAsduLength < (reading 0).encodedLength c.widths := by
    have hcause := c.widths.cause_range
    have hcommon := c.widths.commonAddress_range
    have hobject := c.widths.objectAddress_range
    have hlength : (reading 0).encodedLength c.widths =
        2 + c.widths.cause + c.widths.commonAddress + 1 * c.widths.objectAddress + 1 * 0 := rfl
    have hmax : Apci.maxAsduLength = 249 := rfl
    omega
  have hsendable : Connection.checkSendable (reading 0) c = .ok () := by
    simp [Connection.checkSendable, hactive, hvalid, hshort]
  have hgrants : Connection.Grants 0 (Connection.sendData m (reading 0) 0 c) := by
    have hfull : c.send.isFull = false := by simpa [SendWindow.isFull] using hroom
    obtain ⟨octets, hoctets⟩ := (Connection.encode_of_checkSendable hsendable).2 c.send.nextNumber
      c.receive.acknowledgeAll.nextNumber
    simp [Connection.Grants, Connection.sendData, SendWindow.reserve, Moment.transmit, hsendable,
      hfull, hoctets, hm]
  obtain ⟨hperforms, -⟩ | ⟨-, hrefused⟩ | ⟨hbroken, -⟩ := Connection.sendData_cases m (reading 0) 0 c
  · exact ⟨hperforms, hgrants⟩
  · exact absurd hgrants hrefused
  · exact absurd hm hbroken

lemma Lurking.tell (h : Lurking kc ks number widths c [] inward d)
    (hroom : (Apdu.data inward).length < ks) :
    ∃ d' inward', d.act (.turn .controlled (.command (.send (reading 0) 0)) none) = some d' ∧
      Lurking kc ks number widths c [] inward' d' ∧
      (Apdu.data inward').length = (Apdu.data inward).length + 1 := by
  obtain ⟨hactive, hk, hunacked, -, -⟩ := h.phase.started h.pending
  have hfree : d.controlled.connection.send.unacked < d.controlled.connection.send.k := by
    change d.controlled.connection.transfer.send.unacked < d.controlled.connection.transfer.send.k
    omega
  obtain ⟨hperforms, hgrants⟩ := performs_reading (m := ⟨d.now, none⟩) rfl hactive hfree
  have hinput : d.controlled.input? d.now (.command (.send (reading 0) 0)) =
      some (.command (.send (reading 0) 0), d.controlled.inbound.inbox) := rfl
  have haccepted : Connection.Input.accepted (.command (.send (reading 0) 0))
      (d.controlled.connection.step ⟨d.now, none⟩ (.command (.send (reading 0) 0))) =
        [reading 0] := if_pos hgrants
  have hread : Lurking kc ks number widths c ([] ++ []) inward d := h
  refine ⟨_, _, act_turn h.opened hinput, hread.performs ?_ h.spells, ?_⟩
  · rw [haccepted]
    exact hperforms
  · rw [Apdu.data_append, List.length_append]
    exact congrArg _ (congrArg List.length hperforms.sent)

lemma Lurking.tellAll (h : Lurking kc ks number widths c [] inward d) (hnumber : number ≤ ks) :
    ∃ later d' inward', (∀ action ∈ later, action.Plain) ∧ d.run later = some d' ∧
      Lurking kc ks number widths c [] inward' d' ∧ number ≤ (Apdu.data inward').length := by
  -- One read command after the other is sent until the receipt counts no more than are under way.
  generalize hmissing : number - (Apdu.data inward).length = missing
  induction missing generalizing d inward with
  | zero => exact ⟨[], d, inward, by simp, rfl, h, by omega⟩
  | succ missing ih =>
    obtain ⟨d₁, inward₁, hact, h₁, hlength⟩ := h.tell (by omega)
    obtain ⟨later, d', inward', hplain, hrun, h', henough⟩ := ih h₁ (by omega)
    refine ⟨.turn .controlled (.command (.send (reading 0) 0)) none :: later, d', inward', ?_, ?_,
      h', henough⟩
    · intro action hmem
      rcases List.mem_cons.1 hmem with rfl | hmem
      · exact .inr (.inr rfl)
      · exact hplain action hmem
    · rw [run, hact]
      exact hrun

theorem Lurking.reaches (h : Lurking kc ks number widths c outward inward d)
    (hnumber : number ≤ ks) :
    ∃ later d' inward', (∀ action ∈ later, action.Plain) ∧ d.run later = some d' ∧
      Lurking kc ks number widths c [] inward' d' ∧ number ≤ (Apdu.data inward').length := by
  obtain ⟨first, d₁, inward₁, hplain, hrun, h₁⟩ := h.hearAll
  obtain ⟨second, d', inward', hplain', hrun', h', henough⟩ := h₁.tellAll hnumber
  refine ⟨first ++ second, d', inward', ?_, ?_, h', henough⟩
  · intro action hmem
    rcases List.mem_append.1 hmem with hmem | hmem
    · exact hplain action hmem
    · exact hplain' action hmem
  · rw [run_append, hrun]
    exact hrun'

lemma stale_number {action : Action} (h : d.Stale ks action) :
    0 < d.controlling.connection.receive.nextNumber ∧
      d.controlling.connection.receive.nextNumber ≤ ks := by
  unfold Stale at h
  split at h
  · exact h.2
  · exact h.elim

lemma lurking_of_stale {action : Action} {d₁ : Duplex} (h : d.Invariant True kc ks widths)
    (hopen : d.controlled.ending = none) (hstale : d.Stale ks action)
    (hact : d.act action = some d₁) :
    ∃ count d₂ c outward inward, d₁.act (.carry .controlled count) = some d₂ ∧
      Lurking kc ks d.controlling.connection.receive.nextNumber widths c outward inward d₂ := by
  obtain ⟨fault, rfl⟩ : ∃ fault, action = .turn .controlling (.timer .receipt) fault := by
    unfold Stale at hstale
    split at hstale
    · exact ⟨_, rfl⟩
    · exact hstale.elim
  obtain ⟨hpending, -, -⟩ := hstale
  obtain ⟨c, s, inward, outward, hphase, hown, hother, -, haccepted⟩ := h
  change d.turn .controlling (.timer .receipt) fault = some d₁ at hact
  unfold turn at hact
  split at hact
  · cases hact
  · next hguard =>
    have hopen' : d.controlling.ending = none := by
      simpa [side] using fun h => hguard (.inl h)
    obtain rfl : fault = none := by
      cases fault with
      | none => rfl
      | some text => exact absurd (.inr ⟨rfl, by simp [side, Role.other, hopen]⟩) hguard
    obtain ⟨hrole, hwidths, rfl, -⟩ := hown.live hopen'
    obtain ⟨hrole', hwidths', rfl, hspells⟩ := hother.live hopen
    obtain ⟨⟨input, inbox⟩, hinput, rfl⟩ := Option.map_eq_some_iff.1 hact
    obtain rfl : input = .timer .receipt := by
      unfold End.input? at hinput
      grind
    have hstep := Connection.sendReceipt_sound (m := ⟨d.now, none⟩)
      (c := (d.side .controlling).connection) rfl
    change (d.side .controlling).connection.step ⟨d.now, none⟩ (.timer .receipt) = _ at hstep
    have hwritten : (Apdu.reader widths).Reads
        ((Apci.sFrame d.controlling.connection.receive.nextNumber).header 0)
        (.sFrame d.controlling.connection.receive.nextNumber) :=
      Apdu.reads_of_encode hphase.numbers_lt.2 (by simp [Apdu.sFrame]) rfl
    have hall := hspells.append (.single hwritten)
    rw [← Channel.contents_put, ← Channel.waiting_carry_all] at hall
    dsimp only
    rw [hstep]
    refine ⟨(d.controlled.inbound.put
        ((Apci.sFrame d.controlling.connection.receive.nextNumber).header 0)).flight.length,
      _, d.controlling.connection.transfer, outward, inward, rfl, ?_⟩
    refine ⟨hphase, hpending, hopen, ?_, hrole', hwidths', ?_⟩
    · simpa [Turn.octets, Output.octets, side, Role.other, modify] using hall
    · change d.controlled.accepted = (d.controlling.received ++ []) ++ Apdu.data inward
      rw [List.append_nil]
      exact haccepted

end Duplex

end Telecontrol
