import Telecontrol.Proofs.Apci.RoundTrip
import Telecontrol.Proofs.Duplex.Basic
import Telecontrol.Proofs.Duplex.Phase

/-!
# What holds throughout a run

The two ends are always in a phase, the octets on a channel spell the frames of that phase, and each
end has accepted what the other has handed out followed by what is still under way. An end that is
gone is replaced by the state that it had: its counterpart goes on as if nothing were read any more.
-/

namespace Telecontrol

namespace Transfer

variable {honest : Prop} {kc ks : Nat} {role : Role} {t t' other : Transfer}
  {read written rest toOwn toOther : List Apdu}

/-- A phase, seen from one of the ends. -/
def Between (honest : Prop) (kc ks : Nat) (role : Role) (own other : Transfer)
    (toOwn toOther : List Apdu) : Prop :=
  match role with
  | .controlling => Phase honest kc ks own other toOther toOwn
  | .controlled => Phase honest kc ks other own toOwn toOther

lemma Move.written_cases (h : Move role t read t' written) :
    written = [] ∨ (∃ function, written = [.uFrame function]) ∨
      written = [.sFrame t.receive.nextNumber] ∨
      ∃ asdu, written = [.iFrame t.send.nextNumber t.receive.nextNumber asdu] := by
  cases h with
  | receipt => exact .inr (.inr (.inl rfl))
  | send asdu _ hreserve =>
    obtain ⟨rfl, -⟩ := SendWindow.reserve_eq_ok hreserve
    exact .inr (.inr (.inr ⟨asdu, rfl⟩))
  | _ => first | exact .inl rfl | exact .inr (.inl ⟨_, rfl⟩)

lemma Move.inRange (h : Move role t read t' written) (hsend : t.send.nextNumber < sequenceModulus)
    (hreceive : t.receive.nextNumber < sequenceModulus) :
    ∀ frame ∈ written, frame.apci.InRange := by
  intro frame hmem
  obtain rfl | ⟨function, rfl⟩ | rfl | ⟨asdu, rfl⟩ := h.written_cases
  · cases hmem
  · obtain rfl := List.mem_singleton.1 hmem
    trivial
  · obtain rfl := List.mem_singleton.1 hmem
    exact hreceive
  · obtain rfl := List.mem_singleton.1 hmem
    exact ⟨hsend, hreceive⟩

namespace Between

lemma numbers_lt (h : Between honest kc ks role t other toOwn toOther) :
    t.send.nextNumber < sequenceModulus ∧ t.receive.nextNumber < sequenceModulus := by
  cases role with
  | controlling => exact (Phase.numbers_lt h).1
  | controlled => exact (Phase.numbers_lt h).2

lemma move (h : Between honest kc ks role t other (read ++ rest) toOther)
    (hmove : Move role t read t' written) :
    Between honest kc ks role t' other rest (toOther ++ written) := by
  cases role with
  | controlling => exact Phase.controlling h hmove
  | controlled => exact Phase.controlled h hmove

theorem moves (h : Between honest kc ks role t other (read ++ rest) toOther)
    (hmoves : Moves role t read t' written) :
    Between honest kc ks role t' other rest (toOther ++ written) ∧
      ∀ frame ∈ written, frame.apci.InRange := by
  induction hmoves generalizing toOther with
  | none t =>
    rw [List.append_nil]
    exact ⟨h, by simp⟩
  | more hmove _ ih =>
    rw [List.append_assoc] at h
    obtain ⟨hsend, hreceive⟩ := h.numbers_lt
    have hrange := hmove.inRange hsend hreceive
    obtain ⟨hrest, hrange'⟩ := ih (h.move hmove)
    rw [List.append_assoc] at hrest
    refine ⟨hrest, fun frame hmem => ?_⟩
    rcases List.mem_append.1 hmem with hmem | hmem
    · exact hrange frame hmem
    · exact hrange' frame hmem

lemma front {frame : Apdu} (h : Between honest kc ks role t other (frame :: rest) toOther) :
    (∃ function, frame = .uFrame function) ∨ (∃ number, frame = .sFrame number) ∨
      ∃ number asdu, frame = .iFrame t.receive.nextNumber number asdu ∧
        (t.state = .active ∨ t.state = .stopping) := by
  cases role with
  | controlling => exact Phase.inward_front h
  | controlled => exact Phase.outward_front h

lemma outstanding (h : Between honest kc ks role t other toOwn toOther)
    (hhonest : role = .controlled → honest) : (Apdu.data toOther).length ≤ t.send.unacked := by
  cases role with
  | controlling => exact Phase.outward_outstanding h
  | controlled => exact Phase.inward_outstanding h (hhonest rfl)

end Between

end Transfer

namespace Duplex

variable {honest : Prop} {kc ks : Nat} {widths : FieldWidths} {role : Role}
  {own other e : End} {d d' : Duplex}

/-- An end that goes on has the given state of data transfer and still has to read the given frames.
If it has ended, the other end was not to blame. -/
structure End.Shows (role : Role) (widths : FieldWidths) (t : Transfer) (frames : List Apdu)
    (e : End) : Prop where
  blameless : ∀ reason, e.ending = some reason → ¬reason.Blames
  outstanding : t.send.unacked ≤ e.accepted.length
  live : e.ending = none → e.connection.role = role ∧ e.connection.widths = widths ∧
    e.connection.transfer = t ∧ (Apdu.reader widths).Spells frames e.inbound.contents

/-- Two ends between which everything is in order. -/
def Joined (honest : Prop) (kc ks : Nat) (widths : FieldWidths) (role : Role)
    (own other : End) : Prop :=
  ∃ t t' toOwn toOther, Transfer.Between honest kc ks role t t' toOwn toOther ∧
    own.Shows role widths t toOwn ∧ other.Shows role.other widths t' toOther ∧
    own.accepted = other.received ++ Apdu.data toOther ∧
    other.accepted = own.received ++ Apdu.data toOwn

def Invariant (honest : Prop) (kc ks : Nat) (widths : FieldWidths) (d : Duplex) : Prop :=
  Joined honest kc ks widths .controlling d.controlling d.controlled

lemma invariant_iff (role : Role) : d.Invariant honest kc ks widths ↔
    Joined honest kc ks widths role (d.side role) (d.side role.other) := by
  cases role with
  | controlling => exact Iff.rfl
  | controlled =>
    constructor
    · rintro ⟨t, t', toOwn, toOther, hbetween, hown, hother, haccepted, haccepted'⟩
      exact ⟨t', t, toOther, toOwn, hbetween, hother, hown, haccepted', haccepted⟩
    · rintro ⟨t, t', toOwn, toOther, hbetween, hown, hother, haccepted, haccepted'⟩
      exact ⟨t', t, toOther, toOwn, hbetween, hother, hown, haccepted', haccepted⟩

@[simp] lemma side_modify (role : Role) (f : End → End) (d : Duplex) :
    (d.modify role f).side role = f (d.side role) := by
  cases role <;> rfl

@[simp] lemma side_other_modify (role : Role) (f : End → End) (d : Duplex) :
    (d.modify role f).side role.other = d.side role.other := by
  cases role <;> rfl

@[simp] lemma side_modify_other (role : Role) (f : End → End) (d : Duplex) :
    (d.modify role.other f).side role = d.side role := by
  cases role <;> rfl

lemma spells_output {output : List (Output Apdu)} {reader : FrameReader Apdu}
    (h : ∀ frame octets, .wrote frame octets ∈ output → reader.Reads octets frame) :
    reader.Spells (output.filterMap Output.frame?) (output.flatMap Output.octets) := by
  induction output with
  | nil => exact .nil
  | cons first output ih =>
    have hrest := ih fun frame octets hmem => h frame octets (List.mem_cons_of_mem _ hmem)
    cases first with
    | wrote frame octets => exact .cons (h frame octets List.mem_cons_self) hrest
    | reported event => exact hrest
    | answered request answer => exact hrest

lemma End.Shows.put {t : Transfer} {frames written : List Apdu} {octets : Octets}
    (h : e.Shows role widths t frames) (hwritten : (Apdu.reader widths).Spells written octets) :
    End.Shows role widths t (frames ++ written) { e with inbound := e.inbound.put octets } := by
  refine ⟨h.blameless, h.outstanding, fun hopen => ?_⟩
  obtain ⟨hrole, hwidths, htransfer, hspells⟩ := h.live hopen
  refine ⟨hrole, hwidths, htransfer, ?_⟩
  rw [Channel.contents_put]
  exact hspells.append hwritten

lemma End.Shows.input {t other : Transfer} {now : Nat} {occasion : Occasion}
    {input : Connection.Input} {inbox : Inbox} {frames toOther : List Apdu}
    (h : e.Shows role widths t frames) (hopen : e.ending = none)
    (hbetween : t.Between honest kc ks role other frames toOther)
    (hinput : e.input? now occasion = some (input, inbox)) :
    ∃ rest, frames = input.frames ++ rest ∧ input.Proper e.connection ∧
      (Apdu.reader widths).Spells rest { e.inbound with inbox }.contents := by
  obtain ⟨hrole, hwidths, rfl, hspells⟩ := h.live hopen
  cases occasion with
  | arrival =>
    obtain ⟨⟨arrival, inbox'⟩, htake, heq⟩ := Option.map_eq_some_iff.1 hinput
    obtain ⟨rfl, rfl⟩ := by simpa using heq
    rw [hwidths] at htake
    obtain ⟨a, others, rfl, rfl, hothers⟩ | ⟨hend, rfl⟩ :=
      hspells.take (Apdu.reader_stable widths) htake
    · exact ⟨others, rfl, hbetween.front, hothers⟩
    · refine ⟨frames, ?_, ?_, hspells⟩
      · rcases hend with rfl | ⟨text, rfl⟩ <;> rfl
      · rcases hend with rfl | ⟨text, rfl⟩
        · trivial
        · exact ⟨text, rfl⟩
  | command command =>
    obtain ⟨rfl, rfl⟩ := by simpa [End.input?] using hinput
    exact ⟨frames, rfl, trivial, hspells⟩
  | timer timer =>
    unfold End.input? at hinput
    dsimp only at hinput
    split at hinput
    · obtain ⟨rfl, rfl⟩ := by simpa using hinput
      exact ⟨frames, rfl, trivial, hspells⟩
    · cases hinput
  | abandoned =>
    obtain ⟨rfl, rfl⟩ := by simpa [End.input?] using hinput
    exact ⟨frames, rfl, trivial, hspells⟩

lemma Joined.goesOn {t t' : Transfer} {toOwn toOther : List Apdu}
    {input : Connection.Input} {inbox : Inbox} {turn : Connection.Turn}
    (hbetween : t.Between honest kc ks role t' toOwn (toOther ++ turn.frames))
    (hother : other.Shows role.other widths t' toOther)
    (haccepted : own.accepted = other.received ++ Apdu.data toOther)
    (haccepted' : other.accepted = own.received ++ Apdu.data (input.frames ++ toOwn))
    (hspells : (Apdu.reader widths).Spells toOwn { own.inbound with inbox }.contents)
    (hwritten : (Apdu.reader widths).Spells turn.frames turn.octets)
    (hending : turn.ending = none) (hrole : turn.state.role = role)
    (hwidths : turn.state.widths = widths) (htransfer : turn.state.transfer = t)
    (hasdus : turn.asdus = Apdu.data input.frames)
    (hsent : Apdu.data turn.frames = input.accepted turn)
    (hcount : t.send.unacked ≤ own.accepted.length + (Apdu.data turn.frames).length) :
    Joined honest kc ks widths role (own.conclude input inbox turn)
      { other with inbound := other.inbound.put turn.octets } := by
  refine ⟨t, t', toOwn, toOther ++ turn.frames, hbetween, ⟨?_, ?_, ?_⟩, hother.put hwritten, ?_,
    ?_⟩
  · intro reason hreason
    rw [End.conclude, hending] at hreason
    cases hreason
  · rw [hsent, ← List.length_append] at hcount
    exact hcount
  · intro _
    simp only [End.conclude, hending]
    exact ⟨hrole, hwidths, htransfer, hspells⟩
  · simp only [End.conclude]
    rw [haccepted, ← hsent, Apdu.data_append, List.append_assoc]
  · simp only [End.conclude]
    rw [haccepted', hasdus, Apdu.data_append, List.append_assoc]

lemma Joined.ends {input : Connection.Input} {inbox : Inbox} {turn : Connection.Turn}
    (h : Joined honest kc ks widths role own other) (hends : Connection.Ends turn) :
    Joined honest kc ks widths role (own.conclude input inbox turn)
      { other with inbound := other.inbound.put turn.octets } := by
  obtain ⟨t, t', toOwn, toOther, hbetween, hown, hother, haccepted, haccepted'⟩ := h
  obtain ⟨hoctets, hasdus, hsent⟩ := hends.silent
  obtain ⟨⟨reason, hending, hblames⟩, -⟩ := hends
  have hput := hother.put .nil
  rw [List.append_nil, ← hoctets] at hput
  refine ⟨t, t', toOwn, toOther, hbetween, ⟨?_, ?_, ?_⟩, hput, ?_, ?_⟩
  · intro reason' hreason
    simp only [End.conclude, hending, Option.some.injEq] at hreason
    rwa [← hreason]
  · simp only [End.conclude, hsent, List.append_nil, hown.outstanding]
  · intro hopen
    simp only [End.conclude, hending] at hopen
    cases hopen
  · simp only [End.conclude, hsent, List.append_nil, haccepted]
  · simp only [End.conclude, hasdus, List.append_nil, haccepted']

lemma mem_accepted {input : Connection.Input} {turn : Connection.Turn} {asdu : Asdu}
    (h : asdu ∈ input.accepted turn) : ∃ request, input = .command (.send asdu request) := by
  unfold Connection.Input.accepted at h
  split at h
  · next sent request =>
    split at h
    · obtain rfl := List.mem_singleton.1 h
      exact ⟨request, rfl⟩
    · cases h
  · cases h

/-- A receipt that falls due while the start of data transfer waits for its confirmation. -/
lemma Joined.late {inbox : Inbox} {m : Moment} {t' : Transfer} {toOwn toOther : List Apdu}
    (hbetween : own.connection.transfer.Between honest kc ks role t' toOwn toOther)
    (hrole : own.connection.role = role) (hwidths : own.connection.widths = widths)
    (hother : other.Shows role.other widths t' toOther)
    (haccepted : own.accepted = other.received ++ Apdu.data toOther)
    (haccepted' : other.accepted = own.received ++ Apdu.data toOwn)
    (hspells : (Apdu.reader widths).Spells toOwn { own.inbound with inbox }.contents)
    (hcount : own.connection.send.unacked ≤ own.accepted.length)
    (hm : m.writeFault = none) (hlate : Connection.Input.Late own.connection (.timer .receipt))
    (hharmless : honest →
      own.connection.receive.nextNumber = 0 ∨ ks < own.connection.receive.nextNumber) :
    Joined honest kc ks widths role
      (own.conclude (.timer .receipt) inbox (Connection.sendReceipt m own.connection))
      { other with inbound := other.inbound.put (Connection.sendReceipt m own.connection).octets } := by
  obtain ⟨-, hcontrolling, hpending⟩ := hlate
  obtain rfl : role = .controlling := hrole.symm.trans hcontrolling
  have hrange := hbetween.numbers_lt.2
  have hbetween' : Transfer.Between honest kc ks .controlling
      own.connection.transfer.acknowledgeAll t' toOwn
      (toOther ++ [.sFrame own.connection.receive.nextNumber]) :=
    Phase.late hbetween hpending hharmless
  rw [Connection.sendReceipt_sound hm]
  refine Joined.goesOn hbetween' hother haccepted haccepted' hspells ?_ rfl hrole hwidths rfl
    rfl rfl (Nat.le_add_right_of_le hcount)
  apply spells_output
  intro frame octets hmem
  obtain ⟨rfl, rfl⟩ := by simpa using hmem
  exact Apdu.reads_of_encode hrange (by simp [Apdu.sFrame]) rfl

/-- Every turn of an end keeps everything in order. -/
theorem Joined.turn {input : Connection.Input} {inbox : Inbox} {occasion : Occasion} {now : Nat}
    (h : Joined honest kc ks widths role own other) (hopen : own.ending = none)
    (hinput : own.input? now occasion = some (input, inbox)) (m : Moment)
    (hfaithful : ∀ asdu request, input = .command (.send asdu request) → asdu.Faithful widths)
    (hharmless : honest → input.Late own.connection →
      own.connection.receive.nextNumber = 0 ∨ ks < own.connection.receive.nextNumber) :
    Joined honest kc ks widths role (own.conclude input inbox (own.connection.step m input))
      { other with inbound := other.inbound.put (own.connection.step m input).octets } := by
  have hjoined := h
  obtain ⟨t, t', toOwn, toOther, hbetween, hown, hother, haccepted, haccepted'⟩ := h
  obtain ⟨rest, rfl, hproper, hspells⟩ := hown.input hopen hbetween hinput
  obtain ⟨hrole, hwidths, rfl, -⟩ := hown.live hopen
  -- A late receipt is no move of the numbering that has ended, so it is treated apart.
  by_cases hlate : input.Late own.connection
  · obtain rfl := hlate.1
    change Joined _ _ _ _ _ (own.conclude _ inbox (Connection.sendReceipt m own.connection))
      { other with inbound := other.inbound.put (Connection.sendReceipt m own.connection).octets }
    by_cases hm : m.writeFault = none
    · exact Joined.late hbetween hrole hwidths hother haccepted haccepted' hspells
        hown.outstanding hm hlate fun hhonest => hharmless hhonest hlate
    · exact hjoined.ends (Connection.ends_write hm rfl)
  · obtain hperforms | hends := Connection.step_outcome m hproper hlate
    · obtain ⟨hending, hrole', hwidths', hmoves, hencoded, hasdus, hsent⟩ := hperforms
      rw [hrole] at hmoves hrole'
      rw [hwidths] at hwidths' hencoded
      obtain ⟨hbetween', hrange⟩ := hbetween.moves hmoves
      have hcount := Nat.le_trans hmoves.unacked_le (Nat.add_le_add_right hown.outstanding _)
      refine Joined.goesOn hbetween' hother haccepted haccepted' hspells ?_ hending hrole' hwidths'
        rfl hasdus hsent hcount
      -- What was written can be read again since its numbers and its data fit.
      apply spells_output
      intro frame octets hmem
      have hframe : frame ∈ (own.connection.step m input).frames :=
        List.mem_filterMap.2 ⟨_, hmem, rfl⟩
      refine Apdu.reads_of_encode (hrange frame hframe) ?_ (hencoded frame octets hmem)
      intro asdu hasdu
      have hdata : asdu ∈ Apdu.data (own.connection.step m input).frames :=
        List.mem_filterMap.2 ⟨frame, hframe, hasdu⟩
      rw [hsent] at hdata
      obtain ⟨request, hcommand⟩ := mem_accepted hdata
      exact hfaithful asdu request hcommand
    · exact hjoined.ends hends

lemma Joined.rearrange {inbound : Channel} (h : Joined honest kc ks widths role own other)
    (hcontents : inbound.contents = own.inbound.contents) :
    Joined honest kc ks widths role { own with inbound } other := by
  obtain ⟨t, t', toOwn, toOther, hbetween, hown, hother, haccepted, haccepted'⟩ := h
  refine ⟨t, t', toOwn, toOther, hbetween, ⟨hown.blameless, hown.outstanding, fun hopen => ?_⟩,
    hother, haccepted, haccepted'⟩
  obtain ⟨hrole, hwidths, htransfer, hspells⟩ := hown.live hopen
  rw [← hcontents] at hspells
  exact ⟨hrole, hwidths, htransfer, hspells⟩

lemma End.occasion_eq {now : Nat} {occasion : Occasion} {input : Connection.Input}
    {inbox : Inbox} (h : e.input? now occasion = some (input, inbox)) :
    (∀ command, input = .command command → occasion = .command command) ∧
      ∀ timer, input = .timer timer → occasion = .timer timer := by
  unfold End.input? at h
  cases occasion with
  | arrival =>
    obtain ⟨⟨arrival, inbox'⟩, -, heq⟩ := Option.map_eq_some_iff.1 h
    grind
  | _ => grind

lemma invariant_turn {occasion : Occasion} {fault : Option String}
    (h : d.Invariant honest kc ks widths)
    (hfaithful : ∀ asdu, (Action.turn role occasion fault).asdu? = some asdu →
      asdu.Faithful widths)
    (hfresh : honest → ¬d.Stale ks (.turn role occasion fault))
    (hturn : d.turn role occasion fault = some d') : d'.Invariant honest kc ks widths := by
  rw [invariant_iff role] at h ⊢
  unfold turn at hturn
  split at hturn
  · cases hturn
  · next hguard =>
    obtain ⟨⟨input, inbox⟩, hinput, rfl⟩ := Option.map_eq_some_iff.1 hturn
    have hopen : (d.side role).ending = none := by
      simpa using fun h => hguard (.inl h)
    obtain ⟨hcommand, htimer⟩ := End.occasion_eq hinput
    have hrole : (d.side role).connection.role = role := by
      obtain ⟨t, t', toOwn, toOther, -, hown, -⟩ := h
      exact (hown.live hopen).1
    simp only [side_modify, side_modify_other, side_other_modify]
    refine h.turn hopen hinput ⟨d.now, fault⟩ ?_ ?_
    · intro asdu request hsend
      obtain rfl := hcommand _ hsend
      exact hfaithful asdu rfl
    · rintro hhonest ⟨hreceipt, hcontrolling, hpending⟩
      obtain rfl := htimer _ hreceipt
      obtain rfl : role = .controlling := hrole.symm.trans hcontrolling
      rcases Nat.eq_zero_or_pos d.controlling.connection.receive.nextNumber with hzero | hpos
      · exact .inl hzero
      · exact .inr (Nat.lt_of_not_le fun hle => hfresh hhonest ⟨hpending, hpos, hle⟩)

theorem invariant_act {action : Action} (h : d.Invariant honest kc ks widths)
    (hfaithful : ∀ asdu, action.asdu? = some asdu → asdu.Faithful widths)
    (hfresh : honest → ¬d.Stale ks action) (hact : d.act action = some d') :
    d'.Invariant honest kc ks widths := by
  cases action with
  | turn role occasion fault => exact invariant_turn h hfaithful hfresh hact
  | carry role count =>
    obtain rfl := Option.some.inj hact
    rw [invariant_iff role] at h ⊢
    rw [side_modify, side_other_modify]
    exact h.rearrange (Channel.contents_carry count _)
  | hangUp role =>
    unfold act at hact
    dsimp only at hact
    split at hact
    · obtain rfl := Option.some.inj hact
      rw [invariant_iff role] at h ⊢
      rw [side_modify, side_other_modify]
      exact h.rearrange (Channel.contents_hangUp _)
    · cases hact
  | elapse duration =>
    obtain rfl := Option.some.inj hact
    exact h

lemma counted_start {role : Role} {apci : ApciParameters} {now : Nat} {c : Connection}
    (h : Connection.start role apci widths now = .ok c) :
    c.role = role ∧ c.widths = widths ∧ c.state = .connected ∧ c.handshake = none ∧
      c.transfer.send.unacked ≤ 0 ∧ ∀ honest, Counted honest apci.k c.transfer .zero := by
  obtain ⟨⟨⟩, hvalid, heq⟩ := bind_eq_ok h
  obtain rfl := by simpa using heq
  refine ⟨rfl, rfl, rfl, rfl, Nat.le_refl 0, fun _ =>
    ⟨rfl, ?_, Nat.zero_le _, rfl, rfl, fun _ => rfl⟩⟩
  unfold ApciParameters.validate at hvalid
  split at hvalid
  · cases hvalid
  · next hk =>
    omega

theorem invariant_start {controlling controlled : ApciParameters} {now : Nat}
    (h : start controlling controlled widths now = .ok d) :
    d.Invariant honest controlling.k controlled.k widths := by
  obtain ⟨c, hc, h⟩ := bind_eq_ok h
  obtain ⟨s, hs, heq⟩ := bind_eq_ok h
  obtain rfl := by simpa using heq
  obtain ⟨hrole, hwidths, hstate, hhandshake, hempty, hcounted⟩ := counted_start hc
  obtain ⟨hrole', hwidths', hstate', hhandshake', hempty', hcounted'⟩ := counted_start hs
  have hquiet {honest : Prop} {k : Nat} : Way honest k .quiet .zero [] .zero :=
    .quiet ⟨0, .nil 0 0, fun _ => Nat.le_refl 0⟩ rfl
  have hstage : HandshakeStage c.transfer.state c.transfer.awaiting s.transfer.state .quiet .quiet := by
    simp only [Connection.transfer, hstate, hstate', hhandshake]
    exact .stopped
  have hsettled : c.transfer.state ≠ .startPending := by simp [Connection.transfer, hstate]
  have hphase : Phase honest controlling.k controlled.k c.transfer s.transfer [] [] :=
    .settled hsettled hstage (hcounted _) (hcounted' _) hquiet (Nat.le_refl 0) hquiet (Nat.zero_le _)
  exact ⟨c.transfer, s.transfer, [], [], hphase,
    ⟨by simp, hempty, fun _ => ⟨hrole, hwidths, rfl, .nil⟩⟩,
    ⟨by simp, hempty', fun _ => ⟨hrole', hwidths', rfl, .nil⟩⟩, rfl, rfl⟩

theorem invariant_run {actions : List Action} (h : d.Invariant honest kc ks widths)
    (hfaithful : ∀ asdu ∈ actions.filterMap Action.asdu?, asdu.Faithful widths)
    (hfresh : honest → d.Fresh ks actions) (hrun : d.run actions = some d') :
    d'.Invariant honest kc ks widths := by
  induction actions generalizing d with
  | nil =>
    obtain rfl := Option.some.inj hrun
    exact h
  | cons action actions ih =>
    obtain ⟨d₁, hact, hrest⟩ := Option.bind_eq_some_iff.1 hrun
    have hfirst : d₁.Invariant honest kc ks widths := by
      refine invariant_act h ?_ (fun hhonest => (hfresh hhonest).1) hact
      intro asdu hasdu
      exact hfaithful asdu (List.mem_filterMap.2 ⟨action, List.mem_cons_self, hasdu⟩)
    refine ih hfirst ?_ (fun hhonest => (hfresh hhonest).2 d₁ hact) hrest
    intro asdu hmem
    obtain ⟨a, ha, hasdu⟩ := List.mem_filterMap.1 hmem
    exact hfaithful asdu (List.mem_filterMap.2 ⟨a, List.mem_cons_of_mem _ ha, hasdu⟩)

end Duplex

end Telecontrol
