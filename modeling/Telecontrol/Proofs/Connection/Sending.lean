import Telecontrol.Proofs.Apci.RoundTrip
import Telecontrol.Proofs.Connection.Numbering
import Telecontrol.Proofs.Connection.Sendable

/-!
# Data is sent as a whole or not at all

A frame takes its number before it is encoded. What is checked before that therefore has to rule out
every fault that the encoder can find: otherwise a number would be missing from the line, or an ASDU
would cost the application its connection. An ASDU that is declined leaves no trace but the answer
(`Declines`), and any other one is on the line under the number that was taken for it, unless the
line itself fails (`send_all_or_nothing`). The header may say what it likes.
-/

namespace Telecontrol

/-- The window with one more frame outstanding. -/
def SendWindow.withSent (w : SendWindow) (now : Nat) : SendWindow :=
  { w with nextNumber := Sequence.next w.nextNumber, sent := w.sent.push now }

lemma SendWindow.withSent_of_reserve {w w' : SendWindow} {now number : Nat}
    (h : w.reserve now = .ok (number, w')) : number = w.nextNumber ∧ w' = w.withSent now := by
  unfold reserve at h
  split at h
  · exact nomatch h
  · obtain ⟨rfl, rfl⟩ := by simpa using h
    exact ⟨rfl, rfl⟩

lemma Apdu.parse_of_encode {send receive : Nat} {widths : FieldWidths} {a : Asdu} {octets : Octets}
    (hnumbers : (Apci.iFrame send receive).InRange)
    (h : (Apdu.iFrame send receive a).encode widths = .ok octets) :
    Apci.parse (octets.drop 2) = .ok (.iFrame send receive) := by
  obtain ⟨-, -, rfl⟩ := encode_iFrame_eq_ok_iff.1 h
  exact Apci.parse_encode hnumbers (a.octets widths)

namespace Connection

open Telecontrol.Turn (answer)

/-- Why an ASDU is not sent. The reasons exclude each other, and the first that applies is given. -/
inductive Declines (c : Connection) (a : Asdu) : Fault → Prop
  | inactive : c.state ≠ .active → Declines c a .notActive
  | invalid {f : Fault} : c.state = .active → a.validate c.widths = .error f → Declines c a f
  | tooLong : c.state = .active → a.validate c.widths = .ok () →
      Apci.maxAsduLength < a.encodedLength c.widths →
      Declines c a (.invalidAsdu (.tooLong (a.encodedLength c.widths) Apci.maxAsduLength))
  | full : c.state = .active → a.validate c.widths = .ok () →
      a.encodedLength c.widths ≤ Apci.maxAsduLength → c.send.k ≤ c.send.unacked →
      Declines c a (.tooManyUnconfirmed c.send.k)

/-- The connection when an ASDU has been sent. -/
def withSent (now : Nat) (c : Connection) : Connection :=
  { c with
    send := c.send.withSent now, receive := c.receive.acknowledgeAll, receiptDue := none }

variable {c : Connection} {a : Asdu} {f : Fault} {m : Moment} {request now : Nat}

lemma checkSendable_eq_ok_iff :
    checkSendable a c = .ok () ↔ c.state = .active ∧ a.validate c.widths = .ok () ∧
      a.encodedLength c.widths ≤ Apci.maxAsduLength := by
  simp only [checkSendable, throw_eq_error, pure_eq_ok, error_bind, ite_error_eq_ok_iff,
    Decidable.not_not, bind_eq_ok_iff, Nat.not_lt]
  constructor
  · rintro ⟨hstate, ⟨⟩, hvalid, hshort, -⟩
    exact ⟨hstate, hvalid, hshort⟩
  · rintro ⟨hstate, hvalid, hshort⟩
    exact ⟨hstate, (), hvalid, hshort, trivial⟩

lemma declines_of_checkSendable (h : checkSendable a c = .error f) : c.Declines a f := by
  unfold checkSendable at h
  by_cases hstate : c.state = .active
  · rw [if_neg (Decidable.not_not.2 hstate)] at h
    obtain hinvalid | ⟨⟨⟩, hvalid, h⟩ := bind_eq_error h
    · exact .invalid hstate hinvalid
    · dsimp only at h
      split at h
      · next hlong =>
        obtain rfl := Except.error.inj h
        exact .tooLong hstate hvalid hlong
      · exact nomatch h
  · rw [if_pos hstate] at h
    obtain rfl := Except.error.inj h
    exact .inactive hstate

lemma declines_iff (now : Nat) :
    c.Declines a f ↔ (checkSendable a c >>= fun _ => c.send.reserve now) = .error f := by
  constructor
  · intro h
    cases h with
    | inactive hstate => simp [checkSendable, hstate]
    | invalid hstate hinvalid => simp [checkSendable, hstate, hinvalid]
    | tooLong hstate hvalid hlong => simp [checkSendable, hstate, hvalid, hlong]
    | full hstate hvalid hshort hfull =>
      rw [checkSendable_eq_ok_iff.2 ⟨hstate, hvalid, hshort⟩]
      simp [SendWindow.reserve, SendWindow.isFull, hfull]
  · intro h
    obtain hcheck | ⟨⟨⟩, hcheck, hreserve⟩ := bind_eq_error h
    · exact declines_of_checkSendable hcheck
    · obtain ⟨hstate, hvalid, hshort⟩ := checkSendable_eq_ok_iff.1 hcheck
      unfold SendWindow.reserve at hreserve
      split at hreserve
      · next hfull =>
        obtain rfl := Except.error.inj hreserve
        exact .full hstate hvalid hshort (by simpa [SendWindow.isFull] using hfull)
      · cases hreserve

/-- The number of an I-frame is taken before the frame is encoded, and no encoder finds a fault. -/
lemma sendData_cases_of_range (hsend : c.send.nextNumber < sequenceModulus)
    (hreceive : c.receive.nextNumber < sequenceModulus) (m : Moment) (a : Asdu) (request : Nat) :
    (∃ f, c.Declines a f ∧ sendData m a request c = answer request (.refused f) c) ∨
      (∀ f, ¬c.Declines a f) ∧ ∃ octets,
        (Apdu.iFrame c.send.nextNumber c.receive.nextNumber a).encode c.widths = .ok octets ∧
        Apci.parse (octets.drop 2) = .ok (.iFrame c.send.nextNumber c.receive.nextNumber) ∧
        sendData m a request c = match m.writeFault with
          | none => ⟨c.withSent m.now,
              [.wrote (.iFrame c.send.nextNumber c.receive.nextNumber a) octets,
                .answered request .done], none⟩
          | some text => ⟨c.withSent m.now,
              [.answered request (.refused (.connection (.writeFailed (Fault.io text).message)))],
              some (.io text)⟩ := by
  cases hready : checkSendable a c >>= fun _ => c.send.reserve m.now with
  | error f =>
    refine .inl ⟨f, (declines_iff m.now).2 hready, ?_⟩
    rw [sendData, hready]
  | ok ready =>
    obtain ⟨number, send⟩ := ready
    obtain ⟨⟨⟩, hcheck, hreserve⟩ := bind_eq_ok hready
    obtain ⟨rfl, rfl⟩ := SendWindow.withSent_of_reserve hreserve
    obtain ⟨octets, hoctets⟩ :=
      (encode_of_checkSendable hcheck).2 c.send.nextNumber c.receive.nextNumber
    have hnumbers : (Apci.iFrame c.send.nextNumber c.receive.nextNumber).InRange :=
      ⟨hsend, hreceive⟩
    refine .inr ⟨fun f hdeclines => ?_, octets, hoctets, Apdu.parse_of_encode hnumbers hoctets, ?_⟩
    · exact nomatch hready.symm.trans ((declines_iff m.now).1 hdeclines)
    · have hencoded : (Apdu.iFrame c.send.nextNumber c.receive.acknowledgeAll.nextNumber a).encode
          c.widths = .ok octets := hoctets
      rw [sendData, hready]
      dsimp only
      rw [hencoded]
      cases hfault : m.writeFault with
      | none =>
        simp only [Moment.transmit, hfault, ok_bind, pure_eq_ok]
        rfl
      | some text =>
        simp only [Moment.transmit, hfault, ok_bind, throw_eq_error]
        rfl

namespace Life

variable {l l' : Life} {action : Action} {actions : List Action} {role : Role} {k begun : Nat}
  {apci : ApciParameters} {widths : FieldWidths}

/-- A line that fails ends the connection. As long as it is open, its numbers are in order, over
whatever line. -/
lemma numbered_of_open (hstart : Connection.start role apci widths begun = .ok c)
    (hrun : (begin begun c).run actions = some l) (hopen : l.ending = none) :
    l.Numbered apci.k := by
  refine run_keeps (P := fun l => l.ending = none → l.Numbered apci.k)
    (fun _ => numbered_begin hstart) ?_ hrun hopen
  intro action _ l₁ l₂ hl hadvances hopen
  cases hadvances with
  | asked command hopen => exact (hl hopen).silent _ (List.forall_mem_singleton.2 ⟨trivial, rfl⟩)
  | askedLate command hended => exact absurd hopen hended
  | goesOn hopen hinput hproceeds => exact (hl hopen).goOn hopen hproceeds
  | finishes => exact nomatch hopen
  | elapses duration =>
    exact ⟨(hl hopen).history, (hl hopen).handed, (hl hopen).agrees, (hl hopen).refused⟩

/-- What becomes of an ASDU that is handed over to an open connection, whatever has happened before
and whatever its header says. If it is declined, the request is answered, and nothing else happens.
Otherwise the frame for the next number can be encoded, its octets show that number and the
acknowledgment of all that was received, and the windows count on. It is written, and nothing else
is, unless the line fails, which is all that can end the connection. The numbers taken before are
those of the frames written in this period, and there have been no others. -/
theorem send_all_or_nothing (hstart : Connection.start role apci widths begun = .ok c)
    (hrun : (begin begun c).run actions = some l) (hopen : l.ending = none) (a : Asdu)
    (request : Nat) (fault : Option String) :
    let c := l.connection
    let t := c.step ⟨l.now, fault⟩ (.command (.send a request))
    let tally := l.history.tally
    tally.numbers = (List.range tally.numbers.length).map (· % sequenceModulus) ∧
      c.send.nextNumber = tally.numbers.length % sequenceModulus ∧
      c.receive.nextNumber = tally.accepted.length % sequenceModulus ∧
      ((∃ f, c.Declines a f ∧ t = answer request (.refused f) c) ∨
        (∀ f, ¬c.Declines a f) ∧ ∃ octets,
          (Apdu.iFrame c.send.nextNumber c.receive.nextNumber a).encode c.widths = .ok octets ∧
          Apci.parse (octets.drop 2) = .ok (.iFrame c.send.nextNumber c.receive.nextNumber) ∧
          t = match fault with
            | none => ⟨c.withSent l.now,
                [.wrote (.iFrame c.send.nextNumber c.receive.nextNumber a) octets,
                  .answered request .done], none⟩
            | some text => ⟨c.withSent l.now,
                [.answered request (.refused (.connection (.writeFailed (Fault.io text).message)))],
                some (.io text)⟩) := by
  have hl := numbered_of_open hstart hrun hopen
  have hagrees := hl.agrees hopen
  have hcounted := hl.history.counted (List.append_nil _).symm
  have hsend : l.connection.send.nextNumber < sequenceModulus := by
    rw [hagrees.number]
    exact Nat.mod_lt _ (by decide)
  have hreceive : l.connection.receive.nextNumber < sequenceModulus := by
    rw [hagrees.expected]
    exact Nat.mod_lt _ (by decide)
  exact ⟨hcounted.numbers, hagrees.number, hagrees.expected,
    sendData_cases_of_range hsend hreceive ⟨l.now, fault⟩ a request⟩

/-- Data has been exchanged in both directions. One more frame may be outstanding. -/
def halfFull : List Action :=
  [hear (.uFrame .startDtAct), hear (.iFrame 0 0 points)] ++ tell (.send points 0)

theorem send_all_or_nothing_halfFull :
    ∃ c l octets, Connection.start .controlled { k := 2 } .network 0 = .ok c ∧
      (begin 0 c).run halfFull = some l ∧ l.ending = none ∧
      Apci.parse (List.drop 2 octets) = .ok (.iFrame 1 1) ∧
      l.connection.step ⟨l.now, none⟩ (.command (.send points 1)) =
        ⟨l.connection.withSent l.now, [.wrote (.iFrame 1 1 points) octets, .answered 1 .done],
          none⟩ := by
  obtain ⟨c, hstart⟩ : ∃ c, Connection.start .controlled { k := 2 } .network 0 = .ok c :=
    ⟨_, rfl⟩
  obtain ⟨l, hrun⟩ : ∃ l, (begin 0 c).run halfFull = some l := by
    obtain ⟨-, rfl⟩ := start_eq_ok hstart
    exact ⟨_, rfl⟩
  have hseen : l.ending = none ∧ l.connection.send.nextNumber = 1 ∧
      l.connection.receive.nextNumber = 1 ∧ checkSendable points l.connection = .ok () ∧
      l.connection.send.isFull = false := by
    obtain ⟨-, rfl⟩ := start_eq_ok hstart
    obtain rfl := Option.some.inj hrun
    decide +kernel
  obtain ⟨hopen, hsend, hreceive, hcheck, hroom⟩ := hseen
  obtain ⟨-, -, -, ⟨f, hdeclines, -⟩ | ⟨-, octets, -, hparse, hstep⟩⟩ :=
    send_all_or_nothing hstart hrun hopen points 1 none
  · have herror := (declines_iff 0).1 hdeclines
    simp [hcheck, SendWindow.reserve, hroom] at herror
  · rw [hsend, hreceive] at hparse hstep
    exact ⟨c, l, octets, hstart, hrun, hopen, hparse, hstep⟩

end Life

end Connection

end Telecontrol
