import Telecontrol.Proofs.Duplex.Delivery
import Telecontrol.Proofs.Duplex.Stale

/-!
# Acknowledgments between two connected ends

An acknowledgment that arrives confirms only frames that the other end has handed out. The
controlling end can rely on this always. The controlled end can rely on it as long as no receipt is
stale: a receipt that falls due between the two ends of a numbering still has its number from the
old period, and the controlled end, which has begun the new one, takes it for its own.
-/

namespace Telecontrol.Duplex

variable {d d₀ : Duplex} {widths : FieldWidths} {honest : Prop} {kc ks : Nat} {role : Role}
  {own other : End} {frame : Apdu} {inbox : Inbox} {number acked : Nat} {send : SendWindow}

/-- Whatever waits in the inbox of an end, the frames that its acknowledgment takes from those that
are outstanding have been handed out by the other end, and so have all before them. -/
def Sound (widths : FieldWidths) (role : Role) (d : Duplex) : Prop :=
  (d.side role).ending = none → ∀ frame inbox number acked send,
    (d.side role).inbound.inbox.take (Apdu.reader widths) = some (.frame frame, inbox) →
    frame.apci.receive? = some number →
    (d.side role).connection.send.acknowledge number = some (acked, send) →
    ∃ earlier confirmed outstanding,
      (d.side role).accepted = earlier ++ confirmed ++ outstanding ∧
        confirmed.length = acked ∧ outstanding.length = send.unacked ∧
        earlier ++ confirmed <+: (d.side role.other).received

lemma Joined.pending_le (h : Joined honest kc ks widths role own other)
    (hhonest : role = .controlled → honest) (hopen : own.ending = none)
    (harrival : own.inbound.inbox.take (Apdu.reader widths) = some (.frame frame, inbox))
    (hnumber : frame.apci.receive? = some number)
    (hacked : own.connection.send.acknowledge number = some (acked, send)) :
    ∃ pending, own.accepted = other.received ++ pending ∧ pending.length ≤ send.unacked ∧
      acked + send.unacked ≤ own.accepted.length := by
  obtain ⟨t, t', toOwn, toOther, hbetween, hown, hother, haccepted, -⟩ := h
  obtain ⟨-, -, rfl, hspells⟩ := hown.live hopen
  have hcount := (SendWindow.acknowledge_eq_some hacked).2.2
  have houtstanding : own.connection.send.unacked ≤ own.accepted.length := hown.outstanding
  refine ⟨Apdu.data toOther, haccepted, ?_, by omega⟩
  obtain ⟨a, others, rfl, heq, -⟩ | ⟨hend | ⟨text, hend⟩, -⟩ :=
    hspells.take (Apdu.reader_stable widths) harrival
  · obtain rfl : frame = a := by simpa using heq
    have hheed : (own.connection.transfer.heed number).send = send := by
      simp [Transfer.heed, Connection.transfer, hacked]
    obtain ⟨function, rfl⟩ | ⟨number', rfl⟩ | ⟨number', asdu, rfl, hstate⟩ := hbetween.front
    · cases hnumber
    · obtain rfl : number' = number := by simpa [Apdu.sFrame, Apci.receive?] using hnumber
      have hafter : Transfer.Between honest kc ks role _ t' others (toOther ++ []) :=
        hbetween.move (.heed _ number')
      have hle := hafter.outstanding hhonest
      rwa [List.append_nil, hheed] at hle
    · obtain rfl : number' = number := by simpa [Apdu.iFrame, Apci.receive?] using hnumber
      obtain ⟨due, receive, haccept⟩ := ReceiveWindow.accept_next own.connection.receive
      have hafter : Transfer.Between honest kc ks role _ t' others (toOther ++ []) :=
        hbetween.move (.accept number' asdu hstate haccept)
      have hle := hafter.outstanding hhonest
      dsimp only at hle
      rwa [List.append_nil, hheed] at hle
  · cases hend
  · cases hend

lemma split_accepted {accepted received pending : List Asdu} {acked unacked : Nat}
    (haccepted : accepted = received ++ pending) (hpending : pending.length ≤ unacked)
    (hacked : acked + unacked ≤ accepted.length) :
    ∃ earlier confirmed outstanding, accepted = earlier ++ confirmed ++ outstanding ∧
      confirmed.length = acked ∧ outstanding.length = unacked ∧
      earlier ++ confirmed <+: received := by
  have hlength : accepted.length = received.length + pending.length := by
    rw [haccepted, List.length_append]
  let start := accepted.length - (acked + unacked)
  have hearlier : accepted.take start ++ (accepted.drop start).take acked =
      accepted.take (start + acked) := List.take_add.symm
  refine ⟨accepted.take start, (accepted.drop start).take acked, accepted.drop (start + acked), ?_,
    ?_, ?_, ?_⟩
  · rw [hearlier, List.take_append_drop]
  · rw [List.length_take, List.length_drop]
    omega
  · rw [List.length_drop]
    omega
  · rw [hearlier, haccepted, List.take_append_of_le_length (by omega)]
    exact List.take_prefix _ _

lemma Invariant.sound (h : d.Invariant honest kc ks widths)
    (hhonest : role = .controlled → honest) : d.Sound widths role := by
  intro hopen frame inbox number acked send harrival hnumber hacked
  obtain ⟨pending, haccepted, hpending, hcount⟩ :=
    ((invariant_iff role).1 h).pending_le hhonest hopen harrival hnumber hacked
  exact split_accepted haccepted hpending hcount

/-- Where a receipt lies in wait that counts data still under way, soundness fails. -/
lemma Lurking.unsound {c : Transfer} {inward : List Apdu}
    (h : Lurking kc ks number widths c [] inward d) (hpos : 0 < number)
    (hnumber : number ≤ (Apdu.data inward).length) : ¬d.Sound widths .controlled := by
  intro hsound
  obtain ⟨-, -, hunacked, hnext, hfew⟩ := h.phase.started h.pending
  obtain ⟨remaining, htake, -⟩ := h.spells.take_head
  have hacked := SendWindow.acknowledge_count hnext (Nat.zero_add _) hfew (Nat.zero_le number)
    (by omega)
  rw [Nat.mod_eq_of_lt (by omega)] at hacked
  obtain ⟨-, -, hleft⟩ := SendWindow.acknowledge_eq_some hacked
  obtain ⟨earlier, confirmed, outstanding, haccepted, hconfirmed, houtstanding, hprefix⟩ :=
    hsound h.opened _ _ _ _ _ htake rfl hacked
  have hall := congrArg List.length (haccepted.symm.trans h.accepted)
  have hle := hprefix.length_le
  simp only [List.length_append] at hall hle
  change _ ≤ d.controlling.received.length at hle
  omega

/-- Soundness of acknowledgments, for every interleaving of commands, arrivals and timers. The
controlling end can rely on every acknowledgment. The controlled end can as long as no receipt is
stale, and this is exactly what it takes: after the first stale receipt, as long as the controlled
end goes on, some continuation leads to an acknowledgment of data that is still under way. -/
theorem acknowledgments_sound {controlling controlled : ApciParameters} {now : Nat}
    {actions : List Action} (hstart : start controlling controlled widths now = .ok d₀)
    (hfaithful : ∀ asdu ∈ actions.filterMap Action.asdu?, asdu.Faithful widths)
    (hrun : d₀.run actions = some d) :
    d.Sound widths .controlling ∧
      (d₀.Fresh controlled.k actions →
        d.Sound widths .controlled ∧
          ∀ action d₁, d.act action = some d₁ → d.controlled.ending = none →
            (∀ asdu, action.asdu? = some asdu → asdu.Faithful widths) →
            ((∀ later d₂, (∀ asdu ∈ later.filterMap Action.asdu?, asdu.Faithful widths) →
                d₁.Fresh controlled.k later → d₁.run later = some d₂ →
                d₂.Sound widths .controlled) ↔
              ¬d.Stale controlled.k action)) := by
  have hdoubted : d.Invariant False controlling.k controlled.k widths :=
    invariant_run (invariant_start hstart) hfaithful False.elim hrun
  refine ⟨hdoubted.sound nofun, fun hfresh => ?_⟩
  have hinvariant : d.Invariant True controlling.k controlled.k widths :=
    invariant_run (invariant_start hstart) hfaithful (fun _ => hfresh) hrun
  refine ⟨hinvariant.sound fun _ => trivial, ?_⟩
  intro action d₁ hact hopen hasdu
  constructor
  · intro hsound hstale
    obtain ⟨count, d₂, c, outward, inward, hcarry, hlurking⟩ :=
      lurking_of_stale hinvariant hopen hstale hact
    obtain ⟨hpos, hle⟩ := stale_number hstale
    obtain ⟨later, d₃, inward', hplain, hlater, hlurking', henough⟩ := hlurking.reaches hle
    have hplain' : ∀ a ∈ Action.carry .controlled count :: later, a.Plain := by
      intro a hmem
      rcases List.mem_cons.1 hmem with rfl | hmem
      · exact .inl ⟨count, rfl⟩
      · exact hplain a hmem
    refine hlurking'.unsound hpos henough (hsound _ d₃ (faithful_of_plain hplain')
      (fresh_of_plain hplain') ?_)
    rw [run, hcarry]
    exact hlater
  · intro hstale later d₂ hlater hfresh' hrun'
    have hafter : d₁.Invariant True controlling.k controlled.k widths :=
      invariant_act hinvariant hasdu (fun _ => hstale) hact
    exact (invariant_run hafter hlater (fun _ => hfresh') hrun').sound fun _ => trivial

theorem acknowledgments_sound_twoPeriods :
    usual.run twoPeriods = some afterTwoPeriods ∧ usual.Fresh 12 twoPeriods ∧
      afterTwoPeriods.Sound .network .controlling ∧ afterTwoPeriods.Sound .network .controlled := by
  have hstart : start {} {} .network 0 = .ok usual := rfl
  have hfaithful : ∀ asdu ∈ twoPeriods.filterMap Action.asdu?, asdu.Faithful .network := by
    decide +kernel
  have hrun : usual.run twoPeriods = some afterTwoPeriods := by decide +kernel
  have hfresh : usual.Fresh 12 twoPeriods := by decide +kernel
  obtain ⟨hcontrolling, hcontrolled⟩ := acknowledgments_sound hstart hfaithful hrun
  exact ⟨hrun, hfresh, hcontrolling, (hcontrolled hfresh).1⟩

/-- Data that arrives while data transfer is being stopped, another start, and the receipt for the
data, which falls due before the start is confirmed. -/
def lateReceipt : List Action :=
  [tell .controlling (.startTransfer 0)] ++ hear .controlled ++ hear .controlling ++
    [tell .controlled (.send (reading 1) 1), tell .controlling (.stopTransfer 2)] ++
    hear .controlling ++ hear .controlled ++ hear .controlling ++
    [tell .controlling (.startTransfer 3), .elapse 10000,
      .turn .controlling (.timer .receipt) none] ++
    hear .controlled ++ [tell .controlled (.send (reading 2) 4)]

def afterLateReceipt : Duplex := (usual.run lateReceipt).getD usual

/-- The controlled end is about to take a frame that is under way for acknowledged. -/
theorem late_receipt_unsound : usual.run lateReceipt = some afterLateReceipt ∧
    ¬afterLateReceipt.Sound .network .controlled := by
  refine ⟨by decide +kernel, fun hsound => ?_⟩
  have hopen : afterLateReceipt.controlled.ending = none := by decide +kernel
  have harrival : afterLateReceipt.controlled.inbound.inbox.take (Apdu.reader .network) =
      some (.frame (Apdu.sFrame 1), {}) := by decide +kernel
  have hacked : afterLateReceipt.controlled.connection.send.acknowledge 1 =
      some (1, { k := 12, nextNumber := 1 }) := by decide +kernel
  obtain ⟨earlier, confirmed, outstanding, haccepted, hconfirmed, houtstanding, hprefix⟩ :=
    hsound hopen _ _ _ _ _ harrival rfl hacked
  have hall : (earlier ++ confirmed ++ outstanding).length = 2 := by
    rw [← haccepted]
    decide +kernel
  have hle : (earlier ++ confirmed).length ≤ 1 := hprefix.length_le
  have hnone : outstanding.length = 0 := houtstanding
  rw [List.length_append] at hall
  omega

end Telecontrol.Duplex
