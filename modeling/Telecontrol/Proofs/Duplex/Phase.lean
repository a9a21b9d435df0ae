import Telecontrol.Proofs.Duplex.Way

/-!
# Phases of data transfer

The two ends pass through six phases together: data transfer is stopped, its start is asked for, the
controlled end has started, both ends transfer data, its stop is asked for, the controlled end has
stopped. Every move of either end leads from a phase to a phase.
-/

namespace Telecontrol

/-- The windows of an end stand at the counts. -/
structure Counted (honest : Prop) (k : Nat) (t : Transfer) (p : Count) : Prop where
  limit : t.send.k = k
  range : k < sequenceModulus
  few : t.send.unacked ≤ k
  next : t.send.nextNumber = p.sent % sequenceModulus
  expected : t.receive.nextNumber = p.received % sequenceModulus
  outstanding : honest → p.oldest + t.send.unacked = p.sent

namespace Counted

variable {honest : Prop} {k number now count : Nat} {t t' : Transfer} {p : Count}

lemma of_windows (h : Counted honest k t p) (hsend : t'.send = t.send)
    (hreceive : t'.receive.nextNumber = t.receive.nextNumber) : Counted honest k t' p := by
  obtain ⟨hlimit, hrange, hfew, hnext, hexpected, houtstanding⟩ := h
  rw [← hsend] at hlimit hfew hnext houtstanding
  rw [← hreceive] at hexpected
  exact ⟨hlimit, hrange, hfew, hnext, hexpected, houtstanding⟩

lemma restart (h : Counted honest k t p) : Counted honest k t.restart .zero :=
  ⟨h.limit, h.range, Nat.zero_le k, rfl, rfl, fun _ => rfl⟩

lemma heed (h : Counted honest k t p) (hsettles : Settles honest k p.oldest number count)
    (hcount : honest → count ≤ p.sent) :
    Counted honest k (t.heed number) { p with oldest := count } := by
  obtain ⟨hlimit, hrange, hfew, hnext, hexpected, houtstanding⟩ := h
  unfold Transfer.heed
  cases hack : t.send.acknowledge number with
  | none =>
    refine ⟨hlimit, hrange, hfew, hnext, hexpected, fun hhonest => ?_⟩
    have hsent := houtstanding hhonest
    rcases hsettles hhonest with ⟨hfrom, rfl⟩ | ⟨hzero, rfl, -, -⟩
    · rw [SendWindow.acknowledge_count hnext hsent (by omega) hfrom (hcount hhonest)] at hack
      cases hack
    · dsimp only
      omega
  | some found =>
    obtain ⟨acked, send⟩ := found
    obtain ⟨hk, hnumber, hunacked⟩ := SendWindow.acknowledge_eq_some hack
    refine ⟨hk.trans hlimit, hrange, ?_, hnumber.trans hnext, hexpected, fun hhonest => ?_⟩
    · dsimp only
      omega
    · have hsent := houtstanding hhonest
      dsimp only
      rcases hsettles hhonest with ⟨hfrom, rfl⟩ | ⟨hzero, rfl, hbeyond, hnumber⟩
      · rw [SendWindow.acknowledge_count hnext hsent (by omega) hfrom (hcount hhonest)] at hack
        obtain ⟨rfl, -⟩ := by simpa using hack
        have hle := hcount hhonest
        omega
      -- A number of the ended numbering that counts more than was sent in the new one.
      · rw [← hsent, hzero, Nat.zero_add] at hnext
        rw [SendWindow.acknowledge_beyond hnext (by omega) hnumber] at hack
        cases hack

lemma reserve {send : SendWindow} (h : Counted honest k t p)
    (hreserve : t.send.reserve now = .ok (number, send)) :
    number = p.sent % sequenceModulus ∧
      Counted honest k { t.acknowledgeAll with send } { p with sent := p.sent + 1 } := by
  obtain ⟨hlimit, hrange, hfew, hnext, hexpected, houtstanding⟩ := h
  obtain ⟨rfl, hroom, hk, hnumber, hunacked⟩ := SendWindow.reserve_eq_ok hreserve
  refine ⟨hnext, hk.trans hlimit, hrange, ?_, ?_, hexpected, fun hhonest => ?_⟩
  · dsimp only
    omega
  · dsimp only
    rw [hnumber, hnext, Sequence.next_mod]
  · have hsent := houtstanding hhonest
    dsimp only
    omega

lemma accept {receive : ReceiveWindow} {due : Bool} (h : Counted honest k t p)
    (haccept : t.receive.accept number = .ok (due, receive)) :
    Counted honest k { t with receive } { p with received := p.received + 1 } := by
  obtain ⟨hlimit, hrange, hfew, hnext, hexpected, houtstanding⟩ := h
  obtain ⟨-, hnumber⟩ := ReceiveWindow.accept_eq_ok haccept
  refine ⟨hlimit, hrange, hfew, hnext, ?_, houtstanding⟩
  dsimp only
  rw [hnumber, hexpected, Sequence.next_mod]

end Counted

/-- The states of the controlling end, with the confirmation it awaits, and of the controlled end,
and what lies on the ways outward and inward. -/
inductive HandshakeStage : TransferState → Option UFunction → TransferState → Mark → Mark → Prop
  | stopped : HandshakeStage .connected none .connected .quiet .quiet
  | starting : HandshakeStage .startPending (some .startDtCon) .connected (.start .startDtAct) .quiet
  | started : HandshakeStage .startPending (some .startDtCon) .active .quiet (.start .startDtCon)
  | active : HandshakeStage .active none .active .busy .busy
  | stopping : HandshakeStage .stopping (some .stopDtCon) .active (.stop .stopDtAct) .busy
  | halted : HandshakeStage .stopping (some .stopDtCon) .connected .quiet (.stop .stopDtCon)

namespace HandshakeStage

variable {c s : TransferState} {awaiting : Option UFunction} {o i : Mark} {function : UFunction}

lemma of_connected (h : HandshakeStage c awaiting s o i) (hc : c = .connected) :
    awaiting = none ∧ s = .connected ∧ o = .quiet ∧ i = .quiet := by
  cases h <;> simp_all

lemma of_active (h : HandshakeStage c awaiting s o i) (hc : c = .active) :
    awaiting = none ∧ s = .active ∧ o = .busy ∧ i = .busy := by
  cases h <;> simp_all

lemma inward_of_active (h : HandshakeStage c awaiting s o i) (hs : s = .active) :
    i = .busy ∨ ∃ g, i = .start g := by
  cases h <;> simp_all

lemma outward_stop (h : HandshakeStage c awaiting s o i) (ho : o = .stop function) :
    function = .stopDtAct ∧ c = .stopping ∧ awaiting = some .stopDtCon ∧ s = .active ∧
      i = .busy := by
  cases h <;> simp_all

lemma outward_start (h : HandshakeStage c awaiting s o i) (ho : o = .start function) :
    function = .startDtAct ∧ c = .startPending ∧ awaiting = some .startDtCon ∧
      s = .connected ∧ i = .quiet := by
  cases h <;> simp_all

lemma inward_stop (h : HandshakeStage c awaiting s o i) (hi : i = .stop function) :
    function = .stopDtCon ∧ c = .stopping ∧ awaiting = some .stopDtCon ∧ s = .connected ∧
      o = .quiet := by
  cases h <;> simp_all

lemma inward_start (h : HandshakeStage c awaiting s o i) (hi : i = .start function) :
    function = .startDtCon ∧ c = .startPending ∧ awaiting = some .startDtCon ∧ s = .active ∧
      o = .quiet := by
  cases h <;> simp_all

end HandshakeStage

/-- The counts that hold for what the controlling end writes: while it waits for the confirmation
that data transfer begins, the controlled end counts anew already. -/
def Transfer.announced (c : Transfer) (p : Count) : Count :=
  if c.state = .startPending then .zero else { p with oldest := 0 }

lemma Transfer.announced_pending {c : Transfer} (h : c.state = .startPending) (p : Count) :
    c.announced p = .zero :=
  if_pos h

lemma Transfer.announced_settled {c : Transfer} (h : c.state ≠ .startPending) (p : Count) :
    c.announced p = { p with oldest := 0 } :=
  if_neg h

lemma Transfer.announced_sent_le (c : Transfer) (p : Count) : (c.announced p).sent ≤ p.sent := by
  unfold announced
  split
  · exact Nat.zero_le p.sent
  · exact Nat.le_refl p.sent

lemma Transfer.announced_received_le (c : Transfer) (p : Count) :
    (c.announced p).received ≤ p.received := by
  unfold announced
  split
  · exact Nat.zero_le p.received
  · exact Nat.le_refl p.received

/-- The controlling end `c`, the controlled end `s`, and the frames on the ways outward, from `c` to
`s`, and inward. The controlled end always acknowledges what it has received; what the controlling
end acknowledges can be doubted. -/
inductive Phase (honest : Prop) (kc ks : Nat) (c s : Transfer) (outward inward : List Apdu) : Prop
  | intro {p q : Count} {o i : Mark} :
      HandshakeStage c.state c.awaiting s.state o i → Counted True kc c p → Counted honest ks s q →
      Way honest ks o q outward (c.announced p) → (c.announced p).received ≤ q.sent →
      Way True kc i p inward q → q.received ≤ p.sent →
      Phase honest kc ks c s outward inward

namespace Phase

open Transfer

variable {honest : Prop} {kc ks : Nat} {c c' s s' : Transfer}
  {outward inward read written rest : List Apdu}

lemma settled {p q : Count} {o i : Mark} (hsettled : c.state ≠ .startPending)
    (hstage : HandshakeStage c.state c.awaiting s.state o i) (hp : Counted True kc c p)
    (hq : Counted honest ks s q) (hout : Way honest ks o q outward { p with oldest := 0 })
    (hsent : p.received ≤ q.sent) (hin : Way True kc i p inward q) (hreceived : q.received ≤ p.sent) :
    Phase honest kc ks c s outward inward := by
  have hannounced := announced_settled hsettled p
  refine .intro hstage hp hq ?_ ?_ hin hreceived
  · rw [hannounced]
    exact hout
  · rw [hannounced]
    exact hsent

lemma inward_function {st : TransferState} {awaiting : Option UFunction} {x : TransferState}
    {o i : Mark} {p q : Count} {function : UFunction} (hstage : HandshakeStage st awaiting x o i)
    (hin : Way True kc i p (.uFrame function :: rest) q) :
    ((function = .testFrAct ∨ function = .testFrCon) ∧ Way True kc i p rest q) ∨
      (function = .stopDtCon ∧ st = .stopping ∧ awaiting = some .stopDtCon ∧ x = .connected ∧
        o = .quiet ∧ Way True kc .quiet p rest q) ∨
      (function = .startDtCon ∧ st = .startPending ∧ awaiting = some .startDtCon ∧
        x = .active ∧ o = .quiet ∧ Course True kc 0 0 rest q.sent q.received) := by
  obtain htest | ⟨hmark, hrest⟩ | ⟨hmark, hrest⟩ := hin.takeFunction
  · exact .inl htest
  · obtain ⟨hfunction, hst, hawaiting, hx, ho⟩ := hstage.inward_stop hmark
    exact .inr (.inl ⟨hfunction, hst, hawaiting, hx, ho, hrest⟩)
  · obtain ⟨hfunction, hst, hawaiting, hx, ho⟩ := hstage.inward_start hmark
    exact .inr (.inr ⟨hfunction, hst, hawaiting, hx, ho, hrest⟩)

theorem controlling (h : Phase honest kc ks c s outward (read ++ rest))
    (hmove : Move .controlling c read c' written) :
    Phase honest kc ks c' s (outward ++ written) rest := by
  obtain @⟨p, q, o, i, hstage, hp, hq, hout, hsent, hin, hreceived⟩ := h
  cases hmove with
  | probe => exact ⟨hstage, hp, hq, hout.putTest (.inl rfl), hsent, hin, hreceived⟩
  | receipt hstate =>
    have hnumber : c.receive.nextNumber = (c.announced p).received % sequenceModulus := by
      rw [announced_settled (hstate rfl), hp.expected]
    rw [hnumber]
    exact ⟨hstage, hp.of_windows rfl rfl, hq, hout.putReceipt, hsent, hin, hreceived⟩
  | send asdu hactive hreserve =>
    obtain ⟨-, -, rfl, rfl⟩ := hstage.of_active hactive
    obtain ⟨rfl, hp'⟩ := hp.reserve hreserve
    have hsettled : c.state ≠ .startPending := by simp [hactive]
    rw [announced_settled hsettled] at hout hsent
    rw [hp.expected]
    exact settled hsettled hstage hp' hq (hout.putData asdu (.inl rfl)) hsent
      (hin.reader_mono (Nat.le_succ _) rfl rfl) (Nat.le_succ_of_le hreceived)
  -- The counts of the writer go on until the start is confirmed; what it announces begins anew.
  | askStart _ hconnected =>
    obtain ⟨-, hs, rfl, rfl⟩ := hstage.of_connected hconnected
    have hsettled : c.state ≠ .startPending := by simp [hconnected]
    rw [announced_settled hsettled] at hout hsent
    refine ⟨?_, hp.of_windows rfl rfl, hq, hout.putStart hsent _, Nat.zero_le _, hin, hreceived⟩
    rw [hs]
    exact .starting
  | askStop _ hactive =>
    obtain ⟨-, hs, rfl, rfl⟩ := hstage.of_active hactive
    have hsettled : c.state ≠ .startPending := by simp [hactive]
    rw [announced_settled hsettled] at hout hsent
    refine ⟨?_, hp.of_windows rfl rfl, hq, hout.putStop _, hsent, hin, hreceived⟩
    rw [hs]
    exact .stopping
  | answerTest =>
    obtain ⟨-, hrest⟩ | ⟨hwrong, -⟩ | ⟨hwrong, -⟩ := inward_function hstage hin
    · exact ⟨hstage, hp, hq, hout.putTest (.inr rfl), hsent, hrest, hreceived⟩
    · cases hwrong
    · cases hwrong
  | passOver hfunction =>
    rw [List.append_nil]
    obtain ⟨-, hrest⟩ | ⟨rfl, -, hawaiting, -⟩ | ⟨rfl, -, hawaiting, -⟩ :=
      inward_function hstage hin
    · exact ⟨hstage, hp, hq, hout, hsent, hrest, hreceived⟩
    · simp [hawaiting] at hfunction
    · simp [hawaiting] at hfunction
  | heed number =>
    obtain ⟨count, hsettles, hcount, hrest⟩ := hin.takeReceipt hreceived
    rw [List.append_nil]
    have hsame : (c.heed number).announced { p with oldest := count } = c.announced p := by
      rw [announced, heed_state]
      rfl
    rw [← hsame] at hout hsent
    rw [← heed_state number c, ← heed_awaiting number c] at hstage
    exact ⟨hstage, hp.heed hsettles hcount, hq, hout, hsent, hrest, hreceived⟩
  | accept acknowledged asdu hstate haccept =>
    obtain ⟨-, -, hmore, count, hsettles, hcount, hrest⟩ := hin.takeData hreceived
    rw [List.append_nil]
    have hsettled : c.state ≠ .startPending := by
      rcases hstate with h | h <;> simp [h]
    rw [announced_settled hsettled] at hout
    have hp' := hp.heed hsettles hcount
    rw [← heed_receive acknowledged] at haccept
    rw [← heed_state acknowledged c] at hsettled
    rw [← heed_state acknowledged c, ← heed_awaiting acknowledged c] at hstage
    exact settled hsettled hstage (hp'.accept haccept) hq (hout.writer_mono rfl (Nat.le_succ _))
      hmore hrest hreceived
  | started _ hawaiting =>
    obtain ⟨hwrong, -⟩ | ⟨hwrong, -⟩ | ⟨-, hpending, -, hs, rfl, hrest⟩ :=
      inward_function hstage hin
    · simp at hwrong
    · cases hwrong
    · rw [announced_pending hpending] at hout
      have hnone : q.received = 0 := hout.quiet_sent.symm
      rw [List.append_nil]
      refine ⟨?_, hp.restart.of_windows rfl rfl, hq, hout.busy_of_quiet, Nat.zero_le _,
        .busy hrest, Nat.le_of_eq hnone⟩
      rw [hs]
      exact .active
  | stopped _ hawaiting =>
    obtain ⟨hwrong, -⟩ | ⟨-, hstopping, -, hs, rfl, hrest⟩ | ⟨hwrong, -⟩ :=
      inward_function hstage hin
    · simp at hwrong
    · have hsettled : c.state ≠ .startPending := by simp [hstopping]
      rw [announced_settled hsettled] at hout hsent
      rw [List.append_nil]
      refine ⟨?_, hp.of_windows rfl rfl, hq, hout, hsent, hrest, hreceived⟩
      rw [hs]
      exact .stopped
    · cases hwrong
  | start hrole => cases hrole
  | startAgain hrole => cases hrole
  | stop hrole => cases hrole
  | stopAgain hrole => cases hrole

lemma outward_function {st : TransferState} {awaiting : Option UFunction} {x : TransferState}
    {o i : Mark} {p q : Count} {function : UFunction} (hstage : HandshakeStage st awaiting x o i)
    (hout : Way honest ks o q (.uFrame function :: rest) p) :
    ((function = .testFrAct ∨ function = .testFrCon) ∧ Way honest ks o q rest p) ∨
      (function = .stopDtAct ∧ st = .stopping ∧ awaiting = some .stopDtCon ∧ x = .active ∧
        i = .busy ∧ Way honest ks .quiet q rest p) ∨
      (function = .startDtAct ∧ st = .startPending ∧ awaiting = some .startDtCon ∧
        x = .connected ∧ i = .quiet ∧ Course honest ks 0 0 rest p.sent p.received) := by
  obtain htest | ⟨hmark, hrest⟩ | ⟨hmark, hrest⟩ := hout.takeFunction
  · exact .inl htest
  · obtain ⟨hfunction, hst, hawaiting, hx, hi⟩ := hstage.outward_stop hmark
    exact .inr (.inl ⟨hfunction, hst, hawaiting, hx, hi, hrest⟩)
  · obtain ⟨hfunction, hst, hawaiting, hx, hi⟩ := hstage.outward_start hmark
    exact .inr (.inr ⟨hfunction, hst, hawaiting, hx, hi, hrest⟩)

theorem controlled (h : Phase honest kc ks c s (read ++ rest) inward)
    (hmove : Move .controlled s read s' written) :
    Phase honest kc ks c s' rest (inward ++ written) := by
  obtain @⟨p, q, o, i, hstage, hp, hq, hout, hsent, hin, hreceived⟩ := h
  cases hmove with
  | probe => exact ⟨hstage, hp, hq, hout, hsent, hin.putTest (.inl rfl), hreceived⟩
  | receipt hstate =>
    rw [hq.expected]
    exact ⟨hstage, hp, hq.of_windows rfl rfl, hout, hsent, hin.putReceipt, hreceived⟩
  | send asdu hactive hreserve =>
    obtain ⟨rfl, hq'⟩ := hq.reserve hreserve
    rw [hq.expected]
    exact .intro hstage hp hq' (hout.reader_mono (Nat.le_succ _) rfl rfl)
      (Nat.le_succ_of_le hsent) (hin.putData asdu (hstage.inward_of_active hactive)) hreceived
  | answerTest =>
    obtain ⟨-, hrest⟩ | ⟨hwrong, -⟩ | ⟨hwrong, -⟩ := outward_function hstage hout
    · exact ⟨hstage, hp, hq, hrest, hsent, hin.putTest (.inr rfl), hreceived⟩
    · cases hwrong
    · cases hwrong
  | passOver hfunction =>
    rw [List.append_nil]
    obtain ⟨-, hrest⟩ | ⟨rfl, -⟩ | ⟨rfl, -⟩ := outward_function hstage hout
    · exact ⟨hstage, hp, hq, hrest, hsent, hin, hreceived⟩
    · simp at hfunction
    · simp at hfunction
  | heed number =>
    obtain ⟨count, hsettles, hcount, hrest⟩ := hout.takeReceipt hsent
    rw [List.append_nil]
    rw [← heed_state number s] at hstage
    exact ⟨hstage, hp, hq.heed hsettles hcount, hrest, hsent, hin.writer_mono rfl (Nat.le_refl _),
      hreceived⟩
  | accept acknowledged asdu hstate haccept =>
    obtain ⟨-, -, hmore, count, hsettles, hcount, hrest⟩ := hout.takeData hsent
    rw [List.append_nil]
    have hq' := hq.heed hsettles hcount
    rw [← heed_receive acknowledged] at haccept
    rw [← heed_state acknowledged s] at hstage
    exact .intro hstage hp (hq'.accept haccept) hrest hsent
      (hin.writer_mono rfl (Nat.le_succ _)) (Nat.le_trans hmore (announced_sent_le c p))
  | start _ hstate =>
    obtain ⟨hwrong, -⟩ | ⟨hwrong, -⟩ | ⟨-, hpending, hawaiting, hs, rfl, hrest⟩ :=
      outward_function hstage hout
    · simp at hwrong
    · cases hwrong
    · have hzero := announced_pending hpending p
      rw [hzero] at hrest
      have hquiet : Way honest ks .quiet .zero rest (c.announced p) := by
        rw [hzero]
        exact .quiet hrest rfl
      refine .intro ?_ hp hq.restart hquiet ?_ (hin.putStart hreceived _) (Nat.zero_le _)
      · rw [hpending, hawaiting]
        exact .started
      · rw [hzero]
        exact Nat.le_refl 0
  | startAgain _ hstate =>
    obtain ⟨hwrong, -⟩ | ⟨hwrong, -⟩ | ⟨-, -, -, hs, -⟩ := outward_function hstage hout
    · simp at hwrong
    · cases hwrong
    · simp [hstate] at hs
  | stop _ hstate =>
    obtain ⟨hwrong, -⟩ | ⟨-, hstopping, hawaiting, -, rfl, hrest⟩ | ⟨hwrong, -⟩ :=
      outward_function hstage hout
    · simp at hwrong
    · refine .intro ?_ hp (hq.of_windows rfl rfl) hrest hsent (hin.putStop _) hreceived
      rw [hstopping, hawaiting]
      exact .halted
    · cases hwrong
  | stopAgain _ hstate =>
    obtain ⟨hwrong, -⟩ | ⟨-, -, -, hs, -⟩ | ⟨hwrong, -⟩ := outward_function hstage hout
    · simp at hwrong
    · exact absurd hs hstate
    · cases hwrong
  | askStart hrole => cases hrole
  | askStop hrole => cases hrole
  | started hrole => cases hrole
  | stopped hrole => cases hrole

theorem late (h : Phase honest kc ks c s outward inward) (hpending : c.state = .startPending)
    (hharmless : honest → c.receive.nextNumber = 0 ∨ ks < c.receive.nextNumber) :
    Phase honest kc ks c.acknowledgeAll s (outward ++ [.sFrame c.receive.nextNumber]) inward := by
  obtain @⟨p, q, o, i, hstage, hp, hq, hout, hsent, hin, hreceived⟩ := h
  have hrange : c.receive.nextNumber < sequenceModulus := by
    rw [hp.expected]
    exact Nat.mod_lt _ (by decide)
  rw [announced_pending hpending] at hout
  have hput := hout.putLate hrange hharmless
  rw [← announced_pending hpending p] at hput
  exact ⟨hstage, hp.of_windows rfl rfl, hq, hput, hsent, hin, hreceived⟩

/-! ### What holds in every phase -/

lemma numbers_lt (h : Phase honest kc ks c s outward inward) :
    (c.send.nextNumber < sequenceModulus ∧ c.receive.nextNumber < sequenceModulus) ∧
      s.send.nextNumber < sequenceModulus ∧ s.receive.nextNumber < sequenceModulus := by
  obtain @⟨p, q, o, i, -, hp, hq, -, -, -, -⟩ := h
  have hlt (n : Nat) : n % sequenceModulus < sequenceModulus := Nat.mod_lt n (by decide)
  rw [hp.next, hp.expected, hq.next, hq.expected]
  exact ⟨⟨hlt _, hlt _⟩, hlt _, hlt _⟩

lemma active (h : Phase honest kc ks c s outward inward) (hactive : c.state = .active) :
    s.state = .active := by
  obtain ⟨hstage, -⟩ := h
  exact (hstage.of_active hactive).2.1

lemma inward_front {frame : Apdu} (h : Phase honest kc ks c s outward (frame :: rest)) :
    (∃ function, frame = .uFrame function) ∨ (∃ number, frame = .sFrame number) ∨
      ∃ number asdu, frame = .iFrame c.receive.nextNumber number asdu ∧
        (c.state = .active ∨ c.state = .stopping) := by
  obtain @⟨p, q, o, i, hstage, hp, hq, hout, hsent, hin, hreceived⟩ := h
  obtain h | h | ⟨number, asdu, h, hmark⟩ := hin.front
  · exact .inl h
  · exact .inr (.inl h)
  · rw [← hp.expected] at h
    refine .inr (.inr ⟨number, asdu, h, ?_⟩)
    generalize c.state = st, c.awaiting = awaiting, s.state = x at hstage
    cases hstage <;> simp_all

lemma outward_front {frame : Apdu} (h : Phase honest kc ks c s (frame :: rest) inward) :
    (∃ function, frame = .uFrame function) ∨ (∃ number, frame = .sFrame number) ∨
      ∃ number asdu, frame = .iFrame s.receive.nextNumber number asdu ∧
        (s.state = .active ∨ s.state = .stopping) := by
  obtain @⟨p, q, o, i, hstage, hp, hq, hout, hsent, hin, hreceived⟩ := h
  obtain h | h | ⟨number, asdu, h, hmark⟩ := hout.front
  · exact .inl h
  · exact .inr (.inl h)
  · rw [← hq.expected] at h
    refine .inr (.inr ⟨number, asdu, h, ?_⟩)
    generalize c.state = st, c.awaiting = awaiting, s.state = x at hstage
    cases hstage <;> simp_all

lemma outward_outstanding (h : Phase honest kc ks c s outward inward) :
    (Apdu.data outward).length ≤ c.send.unacked := by
  obtain @⟨p, q, o, i, hstage, hp, hq, hout, hsent, hin, hreceived⟩ := h
  have houtstanding := hp.outstanding trivial
  by_cases hpending : c.state = .startPending
  · rw [announced_pending hpending] at hout
    by_cases hmark : ∃ g, o = .start g
    · obtain ⟨g, rfl⟩ := hmark
      rw [hout.length_data_start]
      exact Nat.zero_le _
    · have hnone : q.received + (Apdu.data outward).length = 0 :=
        hout.length_data fun g hg => hmark ⟨g, hg⟩
      omega
  · rw [announced_settled hpending] at hout
    have hlength : q.received + (Apdu.data outward).length = p.sent :=
      hout.length_data fun g hg => hpending (hstage.outward_start hg).2.1
    have hacknowledged : p.oldest ≤ q.received :=
      hin.acknowledged_le (fun g hg => hpending (hstage.inward_start hg).2.1) trivial
    omega

lemma inward_outstanding (h : Phase honest kc ks c s outward inward) (hhonest : honest) :
    (Apdu.data inward).length ≤ s.send.unacked := by
  obtain @⟨p, q, o, i, hstage, hp, hq, hout, hsent, hin, hreceived⟩ := h
  have houtstanding := hq.outstanding hhonest
  by_cases hmark : ∃ g, i = .start g
  · obtain ⟨g, rfl⟩ := hmark
    obtain ⟨-, hpending, -, -, rfl⟩ := hstage.inward_start rfl
    have hlength := hin.length_data_start
    have hacknowledged := hout.acknowledged_le nofun hhonest
    rw [announced_pending hpending] at hacknowledged
    change q.oldest ≤ 0 at hacknowledged
    omega
  · have hlength := hin.length_data fun g hg => hmark ⟨g, hg⟩
    by_cases hmark' : ∃ g, o = .start g
    · obtain ⟨g, rfl⟩ := hmark'
      obtain ⟨-, -, -, -, rfl⟩ := hstage.outward_start rfl
      have hnone := hin.quiet_sent
      omega
    · have hacknowledged := hout.acknowledged_le (fun g hg => hmark' ⟨g, hg⟩) hhonest
      have hle := announced_received_le c p
      omega

/-- Once everything outward is read while the controlling end waits for the confirmation, the
controlled end transfers data, and all that it has sent is still under way. -/
lemma started (h : Phase True kc ks c s [] inward) (hpending : c.state = .startPending) :
    s.state = .active ∧ s.send.k = ks ∧ s.send.unacked = (Apdu.data inward).length ∧
      s.send.nextNumber = s.send.unacked % sequenceModulus ∧
      s.send.unacked < sequenceModulus := by
  obtain @⟨p, q, o, i, hstage, hp, hq, hout, hsent, hin, hreceived⟩ := h
  have hquiet : ∀ g, o ≠ .start g := by
    rintro g rfl
    generalize hall : ([] : List Apdu) = all at hout
    cases hout
    simp at hall
  rw [announced_pending hpending] at hout
  have hacknowledged : q.oldest ≤ 0 := hout.acknowledged_le hquiet trivial
  have houtstanding := hq.outstanding trivial
  obtain ⟨hactive, g, rfl⟩ : s.state = .active ∧ ∃ g, i = .start g := by
    generalize c.state = st, c.awaiting = awaiting, s.state = x at hstage hpending
    cases hstage <;> simp_all
  have hlength := hin.length_data_start
  have hall : s.send.unacked = q.sent := by omega
  refine ⟨hactive, hq.limit, by omega, ?_, Nat.lt_of_le_of_lt hq.few hq.range⟩
  rw [hall]
  exact hq.next

end Phase

end Telecontrol
