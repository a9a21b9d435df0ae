import Telecontrol.Proofs.Duplex.Flow

/-!
# One way between the two ends

While data transfer is started or stopped, one frame on the way stands between two periods: what
precedes it belongs to the old period and what follows to the new one. A way is described by the
counts of the end that reads from it and of the end that writes to it.
-/

namespace Telecontrol

/-- What lies on a way: data may be under way or not, or a frame behind which data transfer is
stopped or begins anew. -/
inductive Mark
  | busy
  | quiet
  | stop (function : UFunction)
  | start (function : UFunction)
deriving DecidableEq, Repr

/-- Frames between a writer and a reader. -/
inductive Way (honest : Prop) (k : Nat) : Mark → (reader : Count) → List Apdu →
    (writer : Count) → Prop
  | busy {q p : Count} {frames : List Apdu} :
      Course honest k q.received q.oldest frames p.sent p.received → Way honest k .busy q frames p
  | quiet {q p : Count} {frames : List Apdu} :
      Course honest k q.received q.oldest frames p.sent p.received → p.sent = q.received →
      Way honest k .quiet q frames p
  | stop {q p : Count} {function : UFunction} {before behind : List Apdu} :
      Course honest k q.received q.oldest (before ++ behind) p.sent p.received →
      Apdu.data behind = [] →
      Way honest k (.stop function) q (before ++ .uFrame function :: behind) p
  | start {q p : Count} {function : UFunction} {before behind : List Apdu} :
      Course honest k q.received q.oldest before q.received q.sent →
      Course honest k 0 0 behind p.sent p.received →
      Way honest k (.start function) q (before ++ .uFrame function :: behind) p

namespace Way

variable {honest : Prop} {k : Nat} {mark : Mark} {q q' p p' : Count} {frames : List Apdu}
  {function : UFunction} {number : Nat}

/-! ### Writing -/

lemma put {frame : Apdu} (h : Way honest k mark q frames p)
    (hput : ∀ {n a : Nat} {frames : List Apdu}, Course honest k n a frames p.sent p.received →
      Course honest k n a (frames ++ [frame]) p'.sent p'.received)
    (hdata : mark = .busy ∨ (∃ g, mark = .start g) ∨
      p'.sent = p.sent ∧ Apdu.data [frame] = []) :
    Way honest k mark q (frames ++ [frame]) p' := by
  cases h with
  | busy hcourse => exact .busy (hput hcourse)
  | quiet hcourse hquiet =>
    obtain ⟨hsent, -⟩ := by simpa using hdata
    exact .quiet (hput hcourse) (hsent.trans hquiet)
  | stop hcourse hbehind =>
    obtain ⟨-, hframe⟩ := by simpa using hdata
    rw [List.append_assoc, List.cons_append]
    refine .stop ?_ (by simp [hbehind, hframe])
    rw [← List.append_assoc]
    exact hput hcourse
  | start hbefore hbehind =>
    rw [List.append_assoc, List.cons_append]
    exact .start hbefore (hput hbehind)

lemma putTest (h : Way honest k mark q frames p)
    (hfunction : function = .testFrAct ∨ function = .testFrCon) :
    Way honest k mark q (frames ++ [.uFrame function]) p :=
  h.put (fun hcourse => hcourse.putTest hfunction) (.inr (.inr ⟨rfl, rfl⟩))

lemma putReceipt (h : Way honest k mark q frames p) :
    Way honest k mark q (frames ++ [.sFrame (p.received % sequenceModulus)]) p :=
  h.put Course.putReceipt (.inr (.inr ⟨rfl, rfl⟩))

lemma putLate (h : Way honest k mark q frames .zero) (hrange : number < sequenceModulus)
    (hharmless : honest → number = 0 ∨ k < number) :
    Way honest k mark q (frames ++ [.sFrame number]) .zero :=
  h.put (fun hcourse => hcourse.putLate hrange hharmless) (.inr (.inr ⟨rfl, rfl⟩))

lemma putData (h : Way honest k mark q frames p) (asdu : Asdu)
    (hmark : mark = .busy ∨ ∃ g, mark = .start g) :
    Way honest k mark q
      (frames ++ [.iFrame (p.sent % sequenceModulus) (p.received % sequenceModulus) asdu])
      { p with sent := p.sent + 1 } :=
  h.put (fun hcourse => hcourse.putData asdu) (hmark.imp_right .inl)

lemma putStop (h : Way honest k .busy q frames p) (function : UFunction) :
    Way honest k (.stop function) q (frames ++ [.uFrame function]) p := by
  cases h with
  | busy hcourse => exact .stop (by rwa [List.append_nil]) rfl

lemma putStart (h : Way honest k .quiet q frames p) (hbound : p.received ≤ q.sent)
    (function : UFunction) :
    Way honest k (.start function) q (frames ++ [.uFrame function]) .zero := by
  cases h with
  | quiet hcourse hquiet =>
    rw [hquiet] at hcourse
    exact .start (hcourse.mono fun _ => hbound) ⟨0, .nil 0 0, fun _ => Nat.le_refl 0⟩

lemma quiet_sent (h : Way honest k .quiet q frames p) : p.sent = q.received := by
  cases h with
  | quiet _ hquiet => exact hquiet

lemma busy_of_quiet (h : Way honest k .quiet q frames p) : Way honest k .busy q frames p := by
  cases h with
  | quiet hcourse _ => exact .busy hcourse

/-! ### Counts that grow -/

lemma writer_mono (h : Way honest k mark q frames p) (hsent : p'.sent = p.sent)
    (hreceived : p.received ≤ p'.received) : Way honest k mark q frames p' := by
  cases h with
  | busy hcourse =>
    rw [← hsent] at hcourse
    exact .busy (hcourse.mono fun _ => hreceived)
  | quiet hcourse hquiet =>
    rw [← hsent] at hcourse hquiet
    exact .quiet (hcourse.mono fun _ => hreceived) hquiet
  | stop hcourse hbehind =>
    rw [← hsent] at hcourse
    exact .stop (hcourse.mono fun _ => hreceived) hbehind
  | start hbefore hbehind =>
    rw [← hsent] at hbehind
    exact .start hbefore (hbehind.mono fun _ => hreceived)

lemma reader_mono (h : Way honest k mark q frames p) (hsent : q.sent ≤ q'.sent)
    (holdest : q'.oldest = q.oldest) (hreceived : q'.received = q.received) :
    Way honest k mark q' frames p := by
  cases h with
  | busy hcourse =>
    rw [← holdest, ← hreceived] at hcourse
    exact .busy hcourse
  | quiet hcourse hquiet =>
    rw [← holdest, ← hreceived] at hcourse
    exact .quiet hcourse (hquiet.trans hreceived.symm)
  | stop hcourse hbehind =>
    rw [← holdest, ← hreceived] at hcourse
    exact .stop hcourse hbehind
  | start hbefore hbehind =>
    rw [← holdest, ← hreceived] at hbefore
    exact .start (hbefore.mono fun _ => hsent) hbehind

/-! ### Reading -/

lemma split_front {frame g : Apdu} {before behind : List Apdu}
    (h : frame :: frames = before ++ g :: behind) :
    (before = [] ∧ frame = g ∧ frames = behind) ∨
      ∃ others, before = frame :: others ∧ frames = others ++ g :: behind := by
  cases before with
  | nil =>
    obtain ⟨hframe, hframes⟩ := List.cons.inj h
    exact .inl ⟨rfl, hframe, hframes⟩
  | cons first others =>
    obtain ⟨rfl, hframes⟩ := List.cons.inj h
    exact .inr ⟨others, rfl, hframes⟩

lemma takeFunction (h : Way honest k mark q (.uFrame function :: frames) p) :
    ((function = .testFrAct ∨ function = .testFrCon) ∧ Way honest k mark q frames p) ∨
      (mark = .stop function ∧ Way honest k .quiet q frames p) ∨
      (mark = .start function ∧ Course honest k 0 0 frames p.sent p.received) := by
  generalize hall : Apdu.uFrame function :: frames = all at h
  cases h with
  | busy hcourse =>
    subst hall
    obtain ⟨hfunction, hrest⟩ := hcourse.takeFunction
    exact .inl ⟨hfunction, .busy hrest⟩
  | quiet hcourse hquiet =>
    subst hall
    obtain ⟨hfunction, hrest⟩ := hcourse.takeFunction
    exact .inl ⟨hfunction, .quiet hrest hquiet⟩
  | stop hcourse hbehind =>
    obtain ⟨rfl, hframe, rfl⟩ | ⟨others, rfl, rfl⟩ := split_front hall
    · obtain rfl : function = _ := by simpa [Apdu.uFrame] using hframe
      have hlength := hcourse.length_data
      rw [List.nil_append, hbehind, List.length_nil, Nat.add_zero] at hlength
      exact .inr (.inl ⟨rfl, .quiet hcourse hlength.symm⟩)
    · obtain ⟨hfunction, hrest⟩ := Course.takeFunction hcourse
      exact .inl ⟨hfunction, .stop hrest hbehind⟩
  | start hbefore hbehind =>
    obtain ⟨rfl, hframe, rfl⟩ | ⟨others, rfl, rfl⟩ := split_front hall
    · obtain rfl : function = _ := by simpa [Apdu.uFrame] using hframe
      exact .inr (.inr ⟨rfl, hbehind⟩)
    · obtain ⟨hfunction, hrest⟩ := Course.takeFunction hbefore
      exact .inl ⟨hfunction, .start hrest hbehind⟩

lemma takeReceipt (h : Way honest k mark q (.sFrame number :: frames) p)
    (hbound : p.received ≤ q.sent) :
    ∃ count, Settles honest k q.oldest number count ∧ (honest → count ≤ q.sent) ∧
      Way honest k mark { q with oldest := count } frames p := by
  have hle {count : Nat} (h : honest → count ≤ p.received) (hhonest : honest) :
      count ≤ q.sent := Nat.le_trans (h hhonest) hbound
  generalize hall : Apdu.sFrame number :: frames = all at h
  cases h with
  | busy hcourse =>
    subst hall
    obtain ⟨count, hsettles, hcount, hrest⟩ := hcourse.takeReceipt
    exact ⟨count, hsettles, hle hcount, .busy hrest⟩
  | quiet hcourse hquiet =>
    subst hall
    obtain ⟨count, hsettles, hcount, hrest⟩ := hcourse.takeReceipt
    exact ⟨count, hsettles, hle hcount, .quiet hrest hquiet⟩
  | stop hcourse hbehind =>
    obtain ⟨rfl, hframe, rfl⟩ | ⟨others, rfl, rfl⟩ := split_front hall
    · simp [Apdu.uFrame, Apdu.sFrame] at hframe
    · obtain ⟨count, hsettles, hcount, hrest⟩ := Course.takeReceipt hcourse
      exact ⟨count, hsettles, hle hcount, .stop hrest hbehind⟩
  | start hbefore hbehind =>
    obtain ⟨rfl, hframe, rfl⟩ | ⟨others, rfl, rfl⟩ := split_front hall
    · simp [Apdu.uFrame, Apdu.sFrame] at hframe
    · obtain ⟨count, hsettles, hcount, hrest⟩ := Course.takeReceipt hbefore
      exact ⟨count, hsettles, hcount, .start hrest hbehind⟩

lemma takeData {send : Nat} {asdu : Asdu}
    (h : Way honest k mark q (.iFrame send number asdu :: frames) p)
    (hbound : p.received ≤ q.sent) :
    (mark = .busy ∨ ∃ g, mark = .stop g) ∧ send = q.received % sequenceModulus ∧
      q.received < p.sent ∧
      ∃ count, Settles honest k q.oldest number count ∧ (honest → count ≤ q.sent) ∧
        Way honest k mark { q with oldest := count, received := q.received + 1 } frames p := by
  have hle {count : Nat} (h : honest → count ≤ p.received) (hhonest : honest) :
      count ≤ q.sent := Nat.le_trans (h hhonest) hbound
  generalize hall : Apdu.iFrame send number asdu :: frames = all at h
  cases h with
  | busy hcourse =>
    subst hall
    obtain ⟨hsend, hmore, count, hsettles, hcount, hrest⟩ := hcourse.takeData
    exact ⟨.inl rfl, hsend, hmore, count, hsettles, hle hcount, .busy hrest⟩
  | quiet hcourse hquiet =>
    subst hall
    obtain ⟨-, hmore, -⟩ := hcourse.takeData
    omega
  | stop hcourse hbehind =>
    obtain ⟨rfl, hframe, rfl⟩ | ⟨others, rfl, rfl⟩ := split_front hall
    · simp [Apdu.uFrame, Apdu.iFrame] at hframe
    · obtain ⟨hsend, hmore, count, hsettles, hcount, hrest⟩ := Course.takeData hcourse
      exact ⟨.inr ⟨_, rfl⟩, hsend, hmore, count, hsettles, hle hcount, .stop hrest hbehind⟩
  | start hbefore hbehind =>
    obtain ⟨rfl, hframe, rfl⟩ | ⟨others, rfl, rfl⟩ := split_front hall
    · simp [Apdu.uFrame, Apdu.iFrame] at hframe
    · obtain ⟨-, hmore, -⟩ := Course.takeData hbefore
      omega

lemma front {frame : Apdu} (h : Way honest k mark q (frame :: frames) p) :
    (∃ function, frame = .uFrame function) ∨ (∃ number, frame = .sFrame number) ∨
      ∃ number asdu, frame = .iFrame (q.received % sequenceModulus) number asdu ∧
        (mark = .busy ∨ ∃ g, mark = .stop g) := by
  generalize hall : frame :: frames = all at h
  cases h with
  | busy hcourse =>
    subst hall
    obtain h | h | ⟨number, asdu, h, -⟩ := hcourse.front
    · exact .inl h
    · exact .inr (.inl h)
    · exact .inr (.inr ⟨number, asdu, h, .inl rfl⟩)
  | quiet hcourse hquiet =>
    subst hall
    obtain h | h | ⟨number, asdu, -, hmore⟩ := hcourse.front
    · exact .inl h
    · exact .inr (.inl h)
    · omega
  | stop hcourse hbehind =>
    obtain ⟨rfl, rfl, rfl⟩ | ⟨others, rfl, rfl⟩ := split_front hall
    · exact .inl ⟨_, rfl⟩
    · obtain h | h | ⟨number, asdu, h, -⟩ := Course.front hcourse
      · exact .inl h
      · exact .inr (.inl h)
      · exact .inr (.inr ⟨number, asdu, h, .inr ⟨_, rfl⟩⟩)
  | start hbefore hbehind =>
    obtain ⟨rfl, rfl, rfl⟩ | ⟨others, rfl, rfl⟩ := split_front hall
    · exact .inl ⟨_, rfl⟩
    · obtain h | h | ⟨number, asdu, -, hmore⟩ := Course.front hbefore
      · exact .inl h
      · exact .inr (.inl h)
      · omega

/-! ### What is under way -/

lemma length_data (h : Way honest k mark q frames p) (hmark : ∀ g, mark ≠ .start g) :
    q.received + (Apdu.data frames).length = p.sent := by
  cases h with
  | busy hcourse => exact hcourse.length_data
  | quiet hcourse _ => exact hcourse.length_data
  | stop hcourse _ =>
    rw [← hcourse.length_data]
    simp
  | start => exact absurd rfl (hmark _)

lemma length_data_start (h : Way honest k (.start function) q frames p) :
    (Apdu.data frames).length = p.sent := by
  cases h with
  | start hbefore hbehind =>
    have hnone := hbefore.length_data
    have hall := hbehind.length_data
    rw [Apdu.data_append, Apdu.data_uFrame, List.length_append]
    omega

lemma acknowledged_le (h : Way honest k mark q frames p) (hmark : ∀ g, mark ≠ .start g)
    (hhonest : honest) : q.oldest ≤ p.received := by
  cases h with
  | busy hcourse => exact hcourse.acknowledged_le hhonest
  | quiet hcourse _ => exact hcourse.acknowledged_le hhonest
  | stop hcourse _ => exact hcourse.acknowledged_le hhonest
  | start => exact absurd rfl (hmark _)

end Way

end Telecontrol
