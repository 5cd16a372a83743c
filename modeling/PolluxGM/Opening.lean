import PolluxGM.KeyUpdate

/-!
# What opening a packet can do

Every way through `Open`, with the tests that lead there. Nothing is written to the
keys and counters of a phase before some key has authenticated the packet.
-/
namespace Pollux.Tls

variable {P : Prims}

def TakenAsLate (u : UpdatableAEAD) (pn : Int) : Prop :=
  u.keyPhase ≠ .zero ∧ (u.firstRcvd = invalidPacketNumber ∨ pn < u.firstRcvd)

def acceptCurrent (u : UpdatableAEAD) (rcvTime pn : Int) : UpdatableAEAD :=
  let u := { u with numRcvd := u.numRcvd + 1 }
  let u := if u.firstRcvd = invalidPacketNumber then
      { if u.keyPhase ≠ .zero then startKeyDropTimer u rcvTime else u with firstRcvd := pn }
    else u
  noteHighest u pn

/-- The outcomes of `Open` once expired keys are dropped. -/
inductive Opened (P : Prims) (u : UpdatableAEAD) (src : Bytes) (rcvTime pn : Int) (kp : KeyPhaseBit)
    (ad : Bytes) :
    Except AEADError Bytes × UpdatableAEAD → Prop where
  | keysDropped (bit : kp ≠ u.keyPhase) (late : TakenAsLate u pn) (none : u.prevRcvKM = none) :
      Opened P u src rcvTime pn kp ad (.error .keysDropped, u)
  | lateFailed (bit : kp ≠ u.keyPhase) (late : TakenAsLate u pn) {km : KeyMaterial}
    (prev : u.prevRcvKM = some km)
      {e : Err} (opens : km.aead.openWith P (seqNum pn) src ad = .error e) :
      Opened P u src rcvTime pn kp ad (decryptionFailed u)
  | late (bit : kp ≠ u.keyPhase) (late : TakenAsLate u pn) {km : KeyMaterial}
    (prev : u.prevRcvKM = some km)
      {pt : Bytes} (opens : km.aead.openWith P (seqNum pn) src ad = .ok pt) :
      Opened P u src rcvTime pn kp ad (.ok pt, u)
  | noNextKeys (bit : kp ≠ u.keyPhase) (late : ¬ TakenAsLate u pn) {e : Err}
      (next : nextRcvKeyMaterial P u = .error e) :
        Opened P u src rcvTime pn kp ad (.error (.derivation e), u)
  | updateFailed (bit : kp ≠ u.keyPhase) (late : ¬ TakenAsLate u pn) {km : KeyMaterial}
      (next : nextRcvKeyMaterial P u = .ok km) {e : Err}
        (opens : km.aead.openWith P (seqNum pn) src ad = .error e) :
      Opened P u src rcvTime pn kp ad (decryptionFailed u)
  | tooQuick (bit : kp ≠ u.keyPhase) (late : ¬ TakenAsLate u pn) {km : KeyMaterial}
      (next : nextRcvKeyMaterial P u = .ok km) {pt : Bytes}
        (opens : km.aead.openWith P (seqNum pn) src ad = .ok pt)
      (silent : u.keyPhase ≠ .zero ∧ u.firstSent = invalidPacketNumber) :
      Opened P u src rcvTime pn kp ad (.error .keysUpdatedTooQuickly, u)
  | rollFailed (bit : kp ≠ u.keyPhase) (late : ¬ TakenAsLate u pn) {km : KeyMaterial}
      (next : nextRcvKeyMaterial P u = .ok km) {pt : Bytes}
        (opens : km.aead.openWith P (seqNum pn) src ad = .ok pt)
      {e : Err} {u' : UpdatableAEAD} (roll : rollKeys P u = (.error e, u')) :
      Opened P u src rcvTime pn kp ad (.error (.derivation e), u')
  | updated (bit : kp ≠ u.keyPhase) (late : ¬ TakenAsLate u pn) {km : KeyMaterial}
      (next : nextRcvKeyMaterial P u = .ok km) {pt : Bytes}
        (opens : km.aead.openWith P (seqNum pn) src ad = .ok pt)
      (sent : u.keyPhase = .zero ∨ u.firstSent ≠ invalidPacketNumber) {u' : UpdatableAEAD}
      (roll : rollKeys P u = (.ok (), u')) :
      Opened P u src rcvTime pn kp ad
        (.ok pt, startKeyDropTimer (noteHighest { u' with firstRcvd := pn } pn) rcvTime)
  | noKeys (bit : kp = u.keyPhase) (none : u.rcvKM = none) :
    Opened P u src rcvTime pn kp ad (.error .panic, u)
  | currentFailed (bit : kp = u.keyPhase) {km : KeyMaterial} (rcv : u.rcvKM = some km) {e : Err}
      (opens : km.aead.openWith P (seqNum pn) src ad = .error e)
      (prev : ∀ old, u.prevRcvKM = some old → ∃ e,
        old.aead.openWith P (seqNum pn) src ad = .error e) :
      Opened P u src rcvTime pn kp ad (decryptionFailed u)
  | current (bit : kp = u.keyPhase) {km : KeyMaterial} (rcv : u.rcvKM = some km) {pt : Bytes}
      (opens : km.aead.openWith P (seqNum pn) src ad = .ok pt ∨
        ∃ old, u.prevRcvKM = some old ∧ old.aead.openWith P (seqNum pn) src ad = .ok pt) :
      Opened P u src rcvTime pn kp ad (.ok pt, acceptCurrent u rcvTime pn)

variable {u : UpdatableAEAD} {src ad : Bytes} {rcvTime pn : Int} {kp : KeyPhaseBit}

lemma openLate_opened (hbit : kp ≠ u.keyPhase) (hlate : TakenAsLate u pn) :
    Opened P u src rcvTime pn kp ad (openLate P u src pn ad) := by
  fun_cases openLate P u src pn ad with
  | case1 hnone => exact .keysDropped hbit hlate hnone
  | case2 km hprev e hopen => exact .lateFailed hbit hlate hprev hopen
  | case3 km hprev pt hopen => exact .late hbit hlate hprev hopen

lemma openUpdate_opened (hbit : kp ≠ u.keyPhase) (hlate : ¬ TakenAsLate u pn) :
    Opened P u src rcvTime pn kp ad (openUpdate P u src rcvTime pn ad) := by
  fun_cases openUpdate P u src rcvTime pn ad with
  | case1 e hnext => exact .noNextKeys hbit hlate hnext
  | case2 km hnext e hopen => exact .updateFailed hbit hlate hnext hopen
  | case3 km hnext pt hopen hsilent => exact .tooQuick hbit hlate hnext hopen hsilent
  | case4 km hnext pt hopen _ e u' hroll => exact .rollFailed hbit hlate hnext hopen hroll
  | case5 km hnext pt hopen hsent u' hroll =>
    apply Opened.updated hbit hlate hnext hopen _ hroll
    by_cases hzero : u.keyPhase = .zero
    · exact .inl hzero
    · exact .inr fun hnone => hsent ⟨hzero, hnone⟩

lemma openCurrent_opened (hbit : kp = u.keyPhase) :
    Opened P u src rcvTime pn kp ad (openCurrent P u src rcvTime pn ad) := by
  unfold openCurrent
  split
  · rename_i hnone
    exact .noKeys hbit hnone
  rename_i km hrcv
  dsimp only
  cases hopen : km.aead.openWith P (seqNum pn) src ad with
  | ok pt => exact .current hbit hrcv (.inl hopen)
  | error e =>
    cases hold : u.prevRcvKM.bind fun old => (old.aead.openWith P (seqNum pn) src ad).toOption with
    | none =>
      apply Opened.currentFailed hbit hrcv hopen
      intro old hprev
      rw [hprev, Option.bind_some] at hold
      exact toOption_eq_none.mp hold
    | some pt =>
      obtain ⟨old, hprev, hopened⟩ := Option.bind_eq_some_iff.mp hold
      exact .current hbit hrcv (.inr ⟨old, hprev, toOption_eq_some.mp hopened⟩)

lemma openPacket_opened (u : UpdatableAEAD) (src : Bytes) (rcvTime pn : Int) (kp : KeyPhaseBit)
    (ad : Bytes) :
    Opened P (dropExpiredKeys u rcvTime) src rcvTime pn kp ad
      (openPacket P u src rcvTime pn kp ad) := by
  fun_cases openPacket P u src rcvTime pn kp ad with
  | case1 _ hbit hlate => exact openLate_opened hbit hlate
  | case2 _ hbit hlate => exact openUpdate_opened hbit hlate
  | case3 _ hbit => exact openCurrent_opened (Decidable.not_not.mp hbit)

structure RollKeeps (u u' : UpdatableAEAD) : Prop where
  expiry : u'.prevRcvKMExpiry = u.prevRcvKMExpiry
  acked : u'.largestAcked = u.largestAcked
  highest : u'.highestRcvdPN = u.highestRcvdPN
  count : u'.invalidPacketCount = u.invalidPacketCount
  limit : u'.invalidPacketLimit = u.invalidPacketLimit
  confirmed : u'.handshakeConfirmed = u.handshakeConfirmed

lemma rollKeys_keeps (u : UpdatableAEAD) : RollKeeps u (rollKeys P u).2 := by
  fun_cases rollKeys P u <;> exact ⟨rfl, rfl, rfl, rfl, rfl, rfl⟩

variable {u' : UpdatableAEAD}

lemma rollKeys_resets (h : rollKeys P u = (.ok (), u')) :
    u'.firstSent = invalidPacketNumber ∧ u'.firstRcvd = invalidPacketNumber ∧
      u'.keyPhase = u.keyPhase.toggle := by
  unfold rollKeys at h
  dsimp only at h
  repeat' split at h
  all_goals cases h
  exact ⟨rfl, rfl, rfl⟩

structure CountGrows (u u' : UpdatableAEAD) : Prop where
  count : u.invalidPacketCount ≤ u'.invalidPacketCount
  limit : u'.invalidPacketLimit = u.invalidPacketLimit

lemma CountGrows.trans (h : CountGrows u v) (h' : CountGrows v w) : CountGrows u w :=
  ⟨Nat.le_trans h.count h'.count, h'.limit.trans h.limit⟩

def SameCount (u u' : UpdatableAEAD) : Prop :=
  u'.invalidPacketCount = u.invalidPacketCount ∧ u'.invalidPacketLimit = u.invalidPacketLimit

lemma SameCount.grows (h : SameCount u u') : CountGrows u u' := ⟨Nat.le_of_eq h.1.symm, h.2⟩

lemma dropExpiredKeys_count (u : UpdatableAEAD) (rcvTime : Int) :
    SameCount u (dropExpiredKeys u rcvTime) := by
  fun_cases dropExpiredKeys u rcvTime <;> exact ⟨rfl, rfl⟩

lemma acceptCurrent_count (u : UpdatableAEAD) (rcvTime pn : Int) :
    SameCount u (acceptCurrent u rcvTime pn) := by
  unfold acceptCurrent
  dsimp only
  repeat' split
  all_goals exact ⟨rfl, rfl⟩

lemma decryptionFailed_eq {α : Type} (u : UpdatableAEAD) :
    decryptionFailed (α := α) u =
      (.error (if u.invalidPacketLimit ≤ u.invalidPacketCount +
        1 then .aeadLimitReached else .decryptionFailed),
        { u with invalidPacketCount := u.invalidPacketCount + 1 }) := by
  unfold decryptionFailed
  dsimp only
  split <;> rfl

variable {r : Except AEADError Bytes × UpdatableAEAD}

lemma Opened.counted (h : Opened P u src rcvTime pn kp ad r) :
    r = decryptionFailed u ∨ SameCount u r.2 := by
  have hrolled := rollKeys_keeps (P := P) u
  cases h with
  | lateFailed | updateFailed | currentFailed => exact .inl rfl
  | rollFailed _ _ _ _ hroll | updated _ _ _ _ _ hroll =>
    rw [hroll] at hrolled
    exact .inr ⟨hrolled.count, hrolled.limit⟩
  | current => exact .inr (acceptCurrent_count u rcvTime pn)
  | _ => exact .inr ⟨rfl, rfl⟩

/-- A counted failure from the limit on reports the limit. -/
lemma openPacket_limit
    (hcounted : (openPacket P u src rcvTime pn kp ad).2.invalidPacketCount ≠ u.invalidPacketCount)
    (hreached : u.invalidPacketLimit ≤ (openPacket P u src rcvTime pn kp ad).2.invalidPacketCount) :
    (openPacket P u src rcvTime pn kp ad).1 = .error .aeadLimitReached := by
  obtain ⟨hcount, hlimit⟩ := dropExpiredKeys_count u rcvTime
  rcases (openPacket_opened (P := P) u src rcvTime pn kp ad).counted with hfailed | hsame
  · rw [hfailed, decryptionFailed_eq, ← hlimit] at hreached
    rw [hfailed, decryptionFailed_eq]
    exact congrArg Except.error (if_pos hreached)
  · exact absurd (hsame.1.trans hcount) hcounted

lemma step_countGrows (c : EndpointCall) (e : Endpoint) :
    CountGrows e.aead (c.step P e).2.aead := by
  cases c with
  | keyPhase interval =>
    change CountGrows e.aead (Tls.keyPhase P e.aead interval).2
    have hrolled := rollKeys_keeps (P := P) e.aead
    fun_cases Tls.keyPhase P e.aead interval with
    | case1 _ _ _ hroll | case2 _ _ hroll =>
      rw [hroll] at hrolled
      exact SameCount.grows ⟨hrolled.count, hrolled.limit⟩
    | case3 => exact ⟨Nat.le_refl _, rfl⟩
  | sealPacket src pn ad =>
    change CountGrows e.aead (Tls.sealPacket P e.aead src pn ad).2
    fun_cases Tls.sealPacket P e.aead src pn ad <;> exact ⟨Nat.le_refl _, rfl⟩
  | openPacket src rcvTime pn kp ad =>
    refine (dropExpiredKeys_count e.aead rcvTime).grows.trans ?_
    change CountGrows _ (Tls.openPacket P e.aead src rcvTime pn kp ad).2
    rcases (openPacket_opened (P := P) e.aead src rcvTime pn kp ad).counted with hfailed | hsame
    · rw [hfailed, decryptionFailed_eq]
      exact ⟨Nat.le_succ _, rfl⟩
    · exact hsame.grows
  | setLargestAcked pn =>
    change CountGrows e.aead (Tls.setLargestAcked e.aead pn).2
    fun_cases Tls.setLargestAcked e.aead pn <;> exact ⟨Nat.le_refl _, rfl⟩
  | setHandshakeConfirmed => exact ⟨Nat.le_refl _, rfl⟩

variable {e : Endpoint}

lemma run_countGrows
    (h : Run (EndpointCall.step P) allowed e log e') : CountGrows e.aead e'.aead :=
  h.stateInvariant (I := fun x => CountGrows e.aead x.aead) ⟨Nat.le_refl _, rfl⟩
    fun x c hx _ => hx.trans (step_countGrows c x)

/-- The packet opens under none of the receive keys held or to be rolled to. -/
structure Unauthenticated (P : Prims) (u : UpdatableAEAD) (src : Bytes) (pn : Int) (ad : Bytes) :
    Prop where
  prev : ∀ km, u.prevRcvKM = some km → ∃ e, km.aead.openWith P (seqNum pn) src ad = .error e
  current : ∀ km, u.rcvKM = some km → ∃ e, km.aead.openWith P (seqNum pn) src ad = .error e
  next : ∀ km, nextRcvKeyMaterial P u = .ok km → ∃ e,
    km.aead.openWith P (seqNum pn) src ad = .error e

structure Untouched (u u' : UpdatableAEAD) : Prop where
  keyPhase : u'.keyPhase = u.keyPhase
  sendKM : u'.sendKM = u.sendKM
  rcvKM : u'.rcvKM = u.rcvKM
  nextSendSecret : u'.nextSendSecret = u.nextSendSecret
  nextRcvSecret : u'.nextRcvSecret = u.nextRcvSecret
  firstSent : u'.firstSent = u.firstSent
  firstRcvd : u'.firstRcvd = u.firstRcvd
  highestRcvdPN : u'.highestRcvdPN = u.highestRcvdPN
  numSent : u'.numSent = u.numSent
  numRcvd : u'.numRcvd = u.numRcvd
  largestAcked : u'.largestAcked = u.largestAcked

def Refused (u : UpdatableAEAD) (r : Except AEADError Bytes × UpdatableAEAD) : Prop :=
  r.1 = .error .keysDropped ∧ r.2.invalidPacketCount = u.invalidPacketCount ∨
    r.1 = .error (if u.invalidPacketLimit ≤ u.invalidPacketCount +
      1 then .aeadLimitReached else .decryptionFailed) ∧
      r.2.invalidPacketCount = u.invalidPacketCount + 1

lemma Unauthenticated.afterDrop (rcvTime : Int) (h : Unauthenticated P u src pn ad) :
    Unauthenticated P (dropExpiredKeys u rcvTime) src pn ad := by
  fun_cases dropExpiredKeys u rcvTime with
  | case1 => exact ⟨by simp, h.current, h.next⟩
  | case2 => exact h

lemma dropExpiredKeys_untouched (u : UpdatableAEAD) (rcvTime : Int) :
    Untouched u (dropExpiredKeys u rcvTime) := by
  fun_cases dropExpiredKeys u rcvTime <;>
    exact ⟨rfl, rfl, rfl, rfl, rfl, rfl, rfl, rfl, rfl, rfl, rfl⟩

/-- From a state with keys, it is refused and changes at most the count. -/
lemma Opened.unauthenticated (h : Opened P u src rcvTime pn kp ad r)
    (hbad : Unauthenticated P u src pn ad) (hrcv : u.rcvKM.isSome = true)
    (hnext : ∃ km, nextRcvKeyMaterial P u = .ok km) :
    Refused u r ∧ (r.2 = u ∨ r.2 = { u with invalidPacketCount := u.invalidPacketCount + 1 }) := by
  cases h with
  | keysDropped => exact ⟨.inl ⟨rfl, rfl⟩, .inl rfl⟩
  | lateFailed | updateFailed | currentFailed =>
    rw [decryptionFailed_eq]
    exact ⟨.inr ⟨rfl, rfl⟩, .inr rfl⟩
  | late _ _ hprev hopen =>
    obtain ⟨e, he⟩ := hbad.prev _ hprev
    cases hopen.symm.trans he
  | noNextKeys _ _ hnone =>
    obtain ⟨km, hkm⟩ := hnext
    cases hkm.symm.trans hnone
  | tooQuick _ _ hkm hopen | rollFailed _ _ hkm hopen | updated _ _ hkm hopen =>
    obtain ⟨e, he⟩ := hbad.next _ hkm
    cases hopen.symm.trans he
  | noKeys _ hnone =>
    rw [hnone] at hrcv
    cases hrcv
  | current _ hkm hopen =>
    rcases hopen with hopen | ⟨old, hprev, hopen⟩
    · obtain ⟨e, he⟩ := hbad.current _ hkm
      cases hopen.symm.trans he
    · obtain ⟨e, he⟩ := hbad.prev _ hprev
      cases hopen.symm.trans he

section

variable {out inn : Direction}

lemma next_exists (hP : Lawful P) (h : AtGeneration P out inn e) :
    ∃ km, nextRcvKeyMaterial P e.aead = .ok km := by
  obtain ⟨keys, km, -, hkeys, hkm, -⟩ := Direction.materialAt_succ hP h.nextRcv
  refine ⟨km, ?_⟩
  simp only [nextRcvKeyMaterial, hkeys, ok_bind, hkm]

lemma refused_untouched (hP : Lawful P) (hat : AtGeneration P out inn e) (kp : KeyPhaseBit)
    (hbad : Unauthenticated P e.aead src pn ad) :
    Refused e.aead (openPacket P e.aead src rcvTime pn kp ad) ∧
      Untouched e.aead (openPacket P e.aead src rcvTime pn kp ad).2 := by
  have hdrop := dropExpiredKeys_same e.aead rcvTime
  have hcount := dropExpiredKeys_count e.aead rcvTime
  have huntouched := dropExpiredKeys_untouched e.aead rcvTime
  have hrcv : (dropExpiredKeys e.aead rcvTime).rcvKM.isSome = true := by
    obtain ⟨km, hkm, -⟩ := hat.rcv
    rw [hdrop.rcv, hkm]
    rfl
  have hnext : ∃ km, nextRcvKeyMaterial P (dropExpiredKeys e.aead rcvTime) = .ok km := by
    obtain ⟨km, hkm⟩ := next_exists hP hat
    refine ⟨km, ?_⟩
    rw [nextRcvKeyMaterial, hdrop.nextRcv]
    exact hkm
  obtain ⟨hrefused, hstate⟩ :=
    (openPacket_opened e.aead src rcvTime pn kp ad).unauthenticated
      (hbad.afterDrop rcvTime) hrcv hnext
  unfold Refused at hrefused
  rw [hcount.1, hcount.2] at hrefused
  refine ⟨hrefused, ?_⟩
  rcases hstate with hsame | hcounted
  · rw [hsame]
    exact huntouched
  · rw [hcounted]
    exact ⟨huntouched.keyPhase, huntouched.sendKM, huntouched.rcvKM, huntouched.nextSendSecret,
      huntouched.nextRcvSecret, huntouched.firstSent, huntouched.firstRcvd,
        huntouched.highestRcvdPN,
      huntouched.numSent, huntouched.numRcvd, huntouched.largestAcked⟩

/-- An unauthenticated packet is refused in every reachable state and moves nothing. From the
failure that reaches the limit on, every counted one reports the limit. -/
theorem unauthenticated_packet_refused (hP : Lawful P) {u : UpdatableAEAD}
    (hnew : newGMUpdatableAEAD P out.keys inn.keys out.secret inn.secret = .ok u)
    {log : List (EndpointCall × EndpointAnswer)} {e : Endpoint}
    (hrun : Run (EndpointCall.step P) (fun _ _ => True) ⟨u, 0⟩ log e) (src ad : Bytes)
    (rcvTime pn : Int) (kp : KeyPhaseBit) :
    (Unauthenticated P e.aead src pn ad →
      Refused e.aead (openPacket P e.aead src rcvTime pn kp ad) ∧
        Untouched e.aead (openPacket P e.aead src rcvTime pn kp ad).2) ∧
    ((openPacket P e.aead src rcvTime pn kp ad).2.invalidPacketCount ≠ e.aead.invalidPacketCount →
      e.aead.invalidPacketLimit ≤ (openPacket P e.aead src rcvTime pn kp ad).2.invalidPacketCount →
      (openPacket P e.aead src rcvTime pn kp ad).1 = .error .aeadLimitReached ∧
        ∀ (log' : List (EndpointCall × EndpointAnswer)) (e' : Endpoint),
        Run (EndpointCall.step P) (fun _ _ => True)
          (e.record (openPacket P e.aead src rcvTime pn kp ad).2) log' e' →
        ∀ (src' ad' : Bytes) (rcvTime' pn' : Int) (kp' : KeyPhaseBit),
          (openPacket P e'.aead src' rcvTime' pn' kp' ad').2.invalidPacketCount ≠
            e'.aead.invalidPacketCount →
          (openPacket P e'.aead src' rcvTime' pn' kp' ad').1 = .error .aeadLimitReached) := by
  refine ⟨refused_untouched hP (run_atGeneration hP hnew hrun) kp, ?_⟩
  intro hcounted hreached
  refine ⟨openPacket_limit hcounted hreached, ?_⟩
  intro log' e' hlater src' ad' rcvTime' pn' kp' hcounted'
  apply openPacket_limit hcounted'
  have hfirst := step_countGrows (P := P) (.openPacket src rcvTime pn kp ad) e
  have hgrown := run_countGrows hlater
  have hnext := step_countGrows (P := P) (.openPacket src' rcvTime' pn' kp' ad') e'
  rw [hgrown.limit.trans hfirst.limit]
  exact Nat.le_trans hreached (Nat.le_trans hgrown.count hnext.count)

end

lemma forged_unauthenticated : Unauthenticated toyPrims oursFirst.aead [1] 4 [] where
  prev km hkm := by
    have h : ∀ km ∈ oursFirst.aead.prevRcvKM,
      (km.aead.openWith toyPrims (seqNum 4) [1] []).toOption = none := by
      decide +kernel
    exact toOption_eq_none.mp (h km hkm)
  current km hkm := by
    have h : ∀ km ∈ oursFirst.aead.rcvKM,
      (km.aead.openWith toyPrims (seqNum 4) [1] []).toOption = none := by
      decide +kernel
    exact toOption_eq_none.mp (h km hkm)
  next km hkm := by
    have h : ∀ km ∈ (nextRcvKeyMaterial toyPrims oursFirst.aead).toOption,
        (km.aead.openWith toyPrims (seqNum 4) [1] []).toOption = none := by
      decide +kernel
    exact toOption_eq_none.mp (h km (toOption_eq_some.mpr hkm))

theorem unauthenticated_packet_refused_sample :
    (openPacket toyPrims oursFirst.aead [1] 1500 4 .zero []).1 = .error .decryptionFailed ∧
      Refused oursFirst.aead (openPacket toyPrims oursFirst.aead [1] 1500 4 .zero []) ∧
      Untouched oursFirst.aead (openPacket toyPrims oursFirst.aead [1] 1500 4 .zero []).2 := by
  have hrefused := (@unauthenticated_packet_refused toyPrims (sampleDirection 1) (sampleDirection 2)
    toyPrims_lawful _ (eq_okValue _ _) _ _ (exec_run (allAllowed_true firstUpdate _)) [1]
      [] 1500 4 .zero).1
    forged_unauthenticated
  exact ⟨by decide +kernel, hrefused⟩

end Pollux.Tls
