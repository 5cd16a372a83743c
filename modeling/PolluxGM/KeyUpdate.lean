import PolluxGM.Updatable
import PolluxGM.Run

/-!
# Key generations of the 1-RTT AEAD

One direction has a sequence of keys, one more set per update of its traffic secret. An endpoint is
on one generation of both its directions, of which the phase bit shows the parity.
-/
namespace Pollux.Tls

structure Direction where
  keys : Option QUICPacketKeys
  secret : Bytes

section

variable (P : Prims)

def Direction.secretAt (d : Direction) : Nat → Except Err Bytes
  | 0 => .ok d.secret
  | n + 1 => do
    let secret ← d.secretAt n
    quicKeyUpdate P secret

def Direction.materialAt (d : Direction) : Nat → Except Err KeyMaterial
  | 0 => newGMKeyMaterial P d.keys
  | n + 1 => do
    let secret ← d.secretAt P (n + 1)
    let keys ← deriveQUICPacketKeys P secret
    newGMKeyMaterial P (some keys)

def phaseOf (n : Nat) : KeyPhaseBit := if n % 2 = 0 then .zero else .one

end

lemma phaseOf_toggle (n : Nat) : (phaseOf n).toggle = phaseOf (n + 1) := by
  unfold phaseOf
  rcases Nat.mod_two_eq_zero_or_one n with h | h
  · rw [if_pos h, if_neg (by omega)]
    rfl
  · rw [if_neg (by omega), if_pos (by omega)]
    rfl

lemma phaseOf_succ_ne (n : Nat) : phaseOf n ≠ phaseOf (n + 1) := by
  rw [← phaseOf_toggle]
  cases phaseOf n <;> decide

variable {n : Nat}

lemma phaseOf_ne_zero : phaseOf n ≠ .zero ↔ n % 2 = 1 := by
  unfold phaseOf
  split <;> simp <;> omega

structure Endpoint where
  aead : UpdatableAEAD
  generation : Nat
  deriving DecidableEq

inductive EndpointCall where
  | keyPhase (interval : Nat)
  | sealPacket (src : Bytes) (pn : Int) (ad : Bytes)
  | openPacket (src : Bytes) (rcvTime pn : Int) (kp : KeyPhaseBit) (ad : Bytes)
  | setLargestAcked (pn : Int)
  | setHandshakeConfirmed

inductive EndpointAnswer where
  | phase (r : Except AEADError KeyPhaseBit)
  | bytes (r : Except AEADError Bytes)
  | done (r : Except AEADError Unit)

section

variable (P : Prims)

/-- The endpoint after a call; the phase bit moves exactly with an update. -/
def Endpoint.record (e : Endpoint) (aead : UpdatableAEAD) : Endpoint :=
  ⟨aead, if aead.keyPhase = e.aead.keyPhase then e.generation else e.generation + 1⟩

def EndpointCall.step (c : EndpointCall) (e : Endpoint) : EndpointAnswer × Endpoint :=
  match c with
  | .keyPhase interval =>
    let r := Tls.keyPhase P e.aead interval
    (.phase r.1, e.record r.2)
  | .sealPacket src pn ad =>
    let r := Tls.sealPacket P e.aead src pn ad
    (.bytes r.1, e.record r.2)
  | .openPacket src rcvTime pn kp ad =>
    let r := Tls.openPacket P e.aead src rcvTime pn kp ad
    (.bytes r.1, e.record r.2)
  | .setLargestAcked pn =>
    let r := Tls.setLargestAcked e.aead pn
    (.done r.1, e.record r.2)
  | .setHandshakeConfirmed =>
    (.done (.ok ()), e.record (Tls.setHandshakeConfirmed e.aead))

/-- All keys belong to one generation of the two directions, and previous receive keys to the one
before. -/
structure AtGeneration (out inn : Direction) (e : Endpoint) : Prop where
  send : ∃ km, e.aead.sendKM = some km ∧ out.materialAt P e.generation = .ok km
  rcv : ∃ km, e.aead.rcvKM = some km ∧ inn.materialAt P e.generation = .ok km
  nextSend : out.secretAt P (e.generation + 1) = .ok e.aead.nextSendSecret
  nextRcv : inn.secretAt P (e.generation + 1) = .ok e.aead.nextRcvSecret
  phase : e.aead.keyPhase = phaseOf e.generation
  prev : ∀ km, e.aead.prevRcvKM = some km → ∃ n, e.generation = n + 1 ∧ inn.materialAt P n = .ok km

end

variable {P : Prims} {out inn : Direction}

lemma newGMUpdatableAEAD_at {u : UpdatableAEAD}
    (h : newGMUpdatableAEAD P out.keys inn.keys out.secret inn.secret = .ok u) :
    AtGeneration P out inn ⟨u, 0⟩ := by
  simp only [newGMUpdatableAEAD, bind_ok, pure_inj] at h
  obtain ⟨sendKM, hsend, rcvKM, hrcv, nextSend, hnextSend, nextRcv, hnextRcv, rfl⟩ := h
  exact ⟨⟨sendKM, rfl, hsend⟩, ⟨rcvKM, rfl, hrcv⟩, hnextSend, hnextRcv, rfl, nofun⟩

variable {secret : Bytes}

lemma quicKeyUpdate_ok {next : Bytes} (h : quicKeyUpdate P secret = .ok next) :
    next ≠ [] ∧ next.length ≤ maxHKDFExpandLen := by
  simp only [quicKeyUpdate, hkdfExpandLabel, bind_ok, reject_ok, pure_inj] at h
  obtain ⟨_, hne, out, ⟨_, hrange, _, hmax, _⟩, _, hlen, rfl⟩ := h
  rw [Decidable.not_not] at hlen
  refine ⟨?_, by omega⟩
  intro hnil
  rw [hnil, List.length_nil] at hlen
  omega

lemma newGMKeyMaterial_total (hP : Lawful P) {keys : QUICPacketKeys}
    (hkey : keys.aeadKey.length = 16) (hiv : keys.aeadIV.length = 12)
    (hhp : keys.headerKey.length = 16) :
    newGMKeyMaterial P (some keys) = .ok ⟨⟨keys.aeadKey, keys.aeadIV⟩, keys.headerKey⟩ := by
  simp [newGMKeyMaterial, newAEAD, wrapErr, hiv, hP.newGCM_ok _ hkey, hP.newCipher_ok _ hhp]

lemma Direction.materialAt_succ (hP : Lawful P) {d : Direction}
    (h : d.secretAt P (n + 1) = .ok secret) :
    ∃ keys km next, deriveQUICPacketKeys P secret = .ok keys ∧
      newGMKeyMaterial P (some keys) = .ok km ∧
      quicKeyUpdate P secret = .ok next ∧ d.materialAt P (n + 1) = .ok km ∧
      d.secretAt P (n + 2) = .ok next := by
  have hupdate : ∃ s, d.secretAt P n = .ok s ∧ quicKeyUpdate P s = .ok secret := by
    simpa only [Direction.secretAt, bind_ok] using h
  obtain ⟨_, _, hs⟩ := hupdate
  obtain ⟨hne, hmax⟩ := quicKeyUpdate_ok hs
  obtain ⟨keys, hkeys, hkey, hiv, hhp⟩ := deriveQUICPacketKeys_total hP hne
  obtain ⟨next, hnext, _⟩ := quicKeyUpdate_total hP hne hmax
  have hkm := newGMKeyMaterial_total hP hkey hiv hhp
  refine ⟨keys, _, next, hkeys, hkm, hnext, ?_, ?_⟩
  · rw [Direction.materialAt, h, ok_bind, hkeys, ok_bind, hkm]
  · rw [Direction.secretAt, h, ok_bind, hnext]

variable (u : UpdatableAEAD)

structure Rolled (P : Prims) (u u' : UpdatableAEAD) (out inn : Direction) (n : Nat) : Prop where
  send : ∃ km, u'.sendKM = some km ∧ out.materialAt P (n + 1) = .ok km
  rcv : ∃ km, u'.rcvKM = some km ∧ inn.materialAt P (n + 1) = .ok km
  nextSend : out.secretAt P (n + 2) = .ok u'.nextSendSecret
  nextRcv : inn.secretAt P (n + 2) = .ok u'.nextRcvSecret
  phase : u'.keyPhase = u.keyPhase.toggle
  prev : u'.prevRcvKM = u.rcvKM

lemma rollKeys_rolled (hP : Lawful P) {u : UpdatableAEAD}
    (hsend : out.secretAt P (n + 1) = .ok u.nextSendSecret)
    (hrcv : inn.secretAt P (n + 1) = .ok u.nextRcvSecret) :
    ∃ u', rollKeys P u = (.ok (), u') ∧ Rolled P u u' out inn n := by
  obtain ⟨sendKeys, sendKM, nextSend, hsendKeys, hsendKM, hnextSend, hsendAt, hsendNext⟩ :=
    Direction.materialAt_succ hP hsend
  obtain ⟨rcvKeys, rcvKM, nextRcv, hrcvKeys, hrcvKM, hnextRcv, hrcvAt, hrcvNext⟩ :=
    Direction.materialAt_succ hP hrcv
  have hroll : rollKeys P u = (.ok (), { u with
      prevRcvKM := u.rcvKM, sendKM := some sendKM, rcvKM := some rcvKM
      nextSendSecret := nextSend, nextRcvSecret := nextRcv, keyPhase := u.keyPhase.toggle
      firstSent := invalidPacketNumber, firstRcvd := invalidPacketNumber, numSent := 0, numRcvd :=
        0 }) := by
    simp only [rollKeys, hsendKeys, hrcvKeys, hsendKM, hrcvKM, hnextSend, hnextRcv]
  exact ⟨_, hroll, ⟨sendKM, rfl, hsendAt⟩, ⟨rcvKM, rfl, hrcvAt⟩, hsendNext, hrcvNext, rfl, rfl⟩

/-- No key has moved, except that the previous receive keys may be gone. -/
structure SameKeys (u' : UpdatableAEAD) : Prop where
  send : u'.sendKM = u.sendKM
  rcv : u'.rcvKM = u.rcvKM
  nextSend : u'.nextSendSecret = u.nextSendSecret
  nextRcv : u'.nextRcvSecret = u.nextRcvSecret
  phase : u'.keyPhase = u.keyPhase
  prev : u'.prevRcvKM = u.prevRcvKM ∨ u'.prevRcvKM = none

lemma SameKeys.refl : SameKeys u u := ⟨rfl, rfl, rfl, rfl, rfl, .inl rfl⟩

lemma SameKeys.trans {u v w : UpdatableAEAD} (h : SameKeys u v) (h' : SameKeys v w) :
    SameKeys u w := by
  refine ⟨h'.send.trans h.send, h'.rcv.trans h.rcv, h'.nextSend.trans h.nextSend,
    h'.nextRcv.trans h.nextRcv, h'.phase.trans h.phase, ?_⟩
  rcases h'.prev with hprev | hnone
  · rw [hprev]
    exact h.prev
  · exact .inr hnone

lemma dropExpiredKeys_same (rcvTime : Int) : SameKeys u (dropExpiredKeys u rcvTime) := by
  fun_cases dropExpiredKeys u rcvTime with
  | case1 => exact ⟨rfl, rfl, rfl, rfl, rfl, .inr rfl⟩
  | case2 => exact .refl u

lemma decryptionFailed_same {α : Type} : SameKeys u (decryptionFailed (α := α) u).2 := by
  fun_cases decryptionFailed (α := α) u <;> exact ⟨rfl, rfl, rfl, rfl, rfl, .inl rfl⟩

lemma openLate_same (src : Bytes) (pn : Int) (ad : Bytes) :
    SameKeys u (openLate P u src pn ad).2 := by
  fun_cases openLate P u src pn ad with
  | case2 => exact decryptionFailed_same u
  | _ => exact .refl u

lemma openCurrent_same (src : Bytes) (rcvTime pn : Int) (ad : Bytes) :
    SameKeys u (openCurrent P u src rcvTime pn ad).2 := by
  unfold openCurrent
  split
  · exact .refl u
  dsimp only
  split
  · exact decryptionFailed_same u
  dsimp only
  repeat' split
  all_goals exact ⟨rfl, rfl, rfl, rfl, rfl, .inl rfl⟩

/-- Only a packet that opens under the next receive keys moves the keys. -/
lemma openUpdate_cases (src : Bytes) (rcvTime pn : Int) (ad : Bytes) :
    (∃ e u', openUpdate P u src rcvTime pn ad = (.error e, u') ∧ SameKeys u u') ∨
      (∃ e u', rollKeys P u = (.error e, u')) ∨
      ∃ pt u', rollKeys P u = (.ok (), u') ∧ openUpdate P u src rcvTime pn ad =
        (.ok pt, startKeyDropTimer (noteHighest { u' with firstRcvd := pn } pn) rcvTime) := by
  fun_cases openUpdate P u src rcvTime pn ad with
  | case1 | case3 => exact .inl ⟨_, u, rfl, .refl u⟩
  | case2 =>
    fun_cases decryptionFailed (α := Bytes) u <;>
      exact .inl ⟨_, _, rfl, rfl, rfl, rfl, rfl, rfl, .inl rfl⟩
  | case4 _ _ _ _ _ _ _ hroll => exact .inr (.inl ⟨_, _, hroll⟩)
  | case5 _ _ _ _ _ _ hroll => exact .inr (.inr ⟨_, _, hroll, rfl⟩)

namespace AtGeneration

variable {e : Endpoint} {u : UpdatableAEAD} (h : AtGeneration P out inn e)
include h

lemma same (hu : SameKeys e.aead u) : AtGeneration P out inn (e.record u) := by
  unfold Endpoint.record
  rw [if_pos hu.phase]
  refine ⟨?_, ?_, ?_, ?_, hu.phase.trans h.phase, ?_⟩
  · rw [hu.send]
    exact h.send
  · rw [hu.rcv]
    exact h.rcv
  · rw [hu.nextSend]
    exact h.nextSend
  · rw [hu.nextRcv]
    exact h.nextRcv
  · intro km hkm
    rcases hu.prev with hprev | hnone
    · exact h.prev km (hprev ▸ hkm)
    · rw [hnone] at hkm
      cases hkm

lemma rolled (hu : Rolled P e.aead u out inn e.generation) :
    AtGeneration P out inn (e.record u) := by
  have hphase : u.keyPhase = phaseOf (e.generation + 1) := by
    rw [hu.phase, h.phase, phaseOf_toggle]
  unfold Endpoint.record
  rw [if_neg (by rw [hphase, h.phase]; exact (phaseOf_succ_ne _).symm)]
  refine ⟨hu.send, hu.rcv, hu.nextSend, hu.nextRcv, hphase, ?_⟩
  intro km hkm
  obtain ⟨km', hrcv, hat⟩ := h.rcv
  rw [hu.prev, hrcv, Option.some.injEq] at hkm
  exact ⟨e.generation, rfl, hkm ▸ hat⟩

lemma openPacket (hP : Lawful P) (src : Bytes) (rcvTime pn : Int) (kp : KeyPhaseBit) (ad : Bytes) :
    AtGeneration P out inn (e.record (Tls.openPacket P e.aead src rcvTime pn kp ad).2) := by
  have hdrop := dropExpiredKeys_same e.aead rcvTime
  fun_cases Tls.openPacket P e.aead src rcvTime pn kp ad with
  | case1 => exact h.same (hdrop.trans (openLate_same _ src pn ad))
  | case2 =>
    obtain ⟨u', hroll, hu'⟩ := rollKeys_rolled (u := dropExpiredKeys e.aead rcvTime) hP
      (hdrop.nextSend ▸ h.nextSend) (hdrop.nextRcv ▸ h.nextRcv)
    rcases openUpdate_cases (P := P) (dropExpiredKeys e.aead rcvTime) src rcvTime pn ad with
      ⟨_, u₁, heq, hsame⟩ | ⟨_, _, herror⟩ | ⟨pt, u₁, hok, heq⟩
    · rw [heq]
      exact h.same (hdrop.trans hsame)
    · cases hroll.symm.trans herror
    · cases hroll.symm.trans hok
      rw [heq]
      apply h.rolled
      refine ⟨hu'.send, hu'.rcv, hu'.nextSend, hu'.nextRcv, ?_, ?_⟩
      · exact hu'.phase.trans (congrArg _ hdrop.phase)
      · exact hu'.prev.trans hdrop.rcv
  | case3 => exact h.same (hdrop.trans (openCurrent_same _ src rcvTime pn ad))

lemma keyPhase (hP : Lawful P) (interval : Nat) :
    AtGeneration P out inn (e.record (Tls.keyPhase P e.aead interval).2) := by
  unfold Tls.keyPhase
  split
  · obtain ⟨u', hroll, hu'⟩ := rollKeys_rolled hP h.nextSend h.nextRcv
    rw [hroll]
    exact h.rolled hu'
  · exact h.same (.refl _)

lemma step (hP : Lawful P) (c : EndpointCall) : AtGeneration P out inn (c.step P e).2 := by
  cases c with
  | keyPhase interval => exact h.keyPhase hP interval
  | sealPacket src pn ad =>
    apply h.same
    fun_cases Tls.sealPacket P e.aead src pn ad <;> exact ⟨rfl, rfl, rfl, rfl, rfl, .inl rfl⟩
  | openPacket src rcvTime pn kp ad => exact h.openPacket hP src rcvTime pn kp ad
  | setLargestAcked pn =>
    apply h.same
    fun_cases Tls.setLargestAcked e.aead pn <;> exact ⟨rfl, rfl, rfl, rfl, rfl, .inl rfl⟩
  | setHandshakeConfirmed => exact h.same ⟨rfl, rfl, rfl, rfl, rfl, .inl rfl⟩

end AtGeneration

lemma run_atGeneration (hP : Lawful P) {u : UpdatableAEAD}
    (hnew : newGMUpdatableAEAD P out.keys inn.keys out.secret inn.secret = .ok u)
    {allowed : EndpointCall → Endpoint → Prop} {log : List (EndpointCall × EndpointAnswer)}
    {e : Endpoint} (hrun : Run (EndpointCall.step P) allowed ⟨u, 0⟩ log e) :
    AtGeneration P out inn e :=
  hrun.stateInvariant (newGMUpdatableAEAD_at hnew) fun _ c h _ => h.step hP c

structure PhaseUnchanged (u' : UpdatableAEAD) : Prop where
  keyPhase : u'.keyPhase = u.keyPhase
  sendKM : u'.sendKM = u.sendKM
  rcvKM : u'.rcvKM = u.rcvKM
  prevRcvKM : u'.prevRcvKM = u.prevRcvKM
  nextSendSecret : u'.nextSendSecret = u.nextSendSecret
  nextRcvSecret : u'.nextRcvSecret = u.nextRcvSecret
  numSent : u'.numSent = u.numSent
  numRcvd : u'.numRcvd = u.numRcvd
  firstSent : u'.firstSent = u.firstSent
  firstRcvd : u'.firstRcvd = u.firstRcvd

/-- A packet of the other phase bit is read with the previous keys: an odd generation, no current
packet with a lower number, and previous keys still held. -/
structure ReadsLate (e : Endpoint) (rcvTime pn : Int) : Prop where
  odd : e.generation % 2 = 1
  first : e.aead.firstRcvd = invalidPacketNumber ∨ pn < e.aead.firstRcvd
  held : e.aead.prevRcvKM.isSome = true
  inTime : e.aead.prevRcvKMExpiry = 0 ∨ rcvTime ≤ e.aead.prevRcvKMExpiry

variable {rcvTime : Int}

lemma dropExpiredKeys_kept {u : UpdatableAEAD}
    (h : u.prevRcvKMExpiry = 0 ∨ rcvTime ≤ u.prevRcvKMExpiry) :
    dropExpiredKeys u rcvTime = u := by
  unfold dropExpiredKeys
  rw [if_neg]
  rintro ⟨_, hset, hpast⟩
  omega

lemma dropExpiredKeys_held {u : UpdatableAEAD}
    (h : (dropExpiredKeys u rcvTime).prevRcvKM.isSome = true) :
    u.prevRcvKM.isSome = true ∧ (u.prevRcvKMExpiry = 0 ∨ rcvTime ≤ u.prevRcvKMExpiry) := by
  revert h
  fun_cases dropExpiredKeys u rcvTime with
  | case1 => nofun
  | case2 hkeep =>
    intro h
    refine ⟨h, ?_⟩
    by_contra hlate
    exact hkeep ⟨h, by omega, by omega⟩

lemma dropExpiredKeys_firstRcvd (rcvTime : Int) :
    (dropExpiredKeys u rcvTime).firstRcvd = u.firstRcvd := by
  fun_cases dropExpiredKeys u rcvTime <;> rfl

variable {src pt ad : Bytes} {pn : Int}

lemma openLate_ok {u : UpdatableAEAD} (h : (openLate P u src pn ad).1 = .ok pt) :
    u.prevRcvKM.isSome = true := by
  unfold openLate at h
  cases hprev : u.prevRcvKM with
  | none => simp [hprev] at h
  | some km => rfl

lemma openUpdate_moves (hP : Lawful P) {u : UpdatableAEAD}
    (hsend : out.secretAt P (n + 1) = .ok u.nextSendSecret)
    (hrcv : inn.secretAt P (n + 1) = .ok u.nextRcvSecret) (hphase : u.keyPhase = phaseOf n)
    (h : (openUpdate P u src rcvTime pn ad).1 = .ok pt) :
    (openUpdate P u src rcvTime pn ad).2.keyPhase ≠ u.keyPhase := by
  obtain ⟨u', hroll, hu'⟩ := rollKeys_rolled hP hsend hrcv
  rcases openUpdate_cases (P := P) u src rcvTime pn ad with
    ⟨_, _, heq, _⟩ | ⟨_, _, herror⟩ | ⟨_, u₁, hok, heq⟩
  · rw [heq] at h
    cases h
  · cases hroll.symm.trans herror
  · cases hroll.symm.trans hok
    rw [heq]
    change u'.keyPhase ≠ u.keyPhase
    rw [hu'.phase, hphase, phaseOf_toggle]
    exact (phaseOf_succ_ne n).symm

/-- A packet the peer sealed one generation back is opened without a trace by a reachable endpoint
exactly when it reads late packets at that moment. -/
theorem late_packet_opens_iff (hP : Lawful P) {u v : UpdatableAEAD}
    (hnew : newGMUpdatableAEAD P out.keys inn.keys out.secret inn.secret = .ok u)
    (hpeer : newGMUpdatableAEAD P inn.keys out.keys inn.secret out.secret = .ok v)
    {log log' : List (EndpointCall × EndpointAnswer)} {e peer : Endpoint}
    (hrun : Run (EndpointCall.step P) (fun _ _ => True) ⟨u, 0⟩ log e)
    (hrunPeer : Run (EndpointCall.step P) (fun _ _ => True) ⟨v, 0⟩ log' peer)
    (hbehind : e.generation = peer.generation + 1) {src ct ad : Bytes} {pn : Int}
    {v' : UpdatableAEAD} (hseal : sealPacket P peer.aead src pn ad = (.ok ct, v')) (rcvTime : Int) :
    ((openPacket P e.aead ct rcvTime pn peer.aead.keyPhase ad).1 = .ok src ∧
        PhaseUnchanged e.aead (openPacket P e.aead ct rcvTime pn peer.aead.keyPhase ad).2) ↔
      ReadsLate e rcvTime pn := by
  have he := run_atGeneration hP hnew hrun
  have hpeerAt := run_atGeneration hP hpeer hrunPeer
  have hdrop := dropExpiredKeys_same e.aead rcvTime
  have hbit : peer.aead.keyPhase ≠ (dropExpiredKeys e.aead rcvTime).keyPhase := by
    rw [hdrop.phase, he.phase, hpeerAt.phase, hbehind]
    exact phaseOf_succ_ne _
  unfold openPacket
  dsimp only
  rw [if_pos hbit, hdrop.phase, dropExpiredKeys_firstRcvd]
  constructor
  · rintro ⟨hok, hsame⟩
    split at hok
    · rename_i hlate
      obtain ⟨hheld, htime⟩ := dropExpiredKeys_held (openLate_ok hok)
      exact ⟨phaseOf_ne_zero.mp (he.phase ▸ hlate.1), hlate.2, hheld, htime⟩
    · rename_i hlate
      rw [if_neg hlate] at hsame
      refine absurd (hsame.keyPhase.trans hdrop.phase.symm) ?_
      exact openUpdate_moves hP (hdrop.nextSend ▸ he.nextSend) (hdrop.nextRcv ▸ he.nextRcv)
        (hdrop.phase.trans he.phase) hok
  · rintro ⟨hodd, hfirst, hheld, htime⟩
    obtain ⟨km, hkm⟩ := Option.isSome_iff_exists.mp hheld
    obtain ⟨n, hn, hat⟩ := he.prev km hkm
    obtain ⟨km', hsend, hat'⟩ := hpeerAt.send
    obtain rfl : n = peer.generation := by omega
    obtain rfl : km' = km := by simpa [hat'] using hat
    have hct : ct = km'.aead.seal P (seqNum pn) src ad := by
      simp only [sealPacket, hsend, Prod.mk.injEq, Except.ok.injEq] at hseal
      exact hseal.1.symm
    rw [if_pos ⟨by rw [he.phase]; exact phaseOf_ne_zero.mpr hodd, hfirst⟩,
      dropExpiredKeys_kept htime, hct]
    simp only [openLate, hkm, AEAD.openWith, AEAD.seal, hP.open_seal]
    exact ⟨trivial, ⟨rfl, rfl, rfl, rfl, rfl, rfl, rfl, rfl, rfl, rfl⟩⟩

def sampleDirection (octet : UInt8) : Direction :=
  let secret := List.replicate 32 octet
  ⟨(deriveQUICPacketKeys toyPrims secret).toOption, secret⟩

def sampleEndpoint (sendOctet rcvOctet : UInt8)
    (h : (newGMUpdatableAEAD toyPrims (sampleDirection sendOctet).keys
      (sampleDirection rcvOctet).keys
        (sampleDirection sendOctet).secret (sampleDirection rcvOctet).secret).toOption.isSome =
          true)
    : Endpoint :=
  ⟨okValue _ h, 0⟩

def sampleOurs : Endpoint := sampleEndpoint 1 2 (by decide +kernel)
def samplePeer : Endpoint := sampleEndpoint 2 1 (by decide +kernel)

def packetOf (e : Endpoint) (src : Bytes) (pn : Int) : Bytes :=
  (sealPacket toyPrims e.aead src pn []).1.toOption.getD []

def firstUpdate : List EndpointCall := [.setHandshakeConfirmed, .sealPacket [] 0 [], .keyPhase 1]

def oursFirst : Endpoint := (exec (EndpointCall.step toyPrims) firstUpdate sampleOurs).2

def peerFollows : List EndpointCall := [.openPacket (packetOf oursFirst [7] 1) 1000 1 .one []]

def peerFirst : Endpoint := (exec (EndpointCall.step toyPrims) peerFollows samplePeer).2

def secondUpdate : List EndpointCall := firstUpdate ++
  [.sealPacket [7] 1 [], .openPacket (packetOf peerFirst [9] 5) 2000 5 .one [], .setLargestAcked 1,
    .keyPhase 1]

def oursSecond : Endpoint := (exec (EndpointCall.step toyPrims) secondUpdate sampleOurs).2

lemma oursFirst_readsLate : ReadsLate oursFirst 1500 4 :=
  ⟨by decide +kernel, .inl (by decide +kernel), by decide +kernel, .inl (by decide +kernel)⟩

/-- After the first update a packet of the first generation is read. -/
theorem late_packet_opens_iff_sample :
    oursFirst.generation = 1 ∧
    (openPacket toyPrims oursFirst.aead (packetOf samplePeer [9] 4) 1500 4 samplePeer.aead.keyPhase
      []).1 = .ok [9] ∧
    PhaseUnchanged oursFirst.aead (openPacket toyPrims oursFirst.aead
      (packetOf samplePeer [9] 4) 1500 4 samplePeer.aead.keyPhase []).2 :=
  ⟨by decide +kernel,
    (@late_packet_opens_iff toyPrims (sampleDirection 1) (sampleDirection 2) toyPrims_lawful _ _
      (eq_okValue _ _) (eq_okValue _ _) _ _ _ _ (exec_run (allAllowed_true firstUpdate _)) .start
      (by decide +kernel) _ _ _ _ _ rfl 1500).mpr oursFirst_readsLate⟩

/-- After our second update a packet sealed one generation back is lost: it is tried as an update
only. -/
theorem late_packet_lost_in_second_generation :
    Run (EndpointCall.step toyPrims) (fun _ _ => True) sampleOurs
      (exec (EndpointCall.step toyPrims) secondUpdate sampleOurs).1 oursSecond ∧
    Run (EndpointCall.step toyPrims) (fun _ _ => True) samplePeer
      (exec (EndpointCall.step toyPrims) peerFollows samplePeer).1 peerFirst ∧
    oursSecond.generation = 2 ∧ peerFirst.generation = 1 ∧
      (sealPacket toyPrims peerFirst.aead [9] 6 []).1 = .ok (packetOf peerFirst [9] 6) ∧
      (openPacket toyPrims oursSecond.aead (packetOf peerFirst [9] 6) 3000 6 peerFirst.aead.keyPhase
        []).1 = .error .decryptionFailed :=
  ⟨exec_run (allAllowed_true secondUpdate _), exec_run (allAllowed_true peerFollows _),
    by decide +kernel⟩

end Pollux.Tls
