import PolluxGM.Opening

/-!
# When keys are updated and when they are dropped

A history beside the endpoint keeps which packets were sealed and acknowledged in a generation, and
when its first packet came in. The AEAD sees the generation only through its phase bit.
-/
namespace Pollux.Tls

variable {P : Prims} {out inn : Direction}

inductive Initiator where
  | us
  | peer
  deriving DecidableEq

/-- An update out of `generation`: the packets `sealed` in it, and all `acked` ones. -/
structure Update where
  initiator : Initiator
  generation : Nat
  confirmed : Bool
  sealed : List Int
  acked : List Int
  deriving DecidableEq

/-- RFC 9001, section 6.1. -/
def Update.Paced (u : Update) : Prop :=
  match u.initiator with
  | .us => u.confirmed = true ∧ (u.generation = 0 ∨ ∃ pn ∈ u.sealed, pn ∈ u.acked)
  | .peer => u.generation = 0 ∨ u.sealed ≠ []

instance (u : Update) : Decidable u.Paced :=
  match u with
  | ⟨.us, generation, confirmed, sealed, acked⟩ =>
    inferInstanceAs (Decidable (confirmed = true ∧ (generation = 0 ∨ ∃ pn ∈ sealed, pn ∈ acked)))
  | ⟨.peer, generation, _, sealed, _⟩ => inferInstanceAs (Decidable (generation = 0 ∨ sealed ≠ []))

structure Sending where
  confirmed : Bool := false
  sent : List Int := []
  sealed : List Int := []
  acked : List Int := []
  updates : List Update := []
  deriving DecidableEq

def Sending.update (h : Sending) (initiator : Initiator) (before after : Endpoint) : Sending :=
  if after.generation = before.generation then h
  else { h with
    sealed := []
    updates := ⟨initiator, before.generation, h.confirmed, h.sealed, h.acked⟩ :: h.updates }

def Sending.note (c : EndpointCall) (e : Endpoint) (r : EndpointAnswer × Endpoint) (h : Sending) :
    Sending :=
  match c with
  | .keyPhase _ => h.update .us e r.2
  | .sealPacket _ pn _ => { h with sent := pn :: h.sent, sealed := pn :: h.sealed }
  | .openPacket _ _ _ _ _ => h.update .peer e r.2
  | .setLargestAcked pn => { h with acked := pn :: h.acked }
  | .setHandshakeConfirmed => { h with confirmed := true }

/-- Packet numbers increase, and only sent packets are acknowledged. -/
def Numbered (h : Sending) : EndpointCall → Prop
  | .sealPacket _ pn _ => ∀ m ∈ h.sent, m < pn
  | .setLargestAcked pn => pn ∈ h.sent
  | _ => True

instance (h : Sending) : ∀ c, Decidable (Numbered h c)
  | .sealPacket _ pn _ => inferInstanceAs (Decidable (∀ m ∈ h.sent, m < pn))
  | .setLargestAcked pn => inferInstanceAs (Decidable (pn ∈ h.sent))
  | .keyPhase _ | .openPacket _ _ _ _ _ | .setHandshakeConfirmed => isTrue trivial

variable (u : UpdatableAEAD)

def Acknowledged : Prop :=
  u.firstSent ≠ invalidPacketNumber ∧ u.largestAcked ≠ invalidPacketNumber ∧
    u.firstSent ≤ u.largestAcked

def OpensUnder (P : Prims) (keys : Option KeyMaterial) (src : Bytes) (pn : Int) (ad : Bytes) :
    Prop :=
  ∃ km ∈ keys, (km.aead.openWith P (seqNum pn) src ad).toOption.isSome

def OpensUnderNext (P : Prims) (u : UpdatableAEAD) (src : Bytes) (pn : Int) (ad : Bytes) : Prop :=
  OpensUnder P (nextRcvKeyMaterial P u).toOption src pn ad

/-- The phase bit tells the generation from the first, the call is no update, or the rule is met
anyway. -/
def Guarded (P : Prims) (e : Endpoint) : EndpointCall → Prop
  | .keyPhase interval => e.generation = 0 ∨ e.generation % 2 = 1 ∨
      shouldInitiateKeyUpdate e.aead interval = false ∨ Acknowledged e.aead
  | .openPacket src _ pn kp ad => e.generation = 0 ∨ e.generation % 2 = 1 ∨
      kp = e.aead.keyPhase ∨ ¬ OpensUnderNext P e.aead src pn ad ∨
        e.aead.firstSent ≠ invalidPacketNumber
  | _ => True

instance (u : UpdatableAEAD) : Decidable (Acknowledged u) :=
  inferInstanceAs (Decidable (u.firstSent ≠ invalidPacketNumber ∧
    u.largestAcked ≠ invalidPacketNumber ∧ u.firstSent ≤ u.largestAcked))

instance (P : Prims) (keys : Option KeyMaterial) (src : Bytes) (pn : Int) (ad : Bytes) :
    Decidable (OpensUnder P keys src pn ad) :=
  inferInstanceAs (Decidable (∃ km ∈ keys, (km.aead.openWith P (seqNum pn) src ad).toOption.isSome))

instance (P : Prims) (u : UpdatableAEAD) (src : Bytes) (pn : Int) (ad : Bytes) :
    Decidable (OpensUnderNext P u src pn ad) :=
  inferInstanceAs (Decidable (OpensUnder P (nextRcvKeyMaterial P u).toOption src pn ad))

lemma opensUnder_some {km : KeyMaterial} {src ad pt : Bytes} {pn : Int}
    (h : km.aead.openWith P (seqNum pn) src ad = .ok pt) : OpensUnder P (some km) src pn ad := by
  refine ⟨km, rfl, ?_⟩
  rw [h]
  rfl

instance (P : Prims) (e : Endpoint) : ∀ c, Decidable (Guarded P e c)
  | .keyPhase interval => inferInstanceAs (Decidable (e.generation = 0 ∨ e.generation % 2 = 1 ∨
      shouldInitiateKeyUpdate e.aead interval = false ∨ Acknowledged e.aead))
  | .openPacket src _ pn kp ad =>
    inferInstanceAs (Decidable (e.generation = 0 ∨ e.generation % 2 = 1 ∨
      kp = e.aead.keyPhase ∨ ¬ OpensUnderNext P e.aead src pn ad ∨
        e.aead.firstSent ≠ invalidPacketNumber))
  | .sealPacket _ _ _ | .setLargestAcked _ | .setHandshakeConfirmed => isTrue trivial

structure Sends (e : Endpoint) (h : Sending) : Prop where
  confirmed : e.aead.handshakeConfirmed = h.confirmed
  first : e.aead.firstSent ≠ invalidPacketNumber → e.aead.firstSent ∈ h.sealed ∧
    ∀ pn ∈ h.sent, pn ∈ h.sealed ∨ pn < e.aead.firstSent
  acked : e.aead.largestAcked ≠ invalidPacketNumber → e.aead.largestAcked ∈ h.acked ∧
    e.aead.largestAcked ∈ h.sent
  paced : ∀ u ∈ h.updates, u.Paced

structure SendingKept (u' : UpdatableAEAD) : Prop where
  phase : u'.keyPhase = u.keyPhase
  first : u'.firstSent = u.firstSent
  acked : u'.largestAcked = u.largestAcked
  confirmed : u'.handshakeConfirmed = u.handshakeConfirmed

structure SendingRolled (u' : UpdatableAEAD) : Prop where
  phase : u'.keyPhase = u.keyPhase.toggle
  first : u'.firstSent = invalidPacketNumber
  acked : u'.largestAcked = u.largestAcked
  confirmed : u'.handshakeConfirmed = u.handshakeConfirmed

lemma rollKeys_sending {u u' : UpdatableAEAD} (h : rollKeys P u = (.ok (), u')) :
    SendingRolled u u' := by
  have hkeeps := rollKeys_keeps (P := P) u
  obtain ⟨hfirst, -, hphase⟩ := rollKeys_resets h
  rw [h] at hkeeps
  exact ⟨hphase, hfirst, hkeeps.acked, hkeeps.confirmed⟩

lemma dropExpiredKeys_sending (rcvTime : Int) : SendingKept u (dropExpiredKeys u rcvTime) := by
  fun_cases dropExpiredKeys u rcvTime <;> exact ⟨rfl, rfl, rfl, rfl⟩

lemma acceptCurrent_sending (rcvTime pn : Int) : SendingKept u (acceptCurrent u rcvTime pn) := by
  unfold acceptCurrent
  dsimp only
  repeat' split
  all_goals exact ⟨rfl, rfl, rfl, rfl⟩

lemma rollKeys_ok (hP : Lawful P) {e : Endpoint} (hat : AtGeneration P out inn e)
    {u : UpdatableAEAD} (hsame : SameKeys e.aead u) : ∃ u', rollKeys P u = (.ok (), u') := by
  obtain ⟨u', hroll, -⟩ :=
    rollKeys_rolled (u := u) hP (hsame.nextSend ▸ hat.nextSend) (hsame.nextRcv ▸ hat.nextRcv)
  exact ⟨u', hroll⟩

lemma dropExpiredKeys_next {u : UpdatableAEAD} {src ad : Bytes} {rcvTime pn : Int}
    {km : KeyMaterial} {pt : Bytes}
    (hkm : nextRcvKeyMaterial P (dropExpiredKeys u rcvTime) = .ok km)
    (hopen : km.aead.openWith P (seqNum pn) src ad = .ok pt) : OpensUnderNext P u src pn ad := by
  have hnext : nextRcvKeyMaterial P u = .ok km := by
    rw [nextRcvKeyMaterial, (dropExpiredKeys_same u rcvTime).nextRcv] at hkm
    exact hkm
  rw [OpensUnderNext, toOption_eq_some.mpr hnext]
  exact opensUnder_some hopen

/-- Opening rolls the keys only for a packet of the other phase and the next generation. -/
lemma openPacket_sending (hP : Lawful P) {e : Endpoint} (hat : AtGeneration P out inn e)
    (src : Bytes) (rcvTime pn : Int) (kp : KeyPhaseBit) (ad : Bytes) :
    SendingKept e.aead (openPacket P e.aead src rcvTime pn kp ad).2 ∨
      SendingRolled e.aead (openPacket P e.aead src rcvTime pn kp ad).2 ∧ kp ≠ e.aead.keyPhase ∧
        OpensUnderNext P e.aead src pn ad ∧
          (e.aead.keyPhase = .zero ∨ e.aead.firstSent ≠ invalidPacketNumber) := by
  have hdrop := dropExpiredKeys_sending e.aead rcvTime
  obtain ⟨u', hroll⟩ := rollKeys_ok hP hat (dropExpiredKeys_same e.aead rcvTime)
  have hopened := openPacket_opened (P := P) e.aead src rcvTime pn kp ad
  generalize openPacket P e.aead src rcvTime pn kp ad = r at hopened ⊢
  cases hopened with
  | lateFailed | updateFailed | currentFailed =>
    rw [decryptionFailed_eq]
    exact .inl ⟨hdrop.phase, hdrop.first, hdrop.acked, hdrop.confirmed⟩
  | rollFailed _ _ _ _ herror => cases hroll.symm.trans herror
  | updated hbit _ hkm hopen hsent hok =>
    right
    have hrolled := rollKeys_sending hok
    rw [hdrop.phase] at hbit hsent
    rw [hdrop.first] at hsent
    exact ⟨⟨hrolled.phase.trans (congrArg _ hdrop.phase), hrolled.first,
      hrolled.acked.trans hdrop.acked,
      hrolled.confirmed.trans hdrop.confirmed⟩, hbit, dropExpiredKeys_next hkm hopen, hsent⟩
  | current =>
    left
    have haccept := acceptCurrent_sending (dropExpiredKeys e.aead rcvTime) rcvTime pn
    exact ⟨haccept.phase.trans hdrop.phase, haccept.first.trans hdrop.first,
      haccept.acked.trans hdrop.acked, haccept.confirmed.trans hdrop.confirmed⟩
  | _ => exact .inl hdrop

lemma keyPhase_sending (hP : Lawful P) {e : Endpoint} (hat : AtGeneration P out inn e)
    (interval : Nat) :
    (Tls.keyPhase P e.aead interval).2 = e.aead ∨
      SendingRolled e.aead (Tls.keyPhase P e.aead interval).2 ∧
        shouldInitiateKeyUpdate e.aead interval = true := by
  obtain ⟨u', hroll⟩ := rollKeys_ok hP hat (.refl e.aead)
  unfold Tls.keyPhase
  split
  · rename_i hdue
    rw [hroll]
    exact .inr ⟨rollKeys_sending hroll, hdue⟩
  · exact .inl rfl

lemma record_same {e : Endpoint} {u : UpdatableAEAD} (h : u.keyPhase = e.aead.keyPhase) :
    (e.record u).generation = e.generation := by
  unfold Endpoint.record
  rw [if_pos h]

lemma record_rolled {e : Endpoint} (hat : AtGeneration P out inn e) {u : UpdatableAEAD}
    (h : u.keyPhase = e.aead.keyPhase.toggle) : (e.record u).generation = e.generation + 1 := by
  unfold Endpoint.record
  rw [h, hat.phase, phaseOf_toggle, if_neg (phaseOf_succ_ne _).symm]

lemma Sending.update_same {h : Sending} {i : Initiator} {e : Endpoint} {u : UpdatableAEAD}
    (hphase : u.keyPhase = e.aead.keyPhase) : h.update i e (e.record u) = h := by
  unfold Sending.update
  rw [if_pos (record_same hphase)]

lemma Sending.update_rolled {h : Sending} {i : Initiator} {e : Endpoint}
    (hat : AtGeneration P out inn e) {u : UpdatableAEAD}
    (hphase : u.keyPhase = e.aead.keyPhase.toggle) :
    h.update i e (e.record u) = { h with
      sealed := [], updates :=
  ⟨i, e.generation, h.confirmed, h.sealed, h.acked⟩ :: h.updates } := by
  unfold Sending.update
  rw [record_rolled hat hphase, if_neg (by omega)]

namespace Sends

variable {e : Endpoint} {h : Sending} (hs : Sends e h) {u : UpdatableAEAD}
include hs

lemma kept (hu : SendingKept e.aead u) : Sends (e.record u) h where
  confirmed := hu.confirmed.trans hs.confirmed
  first := by
    change u.firstSent ≠ _ → u.firstSent ∈ _ ∧ ∀ pn ∈ _, pn ∈ _ ∨ pn < u.firstSent
    rw [hu.first]
    exact hs.first
  acked := by
    change u.largestAcked ≠ _ → u.largestAcked ∈ _ ∧ u.largestAcked ∈ _
    rw [hu.acked]
    exact hs.acked
  paced := hs.paced

lemma rolled (hu : SendingRolled e.aead u) {up : Update} (hup : up.Paced) :
    Sends (e.record u) { h with sealed := [], updates := up :: h.updates } where
  confirmed := hu.confirmed.trans hs.confirmed
  first hne := absurd hu.first hne
  acked := by
    change u.largestAcked ≠ _ → u.largestAcked ∈ _ ∧ u.largestAcked ∈ _
    rw [hu.acked]
    exact hs.acked
  paced up' hup' := by
    rcases List.mem_cons.mp hup' with rfl | hold
    · exact hup
    · exact hs.paced up' hold

lemma acknowledged (hack : Acknowledged e.aead) : ∃ pn ∈ h.sealed, pn ∈ h.acked := by
  obtain ⟨hfirst, hacked, hle⟩ := hack
  obtain ⟨hmem, hsent⟩ := hs.acked hacked
  refine ⟨e.aead.largestAcked, ?_, hmem⟩
  rcases (hs.first hfirst).2 _ hsent with hsealed | hlt
  · exact hsealed
  · omega

lemma keyPhase (hP : Lawful P) (hat : AtGeneration P out inn e) (interval : Nat)
    (hguard : Guarded P e (.keyPhase interval)) :
    Sends (e.record (Tls.keyPhase P e.aead interval).2)
      (h.update .us e (e.record (Tls.keyPhase P e.aead interval).2)) := by
  rcases keyPhase_sending hP hat interval with hsame | ⟨hrolled, hdue⟩
  · rw [hsame, Sending.update_same rfl]
    exact hs.kept ⟨rfl, rfl, rfl, rfl⟩
  rw [Sending.update_rolled hat hrolled.phase]
  apply hs.rolled hrolled
  have hallowed : updateAllowed e.aead = true := (Bool.and_eq_true_iff.mp hdue).1
  simp only [updateAllowed, Bool.and_eq_true, Bool.or_eq_true, beq_iff_eq, bne_iff_ne,
    decide_eq_true_eq, and_assoc] at hallowed
  refine ⟨hs.confirmed ▸ hallowed.1, ?_⟩
  rcases hguard with hzero | hodd | hidle | hack
  · exact .inl hzero
  · -- in an odd generation the phase bit is not zero, so the acknowledgement was tested
    rcases hallowed.2 with hbit | hack
    · exact absurd hbit (by rw [hat.phase]; exact phaseOf_ne_zero.mpr hodd)
    · exact .inr (hs.acknowledged hack)
  · rw [hdue] at hidle
    cases hidle
  · exact .inr (hs.acknowledged hack)

lemma openPacket (hP : Lawful P) (hat : AtGeneration P out inn e) (src : Bytes) (rcvTime pn : Int)
    (kp : KeyPhaseBit) (ad : Bytes) (hguard : Guarded P e (.openPacket src rcvTime pn kp ad)) :
    Sends (e.record (Tls.openPacket P e.aead src rcvTime pn kp ad).2)
      (h.update .peer e (e.record (Tls.openPacket P e.aead src rcvTime pn kp ad).2)) := by
  rcases openPacket_sending hP hat src rcvTime pn kp ad with
    hkept | ⟨hrolled, hbit, hopens, hsent⟩
  · rw [Sending.update_same hkept.phase]
    exact hs.kept hkept
  rw [Sending.update_rolled hat hrolled.phase]
  apply hs.rolled hrolled
  have hsealed (hfirst : e.aead.firstSent ≠ invalidPacketNumber) : h.sealed ≠ [] :=
    List.ne_nil_of_mem (hs.first hfirst).1
  rcases hguard with hzero | hodd | hsame | hother | hfirst
  · exact .inl hzero
  · rcases hsent with hphase | hfirst
    · exact absurd hphase (by rw [hat.phase]; exact phaseOf_ne_zero.mpr hodd)
    · exact .inr (hsealed hfirst)
  · exact absurd hsame hbit
  · exact absurd hopens hother
  · exact .inr (hsealed hfirst)

lemma sealPacket (src : Bytes) (pn : Int) (ad : Bytes)
    (hnumber : Numbered h (.sealPacket src pn ad)) :
    Sends (e.record (Tls.sealPacket P e.aead src pn ad).2)
      { h with sent := pn :: h.sent, sealed := pn :: h.sealed } := by
  have hmono : Sends e { h with sent := pn :: h.sent, sealed := pn :: h.sealed } := by
    refine ⟨hs.confirmed, ?_, ?_, hs.paced⟩
    · intro hne
      obtain ⟨hmem, hold⟩ := hs.first hne
      refine ⟨List.mem_cons_of_mem _ hmem, ?_⟩
      intro m hm
      rcases List.mem_cons.mp hm with rfl | hsent
      · exact .inl List.mem_cons_self
      · exact (hold m hsent).imp (List.mem_cons_of_mem _) id
    · intro hne
      exact ⟨(hs.acked hne).1, List.mem_cons_of_mem _ (hs.acked hne).2⟩
  unfold Tls.sealPacket
  split
  · exact hmono.kept ⟨rfl, rfl, rfl, rfl⟩
  · by_cases hfirst : e.aead.firstSent = invalidPacketNumber
    · simp only [hfirst, if_true]
      -- the first packet of the generation is numbered above all earlier ones
      refine ⟨hs.confirmed, ?_, hmono.acked, hs.paced⟩
      intro _
      refine ⟨List.mem_cons_self, ?_⟩
      intro m hm
      rcases List.mem_cons.mp hm with rfl | hsent
      · exact .inl List.mem_cons_self
      · exact .inr (hnumber m hsent)
    · simp only [hfirst, if_false]
      exact hmono.kept ⟨rfl, rfl, rfl, rfl⟩

lemma setLargestAcked (pn : Int) (hnumber : Numbered h (.setLargestAcked pn)) :
    Sends (e.record (Tls.setLargestAcked e.aead pn).2) { h with acked := pn :: h.acked } := by
  have hmono : Sends e { h with acked := pn :: h.acked } :=
    ⟨hs.confirmed, hs.first, fun hne => ⟨List.mem_cons_of_mem _ (hs.acked hne).1, (hs.acked hne).2⟩,
      hs.paced⟩
  unfold Tls.setLargestAcked
  split
  · exact hmono.kept ⟨rfl, rfl, rfl, rfl⟩
  · exact ⟨hs.confirmed, hs.first, fun _ => ⟨List.mem_cons_self, hnumber⟩, hs.paced⟩

lemma step (hP : Lawful P) (hat : AtGeneration P out inn e) (c : EndpointCall)
    (hnumber : Numbered h c) (hguard : Guarded P e c) :
    Sends (c.step P e).2 (h.note c e (c.step P e)) := by
  cases c with
  | keyPhase interval => exact hs.keyPhase hP hat interval hguard
  | sealPacket src pn ad => exact hs.sealPacket src pn ad hnumber
  | openPacket src rcvTime pn kp ad => exact hs.openPacket hP hat src rcvTime pn kp ad hguard
  | setLargestAcked pn => exact hs.setLargestAcked pn hnumber
  | setHandshakeConfirmed => exact ⟨rfl, hs.first, hs.acked, hs.paced⟩

end Sends

lemma newGMUpdatableAEAD_sends {u : UpdatableAEAD}
    (hnew : newGMUpdatableAEAD P out.keys inn.keys out.secret inn.secret = .ok u) :
    Sends ⟨u, 0⟩ {} := by
  simp only [newGMUpdatableAEAD, bind_ok, pure_inj] at hnew
  obtain ⟨_, -, _, -, _, -, _, -, rfl⟩ := hnew
  exact ⟨rfl, fun hne => absurd rfl hne, fun hne => absurd rfl hne, by simp⟩

/-- Where more than the phase bit guards every update, every update is paced. -/
theorem updates_paced (hP : Lawful P) {u : UpdatableAEAD}
    (hnew : newGMUpdatableAEAD P out.keys inn.keys out.secret inn.secret = .ok u)
    {log : List (EndpointCall × EndpointAnswer)} {x : Endpoint × Sending}
    (hrun : Run (watched (EndpointCall.step P) Sending.note)
    (fun c x => Numbered x.2 c ∧ Guarded P x.1 c) (⟨u, 0⟩, {}) log
    x) : ∀ update ∈ x.2.updates, update.Paced := by
  have hinv := hrun.stateInvariant (I := fun x => AtGeneration P out inn x.1 ∧ Sends x.1 x.2)
    ⟨newGMUpdatableAEAD_at hnew, newGMUpdatableAEAD_sends hnew⟩
    fun x c hx hc => ⟨hx.1.step hP c, hx.2.step hP hx.1 c hc.1 hc.2⟩
  exact hinv.2.paced

lemma sampleOurs_new : newGMUpdatableAEAD toyPrims (sampleDirection 1).keys (sampleDirection 2).keys
    (sampleDirection 1).secret (sampleDirection 2).secret = .ok sampleOurs.aead :=
  eq_okValue _ (by decide +kernel)

def ourRun (calls : List EndpointCall) :
    List (EndpointCall × EndpointAnswer) × Endpoint × Sending :=
  exec (watched (EndpointCall.step toyPrims) Sending.note) calls (sampleOurs, {})

theorem updates_paced_sample : (ourRun secondUpdate).2.1.generation = 2 ∧
    (ourRun secondUpdate).2.2.updates = [⟨.us, 1, true, [1], [1]⟩, ⟨.us, 0, true, [0], []⟩] ∧
    ∀ update ∈ (ourRun secondUpdate).2.2.updates, update.Paced := by
  have hrun : Run (watched (EndpointCall.step toyPrims) Sending.note)
      (fun c x => Numbered x.2 c ∧ Guarded toyPrims x.1 c) (sampleOurs,
        {}) (ourRun secondUpdate).1 (ourRun secondUpdate).2 :=
    exec_run (by decide +kernel)
  exact ⟨by decide +kernel, by decide +kernel, updates_paced toyPrims_lawful sampleOurs_new hrun⟩

/-- In generation two the phase bit is zero again, and one packet without an acknowledgement is
enough. -/
def hastyUpdate : List EndpointCall := secondUpdate ++ [.sealPacket [7] 2 [], .keyPhase 1]

theorem third_update_unpaced :
    Run (watched (EndpointCall.step toyPrims) Sending.note) (fun c x => Numbered x.2 c)
      (sampleOurs, {}) (ourRun hastyUpdate).1 (ourRun hastyUpdate).2 ∧
    (ourRun hastyUpdate).2.2.updates.head? = some ⟨.us, 2, true, [2], [1]⟩ ∧
    ¬ Update.Paced ⟨.us, 2, true, [2], [1]⟩ :=
  ⟨exec_run (by decide +kernel), by decide +kernel, by decide⟩

/-- Keys dropped at `time`; the first packet of the generation came at `firstAt`. -/
structure Drop where
  time : Int
  firstAt : Option Int
  deriving DecidableEq

def Drop.Due (d : Drop) : Prop := ∃ t ∈ d.firstAt, t + keyDropDelay < d.time

instance (d : Drop) : Decidable d.Due :=
  inferInstanceAs (Decidable (∃ t ∈ d.firstAt, t + keyDropDelay < d.time))

structure Receiving where
  clock : Option Int := none
  firstAt : Option Int := none
  drops : List Drop := []
  deriving DecidableEq

/-- The first of a generation is opened by the current keys or moved them there. -/
def Receiving.opened (P : Prims) (h : Receiving) (before after : Endpoint) (src : Bytes)
    (rcvTime pn : Int) (kp : KeyPhaseBit) (ad : Bytes) : Receiving where
  clock := some rcvTime
  firstAt :=
    if after.generation = before.generation then
      if kp = before.aead.keyPhase ∧
        OpensUnder P before.aead.rcvKM src pn ad then h.firstAt.or (some rcvTime)
      else h.firstAt
    else some rcvTime
  drops :=
    if (dropExpiredKeys before.aead rcvTime).prevRcvKM = before.aead.prevRcvKM then h.drops
    else ⟨rcvTime, h.firstAt⟩ :: h.drops

def Receiving.note (P : Prims) (c : EndpointCall) (e : Endpoint) (r : EndpointAnswer × Endpoint)
    (h : Receiving) :
    Receiving :=
  match c with
  | .keyPhase _ => if r.2.generation = e.generation then h else { h with firstAt := none }
  | .openPacket src rcvTime pn kp ad => h.opened P e r.2 src rcvTime pn kp ad
  | _ => h

def InOrder (h : Receiving) : EndpointCall → Prop
  | .openPacket _ rcvTime _ _ _ => ∀ t ∈ h.clock, t ≤ rcvTime
  | _ => True

/-- No local update while a deadline is pending, and no late packet under the current phase bit. -/
def Unhurried (P : Prims) (e : Endpoint) : EndpointCall → Prop
  | .keyPhase interval => shouldInitiateKeyUpdate e.aead interval = false ∨
    e.aead.prevRcvKMExpiry = 0
  | .openPacket src _ pn kp ad => kp = e.aead.keyPhase → e.aead.keyPhase ≠ .zero →
      e.aead.firstRcvd = invalidPacketNumber → OpensUnder P e.aead.prevRcvKM src pn ad →
      OpensUnder P e.aead.rcvKM src pn ad
  | _ => True

instance (h : Receiving) : ∀ c, Decidable (InOrder h c)
  | .openPacket _ rcvTime _ _ _ => inferInstanceAs (Decidable (∀ t ∈ h.clock, t ≤ rcvTime))
  | .keyPhase _ | .sealPacket _ _ _ | .setLargestAcked _ | .setHandshakeConfirmed => isTrue trivial

instance (P : Prims) (e : Endpoint) : ∀ c, Decidable (Unhurried P e c)
  | .keyPhase interval =>
    inferInstanceAs (Decidable (shouldInitiateKeyUpdate e.aead interval = false ∨
      e.aead.prevRcvKMExpiry = 0))
  | .openPacket src _ pn kp ad =>
    inferInstanceAs (Decidable (kp = e.aead.keyPhase → e.aead.keyPhase ≠ .zero →
      e.aead.firstRcvd = invalidPacketNumber → OpensUnder P e.aead.prevRcvKM src pn ad →
      OpensUnder P e.aead.rcvKM src pn ad))
  | .sealPacket _ _ _ | .setLargestAcked _ | .setHandshakeConfirmed => isTrue trivial

/-- A pending deadline was set no earlier than the first current packet. -/
structure Retains (e : Endpoint) (h : Receiving) : Prop where
  pending : e.aead.prevRcvKMExpiry ≠ 0 → ∃ t ∈ h.firstAt, t + keyDropDelay ≤ e.aead.prevRcvKMExpiry
  past : ∀ t ∈ h.firstAt, ∃ now ∈ h.clock, t ≤ now
  due : ∀ d ∈ h.drops, d.Due

/-- What opening does to the deadline and the phase, once expired keys are dropped. -/
inductive DeadlineMoved (P : Prims) (u : UpdatableAEAD) (src : Bytes) (rcvTime pn : Int)
    (kp : KeyPhaseBit) (ad : Bytes) (u' : UpdatableAEAD) : Prop where
  | kept (phase : u'.keyPhase = u.keyPhase) (expiry : u'.prevRcvKMExpiry = u.prevRcvKMExpiry)
  | updated (phase : u'.keyPhase = u.keyPhase.toggle)
    (expiry : u'.prevRcvKMExpiry = rcvTime + keyDropDelay)
  | first (phase : u'.keyPhase = u.keyPhase) (expiry : u'.prevRcvKMExpiry = rcvTime + keyDropDelay)
      (bit : kp = u.keyPhase) (moved : u.keyPhase ≠ .zero)
        (none : u.firstRcvd = invalidPacketNumber)
      (opens : OpensUnder P u.rcvKM src pn ad ∨ OpensUnder P u.prevRcvKM src pn ad)

lemma acceptCurrent_deadline (rcvTime pn : Int) :
    (acceptCurrent u rcvTime pn).keyPhase = u.keyPhase ∧
      ((acceptCurrent u rcvTime pn).prevRcvKMExpiry = u.prevRcvKMExpiry ∨
        (acceptCurrent u rcvTime pn).prevRcvKMExpiry = rcvTime + keyDropDelay ∧ u.keyPhase ≠ .zero ∧
          u.firstRcvd = invalidPacketNumber) := by
  unfold acceptCurrent noteHighest startKeyDropTimer
  dsimp only
  split
  · rename_i hfirst
    split
    · rename_i hphase
      exact ⟨rfl, .inr ⟨rfl, hphase, hfirst⟩⟩
    · exact ⟨rfl, .inl rfl⟩
  · exact ⟨rfl, .inl rfl⟩

lemma openPacket_deadline (hP : Lawful P) {e : Endpoint} (hat : AtGeneration P out inn e)
    (src : Bytes) (rcvTime pn : Int) (kp : KeyPhaseBit) (ad : Bytes) :
    DeadlineMoved P (dropExpiredKeys e.aead rcvTime) src rcvTime pn kp ad
      (openPacket P e.aead src rcvTime pn kp ad).2 := by
  obtain ⟨u', hroll⟩ := rollKeys_ok hP hat (dropExpiredKeys_same e.aead rcvTime)
  have hopened := openPacket_opened (P := P) e.aead src rcvTime pn kp ad
  generalize openPacket P e.aead src rcvTime pn kp ad = r at hopened ⊢
  cases hopened with
  | lateFailed | updateFailed | currentFailed =>
    rw [decryptionFailed_eq]
    exact .kept rfl rfl
  | rollFailed _ _ _ _ herror => cases hroll.symm.trans herror
  | updated _ _ _ _ _ hok => exact .updated (rollKeys_resets hok).2.2 rfl
  | current hbit hrcv hopen =>
    obtain ⟨hphase, hkept | ⟨hexpiry, hmoved, hfirst⟩⟩ :=
      acceptCurrent_deadline (dropExpiredKeys e.aead rcvTime) rcvTime pn
    · exact .kept hphase hkept
    · apply DeadlineMoved.first hphase hexpiry hbit hmoved hfirst
      rcases hopen with hopen | ⟨old, hprev, hopen⟩
      · rw [hrcv]
        exact .inl (opensUnder_some hopen)
      · rw [hprev]
        exact .inr (opensUnder_some hopen)
  | _ => exact .kept rfl rfl

lemma dropExpiredKeys_deadline (rcvTime : Int) :
    dropExpiredKeys u rcvTime = u ∨ (dropExpiredKeys u rcvTime).prevRcvKMExpiry = 0 ∧
      u.prevRcvKMExpiry ≠ 0 ∧ u.prevRcvKMExpiry < rcvTime := by
  fun_cases dropExpiredKeys u rcvTime with
  | case1 hexpired => exact .inr ⟨rfl, hexpired.2⟩
  | case2 => exact .inl rfl

namespace Retains

variable {e : Endpoint} {h : Receiving} (hs : Retains e h)
include hs

lemma kept {u : UpdatableAEAD} (hexpiry : u.prevRcvKMExpiry = e.aead.prevRcvKMExpiry) :
    Retains (e.record u) h where
  pending := by
    change u.prevRcvKMExpiry ≠ 0 → ∃ t ∈ h.firstAt, t + keyDropDelay ≤ u.prevRcvKMExpiry
    rw [hexpiry]
    exact hs.pending
  past := hs.past
  due := hs.due

lemma drops (rcvTime : Int) (d : Drop) (hd : d ∈
    if (dropExpiredKeys e.aead rcvTime).prevRcvKM = e.aead.prevRcvKM then h.drops
    else ⟨rcvTime, h.firstAt⟩ :: h.drops) : d.Due := by
  split at hd
  · exact hs.due d hd
  rename_i hdropped
  rcases List.mem_cons.mp hd with rfl | hold
  · rcases dropExpiredKeys_deadline e.aead rcvTime with hsame | ⟨-, hset, hpast⟩
    · rw [hsame] at hdropped
      exact absurd rfl hdropped
    · obtain ⟨t, ht, hle⟩ := hs.pending hset
      exact ⟨t, ht, Int.lt_of_le_of_lt hle hpast⟩
  · exact hs.due d hold

lemma keyPhase (hP : Lawful P) (hat : AtGeneration P out inn e) (interval : Nat)
    (hcalm : Unhurried P e (.keyPhase interval)) :
    Retains ((EndpointCall.keyPhase interval).step P e).2
      (h.note P (.keyPhase interval) e ((EndpointCall.keyPhase interval).step P e)) := by
  obtain ⟨u', hroll⟩ := rollKeys_ok hP hat (.refl e.aead)
  simp only [Receiving.note, EndpointCall.step, Tls.keyPhase]
  split
  · rename_i hdue
    have hzero : e.aead.prevRcvKMExpiry = 0 := by
      rcases hcalm with hidle | hzero
      · rw [hdue] at hidle
        cases hidle
      · exact hzero
    have hkeeps := rollKeys_keeps (P := P) e.aead
    rw [hroll] at hkeeps ⊢
    have hrolled := record_rolled hat (rollKeys_sending hroll).phase
    dsimp only
    rw [if_neg (by rw [hrolled]; omega)]
    exact ⟨fun hne => absurd (hkeeps.expiry.trans hzero) hne, nofun, hs.due⟩
  · rw [if_pos (record_same rfl)]
    exact hs.kept rfl

lemma openPacket (hP : Lawful P) (hat : AtGeneration P out inn e) (src : Bytes) (rcvTime pn : Int)
    (kp : KeyPhaseBit) (ad : Bytes) (horder : InOrder h (.openPacket src rcvTime pn kp ad))
    (hcalm : Unhurried P e (.openPacket src rcvTime pn kp ad)) :
    Retains (e.record (Tls.openPacket P e.aead src rcvTime pn kp ad).2) (h.opened P e
      (e.record (Tls.openPacket P e.aead src rcvTime pn kp ad).2) src rcvTime pn kp ad) := by
  have hdrop := dropExpiredKeys_same e.aead rcvTime
  have hpast : ∀ t ∈ h.firstAt, t ≤ rcvTime := by
    intro t ht
    obtain ⟨now, hnow, hle⟩ := hs.past t ht
    exact Int.le_trans hle (horder now hnow)
  have hor : ∀ t ∈ h.firstAt.or (some rcvTime), t ≤ rcvTime := by
    intro t ht
    rcases Option.or_eq_some_iff.mp ht with hold | ⟨-, hnew⟩
    · exact hpast t hold
    · exact Int.le_of_eq (Option.some.inj hnew).symm
  unfold Receiving.opened
  cases openPacket_deadline hP hat src rcvTime pn kp ad with
  | kept hphase hexpiry =>
    rw [if_pos (record_same (hphase.trans hdrop.phase))]
    refine ⟨?_, ?_, hs.drops rcvTime⟩
    · intro hne
      change (Tls.openPacket P e.aead src rcvTime pn kp ad).2.prevRcvKMExpiry ≠ 0 at hne
      rw [hexpiry] at hne
      rcases dropExpiredKeys_deadline e.aead rcvTime with hsame | ⟨hzero, -⟩
      · rw [hsame] at hne hexpiry
        obtain ⟨t, ht, hle⟩ := hs.pending hne
        refine ⟨t, ?_, Int.le_trans hle (Int.le_of_eq hexpiry.symm)⟩
        split
        · exact Option.or_eq_some_iff.mpr (.inl ht)
        · exact ht
      · exact absurd hzero hne
    · intro t ht
      refine ⟨rcvTime, rfl, ?_⟩
      dsimp only at ht
      split at ht
      · exact hor t ht
      · exact hpast t ht
  | updated hphase hexpiry =>
    have hmoved := record_rolled hat (hphase.trans (congrArg _ hdrop.phase))
    rw [if_neg (by rw [hmoved]; omega)]
    refine ⟨fun _ => ⟨rcvTime, rfl, Int.le_of_eq hexpiry.symm⟩, ?_, hs.drops rcvTime⟩
    intro t ht
    exact ⟨rcvTime, rfl, Int.le_of_eq (Option.some.inj ht).symm⟩
  | first hphase hexpiry hbit hmoved hfirst hopens =>
    rw [hdrop.phase] at hbit hmoved
    rw [dropExpiredKeys_firstRcvd] at hfirst
    -- the fallback to the previous keys is excluded, so the packet is of this generation
    have hcurrent : OpensUnder P e.aead.rcvKM src pn ad := by
      rcases hopens with hrcv | hprev
      · rw [hdrop.rcv] at hrcv
        exact hrcv
      · apply hcalm hbit hmoved hfirst
        rcases hdrop.prev with hsame | hnone
        · rw [hsame] at hprev
          exact hprev
        · rw [hnone] at hprev
          obtain ⟨_, hkm, -⟩ := hprev
          cases hkm
    rw [if_pos (record_same (hphase.trans hdrop.phase)), if_pos ⟨hbit, hcurrent⟩]
    refine ⟨?_, fun t ht => ⟨rcvTime, rfl, hor t ht⟩, hs.drops rcvTime⟩
    intro _
    obtain ⟨t, ht⟩ : ∃ t, h.firstAt.or (some rcvTime) = some t := by
      cases h.firstAt with
      | none => exact ⟨rcvTime, rfl⟩
      | some t => exact ⟨t, rfl⟩
    refine ⟨t, ht, ?_⟩
    change _ ≤ (Tls.openPacket P e.aead src rcvTime pn kp ad).2.prevRcvKMExpiry
    rw [hexpiry]
    exact Int.add_le_add_right (hor t ht) _

lemma step (hP : Lawful P) (hat : AtGeneration P out inn e) (c : EndpointCall)
    (horder : InOrder h c) (hcalm : Unhurried P e c) :
    Retains (c.step P e).2 (h.note P c e (c.step P e)) := by
  cases c with
  | keyPhase interval => exact hs.keyPhase hP hat interval hcalm
  | sealPacket src pn ad =>
    apply hs.kept
    fun_cases Tls.sealPacket P e.aead src pn ad <;> rfl
  | openPacket src rcvTime pn kp ad => exact hs.openPacket hP hat src rcvTime pn kp ad horder hcalm
  | setLargestAcked pn =>
    apply hs.kept
    fun_cases Tls.setLargestAcked e.aead pn <;> rfl
  | setHandshakeConfirmed => exact hs.kept rfl

end Retains

lemma newGMUpdatableAEAD_retains {u : UpdatableAEAD}
    (hnew : newGMUpdatableAEAD P out.keys inn.keys out.secret inn.secret = .ok u) :
    Retains ⟨u, 0⟩ {} := by
  simp only [newGMUpdatableAEAD, bind_ok, pure_inj] at hnew
  obtain ⟨_, -, _, -, _, -, _, -, rfl⟩ := hnew
  exact ⟨fun hne => absurd rfl hne, by simp, by simp⟩

/-- Where no deadline is pending at a local update, previous keys are dropped only when due. -/
theorem drops_due (hP : Lawful P) {u : UpdatableAEAD}
    (hnew : newGMUpdatableAEAD P out.keys inn.keys out.secret inn.secret = .ok u)
    {log : List (EndpointCall × EndpointAnswer)} {x : Endpoint × Receiving}
    (hrun : Run (watched (EndpointCall.step P) (Receiving.note P))
    (fun c x => InOrder x.2 c ∧ Unhurried P x.1 c) (⟨u, 0⟩, {}) log
    x) : ∀ d ∈ x.2.drops, d.Due := by
  have hinv := hrun.stateInvariant (I := fun x => AtGeneration P out inn x.1 ∧ Retains x.1 x.2)
    ⟨newGMUpdatableAEAD_at hnew, newGMUpdatableAEAD_retains hnew⟩
    fun x c hx hc => ⟨hx.1.step hP c, hx.2.step hP hx.1 c hc.1 hc.2⟩
  exact hinv.2.due

def receivingRun (calls : List EndpointCall) :
    List (EndpointCall × EndpointAnswer) × Endpoint × Receiving :=
  exec (watched (EndpointCall.step toyPrims) (Receiving.note toyPrims)) calls (sampleOurs, {})

/-- The first packet after our update starts the timer; a later one finds it run out. -/
def dropFirst : List EndpointCall := firstUpdate ++
  [.openPacket (packetOf peerFirst [9] 5) 2000 5 .one [], .openPacket [1] 3000002001 6 .one []]

theorem drops_due_sample : (receivingRun dropFirst).2.2.drops = [⟨3000002001, some 2000⟩] ∧
    ∀ d ∈ (receivingRun dropFirst).2.2.drops, d.Due := by
  have hrun : Run (watched (EndpointCall.step toyPrims) (Receiving.note toyPrims))
      (fun c x => InOrder x.2 c ∧ Unhurried toyPrims x.1 c) (sampleOurs,
        {}) (receivingRun dropFirst).1
      (receivingRun dropFirst).2 := exec_run (by decide +kernel)
  exact ⟨by decide +kernel, drops_due toyPrims_lawful sampleOurs_new hrun⟩

/-- A garbage packet drops the keys of generation one before anything of generation two. -/
def dropSecond : List EndpointCall := secondUpdate ++ [.openPacket [1] 3000002001 6 .zero []]

theorem stale_deadline_drops_later_keys :
    Run (watched (EndpointCall.step toyPrims) (Receiving.note toyPrims)) (fun c x => InOrder x.2 c)
      (sampleOurs, {}) (receivingRun dropSecond).1 (receivingRun dropSecond).2 ∧
    (receivingRun dropSecond).2.1.generation = 2 ∧
    (receivingRun dropSecond).2.2.drops = [⟨3000002001, none⟩] ∧ ¬ Drop.Due ⟨3000002001, none⟩ :=
  ⟨exec_run (by decide +kernel), by decide +kernel, by decide +kernel, by decide⟩

end Pollux.Tls
