import PolluxGM.ServerSetup
import PolluxGM.ServerRun

/-!
# 0-RTT codecs and the keys they were built from

A codec is cached when it is first asked for and must be gone once the early keys are. The answer to
a HelloRetryRequest discards the keys only.
-/
namespace Pollux.Tls

open CryptoSetup QuicServer

variable {P : Prims} {T : Type}

variable (s : ServerHandshaker P) (g : ClientSetup P T) (c : ClientHandshaker P) (b : Bytes)
  (rand : Except Err Random)

/-- The early keys of a handshaker, and that it has not begun. -/
structure Early where
  keys : Option QUICPacketKeys
  unstarted : Prop

def clientEarly (c : ClientHandshaker P) : Early :=
  ⟨c.keys.secrets.clientEarlyKeys, c.phase = .none⟩

def serverEarly (s : ServerHandshaker P) : Early :=
  ⟨s.keys.secrets.clientEarlyKeys, s.phase = .none⟩

/-- A step has left the early keys alone. -/
structure EarlyKept (e e' : Early) : Prop where
  keys : e'.keys = e.keys
  started : e'.unstarted → e.unstarted

lemma EarlyKept.refl (e : Early) : EarlyKept e e := ⟨rfl, id⟩

abbrev ClientEarlyKept (c c' : ClientHandshaker P) : Prop :=
  EarlyKept (clientEarly c) (clientEarly c')

abbrev ServerEarlyKept (s s' : ServerHandshaker P) : Prop :=
  EarlyKept (serverEarly s) (serverEarly s')

/-- A cached codec has its keys, and before the hello there are none. -/
structure Alive (codec : Option KeyMaterial) (e : Early) : Prop where
  codec : codec.isSome = true → e.keys.isSome = true
  unstarted : e.unstarted → e.keys = none

namespace Alive

variable {codec : Option KeyMaterial} {e e' : Early} (h : Alive codec e)
include h

lemma kept (hkept : EarlyKept e e') : Alive codec e' := by
  obtain ⟨hkeys, hstarted⟩ := hkept
  refine ⟨?_, fun hnone => ?_⟩
  · rw [hkeys]
    exact h.codec
  · rw [hkeys]
    exact h.unstarted (hstarted hnone)

lemma dead (hdead : e.keys = none) : codec = none := by
  cases codec with
  | none => rfl
  | some _ =>
    have hearly := h.codec rfl
    rw [hdead] at hearly
    cases hearly

/-- A codec is made only from keys that are there. -/
lemma cached (hget : getCodec (P := P) codec e.keys = .ok material) : Alive (some material) e := by
  refine ⟨fun _ => ?_, h.unstarted⟩
  unfold getCodec at hget
  split at hget
  · exact h.codec rfl
  split at hget
  · cases hget
  · rename_i hearly
    rw [hearly]
    rfl

/-- Closing zeroes the keys in place and drops the codec. -/
lemma close (f : QUICPacketKeys → QUICPacketKeys) : Alive none ⟨e.keys.map f, e.unstarted⟩ :=
  ⟨nofun, fun hnone => by rw [h.unstarted hnone]; rfl⟩

end Alive

lemma acceptServerHello_early (body shared : Bytes) :
    ClientEarlyKept c (acceptServerHello c body shared).2 := by
  fun_cases acceptServerHello c body shared with
  | case1 _ _ _ hkeys => exact ⟨deriveHandshake_early hkeys, by rintro ⟨⟩⟩
  | case2 _ _ hkeys => exact ⟨deriveHandshake_early hkeys, by rintro ⟨⟩⟩

lemma handleServerHello_early : ClientEarlyKept c (handleServerHello c b).2 := by
  fun_cases handleServerHello c b with
  | case5 => exact ⟨(acceptServerHello_early _ _ _).keys, (acceptServerHello_early _ _ _).started⟩
  | _ => exact ⟨rfl, id⟩

lemma handleEncryptedExtensions_early : ClientEarlyKept c (handleEncryptedExtensions c b).2 := by
  have haccept (c : ClientHandshaker P) (body : Bytes) (exts : List Extension) :
      (acceptEncryptedExtensions c body exts).phase ≠ .none := by
    unfold acceptEncryptedExtensions
    cases c.pskMode <;> nofun
  fun_cases handleEncryptedExtensions c b with
  | case1 | case2 | case4 => exact ⟨rfl, id⟩
  | case3 | case5 => exact ⟨rfl, fun hnone => absurd hnone (haccept _ _ _)⟩

lemma handleCertificate_early : ClientEarlyKept c (handleCertificate c b).2 := by
  fun_cases handleCertificate c b with
  | case1 | case2 => exact .refl _
  | case3 => exact ⟨rfl, by rintro ⟨⟩⟩

lemma handleCertificateVerify_early : ClientEarlyKept c (handleCertificateVerify c b).2 := by
  fun_cases handleCertificateVerify c b with
  | case1 | case2 => exact .refl _
  | case3 => exact ⟨rfl, by rintro ⟨⟩⟩

lemma handleServerFinished_early : ClientEarlyKept c (handleServerFinished c b).2 := by
  fun_cases handleServerFinished c b with
  | case1 | case2 => exact .refl _
  | case3 _ _ _ _ _ _ hkeys => exact ⟨deriveApplication_early hkeys, by rintro ⟨⟩⟩
  | case4 _ _ _ _ _ hkeys => exact ⟨deriveApplication_early hkeys, by rintro ⟨⟩⟩

lemma clientFinished_early : ClientEarlyKept c (clientFinished c).2 := by
  rcases clientFinished_cases c with ⟨e, heq⟩ | ⟨-, full, -, heq⟩
  · rw [heq]
    exact .refl _
  · rw [heq]
    exact ⟨rfl, id⟩

lemma handleNewSessionTicket_early : ClientEarlyKept c (handleNewSessionTicket c b).2 := by
  fun_cases handleNewSessionTicket c b <;> exact ⟨rfl, id⟩

lemma handleHelloRetryRequest_early :
    (handleHelloRetryRequest c b rand).2 = c ∨
      (handleHelloRetryRequest c b rand).2.keys.secrets.clientEarlyKeys = none := by
  fun_cases handleHelloRetryRequest c b rand with
  | case1 | case2 | case3 => exact .inl rfl
  | case4 | case5 => exact .inr rfl

/-- The first ClientHello is the one place where early keys come from. -/
lemma clientHello_early :
    (clientHello c rand).2 = c ∨ c.phase = .none ∧ (clientHello c rand).2.phase ≠ .none := by
  fun_cases clientHello c rand with
  | case1 => exact .inl rfl
  | case2 hphase => exact .inr ⟨Decidable.not_not.mp hphase, by simp⟩
  | case3 hphase =>
    refine .inr ⟨Decidable.not_not.mp hphase, ?_⟩
    fun_cases deriveClientEarlyKeys <;> rintro ⟨⟩

variable {α : Type}

lemma serverFlight_early (sigRand : Bytes) : ServerEarlyKept s (serverFlight s rand sigRand).2 := by
  by_cases hphase : s.phase = .afterClientHello
  · obtain ⟨hkeys, hleft, -⟩ := serverFlight_leaves hphase rand sigRand
    refine ⟨hkeys, ?_⟩
    change (serverFlight s rand sigRand).2.phase = .none → s.phase = .none
    rcases hleft with hleft | hleft | ⟨-, hleft⟩
    · rw [hleft]
      exact id
    all_goals
      rw [hleft]
      nofun
  · rw [serverFlight, if_pos hphase]
    exact .refl _

lemma handleClientFinished_early (cf : Bytes) :
    ServerEarlyKept s (handleClientFinished s cf).2 := by
  fun_cases handleClientFinished s cf with
  | case1 | case2 => exact .refl _
  | case3 | case4 => exact ⟨rfl, by rintro ⟨⟩⟩

lemma handleClientHello_early (ch : Bytes) (cb : Callbacks)
    (hnone : (handleClientHello s ch cb).2.phase = .none) :
    (handleClientHello s ch cb).2.keys.secrets.clientEarlyKeys =
      s.keys.secrets.clientEarlyKeys := by
  revert hnone
  fun_cases handleClientHello s ch cb with
  | case5 =>
    rw [(resumeFromClientHello_beside _ _ _).phase]
    rintro ⟨⟩
  | _ => exact fun _ => rfl

abbrev ClientLive : Prop := Alive g.zeroRTTSealer (clientEarly g.clientHs)

def PastRetry : Prop := g.zeroRTTSealer = none ∨ g.clientHs.phase ≠ .afterClientHello

def takesRetry (msgType : UInt8) (msg : Bytes) : Bool :=
  msgType == HandshakeType.serverHello &&
    match (handleServerHello g.clientHs msg).1 with
    | .error e => e.isHelloRetryRequest
    | .ok _ => false

def reportsRetry (data : Bytes) : Bool :=
  match readHandshakeMessage data with
  | .error _ => false
  | .ok (msgType, _, n) => takesRetry g msgType (data.take n)

lemma PastRetry.calm {g : ClientSetup P T} (h : PastRetry g) (msgType : UInt8) (msg : Bytes) :
    g.zeroRTTSealer = none ∨ takesRetry g msgType msg = false := by
  rcases h with hnone | hphase
  · exact .inl hnone
  · right
    unfold takesRetry handleServerHello
    rw [if_pos hphase]
    exact Bool.and_false _

lemma handleServerHello_ok_phase {c c' : ClientHandshaker P} {b : Bytes}
    (h : handleServerHello c b = (.ok (), c')) :
    c'.phase = .afterServerHello := by
  obtain ⟨-, _, _, _, -, -, -, _, rfl⟩ := Tls.handleServerHello_ok.mp h
  rfl

lemma installHandshakeKeys_client :
    (CryptoSetup.installHandshakeKeys g).2.clientHs = g.clientHs := by
  fun_cases CryptoSetup.installHandshakeKeys g <;> rfl

namespace ClientLive

lemma discarded (g : ClientSetup P T) : ClientLive g.discardEarlyKeys.discard0RTTCodecs :=
  ⟨nofun, fun _ => rfl⟩

variable {g : ClientSetup P T} (h : ClientLive g) (unmarshal : Bytes → Except Err T)
include h

lemma startHandshake (rand : Except Err Random) :
    ClientLive (CryptoSetup.startHandshake unmarshal g rand).2 := by
  unfold CryptoSetup.startHandshake
  refine andThen_state ?_ ?_
  · rcases clientHello_early g.clientHs rand with hsame | ⟨hnone, hstarted⟩
    · refine h.kept (show ClientEarlyKept g.clientHs (clientHello g.clientHs rand).2 from ?_)
      rw [hsame]
      exact .refl _
    · -- nothing can be cached before the hello
      refine ⟨?_, fun hphase => absurd hphase hstarted⟩
      change g.zeroRTTSealer.isSome = true → _
      rw [h.dead (h.unstarted hnone)]
      nofun
  · intro ch g₁ _ h₁
    dsimp only
    split
    · exact h₁
    split
    · exact h₁
    · exact discarded _

lemma installHandshakeKeys : ClientLive (CryptoSetup.installHandshakeKeys g).2 := by
  fun_cases CryptoSetup.installHandshakeKeys g <;> exact h

lemma install1RTTKeys : ClientLive (CryptoSetup.install1RTTKeys g).2 := by
  fun_cases CryptoSetup.install1RTTKeys g <;> exact h

lemma emitPeerTransportParameters (raw : Bytes) :
    ClientLive (CryptoSetup.emitPeerTransportParameters unmarshal g raw).2 := by
  fun_cases CryptoSetup.emitPeerTransportParameters unmarshal g raw <;> exact h

lemma completeClientFlight : ClientLive (CryptoSetup.completeClientFlight g).2 := by
  refine andThen_state (install1RTTKeys h) fun _ g₁ _ h₁ => ?_
  exact andThen_state (h₁.kept (clientFinished_early g₁.clientHs)) fun _ _ _ h₂ => h₂

lemma handleExtensions (msg : Bytes) :
    ClientLive (CryptoSetup.handleExtensions unmarshal g msg).2 := by
  refine andThen_state (h.kept (handleEncryptedExtensions_early g.clientHs msg)) fun _ g₁ _ h₁ => ?_
  dsimp only
  split
  · refine emitPeerTransportParameters ?_ unmarshal _
    exact discarded g₁
  · exact emitPeerTransportParameters h₁ unmarshal _

lemma handleTicket (msg : Bytes) : ClientLive (CryptoSetup.handleTicket g msg).2 := by
  exact andThen_state (h.kept (handleNewSessionTicket_early g.clientHs (msg.drop 4))) fun _ _ _
    h₁ => h₁

lemma handleInitial (msgType : UInt8) (msg : Bytes) (rand : Except Err Random)
    (hcalm : g.zeroRTTSealer = none ∨ takesRetry g msgType msg = false) :
    ClientLive (CryptoSetup.handleInitial g msgType msg rand).2 ∧
      ((CryptoSetup.handleInitial g msgType msg rand).1.isOk = true →
        PastRetry (CryptoSetup.handleInitial g msgType msg rand).2) := by
  have hkept := handleServerHello_early g.clientHs msg
  unfold CryptoSetup.handleInitial
  split
  · exact ⟨h, nofun⟩
  rename_i htype
  split
  · rename_i c heq
    rw [heq] at hkept
    have hlive : ClientLive { g with clientHs := c } := h.kept hkept
    refine ⟨installHandshakeKeys hlive, fun _ => .inr ?_⟩
    rw [installHandshakeKeys_client, handleServerHello_ok_phase heq]
    nofun
  · rename_i e c heq
    rw [heq] at hkept
    dsimp only
    split
    · rename_i hretry
      have hnone : g.zeroRTTSealer = none := by
        apply hcalm.resolve_right
        simp [takesRetry, Decidable.not_not.mp htype, heq, hretry]
      have hlive : ClientLive { g with clientHs := c } := h.kept hkept
      have hretried : ClientLive { g with clientHs := (handleHelloRetryRequest c msg rand).2 } := by
        rcases handleHelloRetryRequest_early c msg rand with hsame | hgone
        · rw [hsame]
          exact hlive
        · refine ⟨?_, fun _ => hgone⟩
          rw [hnone]
          nofun
      suffices hboth : ClientLive _ ∧ _ = none from ⟨hboth.1, fun _ => .inl hboth.2⟩
      refine andThen_state (I := fun g' => ClientLive g' ∧ g'.zeroRTTSealer = none)
        ⟨hretried, hnone⟩ ?_
      rintro ch2 g₁ _ ⟨h₁, hnone₁⟩
      refine ⟨?_, ?_⟩
      · split <;> exact h₁
      · split <;> exact hnone₁
    · exact ⟨h.kept hkept, nofun⟩

lemma handleOneClient (msgType : UInt8) (msg : Bytes) (encLevel : EncryptionLevel)
    (rand : Except Err Random)
    (hcalm : encLevel = .initial → g.zeroRTTSealer = none ∨ takesRetry g msgType msg = false) :
    ClientLive (CryptoSetup.handleOneClient unmarshal g msgType msg encLevel rand).2 ∧
      ((CryptoSetup.handleOneClient unmarshal g msgType msg encLevel rand).1.isOk = true →
        encLevel = .initial →
        PastRetry (CryptoSetup.handleOneClient unmarshal g msgType msg encLevel rand).2) := by
  unfold CryptoSetup.handleOneClient
  cases encLevel with
  | initial =>
    obtain ⟨hlive, hpast⟩ := handleInitial h msgType msg rand (hcalm rfl)
    exact ⟨hlive, fun hok _ => hpast hok⟩
  | handshake =>
    refine ⟨?_, fun _ => nofun⟩
    dsimp only
    split
    · exact handleExtensions h unmarshal msg
    split
    · exact h.kept (handleCertificate_early g.clientHs msg)
    split
    · exact h.kept (handleCertificateVerify_early g.clientHs msg)
    split
    · exact andThen_state (h.kept (handleServerFinished_early g.clientHs msg))
        fun _ _ _ h₁ => completeClientFlight h₁
    · exact h
  | oneRTT =>
    refine ⟨?_, fun _ => nofun⟩
    dsimp only
    split
    · exact handleTicket h msg
    · exact h
  | zeroRTT => exact ⟨h, fun _ => nofun⟩

/-- Only the first message of a stream can be a retry that is answered. -/
lemma handleMessage (data : Bytes) (encLevel : EncryptionLevel) (rand : Except Err Random)
    (hcalm : encLevel = .initial → PastRetry g ∨ reportsRetry g data = false) :
    ClientLive (CryptoSetup.handleMessage unmarshal g data encLevel rand).2 := by
  unfold CryptoSetup.handleMessage
  generalize data.length = rounds
  induction rounds generalizing data g with
  | zero => exact h
  | succ rounds ih =>
    unfold handleMessages
    split
    · exact h
    split
    · exact h
    rename_i msgType body n hread
    obtain ⟨hlive, hpast⟩ := handleOneClient h unmarshal msgType (data.take n) encLevel rand (by
      intro hlevel
      rcases hcalm hlevel with hpast | hfirst
      · exact hpast.calm _ _
      · rw [reportsRetry, hread] at hfirst
        exact .inr hfirst)
    refine andThen_state hlive fun _ g₁ hok h₁ => ih h₁ (data.drop n) ?_
    intro hlevel
    rw [hok] at hpast
    exact .inl (hpast rfl hlevel)

lemma get0RTTSealer : ClientLive g.get0RTTSealer.2 := by
  unfold ClientSetup.get0RTTSealer
  split
  · exact h
  · rename_i hget
    exact h.cached hget

end ClientLive

abbrev ServerLive (g : ServerSetup P T) : Prop := Alive g.zeroRTTOpener (serverEarly g.serverHs)

namespace ServerLive

lemma discarded (g : ServerSetup P T) : ServerLive g.discardEarlyKeys.discard0RTTCodecs :=
  ⟨nofun, fun _ => rfl⟩

variable {g : ServerSetup P T} (h : ServerLive g)
include h

lemma admitEarlyData (w : Wire T) : ServerLive (QuicServer.admitEarlyData w g) := by
  fun_cases QuicServer.admitEarlyData w g with
  | case1 | case3 => exact h
  | case2 => exact discarded g

lemma installHandshakeKeys : ServerLive (QuicServer.installHandshakeKeys g).2 := by
  have hannounced : ServerLive (if g.serverHs.keys.secrets.clientEarlyKeys.isSome = true then
      g.enqueue .received0RTTReadKeys else g) := by
    split <;> exact h
  fun_cases QuicServer.installHandshakeKeys g <;> exact hannounced

lemma install1RTTKeys : ServerLive (QuicServer.install1RTTKeys g).2 := by
  fun_cases QuicServer.install1RTTKeys g <;> exact h

lemma emitPeerTransportParameters (w : Wire T) (raw : Bytes) :
    ServerLive (QuicServer.emitPeerTransportParameters w g raw).2 := by
  fun_cases QuicServer.emitPeerTransportParameters w g raw <;> exact h

lemma emitServerFlight (a : Answers) : ServerLive (QuicServer.emitServerFlight g a).2 := by
  refine andThen_state (h.kept (serverFlight_early g.serverHs a.rand a.sigRand)) fun f g₁ _ h₁ => ?_
  refine andThen_state (installHandshakeKeys h₁) fun _ g₂ _ h₂ => ?_
  exact andThen_state (install1RTTKeys h₂) fun _ _ _ h₃ => h₃

lemma handleHello (w : Wire T) (msg : Bytes) (a : Answers) :
    ServerLive (QuicServer.handleHello w g msg a).2 := by
  refine andThen_state ?_ fun _ g₁ _ h₁ => ?_
  · by_cases hnone : g.serverHs.phase = .none
    · refine ⟨?_, ?_⟩
      · change g.zeroRTTOpener.isSome = true → _
        rw [h.dead (h.unstarted hnone)]
        nofun
      · intro hphase
        exact (handleClientHello_early g.serverHs msg a.callbacks hphase).trans (h.unstarted hnone)
    · rw [handleClientHello_outOfOrder hnone]
      exact h
  · exact andThen_state (emitPeerTransportParameters (admitEarlyData h₁ w) w _)
      fun _ _ _ h₂ => emitServerFlight h₂ a

lemma handleOneServer (w : Wire T) (msgType : UInt8) (msg : Bytes) (encLevel : EncryptionLevel)
    (a : Answers) :
    ServerLive (QuicServer.handleOneServer w g msgType msg encLevel a).2 := by
  fun_cases QuicServer.handleOneServer w g msgType msg encLevel a with
  | case2 => exact handleHello h w msg a
  | case4 =>
    exact andThen_state (h.kept (handleClientFinished_early g.serverHs msg)) fun _ _ _ h₁ => h₁
  | _ => exact h

lemma handleMessage (w : Wire T) (data : Bytes) (encLevel : EncryptionLevel) (a : Answers) :
    ServerLive (QuicServer.handleMessage w g data encLevel a).2 := by
  unfold QuicServer.handleMessage
  generalize data.length = rounds
  induction rounds generalizing data g with
  | zero => exact h
  | succ rounds ih =>
    unfold handleMessages
    split
    · exact h
    split
    · exact h
    exact andThen_state (handleOneServer h w _ _ encLevel a) fun _ g₁ _ h₁ => ih h₁ _

lemma get0RTTOpener : ServerLive g.get0RTTOpener.2 := by
  unfold ServerSetup.get0RTTOpener
  split
  · exact h
  · rename_i hget
    exact h.cached hget

lemma setHandshakeConfirmed : ServerLive g.setHandshakeConfirmed := by
  fun_cases ServerSetup.setHandshakeConfirmed g with
  | case1 => exact discarded _
  | case2 => exact h

end ServerLive

inductive Constructed (w : Wire T) : GMCryptoSetup P T → Prop where
  | client {connID : Bytes} {cfg : ClientConfig P} {tp : Option Bytes}
    {keyPair : Except Err P.PrivateKey}
      {g : ClientSetup P T} (new : newGMCryptoSetupClient T connID cfg tp keyPair = .ok g) :
        Constructed w (.client g)
  | server {connID : Bytes} {cfg : ServerConfig P} {tp : Option T} {allow0RTT : Bool}
      {keyPair : Except Err P.PrivateKey} {g : ServerSetup P T}
      (new : newGMCryptoSetupServer w connID cfg tp allow0RTT keyPair = .ok g) :
        Constructed w (.server g)

/-- A client is sent no HelloRetryRequest while it has a 0-RTT sealer. -/
def RetriedUnsealed : SetupCall P → GMCryptoSetup P T → Prop
  | .handleMessage data .initial _ _, .client g => g.zeroRTTSealer.isSome = true →
    reportsRetry g data = false
  | _, _ => True

def Live : GMCryptoSetup P T → Prop
  | .client g => ClientLive g
  | .server g => ServerLive g

lemma Constructed.live {w : Wire T} {s : GMCryptoSetup P T} (h : Constructed w s) : Live s := by
  cases h with
  | client new =>
    simp only [newGMCryptoSetupClient, bind_ok, pure_inj] at new
    obtain ⟨hs, hnew, _, -, _, -, rfl⟩ := new
    exact ⟨nofun, fun _ => (newClientHandshaker_fresh hnew).earlyKeys⟩
  | server new =>
    simp only [newGMCryptoSetupServer, bind_ok, pure_inj] at new
    obtain ⟨hs, hnew, _, -, _, -, rfl⟩ := new
    exact ⟨nofun, fun _ => (newServerHandshaker_fresh hnew).earlyKeys⟩

lemma Live.step (w : Wire T) {s : GMCryptoSetup P T} (h : Live s) (call : SetupCall P)
    (hcall : RetriedUnsealed call s) : Live (call.step w s).2 := by
  cases s with
  | client g =>
    cases call with
    | startHandshake rand => exact ClientLive.startHandshake h w.unmarshalServer rand
    | handleMessage data encLevel rand a =>
      apply ClientLive.handleMessage h w.unmarshalServer data encLevel rand
      rintro rfl
      cases hsealer : g.zeroRTTSealer with
      | none => exact .inl (.inl hsealer)
      | some codec => exact .inr (hcall (by rw [hsealer]; rfl))
    | get0RTTSealer => exact ClientLive.get0RTTSealer h
    | get0RTTOpener => exact h
    | setHandshakeConfirmed => exact h
    | close wiped => exact Alive.close h _
  | server g =>
    cases call with
    | startHandshake rand => exact h
    | handleMessage data encLevel rand a => exact ServerLive.handleMessage h w data encLevel a
    | get0RTTSealer => exact h
    | get0RTTOpener => exact ServerLive.get0RTTOpener h
    | setHandshakeConfirmed => exact ServerLive.setHandshakeConfirmed h
    | close wiped => exact Alive.close h _

lemma getCodec_dead : getCodec (P := P) none none = .error errKeysNotYetAvailable := rfl

lemma Live.dead {s : GMCryptoSetup P T} (h : Live s) (hdead : s.clientEarlyKeys = none) :
    s.zeroRTTCodec = none ∧ s.get0RTTSealer.1 = .error errKeysNotYetAvailable ∧
      s.get0RTTOpener.1 = .error errKeysNotYetAvailable := by
  have hcodec : s.zeroRTTCodec = none := by
    cases s with
    | client g => exact Alive.dead h hdead
    | server g => exact Alive.dead h hdead
  refine ⟨hcodec, ?_⟩
  cases s with
  | client g =>
    refine ⟨?_, rfl⟩
    change g.get0RTTSealer.1 = _
    rw [ClientSetup.get0RTTSealer, show g.zeroRTTSealer = none from hcodec,
      show g.clientHs.keys.secrets.clientEarlyKeys = none from hdead, getCodec_dead]
  | server g =>
    refine ⟨rfl, ?_⟩
    change g.get0RTTOpener.1 = _
    rw [ServerSetup.get0RTTOpener, show g.zeroRTTOpener = none from hcodec,
      show g.earlyKeys = none from hdead, getCodec_dead]

/-- In every run that retries no client with a sealer, the codecs go with the keys. -/
theorem codec_dies_with_keys (w : Wire T) {s₀ s : GMCryptoSetup P T} (hnew : Constructed w s₀)
    {log : List (SetupCall P × SetupAnswer)}
    (hrun : Run (SetupCall.step w) RetriedUnsealed s₀ log s) (hdead : s.clientEarlyKeys = none) :
    s.zeroRTTCodec = none ∧ s.get0RTTSealer.1 = .error errKeysNotYetAvailable ∧
      s.get0RTTOpener.1 = .error errKeysNotYetAvailable := by
  have hlive : Live s := hrun.stateInvariant hnew.live fun _ call h hcall => h.step w call hcall
  exact hlive.dead hdead

def sampleWire : Wire Unit := ⟨fun _ => [], fun _ => .ok (), fun _ => .ok (), fun _ _ => true⟩

def earlyClient : ClientSetup toyPrims Unit :=
  okValue (newGMCryptoSetupClient Unit [1]
    { sampleResumingConfig with earlyData := true, resumptionAppData := some [1] } none
      (.ok (5 : UInt8)))
    (by decide +kernel)

lemma earlyClient_new : Constructed sampleWire (.client earlyClient) :=
  .client (eq_okValue _ (by decide +kernel))

def sampleAnswers : Answers := ⟨sampleCallbacks, sampleRandom.serverHello, sampleRandom.signature⟩

/-- The answer of a server that takes no early data. -/
def decliningFlight : Flight :=
  let r := handleClientHello sampleServer
    (okValue (clientHello earlyClient.clientHs sampleRandom.clientHello).1
    (by decide +kernel)) sampleCallbacks
  okValue (serverFlight r.2 sampleRandom.serverHello sampleRandom.signature).1 (by decide +kernel)

def sealsEarly : List (SetupCall toyPrims) :=
  [.startHandshake sampleRandom.clientHello, .get0RTTSealer]

def declined : List (SetupCall toyPrims) := sealsEarly ++
  [.handleMessage decliningFlight.serverHello .initial sampleRandom.clientHello sampleAnswers,
    .handleMessage decliningFlight.encryptedExt .handshake sampleRandom.clientHello sampleAnswers]

def afterCalls (calls : List (SetupCall toyPrims)) : GMCryptoSetup toyPrims Unit :=
  (exec (SetupCall.step sampleWire) calls (.client earlyClient)).2

theorem codec_dies_with_keys_sample :
    (afterCalls sealsEarly).zeroRTTCodec.isSome = true ∧
      (afterCalls declined).clientEarlyKeys = none ∧
      (afterCalls declined).get0RTTSealer.1 = .error errKeysNotYetAvailable := by
  have hrun : Run (SetupCall.step sampleWire) RetriedUnsealed (.client earlyClient)
      (exec (SetupCall.step sampleWire) declined (.client earlyClient)).1 (afterCalls declined) :=
    exec_run ⟨trivial, trivial, fun _ => by decide +kernel, trivial, trivial⟩
  have hdead : (afterCalls declined).clientEarlyKeys = none := by decide +kernel
  exact ⟨by decide +kernel, hdead, (codec_dies_with_keys sampleWire earlyClient_new hrun hdead).2.1⟩

def sampleRetry : Bytes :=
  okValue (marshalHandshakeMessage HandshakeType.serverHello (ServerHelloMsg.marshalBody
    ⟨versionTLS12, helloRetryRequestRandom, [], tlsSM4GCMSM3,
      [⟨ExtensionType.supportedVersions, be16 versionTLS13.toNat⟩]⟩)) (by decide +kernel)

def retried : List (SetupCall toyPrims) := sealsEarly ++
  [.handleMessage sampleRetry .initial sampleRandom.clientHello sampleAnswers]

/-- After a HelloRetryRequest the early keys are gone and the sealer is still handed out. -/
theorem sealer_survives_retry :
    Constructed sampleWire (.client earlyClient) ∧
    Run (SetupCall.step sampleWire) (fun _ _ => True) (.client earlyClient)
      (exec (SetupCall.step sampleWire) retried (.client earlyClient)).1 (afterCalls retried) ∧
    (afterCalls retried).clientEarlyKeys = none ∧
      (afterCalls retried).get0RTTSealer.1.isOk = true :=
  ⟨earlyClient_new, exec_run (allAllowed_true _ _), by decide +kernel, by decide +kernel⟩

end Pollux.Tls
