import PolluxGM.Client

/-!
# What one client call can do

Every method either refuses and leaves the state alone, or has one of the effects below. Invariants
of runs are proved by cases on the effect and never look into a method again.
-/
namespace Pollux.Tls

/-- What is handed in as a HelloRetryRequest, and as the message of a type. -/
structure Handed where
  retry : Bytes → Prop
  message : UInt8 → Bytes → Prop

def anyMessage : Handed := ⟨fun _ => True, fun _ _ => True⟩

/-- The messages sent when a call returns one. -/
def written (sent : List Bytes) : Except Err Bytes → List Bytes
  | .ok b => sent ++ [b]
  | .error _ => sent

variable {P : Prims} {given : Handed}

inductive Effect (given : Handed) (c : ClientHandshaker P) (sent : List Bytes) :
    Bool → ClientHandshaker P → List Bytes → Prop where
  | refused : Effect given c sent false c sent
  | helloFailed (phase : c.phase = .none) :
    Effect given c sent false { c with phase := .failed } sent
  | helloKeysFailed (phase : c.phase = .none) (full : Bytes) :
      Effect given c sent false
        { sendClientHello c full with keys := c.keys.discardEarly, phase := .failed } sent
  | helloSent (phase : c.phase = .none) {rand : Except Err Random} {full : Bytes}
      (build : buildClientHello c rand none = .ok full) (early : Option QUICPacketKeys) :
      Effect given c sent true { sendClientHello c full with keys := c.keys.setEarly early }
        (sent ++ [full])
  | shareRefused (phase : c.phase = .afterClientHello) (pskMode : Bool) :
      Effect given c sent false { c with pskMode := pskMode } sent
  | serverHelloFailed (phase : c.phase = .afterClientHello) (pskMode : Bool) (body : Bytes)
      (keys : Keys) : Effect given c sent false { c.hash HandshakeType.serverHello body with
        pskMode := pskMode, keys := keys, phase := .failed } sent
  | serverHelloAccepted (phase : c.phase = .afterClientHello) {b body shared : Bytes}
    {sh : ServerHelloMsg}
      (handed : given.message HandshakeType.serverHello b)
        (read : readServerHello b = .ok (body, sh))
      (offered : selectsPSK sh = true → c.config.resumptionPSK.isSome = true)
      (share : serverShare P c.ephemeral sh = .ok shared)
      (l : HandshakeLevel P
        (if c.pskMode || selectsPSK sh then c.config.resumptionPSK.getD [] else []) shared
        ((c.hash HandshakeType.serverHello body).transcript.sum P)) :
      Effect given c sent true { c.hash HandshakeType.serverHello body with
        pskMode := c.pskMode || selectsPSK sh, keys := c.keys.withHandshake l, phase :=
          .afterServerHello } sent
  | retryFailed (phase : c.phase = .afterClientHello) {hello1 hrr : Bytes} {cookie : Option Bytes}
      (handed : given.retry hrr) (kept : c.clientHello1Full = some hello1)
      (read : readHelloRetryRequest hrr = .ok cookie) :
      Effect given c sent false (restartForHelloRetry c hello1 hrr) sent
  | retrySent (phase : c.phase = .afterClientHello) {hello1 hrr ch2 : Bytes} {cookie : Option Bytes}
      {rand : Except Err Random} (handed : given.retry hrr)
        (kept : c.clientHello1Full = some hello1)
      (read : readHelloRetryRequest hrr = .ok cookie)
      (build : buildClientHello (restartForHelloRetry c hello1 hrr) rand cookie = .ok ch2) :
      Effect given c sent true (sendClientHello2 (restartForHelloRetry c hello1 hrr) ch2)
        (sent ++ [ch2])
  | extensionsRefused (phase : c.phase = .afterServerHello) (tp : Bytes) :
      Effect given c sent false { c with peerTransportParams := tp } sent
  | extensionsAccepted (phase : c.phase = .afterServerHello) {b body : Bytes}
    {ee : EncryptedExtensionsMsg}
      (handed : given.message HandshakeType.encryptedExtensions b)
        (read : readTyped "EncryptedExtensions" HandshakeType.encryptedExtensions
        EncryptedExtensionsMsg.unmarshalBody b = .ok (body, ee)) (tp proto : Bytes) :
      Effect given c sent true (acceptEncryptedExtensions
        { c with peerTransportParams := tp, negotiatedProto := proto } body ee.extensions) sent
  | certificateAccepted (phase : c.phase = .afterEncryptedExtensions) {b body : Bytes}
      {leaf : P.Certificate}
        (handed : given.message HandshakeType.certificate b)
          (read : readCertificate c.config b = .ok (body, leaf)) :
      Effect given c sent true (acceptCertificate c body leaf) sent
  | certificateVerifyAccepted (phase : c.phase = .afterCertificate) {b body : Bytes}
      (handed : given.message HandshakeType.certificateVerify b)
        (check : checkCertificateVerify c b = .ok body) :
          Effect given c sent true (acceptCertificateVerify c body) sent
  | finishedFailed (phase : c.phase = .afterCertificateVerify) (body : Bytes) (keys : Keys) :
      Effect given c sent false
        { c.hash HandshakeType.finished body with keys := keys, phase := .failed } sent
  | finishedAccepted (phase : c.phase = .afterCertificateVerify) {b body : Bytes}
      (handed : given.message HandshakeType.finished b) (check : checkServerFinished c b = .ok body)
      (l : ApplicationLevel P c.keys.handshakeSecret
        ((c.hash HandshakeType.finished body).transcript.sum P)) :
      Effect given c sent true { c.hash HandshakeType.finished body with
        keys := c.keys.withApplication l, phase := .afterServerFinished } sent
  | ticketSeen (done : c.clientFinishedSent = true) (ok : Bool) (rms : Bytes) :
      Effect given c sent ok { c with keys := { c.keys with resumptionMasterSecret := rms } } sent
  | earlyDiscarded : Effect given c sent true { c with keys := c.keys.discardEarly } sent

variable (c : ClientHandshaker P) (b : Bytes) {sent : List Bytes}

structure Fresh (cfg : ClientConfig P) (c : ClientHandshaker P) : Prop where
  config : c.config = cfg
  transcript : c.transcript = .empty
  leafCert : c.leafCert = none
  phase : c.phase = .none
  clientHello1Full : c.clientHello1Full = none
  offerEarlyData : c.offerEarlyData = cfg.earlyData
  pskMode : c.pskMode = false
  clientFinishedSent : c.clientFinishedSent = false
  earlyKeys : c.keys.secrets.clientEarlyKeys = none
  negotiatedProto : c.negotiatedProto = []

lemma newClientHandshaker_fresh {cfg : ClientConfig P} {keyPair : Except Err P.PrivateKey}
    {c : ClientHandshaker P} (h : newClientHandshakerWithConfig cfg keyPair = .ok c) :
    Fresh cfg c := by
  simp only [newClientHandshakerWithConfig, bind_ok, pure_inj] at h
  obtain ⟨_, _, _, _, _, _, _, _, _, _, _, _, _, _, rfl⟩ := h
  exact ⟨rfl, rfl, rfl, rfl, rfl, rfl, rfl, rfl, rfl, rfl⟩

lemma clientHello_effect (rand : Except Err Random) :
    Effect given c sent (clientHello c rand).1.isOk (clientHello c rand).2
      (written sent (clientHello c rand).1) := by
  fun_cases clientHello c rand with
  | case1 => exact .refused
  | case2 hphase => exact .helloFailed (Decidable.not_not.mp hphase)
  | case3 hphase full hbuild =>
    fun_cases deriveClientEarlyKeys (sendClientHello c full) full with
    | case1 => exact .helloKeysFailed (Decidable.not_not.mp hphase) full
    | case2 => exact .helloSent (Decidable.not_not.mp hphase) hbuild _
    | case3 => exact .helloSent (Decidable.not_not.mp hphase) hbuild c.keys.secrets.clientEarlyKeys

lemma handleServerHello_effect (hgiven : given.message HandshakeType.serverHello b) :
    Effect given c sent (handleServerHello c b).1.isOk (handleServerHello c b).2 sent := by
  fun_cases handleServerHello c b with
  | case1 | case2 | case3 => exact .refused
  | case4 hphase => exact .shareRefused (Decidable.not_not.mp hphase) _
  | case5 hphase body sh hread hoffered _ shared hshare =>
    simp only [acceptServerHello]
    split
    · exact .serverHelloFailed (Decidable.not_not.mp hphase) _ _ _
    · rename_i keys hkeys
      obtain ⟨l, rfl⟩ := deriveHandshake_ok hkeys
      refine .serverHelloAccepted (Decidable.not_not.mp hphase) hgiven hread ?_ hshare l
      intro hsel
      cases hpsk : c.config.resumptionPSK with
      | none => simp [hsel, hpsk] at hoffered
      | some psk => rfl

lemma handleHelloRetryRequest_effect (hgiven : given.retry hrr) (rand : Except Err Random) :
    Effect given c sent (handleHelloRetryRequest c hrr rand).1.isOk
      (handleHelloRetryRequest c hrr rand).2
      (written sent (handleHelloRetryRequest c hrr rand).1) := by
  fun_cases handleHelloRetryRequest c hrr rand with
  | case1 | case2 | case3 => exact .refused
  | case4 hphase hello1 hkept cookie hread =>
    exact .retryFailed (Decidable.not_not.mp hphase) hgiven hkept hread
  | case5 hphase hello1 hkept cookie hread _ ch2 hbuild =>
    exact .retrySent (Decidable.not_not.mp hphase) hgiven hkept hread hbuild

lemma handleEncryptedExtensions_effect
    (hgiven : given.message HandshakeType.encryptedExtensions b) :
    Effect given c sent (handleEncryptedExtensions c b).1.isOk
      (handleEncryptedExtensions c b).2 sent := by
  fun_cases handleEncryptedExtensions c b with
  | case1 | case2 => exact .refused
  | case3 hphase body ee hread =>
    exact .extensionsAccepted (Decidable.not_not.mp hphase) hgiven hread _ c.negotiatedProto
  | case4 hphase => exact .extensionsRefused (Decidable.not_not.mp hphase) _
  | case5 hphase body ee hread =>
    exact .extensionsAccepted (Decidable.not_not.mp hphase) hgiven hread _ _

lemma handleCertificate_effect (hgiven : given.message HandshakeType.certificate b) :
    Effect given c sent (handleCertificate c b).1.isOk (handleCertificate c b).2 sent := by
  fun_cases handleCertificate c b with
  | case1 | case2 => exact .refused
  | case3 hphase body leaf hread =>
    exact .certificateAccepted (Decidable.not_not.mp hphase) hgiven hread

lemma handleCertificateVerify_effect (hgiven : given.message HandshakeType.certificateVerify b) :
    Effect given c sent (handleCertificateVerify c b).1.isOk
      (handleCertificateVerify c b).2 sent := by
  fun_cases handleCertificateVerify c b with
  | case1 | case2 => exact .refused
  | case3 hphase body hcheck =>
    exact .certificateVerifyAccepted (Decidable.not_not.mp hphase) hgiven hcheck

lemma handleServerFinished_effect (hgiven : given.message HandshakeType.finished b) :
    Effect given c sent (handleServerFinished c b).1.isOk (handleServerFinished c b).2 sent := by
  fun_cases handleServerFinished c b with
  | case1 | case2 => exact .refused
  | case3 hphase => exact .finishedFailed (Decidable.not_not.mp hphase) _ _
  | case4 hphase body hcheck _ keys hkeys =>
    obtain ⟨l, rfl⟩ := deriveApplication_ok hkeys
    exact .finishedAccepted (Decidable.not_not.mp hphase) hgiven hcheck l

lemma clientFinished_cases :
    (∃ e, clientFinished c = (.error e, c)) ∨
      c.phase = .afterServerFinished ∧ ∃ full, buildClientFinished c = .ok full ∧
        clientFinished c = (.ok full, sendClientFinished c full) := by
  fun_cases clientFinished c with
  | case1 | case2 => exact .inl ⟨_, rfl⟩
  | case3 hphase full hbuild => exact .inr ⟨Decidable.not_not.mp hphase, full, hbuild, rfl⟩

lemma handleNewSessionTicket_effect :
    Effect given c sent (handleNewSessionTicket c b).1.isOk
      (handleNewSessionTicket c b).2 sent := by
  fun_cases handleNewSessionTicket c b with
  | case1 | case2 | case3 => exact .refused
  | case4 hsent => exact .ticketSeen (by simpa using hsent) _ _
  | case5 hsent => exact .ticketSeen (by simpa using hsent) _ _

/-- A ticket comes from the master secret and the transcript of the moment. -/
lemma handleNewSessionTicket_ok {c c' : ClientHandshaker P} {b : Bytes} {t : SessionTicket}
    (h : handleNewSessionTicket c b = (.ok t, c')) :
    c.clientFinishedSent = true ∧ ∃ msg rms, NewSessionTicketMsg.unmarshalBody b = .ok msg ∧
      deriveResumptionMasterSecret P c.keys.masterSecret (c.transcript.sum P) = .ok rms ∧
      deriveResumptionPSK P rms msg.ticketNonce = .ok t.psk ∧ t.identity = msg.ticket ∧
      t.ageAdd = msg.ticketAgeAdd ∧
      c' = { c with keys := { c.keys with resumptionMasterSecret := rms } } := by
  revert h
  fun_cases handleNewSessionTicket c b with
  | case5 hsent msg hmsg rms hrms _ psk hpsk =>
    intro h
    obtain rfl := Except.ok.inj (congrArg Prod.fst h)
    exact ⟨by simpa using hsent, msg, rms, hmsg, hrms, hpsk, rfl, rfl, (congrArg Prod.snd h).symm⟩
  | _ => nofun

end Pollux.Tls
