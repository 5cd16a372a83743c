import PolluxGM.CryptoSetup

/-!
# What a completed client has checked

The transcript of a client is built up in stages, and each stage records what was checked when its
message was hashed. The evidence speaks of the parts of the state that no later step changes.
-/
namespace Pollux.Authentication

open Tls ClientRun

abbrev Hashed := UInt8 × Bytes

/-- The hash over the frames of the messages. -/
def hashOf (P : Prims) (messages : List Hashed) : Bytes :=
  P.sm3 (messages.flatMap fun m => frame m.1 m.2)

structure Session (P : Prims) where
  config : ClientConfig P
  ephemeral : P.PrivateKey
  serverHSTraffic : Bytes
  clientHSTraffic : Bytes

def session {P : Prims} (c : ClientHandshaker P) : Session P :=
  ⟨c.config, c.ephemeral, c.keys.serverHSTraffic, c.keys.clientHSTraffic⟩

section

variable {P : Prims} (given : Handed) (s : Session P)

/-- The body of a message handed in for the step of its type. A direct call may have more octets
behind it, and the type octet of a Certificate is not looked at. -/
def Arrived (typ : UInt8) (body : Bytes) : Prop :=
  ∃ octet rest, given.message typ (frame octet body ++ rest) ∧
    (octet = typ ∨ typ = HandshakeType.certificate)

/-- The message is a ClientHello with a pre_shared_key extension. -/
def OffersPSK (full : Bytes) : Prop :=
  ∃ (ch : ClientHelloMsg) (data : Bytes), ch.marshalBody = .ok (full.drop 4) ∧
    ⟨ExtensionType.preSharedKey, data⟩ ∈ ch.extensions

def WroteHello (cfg : ClientConfig P) (full : Bytes) : Prop :=
  full = frame HandshakeType.clientHello (full.drop 4) ∧
    (cfg.resumptionPSK.isSome = true → OffersPSK full)

/-- A ServerHello with the random value of a HelloRetryRequest. -/
def AsksRetry (hrr : Bytes) : Prop :=
  ∃ body rest msg, hrr = frame HandshakeType.serverHello body ++ rest ∧
    ServerHelloMsg.unmarshalBody body = .ok msg ∧ msg.random = helloRetryRequestRandom

/-- One ClientHello, or the messages of a retry: what is sent, and what is hashed. -/
inductive HelloPart (cfg : ClientConfig P) : List Bytes → List Hashed → Prop where
  | direct {full : Bytes} (wrote : WroteHello cfg full) :
      HelloPart cfg [full] [(HandshakeType.clientHello, full.drop 4)]
  | retried {full1 hrr full2 : Bytes} (wrote1 : WroteHello cfg full1) (handed : given.retry hrr)
      (asks : AsksRetry hrr) (wrote2 : WroteHello cfg full2) :
      HelloPart cfg [full1, full2] [(HandshakeType.messageHash, P.sm3 full1),
        (HandshakeType.serverHello, hrr.drop 4), (HandshakeType.clientHello, full2.drop 4)]

/-- The accepted ServerHello; the traffic secrets come from its key share, a PSK it selects and
the transcript through it. -/
structure AcceptedServerHello (hello : List Hashed) (body : Bytes) (sh : ServerHelloMsg) :
    Prop where
  arrived : Arrived given HandshakeType.serverHello body
  parsed : ServerHelloMsg.unmarshalBody body = .ok sh
  suite : sh.cipherSuite = tlsSM4GCMSM3
  version : findExtension sh.extensions ExtensionType.supportedVersions = [3, 4]
  noRetry : sh.random ≠ helloRetryRequestRandom
  offered : selectsPSK sh = true → s.config.resumptionPSK.isSome = true
  secrets : ∃ key pub shared,
    parseServerKeyShare (findExtension sh.extensions ExtensionType.keyShare) curveSM2 = .ok key ∧
    P.unmarshalUncompressed key = .ok pub ∧ P.ecdh s.ephemeral pub = .ok shared ∧
    ∃ l : HandshakeLevel P (if selectsPSK sh then s.config.resumptionPSK.getD [] else []) shared
        (hashOf P (hello ++ [(HandshakeType.serverHello, body)])),
      s.serverHSTraffic = l.serverHSTraffic ∧ s.clientHSTraffic = l.clientHSTraffic

/-- The leaf, verified for the configured name against the configured roots unless that is
switched off or left to the callback, which then accepts the chain. The intermediates are
configured or were sent behind the leaf. -/
structure VerifiedLeaf (cfg : ClientConfig P) (body : Bytes) (leaf : P.Certificate) : Prop where
  arrived : Arrived given HandshakeType.certificate body
  verified : ∃ msg first rest, CertificateMsg.unmarshalBody body = .ok msg ∧
    msg.certificateList = first :: rest ∧ P.parseCertificate first.certificate = .ok leaf ∧
    (cfg.insecureSkipVerify = false → (cfg.roots ≠ none ∨ cfg.verifyPeerCertificate = none) →
      ∃ pool, P.verify leaf ⟨cfg.serverName, cfg.roots, pool⟩ = .ok () ∧
        ∀ cert ∈ pool.getD [], cert ∈ cfg.intermediates.getD [] ∨
          ∃ entry ∈ rest, P.parseCertificate entry.certificate = .ok cert) ∧
    ∀ callback, cfg.verifyPeerCertificate = some callback →
      callback ((first :: rest).map CertificateEntry.certificate) = .ok ()

/-- The leaf's key has signed the context string and the transcript hash. -/
structure VerifiedSignature (leaf : P.Certificate) (before : List Hashed) (body : Bytes) :
    Prop where
  arrived : Arrived given HandshakeType.certificateVerify body
  verified : ∃ cv key, CertificateVerifyMsg.unmarshalBody body = .ok cv ∧
    cv.signatureScheme = sm2SigSM3 ∧ P.certPublicKey leaf = some key ∧
    P.verifyWithSM2 key sm2IDTLS13KeyExchange
      (List.replicate 64 0x20 ++ serverCertificateVerifyContext ++ 0 :: hashOf P before)
        cv.signature = true

/-- Between the extensions and the Finished: nothing if an offered PSK was selected, else a
verified certificate and a verified signature. -/
inductive PeerPart (hellos : List Bytes) (sh : ServerHelloMsg) (before : List Hashed) :
    List Hashed → Prop where
  | resumed {full data : Bytes} (last : hellos.getLast? = some full) (offered : OffersPSK full)
      (selected : ⟨ExtensionType.preSharedKey, data⟩ ∈ sh.extensions) : PeerPart hellos sh before []
  | certified {certBody cvBody : Bytes} {leaf : P.Certificate} (declined : selectsPSK sh = false)
      (leaf_ok : VerifiedLeaf given s.config certBody leaf)
      (signature_ok : VerifiedSignature given leaf (before ++
        [(HandshakeType.certificate, certBody)]) cvBody) :
      PeerPart hellos sh before
        [(HandshakeType.certificate, certBody), (HandshakeType.certificateVerify, cvBody)]

/-- The HKDF info of a Finished key of 32 octets. -/
def finishedInfo : Bytes :=
  0 :: 32 :: 14 :: ascii ['t', 'l', 's', '1', '3', ' ', 'f', 'i', 'n', 'i', 's', 'h', 'e', 'd'] ++
    [0]

/-- The HMAC over the transcript under the Finished key of the secret. -/
def VerifyData (P : Prims) (trafficSecret : Bytes) (before : List Hashed) (verifyData : Bytes) :
    Prop :=
  ∃ key, P.hkdfExpand trafficSecret finishedInfo 32 = .ok key ∧
    verifyData = P.hmac key (hashOf P before)

/-- Finished messages of our own, each over everything before it. -/
inductive OwnFinished (before : List Hashed) : List Hashed → Prop where
  | none : OwnFinished before []
  | more {own : List Hashed} {verifyData : Bytes} (earlier : OwnFinished before own)
      (data : VerifyData P s.clientHSTraffic (before ++ own) verifyData) :
      OwnFinished before (own ++ [(HandshakeType.finished, verifyData)])

inductive ServerHelloPart (hellos : List Bytes) (sh : ServerHelloMsg) : List Hashed → Prop where
  | mk {hello : List Hashed} {body : Bytes} (start : HelloPart given s.config hellos hello)
      (accepted : AcceptedServerHello given s hello body sh) :
      ServerHelloPart hellos sh (hello ++ [(HandshakeType.serverHello, body)])

def ParsedExtensions (body : Bytes) : Prop :=
  Arrived given HandshakeType.encryptedExtensions body ∧ ∃ ee,
    EncryptedExtensionsMsg.unmarshalBody body = .ok ee

inductive ExtensionsPart (hellos : List Bytes) (sh : ServerHelloMsg) : List Hashed → Prop where
  | mk {before : List Hashed} {body : Bytes} (start : ServerHelloPart given s hellos sh before)
      (parsed : ParsedExtensions given body) :
      ExtensionsPart hellos sh (before ++ [(HandshakeType.encryptedExtensions, body)])

inductive FinishedPart (hellos : List Bytes) (sh : ServerHelloMsg) : List Hashed → Prop where
  | mk {before peer : List Hashed} {verifyData : Bytes}
    (start : ExtensionsPart given s hellos sh before)
      (authentic : PeerPart given s hellos sh before peer)
        (arrived : Arrived given HandshakeType.finished verifyData)
      (data : VerifyData P s.serverHSTraffic (before ++ peer) verifyData) :
      FinishedPart hellos sh (before ++ peer ++ [(HandshakeType.finished, verifyData)])

end

variable {P : Prims} {given : Handed}

/-- The evidence that a client in its phase has. -/
def Progress (given : Handed) (sent : List Bytes) (c : ClientHandshaker P) : Prop :=
  match c.phase with
  | .none => sent = [] ∧ c.transcript.messages = [] ∧ c.pskMode = false ∧
    c.clientFinishedSent = false
  | .afterClientHello => HelloPart given c.config sent c.transcript.messages ∧
      (∀ full, c.clientHello1Full = some full → sent = [full] ∧ WroteHello c.config full) ∧
      c.pskMode = false ∧ c.clientFinishedSent = false
  | .afterServerHello => ∃ sh, ServerHelloPart given (session c) sent sh c.transcript.messages ∧
      c.pskMode = selectsPSK sh ∧ c.clientFinishedSent = false
  | .afterEncryptedExtensions => ∃ sh,
    ExtensionsPart given (session c) sent sh c.transcript.messages ∧
      selectsPSK sh = false ∧ c.clientFinishedSent = false
  | .afterCertificate => ∃ sh before body leaf, ExtensionsPart given (session c) sent sh before ∧
      selectsPSK sh = false ∧ c.transcript.messages = before ++
        [(HandshakeType.certificate, body)] ∧
      VerifiedLeaf given c.config body leaf ∧ c.leafCert = some leaf ∧ c.clientFinishedSent = false
  | .afterCertificateVerify => ∃ sh before peer, ExtensionsPart given (session c) sent sh before ∧
      PeerPart given (session c) sent sh before peer ∧ c.transcript.messages = before ++ peer ∧
      c.clientFinishedSent = false
  | .afterServerFinished => ∃ hellos sh before own,
    FinishedPart given (session c) hellos sh before ∧
      OwnFinished (session c) before own ∧ c.transcript.messages = before ++ own ∧
      sent = hellos ++ own.map (fun m => frame m.1 m.2) ∧ (c.clientFinishedSent = true → own ≠ [])
  | .failed => c.clientFinishedSent = false

def Completed (c : ClientHandshaker P) : Prop :=
  c.phase = .afterServerFinished ∧ c.clientFinishedSent = true

/-- The whole transcript of a completed client and what it checked. The messages of the server are
those handed in, its own are exactly those sent. -/
def Authenticated (given : Handed) (sent : List Bytes) (c : ClientHandshaker P) : Prop :=
  ∃ hellos hello shBody sh eeBody peer verifyData own,
    let before := hello ++
      [(HandshakeType.serverHello, shBody), (HandshakeType.encryptedExtensions, eeBody)]
    c.transcript.messages = before ++ peer ++ [(HandshakeType.finished, verifyData)] ++ own ∧
    sent = hellos ++ own.map (fun m => frame m.1 m.2) ∧
    HelloPart given c.config hellos hello ∧
    AcceptedServerHello given (session c) hello shBody sh ∧
    ParsedExtensions given eeBody ∧
    PeerPart given (session c) hellos sh before peer ∧
    Arrived given HandshakeType.finished verifyData ∧
    VerifyData P c.keys.serverHSTraffic (before ++ peer) verifyData ∧
    OwnFinished (session c) (before ++ peer ++ [(HandshakeType.finished, verifyData)]) own ∧
      own ≠ []

variable {sent : List Bytes}

lemma Progress.authenticated (h : Progress given sent c) (hc : Completed c) :
    Authenticated given sent c := by
  obtain ⟨hphase, hdone⟩ := hc
  simp only [Progress, hphase] at h
  obtain ⟨hellos, sh, before, own, hfinished, hown, hmessages, hsent, hne⟩ := h
  obtain @⟨_, peer, verifyData, hext, hpeer, harrived, hdata⟩ := hfinished
  obtain @⟨_, eeBody, hstart, hee⟩ := hext
  obtain @⟨hello, shBody, hhello, haccepted⟩ := hstart
  refine ⟨hellos, hello, shBody, sh, eeBody, peer, verifyData, own, ?_, hsent, hhello, haccepted,
    hee, ?_, harrived, ?_, ?_, hne hdone⟩
  · simpa using hmessages
  · simpa using hpeer
  · simpa [session] using hdata
  · simpa using hown

variable {full : Bytes}

lemma buildClientHello_wrote
    (h : buildClientHello c rand cookie = .ok full) : WroteHello c.config full := by
  simp only [buildClientHello, bind_ok] at h
  obtain ⟨random, _, exts, _, h⟩ := h
  split at h
  · simp only [appendPreSharedKey, bind_ok, marshalHandshakeMessage_ok] at h
    obtain ⟨_, _, _, _, data, _, body, hbody, _, rfl⟩ := h
    rw [WroteHello, OffersPSK, frame_drop]
    exact ⟨rfl, fun _ => ⟨_, data, hbody, List.mem_append_right _ List.mem_cons_self⟩⟩
  · rename_i hpsk
    simp only [marshalHandshakeMessage_ok] at h
    obtain ⟨body, _, _, rfl⟩ := h
    rw [WroteHello, frame_drop, hpsk]
    exact ⟨rfl, fun hsome => nomatch hsome⟩

lemma HelloPart.offers (h : HelloPart given cfg sent hello)
    (hpsk : cfg.resumptionPSK.isSome = true) :
    ∃ full, sent.getLast? = some full ∧ OffersPSK full := by
  cases h with
  | direct wrote => exact ⟨_, rfl, wrote.2 hpsk⟩
  | retried _ _ _ wrote2 => exact ⟨_, rfl, wrote2.2 hpsk⟩

variable {b body : Bytes}

lemma readTyped_ok {α : Type} {name : String} {want : UInt8} {unmarshalBody : Bytes → Except Err α}
    {msg : α} (h : readTyped name want unmarshalBody b = .ok (body, msg)) :
    (∃ rest, b = frame want body ++ rest) ∧ unmarshalBody body = .ok msg := by
  simp only [readTyped, bind_ok, reject_ok, wrapErr_eq_ok, pure_inj, Prod.mk.injEq] at h
  obtain ⟨⟨typ, _, n⟩, hread, _, htyp, _, hmsg, rfl, rfl⟩ := h
  obtain rfl := Decidable.not_not.mp htyp
  exact ⟨⟨_, (readHandshakeMessage_ok hread).2.2⟩, hmsg⟩

lemma arrived_of_read {α : Type} {name : String} {want : UInt8}
    {unmarshalBody : Bytes → Except Err α} {msg : α} (hgiven : given.message want b)
    (h : readTyped name want unmarshalBody b = .ok (body, msg)) :
    Arrived given want body := by
  obtain ⟨⟨rest, rfl⟩, _⟩ := readTyped_ok h
  exact ⟨want, rest, hgiven, .inl rfl⟩

lemma readHelloRetryRequest_asks (h : readHelloRetryRequest hrr = .ok cookie) : AsksRetry hrr := by
  simp only [readHelloRetryRequest, bind_ok, reject_ok, wrapErr_eq_ok] at h
  obtain ⟨⟨typ, body, n⟩, hread, _, htyp, msg, hmsg, _, hrandom, _⟩ := h
  obtain rfl := Decidable.not_not.mp htyp
  exact ⟨body, _, msg, (readHandshakeMessage_ok hread).2.2, hmsg, Decidable.not_not.mp hrandom⟩

lemma findExtension_mem {exts : List Extension} (h : findExtension exts typ ≠ []) :
    ∃ data, ⟨typ, data⟩ ∈ exts := by
  induction exts with
  | nil => exact absurd rfl h
  | cons e es ih =>
    rw [findExtension] at h
    split at h
    · rename_i htyp
      exact ⟨e.data, htyp ▸ List.mem_cons_self⟩
    · obtain ⟨data, hdata⟩ := ih h
      exact ⟨data, List.mem_cons_of_mem e hdata⟩

lemma serverShare_ok (h : serverShare P ephemeral sh = .ok shared) :
    ∃ key pub, parseServerKeyShare (findExtension sh.extensions ExtensionType.keyShare) curveSM2 =
      .ok key ∧ P.unmarshalUncompressed key = .ok pub ∧ P.ecdh ephemeral pub = .ok shared := by
  simp only [serverShare, curveSM2ECDHE, bind_ok, wrapErr_eq_ok] at h
  obtain ⟨_, _, key, hkey, pub, hpub, hshared⟩ := h
  exact ⟨key, pub, hkey, hpub, hshared⟩

lemma readServerHello_accepted {s : Session P} (hgiven : given.message HandshakeType.serverHello b)
    (hread : readServerHello b = .ok (body, sh))
    (hoffered : selectsPSK sh = true → s.config.resumptionPSK.isSome = true)
    (hshare : serverShare P s.ephemeral sh = .ok shared)
    (hlevel : ∃ l : HandshakeLevel P (if selectsPSK sh then s.config.resumptionPSK.getD [] else [])
      shared (hashOf P (hello ++ [(HandshakeType.serverHello, body)])),
        s.serverHSTraffic = l.serverHSTraffic ∧ s.clientHSTraffic = l.clientHSTraffic) :
    AcceptedServerHello given s hello body sh := by
  simp only [readServerHello, bind_ok, reject_ok, pure_inj, Prod.mk.injEq] at hread
  obtain ⟨⟨_, _⟩, hread, _, hsuite, _, hrandom, _, hversion, rfl, rfl⟩ := hread
  obtain ⟨key, pub, hkey, hpub, hshared⟩ := serverShare_ok hshare
  exact ⟨arrived_of_read hgiven hread, (readTyped_ok hread).2, Decidable.not_not.mp hsuite,
    Decidable.not_not.mp hversion, hrandom, hoffered, key, pub, _, hkey, hpub, hshared, hlevel⟩

lemma verifyPeerChain_ok {cfg : ClientConfig P} {first : CertificateEntry}
    {rest : List CertificateEntry} (h : verifyPeerChain cfg leaf (first :: rest) = .ok ()) :
    (cfg.insecureSkipVerify = false → (cfg.roots ≠ none ∨ cfg.verifyPeerCertificate = none) →
      ∃ pool, P.verify leaf ⟨cfg.serverName, cfg.roots, pool⟩ = .ok () ∧
        ∀ cert ∈ pool.getD [], cert ∈ cfg.intermediates.getD [] ∨
          ∃ entry ∈ rest, P.parseCertificate entry.certificate = .ok cert) ∧
    ∀ callback, cfg.verifyPeerCertificate = some callback →
      callback ((first :: rest).map CertificateEntry.certificate) = .ok () := by
  constructor
  · intro hskip hroots
    have hpinning : cfg.pinning = false := by
      rcases hroots with hsome | hnone
      · simp [ClientConfig.pinning,
          Option.isNone_eq_false_iff.mpr (Option.isSome_iff_ne_none.mpr hsome)]
      · simp [ClientConfig.pinning, hnone]
    simp only [verifyPeerChain, hskip, hpinning, Bool.not_false, Bool.and_self, if_true, bind_ok,
      wrapErr_eq_ok] at h
    obtain ⟨_, hverify, _⟩ := h
    refine ⟨_, hverify, ?_⟩
    rw [List.tail_cons, chainIntermediates]
    split
    · exact fun cert hcert => absurd hcert List.not_mem_nil
    · intro cert hcert
      refine (List.mem_append.mp hcert).imp_right fun hsent => ?_
      obtain ⟨entry, hentry, hparsed⟩ := List.mem_filterMap.mp hsent
      exact ⟨entry, hentry, toOption_eq_some.mp hparsed⟩
  · intro callback hsome
    simp only [verifyPeerChain, hsome] at h
    split at h
    · simp only [bind_ok, wrapErr_eq_ok] at h
      obtain ⟨_, _, haccepted⟩ := h
      exact haccepted
    · rwa [wrapErr_eq_ok] at h

lemma readCertificate_verified (hgiven : given.message HandshakeType.certificate b)
    (h : readCertificate cfg b = .ok (body, leaf)) : VerifiedLeaf given cfg body leaf := by
  simp only [readCertificate, bind_ok, wrapErr_eq_ok] at h
  obtain ⟨⟨octet, body', n⟩, hread, msg, hmsg, h⟩ := h
  rcases hlist : msg.certificateList with _ | ⟨first, rest⟩
  · simp [hlist] at h
  · simp only [hlist, bind_ok, wrapErr_eq_ok, pure_inj, Prod.mk.injEq] at h
    obtain ⟨leaf', hleaf, _, hverify, rfl, rfl⟩ := h
    rw [(readHandshakeMessage_ok hread).2.2] at hgiven
    exact ⟨⟨octet, _, hgiven, .inr rfl⟩, msg, first, rest, hmsg, hlist, hleaf,
      verifyPeerChain_ok hverify⟩

lemma checkCertificateVerify_verified (hgiven : given.message HandshakeType.certificateVerify b)
    (h : checkCertificateVerify c b = .ok body) (hleaf : c.leafCert = some leaf) :
    VerifiedSignature given leaf c.transcript.messages body := by
  simp only [checkCertificateVerify, bind_ok, reject_ok, need_ok, pure_inj, hleaf,
    Option.bind_some] at h
  obtain ⟨⟨body', cv⟩, hread, _, hscheme, key, hkey, _, hverify, rfl⟩ := h
  exact ⟨arrived_of_read hgiven hread, cv, key,
    (readTyped_ok hread).2, by simpa using hscheme, hkey, (Bool.not_eq_false _).mp hverify⟩

lemma expectedVerifyData_ok {trafficSecret verifyData : Bytes} {before : List Hashed}
    (h : expectedVerifyData P trafficSecret (hashOf P before) = .ok verifyData) :
    VerifyData P trafficSecret before verifyData := by
  simp only [expectedVerifyData, deriveFinishedKey, hkdfExpandLabel, buildHKDFLabel,
    computeFinishedVerifyData, bind_ok, reject_ok, pure_inj] at h
  obtain ⟨key, ⟨_, _, _, _, _, ⟨_, _, _, _, rfl⟩, hkey⟩, _, _, rfl⟩ := h
  exact ⟨key, hkey, rfl⟩

lemma checkServerFinished_data {c : ClientHandshaker P}
    (hgiven : given.message HandshakeType.finished b) (h : checkServerFinished c b = .ok body) :
    Arrived given HandshakeType.finished body ∧
      VerifyData P c.keys.serverHSTraffic c.transcript.messages body := by
  simp only [checkServerFinished, bind_ok, reject_ok, pure_inj] at h
  obtain ⟨⟨body', fin⟩, hread, expected, hexpected, _, hsame, rfl⟩ := h
  refine ⟨arrived_of_read hgiven hread, expectedVerifyData_ok ?_⟩
  dsimp only at hsame ⊢
  rw [Decidable.not_not] at hsame
  rw [(FinishedMsg.unmarshalBody_ok.mp (readTyped_ok hread).2).2, ← hsame]
  exact hexpected

lemma buildClientFinished_data {c : ClientHandshaker P} (h : buildClientFinished c = .ok full) :
    full = frame HandshakeType.finished (full.drop 4) ∧
      VerifyData P c.keys.clientHSTraffic c.transcript.messages (full.drop 4) := by
  simp only [buildClientFinished, bind_ok, marshalHandshakeMessage_ok] at h
  obtain ⟨verifyData, hdata, body, hbody, _, rfl⟩ := h
  rw [frame_drop, (FinishedMsg.unmarshal_marshal hbody).2]
  exact ⟨rfl, expectedVerifyData_ok hdata⟩

/-- The level is indexed by the PSK. -/
lemma level_recast {psk psk' shared hash : Bytes} (h : psk = psk')
    (l : HandshakeLevel P psk shared hash) :
    ∃ l' : HandshakeLevel P psk' shared hash,
      l.serverHSTraffic = l'.serverHSTraffic ∧ l.clientHSTraffic = l'.clientHSTraffic := by
  subst h
  exact ⟨l, rfl, rfl⟩

lemma resetForHelloRetry_messages (h : 4 ≤ hrr.length) :
    (Transcript.resetForHelloRetry P hello1 hrr).messages =
      [(HandshakeType.messageHash, P.sm3 hello1), (HandshakeType.serverHello, hrr.drop 4)] := by
  rw [Transcript.resetForHelloRetry, if_neg (by omega)]

lemma ServerHelloPart.resumed {before : List Hashed} (h : ServerHelloPart given s sent sh messages)
    (hselected : selectsPSK sh = true) : PeerPart given s sent sh before [] := by
  cases h with
  | mk start accepted =>
    obtain ⟨full, hlast, hoffers⟩ := start.offers (accepted.offered hselected)
    obtain ⟨data, hdata⟩ := findExtension_mem (of_decide_eq_true hselected)
    exact .resumed hlast hoffers hdata

lemma Progress.sent_phase (h : Progress given sent c) (hdone : c.clientFinishedSent = true) :
    c.phase = .afterServerFinished := by
  cases hphase : c.phase <;> simp_all [Progress]

variable {ok : Bool} {after : List Bytes}

lemma effect_progress {c c' : ClientHandshaker P} (he : Effect given c sent ok c' after)
    (h : Progress given sent c) (hok : ok = true ∨ c.phase ≠ .afterClientHello) :
    Progress given after c' := by
  cases he with
  | refused => exact h
  | helloFailed hphase =>
    simp only [Progress, hphase] at h
    exact h.2.2.2
  | helloKeysFailed hphase full =>
    simp only [Progress, hphase] at h
    exact h.2.2.2
  | helloSent hphase hbuild early =>
    simp only [Progress, hphase] at h
    obtain ⟨rfl, hmessages, hmode, hdone⟩ := h
    have hwrote := buildClientHello_wrote hbuild
    refine ⟨?_, ?_, hmode, hdone⟩
    · simp only [sendClientHello, Transcript.addMessage_messages, hmessages, List.nil_append]
      exact .direct hwrote
    · intro full' hfull'
      obtain rfl := Option.some.inj hfull'
      exact ⟨rfl, hwrote⟩
  | shareRefused hphase => simp [hphase] at hok
  | serverHelloFailed hphase => simp [hphase] at hok
  | serverHelloAccepted hphase hgiven hread hoffered hshare l =>
    simp only [Progress, hphase] at h
    obtain ⟨hhello, _, hmode, hdone⟩ := h
    refine ⟨_, .mk hhello (readServerHello_accepted hgiven hread hoffered hshare ?_), ?_, hdone⟩
    · exact level_recast (by simp [session, ClientHandshaker.hash, hmode]) l
    · simp [hmode]
  | retryFailed hphase => simp [hphase] at hok
  | retrySent hphase handed hkept hread hbuild =>
    simp only [Progress, hphase] at h
    obtain ⟨_, hwrote, hmode, hdone⟩ := h
    obtain ⟨rfl, hwrote1⟩ := hwrote _ hkept
    have hwrote2 := buildClientHello_wrote hbuild
    refine ⟨?_, nofun, hmode, hdone⟩
    simp only [sendClientHello2, restartForHelloRetry, Transcript.addMessage_messages,
      resetForHelloRetry_messages (length_of_readHelloRetryRequest hread)]
    exact .retried hwrote1 handed (readHelloRetryRequest_asks hread) hwrote2
  | extensionsRefused hphase tp =>
    simp only [Progress, hphase] at h ⊢
    exact h
  | extensionsAccepted hphase hgiven hread tp proto =>
    simp only [Progress, hphase] at h
    obtain ⟨sh, hstart, hmode, hdone⟩ := h
    have hnext := ExtensionsPart.mk hstart ⟨arrived_of_read hgiven hread, _, (readTyped_ok hread).2⟩
    cases hselected : selectsPSK sh with
    | true =>
      simp only [Progress, acceptEncryptedExtensions, hmode, hselected, if_true,
        Transcript.addMessage_messages]
      exact ⟨sh, _, [], hnext, hstart.resumed hselected, by simp, hdone⟩
    | false =>
      simp only [Progress, acceptEncryptedExtensions, hmode, hselected, Bool.false_eq_true,
        if_false, Transcript.addMessage_messages]
      exact ⟨sh, hnext, hselected, hdone⟩
  | certificateAccepted hphase hgiven hread =>
    simp only [Progress, hphase] at h
    obtain ⟨sh, hstart, hmode, hdone⟩ := h
    exact ⟨sh, _, _, _, hstart, hmode, rfl, readCertificate_verified hgiven hread, rfl, hdone⟩
  | certificateVerifyAccepted hphase hgiven hcheck =>
    simp only [Progress, hphase] at h
    obtain ⟨sh, before, body, leaf, hstart, hdeclined, hmessages, hleaf, hcert, hdone⟩ := h
    have hsignature := checkCertificateVerify_verified hgiven hcheck hcert
    rw [hmessages] at hsignature
    refine ⟨sh, before, _, hstart, .certified hdeclined hleaf hsignature, ?_, hdone⟩
    simp [acceptCertificateVerify, hmessages]
  | finishedFailed hphase body keys =>
    simp only [Progress, hphase] at h
    obtain ⟨_, _, _, _, _, _, hdone⟩ := h
    exact hdone
  | finishedAccepted hphase hgiven hcheck l =>
    simp only [Progress, hphase] at h
    obtain ⟨sh, before, peer, hstart, hpeer, hmessages, hdone⟩ := h
    obtain ⟨harrived, hdata⟩ := checkServerFinished_data hgiven hcheck
    rw [hmessages] at hdata
    refine ⟨_, sh, _, [], .mk hstart hpeer harrived hdata, .none, ?_, by simp, ?_⟩
    · simp [ClientHandshaker.hash, hmessages]
    · intro hdone'
      cases hdone.symm.trans hdone'
  | ticketSeen hdone ok rms =>
    have hphase := h.sent_phase hdone
    simp only [Progress, hphase] at h ⊢
    exact h
  | earlyDiscarded => exact h

lemma effect_incomplete (he : Effect given c sent ok c' after)
    (hphase : c.phase = .afterClientHello) :
    c'.phase ≠ .afterServerFinished := by
  cases he <;> simp_all [restartForHelloRetry, sendClientHello2]

lemma effect_authenticated (he : Effect given c sent ok c' after) (h : Progress given sent c)
    (hc : Completed c') :
    Authenticated given after c' := by
  by_cases hphase : c.phase = .afterClientHello
  · exact absurd hc.1 (effect_incomplete he hphase)
  · exact (effect_progress he h (.inr hphase)).authenticated hc

lemma effect_completed (he : Effect given c sent ok c' after) (h : Completed c) : Completed c' := by
  obtain ⟨hphase, hdone, _⟩ := effect_after_finished he h.1
  exact ⟨hphase, hdone.trans h.2⟩

lemma sendClientFinished_progress {c : ClientHandshaker P} (h : Progress given sent c)
    (hphase : c.phase = .afterServerFinished) (hbuild : buildClientFinished c = .ok full) :
    Progress given (sent ++ [full]) (sendClientFinished c full) := by
  obtain ⟨hframe, hdata⟩ := buildClientFinished_data hbuild
  simp only [Progress, hphase] at h
  obtain ⟨hellos, sh, before, own, hfinished, hown, hmessages, rfl, _⟩ := h
  rw [hmessages] at hdata
  simp only [Progress, sendClientFinished, hphase, Transcript.addMessage_messages, hmessages]
  exact ⟨hellos, sh, before, _, hfinished, .more hown hdata, by simp, by simp [← hframe], by simp⟩

end Pollux.Authentication
