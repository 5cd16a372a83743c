import PolluxGM.HelloExchange

/-!
# Agreement of a relayed handshake

When every message reaches the other side unchanged and no step fails, client and server end with
the same transcript and the same secrets, in a full handshake as in a resumed one.
-/
namespace Pollux.Tls

variable {P : Prims}

variable {psk psk' shared shared' hash hash' : Bytes}

lemma level_same (l : HandshakeLevel P psk shared hash) (l' : HandshakeLevel P psk' shared' hash')
    (hpsk : psk = psk') (hshared : shared = shared') (hhash : hash = hash') :
    l.handshakeSecret = l'.handshakeSecret ∧ l.clientHSTraffic = l'.clientHSTraffic ∧
      l.serverHSTraffic = l'.serverHSTraffic ∧ l.clientKeys = l'.clientKeys ∧
        l.serverKeys = l'.serverKeys := by
  subst hpsk hshared hhash
  rw [l.unique l']
  exact ⟨rfl, rfl, rfl, rfl, rfl⟩

lemma application_same (l : ApplicationLevel P secret hash) (l' : ApplicationLevel P secret' hash')
    (hsecret : secret = secret') (hhash : hash = hash') :
    l.masterSecret = l'.masterSecret ∧ l.clientAPTraffic = l'.clientAPTraffic ∧
      l.serverAPTraffic = l'.serverAPTraffic ∧ l.clientKeys = l'.clientKeys ∧
        l.serverKeys = l'.serverKeys := by
  subst hsecret hhash
  rw [l.unique l']
  exact ⟨rfl, rfl, rfl, rfl, rfl⟩

lemma serverHello_selects (s : ServerHandshaker P) (random : Random) :
    selectsPSK (serverHelloMsg s random) = s.resumptionSelectedPSK.isSome := by
  unfold selectsPSK serverHelloMsg
  cases s.resumptionSelectedPSK with
  | none => rfl
  | some psk => rfl

variable {body body' : Bytes}

lemma readServerHello_frame (hversion : LegacyRange m.legacyVersion)
    (hwritten : m.marshalBody = .ok body) (hfits : body.length ≤ maxHandshakeMessageLen)
    (h : readServerHello (frame HandshakeType.serverHello body) = .ok (body', sh)) :
    body' = body ∧ sh = m := by
  simp only [readServerHello, bind_ok, pure_inj, Prod.mk.injEq, Prod.exists] at h
  obtain ⟨body₁, sh₁, hread, _, -, _, -, _, -, rfl, rfl⟩ := h
  obtain ⟨hback, rfl⟩ := (readTyped_frame hfits).mp hread
  rw [ServerHelloMsg.unmarshal_marshal hversion hwritten] at hback
  cases hback
  exact ⟨rfl, rfl⟩

variable {pub : P.PublicKey}

lemma curveSM2ECDHE_ok :
    curveSM2ECDHE P priv pub = .ok shared ↔ P.ecdh priv pub = .ok shared := wrapErr_eq_ok _ _ _

variable {s : ServerHandshaker P} {random : Random}

lemma serverShare_ok (hP : Lawful P)
    (h : serverShare P ephemeral (serverHelloMsg s random) = .ok shared) :
    P.ecdh ephemeral (P.publicOf s.ephemeral) = .ok shared := by
  have hfind : findExtension (serverHelloMsg s random).extensions ExtensionType.keyShare =
      marshalServerKeyShare curveSM2 (P.marshalUncompressed (P.publicOf s.ephemeral)) := rfl
  simp only [serverShare, bind_ok, reject_ok, wrapErr_eq_ok, hfind] at h
  obtain ⟨_, hne, keyBytes, hkey, pub, hpub, hshared⟩ := h
  rw [parseServerKeyShare_marshal _ _ hne] at hkey
  cases hkey
  rw [hP.unmarshal_marshal] at hpub
  cases hpub
  exact curveSM2ECDHE_ok.mp hshared

lemma serverECDHE_ok (hpub : s.clientPub = some pub) (h : serverECDHE s = .ok shared) :
    P.ecdh s.ephemeral pub = .ok shared := by
  simp only [serverECDHE, hpub, need_some, ok_bind] at h
  exact curveSM2ECDHE_ok.mp h

variable {cfg : ClientConfig P}

lemma readCertificate_frame (hfits : body.length ≤ maxHandshakeMessageLen)
    (h : readCertificate cfg (frame t body) = .ok (body', leaf)) : body' = body := by
  have hread := readHandshakeMessage_frame t body [] hfits
  rw [List.append_nil] at hread
  simp only [readCertificate, hread, wrapErr_ok, ok_bind, bind_ok] at h
  obtain ⟨msg, -, h⟩ := h
  split at h
  · cases h
  · obtain ⟨leaf', -, h⟩ := bind_ok.mp h
    obtain ⟨_, -, h⟩ := bind_ok.mp h
    cases h
    rfl

variable {sigRand : Bytes}

lemma certificates_same {psk : Option Bytes} {serverCert : P.Certificate} {serverKey : P.PrivateKey}
    {certificate certVerify : Bytes} {pskMode : Bool} {before signed signed' : Transcript}
    (hmode : pskMode = psk.isSome)
    (hsent : CertificatesSent psk serverCert serverKey sigRand before certificate certVerify signed)
    (hread : CertificatesRead cfg pskMode before certificate certVerify signed') :
    signed' = signed := by
  cases hsent with
  | resumed hsel =>
    cases hread with
    | resumed => rfl
    | certified hno => simp [hmode, hsel] at hno
  | certified hsel hwritten hfits hsigned hverify hverifyFits =>
    cases hread with
    | resumed hyes => simp [hmode, hsel] at hyes
    | certified hno hcert hcv =>
      obtain rfl := readCertificate_frame hfits hcert
      obtain ⟨-, rfl⟩ := (readTyped_frame hverifyFits).mp hcv
      rfl

variable {c : ClientHandshaker P}

lemma proto_same (hanswer : alpnAnswer s = .ok alpn)
    (hsettled : SettledProto c (answerExtensions s alpn) proto)
    (hnone : c.config.nextProtos = [] → s.negotiatedProto = []) (hfresh : c.negotiatedProto = []) :
    proto = s.negotiatedProto := by
  unfold SettledProto at hsettled
  split at hsettled
  · rename_i hnil
    rw [hsettled, hfresh, hnone hnil]
  · simp only [selectedALPN, findExtension_answer, bind_ok, reject_ok, wrapErr_eq_ok] at hsettled
    obtain ⟨_, hne, selected, hparse, hselected⟩ := hsettled
    obtain ⟨-, rfl⟩ | ⟨-, ext, hext, rfl⟩ := alpnAnswer_cases hanswer
    · exact absurd rfl hne
    · rw [show findExtension [⟨ExtensionType.alpn, ext⟩] ExtensionType.alpn = ext from rfl,
        hext] at hparse
      cases hparse
      simp only [bind_ok, pure_inj] at hselected
      obtain ⟨_, -, rfl⟩ := hselected
      rfl

def Both {α : Type} (a b : Option α) : Prop := ∃ x, a = some x ∧ b = some x

structure KeysAgree (k k' : Keys) : Prop where
  handshakeSecret : k.handshakeSecret = k'.handshakeSecret
  masterSecret : k.masterSecret = k'.masterSecret
  clientHSTraffic : k.clientHSTraffic = k'.clientHSTraffic
  serverHSTraffic : k.serverHSTraffic = k'.serverHSTraffic
  clientHandshakeTrafficSecret :
    k.secrets.clientHandshakeTrafficSecret = k'.secrets.clientHandshakeTrafficSecret
  serverHandshakeTrafficSecret :
    k.secrets.serverHandshakeTrafficSecret = k'.secrets.serverHandshakeTrafficSecret
  clientApplicationTrafficSecret :
    k.secrets.clientApplicationTrafficSecret = k'.secrets.clientApplicationTrafficSecret
  serverApplicationTrafficSecret :
    k.secrets.serverApplicationTrafficSecret = k'.secrets.serverApplicationTrafficSecret
  clientHandshakeKeys : Both k.secrets.clientHandshakeKeys k'.secrets.clientHandshakeKeys
  serverHandshakeKeys : Both k.secrets.serverHandshakeKeys k'.secrets.serverHandshakeKeys
  clientApplicationKeys : Both k.secrets.clientApplicationKeys k'.secrets.clientApplicationKeys
  serverApplicationKeys : Both k.secrets.serverApplicationKeys k'.secrets.serverApplicationKeys

lemma keysAgree_of_levels (k k' : Keys) (l : HandshakeLevel P psk shared hash)
    (l' : HandshakeLevel P psk' shared' hash') (a : ApplicationLevel P l.handshakeSecret hash₂)
    (a' : ApplicationLevel P l'.handshakeSecret hash₂') (hpsk : psk = psk')
    (hshared : shared = shared') (hhash : hash = hash') (hhash₂ : hash₂ = hash₂') :
    KeysAgree ((k.withHandshake l).withApplication a)
      ((k'.withHandshake l').withApplication a') := by
  obtain ⟨hs, hc, hsrv, hck, hsk⟩ := level_same l l' hpsk hshared hhash
  obtain ⟨hm, hca, hsa, hcak, hsak⟩ := application_same a a' hs hhash₂
  exact ⟨hs, hm, hc, hsrv, hc, hsrv, hca, hsa, ⟨l'.clientKeys, congrArg some hck, rfl⟩,
    ⟨l'.serverKeys, congrArg some hsk, rfl⟩, ⟨a'.clientKeys, congrArg some hcak, rfl⟩,
    ⟨a'.serverKeys, congrArg some hsak, rfl⟩⟩

structure FlightAgreed (c : ClientHandshaker P) (s : ServerHandshaker P) : Prop where
  transcript : c.transcript = s.transcript
  keys : KeysAgree c.keys s.keys
  pskMode : c.pskMode = s.resumptionSelectedPSK.isSome
  negotiatedProto : c.negotiatedProto = s.negotiatedProto
  early : ∀ k, s.keys.secrets.clientEarlyKeys = some k → c.keys.secrets.clientEarlyKeys = some k

lemma earlyPSK_same (hmode : c.pskMode = false)
    (hpsk : ∀ psk, s.resumptionSelectedPSK = some psk → c.config.resumptionPSK = some psk) :
    (if c.pskMode || selectsPSK (serverHelloMsg s random) then c.config.resumptionPSK.getD
      [] else []) = s.resumptionSelectedPSK.getD [] := by
  rw [hmode, serverHello_selects, Bool.false_or]
  cases hsel : s.resumptionSelectedPSK with
  | none => rfl
  | some psk => simp [hpsk psk hsel]

variable {c' : ClientHandshaker P} {s' : ServerHandshaker P} {f : Flight} {rand : Except Err Random}

lemma flight_agreed (hP : Lawful P) {ch : Bytes} (h : HelloAgreed c s ch)
    (hpsk : ∀ psk, s.resumptionSelectedPSK = some psk → c.config.resumptionPSK = some psk)
    (hsent : FlightSent s rand sigRand f s') (hread : FlightRead c f c') : FlightAgreed c' s' := by
  cases hsent with
  | @sent _ random hdrawn shBody shared hhello hhelloFits hshare level alpn eeBody hanswer hext
      hextFits certificate certVerify signed hcerts verifyData hexpected hsize app =>
  cases hread with
  | @accepted _ shBody' shared' sh hread hoffered hshare' level' eeBody' proto ee hreadExt hsettled
    signed' hcerts'
      finBody fin hreadFin hexpected' app' htranscript hkeys hmode hproto hphase hconfig =>
  obtain ⟨rfl, rfl⟩ := readServerHello_frame ⟨by show _ ≤ versionTLS12.toNat; decide,
    by show versionTLS12.toNat ≤ _; decide⟩ hhello hhelloFits hread
  obtain ⟨hback, rfl⟩ := (readTyped_frame hextFits).mp hreadExt
  rw [EncryptedExtensionsMsg.unmarshal_marshal hext] at hback
  cases hback
  have hmode' : (c.pskMode || selectsPSK (serverHelloMsg s random)) =
    s.resumptionSelectedPSK.isSome := by
    rw [h.pskMode, serverHello_selects, Bool.false_or]
  rw [h.transcript] at hcerts'
  obtain rfl := certificates_same hmode' hcerts hcerts'
  have hfinFits : verifyData.length ≤ maxHandshakeMessageLen := by
    rw [hsize]
    decide
  obtain ⟨-, rfl⟩ := (readTyped_frame hfinFits).mp hreadFin
  have hsecret : shared' = shared := by
    have hclient := serverShare_ok hP hshare'
    have hserver := serverECDHE_ok h.clientPub hshare
    rw [hP.ecdh_comm, hserver] at hclient
    cases hclient
    rfl
  have hhash : (c.transcript.addMessage HandshakeType.serverHello shBody').sum P =
      (s.transcript.addMessage HandshakeType.serverHello shBody').sum P := by rw [h.transcript]
  constructor
  · exact htranscript
  · rw [hkeys]
    exact keysAgree_of_levels c.keys s.keys level' level app' app
      (earlyPSK_same h.pskMode hpsk) hsecret hhash rfl
  · exact hmode.trans hmode'
  · obtain ⟨exts, proto', hnegotiated, hserverProto, hclientProto, hnone⟩ := h.proto
    rw [hproto]
    refine proto_same hanswer hsettled ?_ hclientProto
    intro hnil
    rw [hserverProto, hnone hnil]
    rfl
  · intro k hk
    obtain ⟨psk, psk', k', hconfigPSK, hselected, hk', hderived, hderived'⟩ := h.early k hk
    rw [hpsk psk' hselected] at hconfigPSK
    cases hconfigPSK
    rw [h.transcript, hderived'] at hderived
    cases hderived
    rw [hkeys]
    exact hk'

structure Agreed (c : ClientHandshaker P) (s : ServerHandshaker P) : Prop where
  transcript : c.transcript.bytes = s.transcript.bytes
  keys : KeysAgree c.keys s.keys
  pskMode : c.pskMode = s.resumptionSelectedPSK.isSome
  negotiatedProto : c.negotiatedProto = s.negotiatedProto
  early : ∀ k, s.keys.secrets.clientEarlyKeys = some k → c.keys.secrets.clientEarlyKeys = some k
  resumption : deriveResumptionMasterSecret P c.keys.masterSecret (c.transcript.sum P) =
    .ok s.keys.resumptionMasterSecret

variable {cb : Callbacks} {r : RelayRandom} {m : Relayed P}

lemma relay_ok (h : relay c s cb r = .ok m) :
    ∃ c₁ s₁ s₂ c₂, clientHello c r.clientHello = (.ok m.clientHello, c₁) ∧
      handleClientHello s m.clientHello cb = (.ok (), s₁) ∧
      serverFlight s₁ r.serverHello r.signature = (.ok m.flight, s₂) ∧
      handleServerFlight c₁ m.flight.serverHello m.flight.encryptedExt m.flight.certificate
        m.flight.certVerify m.flight.finished = (.ok (), c₂) ∧
      clientFinished c₂ = (.ok m.clientFinished, m.client) ∧
      handleClientFinished s₂ m.clientFinished = (.ok (), m.server) := by
  simp only [relay, bind_ok, settle_eq_ok, pure_inj, Prod.exists] at h
  obtain ⟨ch, c₁, h₁, _, s₁, h₂, f, s₂, h₃, _, c₂, h₄, cf, c₃, h₅, _, s₃, h₆, rfl⟩ := h
  exact ⟨c₁, s₁, s₂, c₂, h₁, h₂, h₃, h₄, h₅, h₆⟩

lemma clientFinished_ok (h : clientFinished c = (.ok full, c')) :
    ∃ verifyData, expectedVerifyData P c.keys.clientHSTraffic (c.transcript.sum P) =
      .ok verifyData ∧
      verifyData.length = sm3Size ∧ full = frame HandshakeType.finished verifyData ∧
      c' = sendClientFinished c full := by
  rcases clientFinished_cases c with ⟨e, he⟩ | ⟨-, full', hbuild, hfinished⟩
  · rw [he] at h
    cases congrArg Prod.fst h
  · rw [hfinished] at h
    cases h
    simp only [buildClientFinished, bind_ok] at hbuild
    obtain ⟨verifyData, hexpected, hfull⟩ := hbuild
    obtain ⟨body, hbody, -, rfl⟩ := marshalHandshakeMessage_ok.mp hfull
    obtain ⟨hsize, rfl⟩ := finished_body.mp hbody
    exact ⟨body, hexpected, hsize, rfl, rfl⟩

lemma checkClientFinished_frame (hsize : verifyData.length = sm3Size)
    (h : checkClientFinished s (frame HandshakeType.finished verifyData) = .ok body) :
    body = verifyData := by
  have hread := readHandshakeMessage_frame HandshakeType.finished verifyData []
    (by rw [hsize]; decide)
  rw [List.append_nil] at hread
  simp only [checkClientFinished, hread, wrapErr_ok, ok_bind, bind_ok, pure_inj] at h
  obtain ⟨_, -, _, -, _, -, _, -, rfl⟩ := h
  rfl

variable {cf : Bytes}

lemma finished_agreed (h : FlightAgreed c s) (hsent : clientFinished c = (.ok cf, c'))
    (hread : handleClientFinished s cf = (.ok (), s')) : Agreed c' s' := by
  obtain ⟨verifyData, -, hsize, rfl, rfl⟩ := clientFinished_ok hsent
  obtain ⟨-, body, rms, hcheck, hrms, rfl⟩ := handleClientFinished_ok hread
  obtain rfl := checkClientFinished_frame hsize hcheck
  have htranscript : (sendClientFinished c (frame HandshakeType.finished body)).transcript =
      (s.hash HandshakeType.finished body).transcript :=
    congrArg (fun t => t.addMessage HandshakeType.finished body) h.transcript
  constructor
  · exact congrArg Transcript.bytes htranscript
  · exact ⟨h.keys.handshakeSecret, h.keys.masterSecret, h.keys.clientHSTraffic,
      h.keys.serverHSTraffic,
      h.keys.clientHandshakeTrafficSecret, h.keys.serverHandshakeTrafficSecret,
        h.keys.clientApplicationTrafficSecret,
      h.keys.serverApplicationTrafficSecret, h.keys.clientHandshakeKeys, h.keys.serverHandshakeKeys,
      h.keys.clientApplicationKeys, h.keys.serverApplicationKeys⟩
  · exact h.pskMode
  · exact h.negotiatedProto
  · exact h.early
  · rw [htranscript, ← hrms]
    exact congrArg (fun secret => deriveResumptionMasterSecret P secret _) h.keys.masterSecret

/-- The selected PSK is the offered one, unless two PSKs give the hello the same binder. -/
def BinderIdentifies (P : Prims) (offered selected : Option Bytes) (ch : Bytes) : Prop :=
  ∀ psk psk', offered = some psk → selected = some psk' → SharesBinder P ch psk psk' → psk = psk'

lemma relay_selected (hflight : serverFlight s₁ rand sigRand = (.ok f, s₂))
    (hlast : handleClientFinished s₂ cf = (.ok (), s₃)) :
    s₃.resumptionSelectedPSK = s₁.resumptionSelectedPSK := by
  obtain ⟨-, body, rms, -, -, rfl⟩ := handleClientFinished_ok hlast
  exact (serverFlight_sent hflight).selectedPSK

lemma relay_agreed (hP : Lawful P) (hc : Fresh cfg c) (hs : FreshServer s)
    (hrelay : relay c s cb r = .ok m)
    (hbinder : BinderIdentifies P cfg.resumptionPSK m.server.resumptionSelectedPSK m.clientHello) :
    Agreed m.client m.server := by
  obtain ⟨c₁, s₁, s₂, c₂, hhello, haccepted, hflight, hread, hfinished, hlast⟩ := relay_ok hrelay
  have hagreed := hello_agreed hP hc hs hhello haccepted
  have hsent := serverFlight_sent hflight
  have hconfig : c₁.config = cfg := by
    obtain ⟨-, -, -, -, -, -, -, -, rfl⟩ := clientHello_sent hhello
    exact hc.config
  have hselected := relay_selected hflight hlast
  have hpsk : ∀ psk, s₁.resumptionSelectedPSK = some psk → c₁.config.resumptionPSK = some psk := by
    intro psk' hsel
    obtain ⟨psk, hoffered, hshares⟩ := hagreed.psk psk' hsel
    rw [hconfig] at hoffered
    have hsame := hbinder psk psk' hoffered (hselected.trans hsel) hshares
    rw [hconfig, hoffered, hsame]
  exact finished_agreed (flight_agreed hP hagreed hpsk hsent (handleServerFlight_read hread))
    hfinished hlast

/-- The client's PSK is the one sealed in the ticket it was given. -/
lemma ticket_agreed (hP : Lawful P) (h : Agreed c s)
    (hissued : newSessionTicketWithData s lifetime appData teks tr = .ok nst)
    (hhandled : handleNewSessionTicket c (nst.drop 4) = (.ok t, c'))
    (hnewer : ∀ key ∈ newer, tryTicketKey P ((t.identity.drop 1).take 12) (t.identity.drop 13) key =
      none)
    :
    decryptSessionTicketWithData P (newer ++ teks) t.identity = .ok ⟨t.psk, t.ageAdd, appData⟩ := by
  simp only [newSessionTicketWithData, bind_ok, reject_ok, wrapErr_eq_ok, need_ok] at hissued
  obtain ⟨_, -, _, -, nonce, -, ageAdd, -, psk, hpsk, tek, htek, ticket, hsealed, hframed⟩ :=
    hissued
  obtain ⟨body, hbody, -, rfl⟩ := marshalHandshakeMessage_ok.mp hframed
  obtain ⟨-, msg, rms, hmsg, hrms, hclient, hidentity, hage, -⟩ :=
    handleNewSessionTicket_ok hhandled
  rw [frame_drop, NewSessionTicketMsg.unmarshal_marshal hbody] at hmsg
  cases hmsg
  rw [h.resumption] at hrms
  cases hrms
  rw [hpsk] at hclient
  cases hclient
  obtain ⟨older, rfl⟩ : ∃ older, teks = tek :: older := by
    cases teks with
    | nil => cases htek
    | cons first older =>
      cases htek
      exact ⟨older, rfl⟩
  rw [hidentity] at hnewer ⊢
  rw [hage]
  exact decrypt_encrypt hP hsealed hnewer

/-- In every relayed handshake that succeeds both sides agree, and a ticket issued afterwards
carries the PSK the client derives from it. -/
theorem handshake_agreement (hP : Lawful P) {ccfg : ClientConfig P} {scfg : ServerConfig P}
    {ckey skey : Except Err P.PrivateKey} {c : ClientHandshaker P} {s : ServerHandshaker P}
    (hc : newClientHandshakerWithConfig ccfg ckey = .ok c)
    (hs : newServerHandshakerWithConfig scfg skey = .ok s) {cb : Callbacks} {r : RelayRandom}
    {m : Relayed P} (hrelay : relay c s cb r = .ok m)
    (hbinder : BinderIdentifies P ccfg.resumptionPSK m.server.resumptionSelectedPSK m.clientHello) :
    Agreed m.client m.server ∧
    ∀ lifetime appData teks tr nst c' t,
      newSessionTicketWithData m.server lifetime appData teks tr = .ok nst →
      handleNewSessionTicket m.client (nst.drop 4) = (.ok t, c') → ∀ newer : List Bytes,
      (∀ key ∈ newer, tryTicketKey P ((t.identity.drop 1).take 12) (t.identity.drop 13) key = none)
        →
      decryptSessionTicketWithData P (newer ++ teks) t.identity =
        .ok ⟨t.psk, t.ageAdd, appData⟩ := by
  have hagreed := relay_agreed hP (newClientHandshaker_fresh hc) (newServerHandshaker_fresh hs)
    hrelay hbinder
  refine ⟨hagreed, ?_⟩
  intro lifetime appData teks tr nst c' t hissued hhandled newer hnewer
  exact ticket_agreed hP hagreed hissued hhandled hnewer

def sampleResumed : Relayed toyPrims :=
  okValue (relay sampleResumer sampleServer resumingCallbacks sampleRandom) (by decide +kernel)

def resumedTicket : Bytes :=
  okValue (newSessionTicketWithData sampleResumed.server 3600 [] [zeros 16] sampleTicketRandom)
    (by decide +kernel)

def resumedSession : SessionTicket :=
  okValue (handleNewSessionTicket sampleResumed.client (resumedTicket.drop 4)).1 (by decide +kernel)

theorem handshake_agreement_sample :
    sampleResumed.client.pskMode = true ∧ Agreed sampleResumed.client sampleResumed.server ∧
      decryptSessionTicketWithData toyPrims [zeros 16] resumedSession.identity =
        .ok ⟨resumedSession.psk, resumedSession.ageAdd, []⟩ := by
  have hc : newClientHandshakerWithConfig sampleResumingConfig (.ok (5 : UInt8)) =
    .ok sampleResumer := eq_okValue _ _
  have hs : newServerHandshakerWithConfig sampleServerConfig (.ok (6 : UInt8)) = .ok sampleServer :=
    eq_okValue _ _
  have hrelay : relay sampleResumer sampleServer resumingCallbacks sampleRandom =
    .ok sampleResumed := eq_okValue _ _
  have hbinder : BinderIdentifies toyPrims sampleResumingConfig.resumptionPSK
      sampleResumed.server.resumptionSelectedPSK sampleResumed.clientHello := by
    intro psk psk' hoffered hselected _
    have hsame : sampleResumed.server.resumptionSelectedPSK =
      sampleResumingConfig.resumptionPSK := by
      decide +kernel
    exact Option.some.inj (hoffered.symm.trans (hsame.symm.trans hselected))
  obtain ⟨hagreed, hticket⟩ := handshake_agreement toyPrims_lawful hc hs hrelay hbinder
  refine ⟨by decide +kernel, hagreed, ?_⟩
  exact hticket 3600 [] [zeros 16] sampleTicketRandom resumedTicket _ resumedSession
    (eq_okValue _ _) (eq_of_fst_ok (eq_okValue _ _)) [] (by simp)

end Pollux.Tls
