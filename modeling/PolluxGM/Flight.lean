import PolluxGM.Relay
import PolluxGM.ClientSteps

/-!
# The server flight, written and read

A flight that was sent, and a flight that was accepted, are described by the
messages, the two key levels and the state that is left. Agreement between the
two sides is proved from the descriptions alone.
-/
namespace Pollux.Tls

variable {P : Prims}

def transportExtension : Option Bytes → List Extension
  | none => []
  | some tp => [⟨ExtensionType.quicTransportParams, tp⟩]

def answerExtensions (s : ServerHandshaker P) (alpn : List Extension) : List Extension :=
  transportExtension s.config.transportParameters ++ alpn ++
    if s.keys.secrets.clientEarlyKeys.isSome then [⟨ExtensionType.earlyData, []⟩] else []

/-- The certificate messages and the transcript through them; none with a PSK. -/
inductive CertificatesSent (psk : Option Bytes) (serverCert : P.Certificate)
    (serverKey : P.PrivateKey) (sigRand : Bytes) (before : Transcript) :
    Bytes → Bytes → Transcript → Prop where
  | resumed (selected : psk.isSome = true) :
    CertificatesSent psk serverCert serverKey sigRand before [] [] before
  | certified (selected : psk.isSome = false) {certBody sig cvBody : Bytes}
      (written : CertificateMsg.marshalBody ⟨[], [⟨P.certRaw serverCert, []⟩]⟩ = .ok certBody)
      (certFits : certBody.length ≤ maxHandshakeMessageLen)
      (signed : signCertificateVerify P sigRand serverKey serverCertificateVerifyContext
        ((before.addMessage HandshakeType.certificate certBody).sum P) = .ok sig)
      (verify : CertificateVerifyMsg.marshalBody ⟨sm2SigSM3, sig⟩ = .ok cvBody)
      (verifyFits : cvBody.length ≤ maxHandshakeMessageLen) :
      CertificatesSent psk serverCert serverKey sigRand before
        (frame HandshakeType.certificate certBody) (frame HandshakeType.certificateVerify cvBody)
        ((before.addMessage HandshakeType.certificate certBody).addMessage
          HandshakeType.certificateVerify cvBody)

inductive FlightSent (s : ServerHandshaker P) (rand : Except Err Random) (sigRand : Bytes) :
    Flight → ServerHandshaker P → Prop where
  | sent (phase : s.phase = .afterClientHello) {random : Random} (drawn : rand = .ok random)
      {shBody shared : Bytes} (hello : (serverHelloMsg s random).marshalBody = .ok shBody)
      (helloFits : shBody.length ≤ maxHandshakeMessageLen) (share : serverECDHE s = .ok shared)
      (level : HandshakeLevel P (s.resumptionSelectedPSK.getD []) shared
        ((s.transcript.addMessage HandshakeType.serverHello shBody).sum P))
      {alpn : List Extension} {eeBody : Bytes} (answer : alpnAnswer s = .ok alpn)
      (extensions : EncryptedExtensionsMsg.marshalBody ⟨answerExtensions s alpn⟩ = .ok eeBody)
      (extensionsFit : eeBody.length ≤ maxHandshakeMessageLen) {certificate certVerify : Bytes}
      {signed : Transcript}
      (certificates : CertificatesSent s.resumptionSelectedPSK s.serverCert s.serverKey sigRand
        ((s.transcript.addMessage HandshakeType.serverHello shBody).addMessage
          HandshakeType.encryptedExtensions eeBody) certificate certVerify signed)
      {verifyData : Bytes} (expected : expectedVerifyData P level.serverHSTraffic (signed.sum P) =
        .ok verifyData)
      (size : verifyData.length = sm3Size)
      (app : ApplicationLevel P level.handshakeSecret
        ((signed.addMessage HandshakeType.finished verifyData).sum P)) :
      FlightSent s rand sigRand
        ⟨frame HandshakeType.serverHello shBody, frame HandshakeType.encryptedExtensions eeBody,
          certificate, certVerify, frame HandshakeType.finished verifyData⟩
        { s with
          transcript := signed.addMessage HandshakeType.finished verifyData
          keys := (s.keys.withHandshake level).withApplication app
          acceptedEarlyData := s.acceptedEarlyData || s.keys.secrets.clientEarlyKeys.isSome
          phase := .afterFlight }

variable {s s' : ServerHandshaker P} {rand : Except Err Random} {sigRand : Bytes} {f : Flight}

lemma FlightSent.selectedPSK (h : FlightSent s rand sigRand f s') :
    s'.resumptionSelectedPSK = s.resumptionSelectedPSK := by
  cases h
  rfl

lemma FlightSent.earlyKeys (h : FlightSent s rand sigRand f s') :
    s'.keys.secrets.clientEarlyKeys = s.keys.secrets.clientEarlyKeys := by
  cases h
  rfl

variable {t : UInt8} {x : Except Err Bytes} {full : Bytes}

lemma emit_ok : s.emit t x = (.ok full, s') ↔
    ∃ body, x = .ok body ∧ body.length ≤ maxHandshakeMessageLen ∧ full = frame t body ∧
      s' = s.hash t body := by
  constructor
  · fun_cases ServerHandshaker.emit s t x with
    | case1 => nofun
    | case2 _ hfull =>
      obtain ⟨body, hx, hfits, rfl⟩ := marshalHandshakeMessage_ok.mp hfull
      rintro ⟨⟩
      exact ⟨body, hx, hfits, rfl, rfl⟩
  · rintro ⟨body, hx, hfits, rfl, rfl⟩
    simp only [ServerHandshaker.emit, marshalHandshakeMessage_ok.mpr ⟨body, hx, hfits, rfl⟩,
      frame_drop]

variable {body : Bytes}

lemma finished_body :
    FinishedMsg.marshalBody ⟨verifyData⟩ = .ok body ↔ verifyData.length = sm3Size ∧
      body = verifyData := by
  simp only [FinishedMsg.marshalBody, bind_ok, reject_ok, pure_inj]
  constructor
  · rintro ⟨_, hsize, rfl⟩
    exact ⟨Decidable.not_not.mp hsize, rfl⟩
  · rintro ⟨hsize, rfl⟩
    exact ⟨(), not_not.mpr hsize, rfl⟩

lemma emitCertificate_ok : emitCertificate s sigRand = (.ok (certificate, certVerify), s') ↔
    ∃ signed, CertificatesSent s.resumptionSelectedPSK s.serverCert s.serverKey sigRand s.transcript
      certificate certVerify signed ∧ s' = { s with transcript := signed } := by
  constructor
  · intro h
    unfold emitCertificate at h
    split at h
    · rename_i hsel
      cases h
      exact ⟨s.transcript, .resumed hsel, rfl⟩
    · rename_i hsel
      obtain ⟨certificate, s₁, hcert, h⟩ := andThen_eq_ok.mp h
      obtain ⟨certBody, hwritten, hfits, rfl, rfl⟩ := emit_ok.mp hcert
      split at h
      · cases congrArg Prod.fst h
      · rename_i sig hsig
        obtain ⟨certVerify, s₂, hverify, h⟩ := andThen_eq_ok.mp h
        obtain ⟨cvBody, hcv, hcvFits, rfl, rfl⟩ := emit_ok.mp hverify
        cases h
        exact ⟨_, .certified (by simpa using hsel) hwritten hfits hsig hcv hcvFits, rfl⟩
  · rintro ⟨signed, hsent, rfl⟩
    cases hsent with
    | resumed hsel => rw [emitCertificate, if_pos hsel]
    | @certified hsel certBody sig _ hwritten hfits hsig hcv hcvFits =>
      have hsigned : signCertificateVerify P sigRand
        (s.hash HandshakeType.certificate certBody).serverKey
          serverCertificateVerifyContext
            ((s.hash HandshakeType.certificate certBody).transcript.sum P) = .ok sig := hsig
      rw [emitCertificate, if_neg (Bool.eq_false_iff.mp hsel),
        emit_ok.mpr ⟨_, hwritten, hfits, rfl, rfl⟩, andThen_ok, hsigned]
      exact andThen_eq_ok.mpr ⟨_, _, emit_ok.mpr ⟨_, hcv, hcvFits, rfl, rfl⟩, rfl⟩

lemma deriveServerHandshake_ok : deriveServerHandshake s = (.ok (), s') ↔
    ∃ shared, serverECDHE s = .ok shared ∧ ∃ level :
      HandshakeLevel P (s.resumptionSelectedPSK.getD []) shared
      (s.transcript.sum P), s' = { s with keys := s.keys.withHandshake level } := by
  constructor
  · fun_cases deriveServerHandshake s with
    | case3 shared hshared keys hkeys =>
      obtain ⟨level, rfl⟩ := deriveHandshake_ok hkeys
      rintro ⟨⟩
      exact ⟨shared, hshared, level, rfl⟩
    | _ => nofun
  · rintro ⟨shared, hshared, level, rfl⟩
    simp only [deriveServerHandshake, hshared, deriveHandshake_of_level s.keys level]

lemma emitEncryptedExtensions_ok : emitEncryptedExtensions s = (.ok full, s') ↔
    ∃ alpn body, alpnAnswer s = .ok alpn ∧
      EncryptedExtensionsMsg.marshalBody ⟨answerExtensions s alpn⟩ = .ok body ∧
      body.length ≤ maxHandshakeMessageLen ∧ full = frame HandshakeType.encryptedExtensions body ∧
      s' = { s.hash HandshakeType.encryptedExtensions body with
        acceptedEarlyData := s.acceptedEarlyData || s.keys.secrets.clientEarlyKeys.isSome } := by
  constructor
  · fun_cases emitEncryptedExtensions s with
    | case1 => nofun
    | case2 alpn halpn =>
      intro h
      obtain ⟨body, hbody, hfits, rfl, rfl⟩ := emit_ok.mp h
      exact ⟨alpn, body, halpn, hbody, hfits, rfl, rfl⟩
  · rintro ⟨alpn, body, halpn, hbody, hfits, rfl, rfl⟩
    simp only [emitEncryptedExtensions, halpn]
    exact emit_ok.mpr ⟨body, hbody, hfits, rfl, rfl⟩

lemma emitServerFinished_ok : emitServerFinished s = (.ok full, s') ↔
    ∃ verifyData, expectedVerifyData P s.keys.serverHSTraffic (s.transcript.sum P) =
      .ok verifyData ∧
      verifyData.length = sm3Size ∧ full = frame HandshakeType.finished verifyData ∧
      s' = s.hash HandshakeType.finished verifyData := by
  constructor
  · fun_cases emitServerFinished s with
    | case1 => nofun
    | case2 verifyData hverify =>
      intro h
      obtain ⟨body, hbody, -, rfl, rfl⟩ := emit_ok.mp h
      obtain ⟨hsize, rfl⟩ := finished_body.mp hbody
      exact ⟨body, hverify, hsize, rfl, rfl⟩
  · rintro ⟨verifyData, hverify, hsize, rfl, rfl⟩
    simp only [emitServerFinished, hverify]
    exact emit_ok.mpr ⟨verifyData, finished_body.mpr ⟨hsize, rfl⟩, by rw [hsize]; decide, rfl, rfl⟩

lemma deriveServerApplication_ok : deriveServerApplication s = (.ok (), s') ↔
    ∃ app : ApplicationLevel P s.keys.handshakeSecret (s.transcript.sum P),
      s' = { s with keys := s.keys.withApplication app, phase := .afterFlight } := by
  constructor
  · fun_cases deriveServerApplication s with
    | case1 => nofun
    | case2 keys hkeys =>
      obtain ⟨app, rfl⟩ := deriveApplication_ok hkeys
      rintro ⟨⟩
      exact ⟨app, rfl⟩
  · rintro ⟨app, rfl⟩
    simp only [deriveServerApplication, deriveApplication_of_level s.keys app]

lemma serverFlight_sent (h : serverFlight s rand sigRand = (.ok f, s')) :
    FlightSent s rand sigRand f s' := by
  unfold serverFlight at h
  split at h
  · cases congrArg Prod.fst h
  rename_i hphase
  simp only [andThen_eq_ok] at h
  obtain ⟨serverHello, s₁, hhello, _, s₂, hkeys, ee, s₃, hee,
    ⟨cert, cv⟩, s₄, hcert, fin, s₅, hfin, _, s₆, happ, hend⟩ := h
  unfold emitServerHello at hhello
  split at hhello
  · cases congrArg Prod.fst hhello
  rename_i random
  obtain ⟨shBody, hsh, hshFits, rfl, rfl⟩ := emit_ok.mp hhello
  obtain ⟨shared, hshared, level, rfl⟩ := deriveServerHandshake_ok.mp hkeys
  obtain ⟨alpn, eeBody, halpn, heeBody, heeFits, rfl, rfl⟩ := emitEncryptedExtensions_ok.mp hee
  obtain ⟨signed, hcerts, rfl⟩ := emitCertificate_ok.mp hcert
  obtain ⟨verifyData, hexpected, hsize, rfl, rfl⟩ := emitServerFinished_ok.mp hfin
  obtain ⟨app, rfl⟩ := deriveServerApplication_ok.mp happ
  cases hend
  exact .sent (Decidable.not_not.mp hphase) rfl hsh hshFits hshared level halpn heeBody heeFits
    hcerts hexpected hsize app

lemma FlightSent.sends (h : FlightSent s rand sigRand f s') :
    serverFlight s rand sigRand = (.ok f, s') := by
  cases h with
  | sent hphase hdrawn hhello hhelloFits hshare level hanswer hext hextFits hcerts hexpected hsize
    app =>
  subst hdrawn
  rw [serverFlight, if_neg (not_not.mpr hphase)]
  simp only [andThen_eq_ok]
  exact ⟨_, _, emit_ok.mpr ⟨_, hhello, hhelloFits, rfl, rfl⟩, _, _,
    deriveServerHandshake_ok.mpr ⟨_, hshare, level, rfl⟩,
    _, _, emitEncryptedExtensions_ok.mpr ⟨_, _, hanswer, hext, hextFits, rfl, rfl⟩,
    _, _, emitCertificate_ok.mpr ⟨_, hcerts, rfl⟩, _, _,
      emitServerFinished_ok.mpr ⟨_, hexpected, hsize, rfl, rfl⟩,
    _, _, deriveServerApplication_ok.mpr ⟨app, rfl⟩, rfl⟩

inductive CertificatesRead (cfg : ClientConfig P) (pskMode : Bool) (before : Transcript)
    (certificate certVerify : Bytes) :
    Transcript → Prop where
  | resumed (mode : pskMode = true) :
    CertificatesRead cfg pskMode before certificate certVerify before
  | certified (mode : pskMode = false) {certBody cvBody : Bytes} {leaf : P.Certificate}
    {cv : CertificateVerifyMsg}
      {key : P.PublicKey} (read : readCertificate cfg certificate = .ok (certBody, leaf))
      (readVerify : readTyped "CertificateVerify" HandshakeType.certificateVerify
        CertificateVerifyMsg.unmarshalBody certVerify = .ok (cvBody, cv))
      (scheme : cv.signatureScheme = sm2SigSM3) (leafKey : P.certPublicKey leaf = some key)
      (verified : verifyCertificateVerify P key serverCertificateVerifyContext
        ((before.addMessage HandshakeType.certificate certBody).sum P) cv.signature = true) :
      CertificatesRead cfg pskMode before certificate certVerify
        ((before.addMessage HandshakeType.certificate certBody).addMessage
          HandshakeType.certificateVerify cvBody)

def SettledProto (c : ClientHandshaker P) (exts : List Extension) (proto : Bytes) : Prop :=
  if c.config.nextProtos = [] then proto = c.negotiatedProto
  else selectedALPN c.config.nextProtos exts = .ok proto

inductive FlightRead (c : ClientHandshaker P) (f : Flight) (c' : ClientHandshaker P) : Prop where
  | accepted (phase : c.phase = .afterClientHello) {shBody shared : Bytes} {sh : ServerHelloMsg}
      (read : readServerHello f.serverHello = .ok (shBody, sh))
      (offered : selectsPSK sh = true → c.config.resumptionPSK.isSome = true)
      (share : serverShare P c.ephemeral sh = .ok shared)
      (level : HandshakeLevel P
        (if c.pskMode || selectsPSK sh then c.config.resumptionPSK.getD [] else []) shared
        ((c.transcript.addMessage HandshakeType.serverHello shBody).sum P))
      {eeBody proto : Bytes} {ee : EncryptedExtensionsMsg}
      (readExtensions : readTyped "EncryptedExtensions" HandshakeType.encryptedExtensions
        EncryptedExtensionsMsg.unmarshalBody f.encryptedExt = .ok (eeBody, ee))
      (settled : SettledProto c ee.extensions proto) {signed : Transcript}
      (certificates : CertificatesRead c.config (c.pskMode || selectsPSK sh)
        ((c.transcript.addMessage HandshakeType.serverHello shBody).addMessage
          HandshakeType.encryptedExtensions eeBody) f.certificate f.certVerify signed)
      {finBody : Bytes} {fin : FinishedMsg}
      (readFinished : readTyped "Finished" HandshakeType.finished FinishedMsg.unmarshalBody
        f.finished = .ok (finBody, fin))
      (expected : expectedVerifyData P level.serverHSTraffic (signed.sum P) = .ok fin.verifyData)
      (app : ApplicationLevel P level.handshakeSecret
        ((signed.addMessage HandshakeType.finished finBody).sum P))
      (transcript : c'.transcript = signed.addMessage HandshakeType.finished finBody)
      (keys : c'.keys = (c.keys.withHandshake level).withApplication app)
      (pskMode : c'.pskMode = (c.pskMode || selectsPSK sh))
        (negotiatedProto : c'.negotiatedProto = proto)
      (phase' : c'.phase = .afterServerFinished) (config : c'.config = c.config) : FlightRead c f c'

variable {c c' : ClientHandshaker P} {b : Bytes}

lemma acceptServerHello_of_level (c : ClientHandshaker P)
    (level : HandshakeLevel P c.earlyPSK shared
      ((c.hash HandshakeType.serverHello body).transcript.sum P))
    : acceptServerHello c body shared = (.ok (), { c.hash HandshakeType.serverHello body with
      keys := c.keys.withHandshake level, phase := .afterServerHello }) := by
  have hkeys : Keys.deriveHandshake P (c.hash HandshakeType.serverHello body).keys
      (c.hash HandshakeType.serverHello body).earlyPSK shared _ = _ :=
        deriveHandshake_of_level c.keys level
  simp only [acceptServerHello, hkeys]

lemma handleServerHello_ok : handleServerHello c b = (.ok (), c') ↔
    c.phase = .afterClientHello ∧ ∃ body sh shared, readServerHello b = .ok (body, sh) ∧
      (selectsPSK sh = true → c.config.resumptionPSK.isSome = true) ∧
        serverShare P c.ephemeral sh = .ok shared ∧
      ∃ level : HandshakeLevel P
        (if c.pskMode || selectsPSK sh then c.config.resumptionPSK.getD [] else []) shared
        ((c.transcript.addMessage HandshakeType.serverHello body).sum P),
      c' = { c.hash HandshakeType.serverHello body with
        pskMode := c.pskMode || selectsPSK sh, keys := c.keys.withHandshake level, phase :=
  .afterServerHello } := by
  constructor
  · fun_cases handleServerHello c b with
    | case5 hphase body sh hread hoffered _ shared hshare =>
      fun_cases acceptServerHello with
      | case1 => simp
      | case2 _ keys hkeys =>
        obtain ⟨level, rfl⟩ := deriveHandshake_ok hkeys
        exact fun h => ⟨Decidable.not_not.mp hphase, body, sh, shared, hread,
          by simpa [Option.isSome_iff_ne_none] using hoffered, hshare, level,
          (congrArg Prod.snd h).symm⟩
    | _ => simp
  · rintro ⟨hphase, body, sh, shared, hread, hoffered, hshare, level, rfl⟩
    rw [handleServerHello, if_neg (not_not.mpr hphase), hread]
    dsimp only
    rw [if_neg (by simpa [Option.isSome_iff_ne_none] using hoffered), hshare]
    exact acceptServerHello_of_level { c with pskMode := c.pskMode || selectsPSK sh } level

lemma handleEncryptedExtensions_ok (h : handleEncryptedExtensions c b = (.ok (), c')) :
    ∃ body ee tp proto, readTyped "EncryptedExtensions" HandshakeType.encryptedExtensions
        EncryptedExtensionsMsg.unmarshalBody b = .ok (body, ee) ∧
          SettledProto c ee.extensions proto ∧
      c' = acceptEncryptedExtensions { c with peerTransportParams := tp, negotiatedProto := proto }
        body ee.extensions := by
  revert h
  fun_cases handleEncryptedExtensions c b with
  | case3 _ body ee hread _ _ hnone =>
    exact fun h => ⟨body, ee, _, c.negotiatedProto, hread,
      by rw [SettledProto, if_pos hnone], (congrArg Prod.snd h).symm⟩
  | case5 _ body ee hread _ _ hsome proto hproto =>
    exact fun h => ⟨body, ee, _, proto, hread,
      by rwa [SettledProto, if_neg hsome], (congrArg Prod.snd h).symm⟩
  | _ => simp

lemma handleEncryptedExtensions_of_settled (hphase : c.phase = .afterServerHello)
    (hread : readTyped "EncryptedExtensions" HandshakeType.encryptedExtensions
      EncryptedExtensionsMsg.unmarshalBody b = .ok (body, ee))
    (hsettled : SettledProto c ee.extensions proto) :
    ∃ tp, handleEncryptedExtensions c b = (.ok (), acceptEncryptedExtensions
      { c with peerTransportParams := tp, negotiatedProto := proto } body ee.extensions) := by
  let tp := findExtension ee.extensions ExtensionType.quicTransportParams
  refine ⟨if tp = [] then c.peerTransportParams else tp, ?_⟩
  rw [handleEncryptedExtensions, if_neg (not_not.mpr hphase), hread]
  dsimp only
  unfold SettledProto at hsettled
  split at hsettled
  · rw [if_pos ‹_›, hsettled]
  · rw [if_neg ‹_›, hsettled]

lemma checkServerFinished_ok : checkServerFinished c b = .ok body ↔
    ∃ fin, readTyped "Finished" HandshakeType.finished FinishedMsg.unmarshalBody b =
      .ok (body, fin) ∧
      expectedVerifyData P c.keys.serverHSTraffic (c.transcript.sum P) = .ok fin.verifyData := by
  simp only [checkServerFinished, bind_ok, reject_ok, pure_inj, Decidable.not_not]
  constructor
  · rintro ⟨⟨_, fin⟩, hread, _, hexpected, _, rfl, rfl⟩
    exact ⟨fin, hread, hexpected⟩
  · rintro ⟨fin, hread, hexpected⟩
    exact ⟨_, hread, _, hexpected, (), rfl, rfl⟩

lemma handleServerFinished_ok :
    handleServerFinished c b = (.ok (), c') ↔ c.phase = .afterCertificateVerify ∧
    ∃ body, checkServerFinished c b = .ok body ∧
      ∃ app : ApplicationLevel P c.keys.handshakeSecret
        ((c.transcript.addMessage HandshakeType.finished body).sum P),
      c' = { c.hash HandshakeType.finished body with
        keys := c.keys.withApplication app, phase := .afterServerFinished } := by
  constructor
  · fun_cases handleServerFinished c b with
    | case4 hphase body hchecked _ keys hkeys =>
      obtain ⟨app, rfl⟩ := deriveApplication_ok hkeys
      exact fun h => ⟨Decidable.not_not.mp hphase, body, hchecked, app, (congrArg Prod.snd h).symm⟩
    | _ => simp
  · rintro ⟨hphase, body, hchecked, app, rfl⟩
    rw [handleServerFinished, if_neg (not_not.mpr hphase), hchecked]
    simp only [ClientHandshaker.hash, deriveApplication_of_level c.keys app]

lemma handleCertificate_ok :
    handleCertificate c b = (.ok (), c') ↔ c.phase = .afterEncryptedExtensions ∧
    ∃ body leaf, readCertificate c.config b = .ok (body, leaf) ∧
      c' = acceptCertificate c body leaf := by
  constructor
  · fun_cases handleCertificate c b with
    | case3 hphase body leaf hread =>
      exact fun h => ⟨Decidable.not_not.mp hphase, body, leaf, hread, (congrArg Prod.snd h).symm⟩
    | _ => simp
  · rintro ⟨hphase, body, leaf, hread, rfl⟩
    rw [handleCertificate, if_neg (not_not.mpr hphase), hread]

lemma checkCertificateVerify_ok : checkCertificateVerify c b = .ok body ↔
    ∃ cv key, readTyped "CertificateVerify" HandshakeType.certificateVerify
      CertificateVerifyMsg.unmarshalBody b =
        .ok (body, cv) ∧ cv.signatureScheme = sm2SigSM3 ∧
          c.leafCert.bind P.certPublicKey = some key ∧
      verifyCertificateVerify P key serverCertificateVerifyContext
        (c.transcript.sum P) cv.signature = true := by
  simp only [checkCertificateVerify, bind_ok, need_ok, reject_ok, pure_inj, Decidable.not_not,
    Bool.not_eq_false]
  constructor
  · rintro ⟨⟨_, cv⟩, hread, _, hscheme, key, hkey, _, hverify, rfl⟩
    exact ⟨cv, key, hread, hscheme, hkey, hverify⟩
  · rintro ⟨cv, key, hread, hscheme, hkey, hverify⟩
    exact ⟨_, hread, (), hscheme, key, hkey, (), hverify, rfl⟩

lemma handleCertificateVerify_ok :
    handleCertificateVerify c b = (.ok (), c') ↔ c.phase = .afterCertificate ∧
    ∃ body, checkCertificateVerify c b = .ok body ∧ c' = acceptCertificateVerify c body := by
  constructor
  · fun_cases handleCertificateVerify c b with
    | case3 hphase body hchecked =>
      exact fun h => ⟨Decidable.not_not.mp hphase, body, hchecked, (congrArg Prod.snd h).symm⟩
    | _ => simp
  · rintro ⟨hphase, body, hchecked, rfl⟩
    rw [handleCertificateVerify, if_neg (not_not.mpr hphase), hchecked]

lemma handleServerFlight_read
    (h : handleServerFlight c f.serverHello f.encryptedExt f.certificate f.certVerify f.finished =
      (.ok (), c'))
    : FlightRead c f c' := by
  unfold handleServerFlight at h
  simp only [andThen_eq_ok] at h
  obtain ⟨_, c₁, hhello, _, c₂, hext, h⟩ := h
  obtain ⟨hphase, shBody, sh, shared, hread, hoffered, hshare, level, rfl⟩ :=
    handleServerHello_ok.mp hhello
  obtain ⟨eeBody, ee, tp, proto, hee, hproto, rfl⟩ := handleEncryptedExtensions_ok hext
  split at h
  · rename_i hmode
    obtain ⟨-, finBody, hchecked, app, rfl⟩ := handleServerFinished_ok.mp h
    obtain ⟨fin, hfin, hexpected⟩ := checkServerFinished_ok.mp hchecked
    exact .accepted hphase hread hoffered hshare level hee hproto
      (.resumed hmode) hfin hexpected app rfl rfl rfl rfl rfl rfl
  · rename_i hmode
    simp only [andThen_eq_ok] at h
    obtain ⟨_, c₃, hcert, _, c₄, hverify, h⟩ := h
    obtain ⟨-, certBody, leaf, hleaf, rfl⟩ := handleCertificate_ok.mp hcert
    obtain ⟨-, cvBody, hcv, rfl⟩ := handleCertificateVerify_ok.mp hverify
    obtain ⟨cv, key, hcv, hscheme, hkey, hverified⟩ := checkCertificateVerify_ok.mp hcv
    obtain ⟨-, finBody, hchecked, app, rfl⟩ := handleServerFinished_ok.mp h
    obtain ⟨fin, hfin, hexpected⟩ := checkServerFinished_ok.mp hchecked
    exact .accepted hphase hread hoffered hshare level hee hproto
      (.certified (Bool.eq_false_iff.mpr hmode) hleaf hcv hscheme hkey hverified) hfin hexpected app
        rfl rfl rfl rfl
      rfl rfl

lemma FlightRead.succeeds (h : FlightRead c f c') :
    Succeeds (handleServerFlight c f.serverHello f.encryptedExt f.certificate f.certVerify
      f.finished) := by
  cases h with
  | accepted hphase hread hoffered hshare level hee hproto hcerts hfin hexpected app =>
  refine Succeeds.after (handleServerHello_ok.mpr ⟨hphase, _, _, _, hread, hoffered, hshare, level,
    rfl⟩) ?_
  obtain ⟨tp, hext⟩ := handleEncryptedExtensions_of_settled (c :=
    { c.hash HandshakeType.serverHello _ with
    pskMode := _, keys := c.keys.withHandshake level, phase := .afterServerHello }) rfl hee hproto
  refine Succeeds.after hext ?_
  cases hcerts with
  | resumed hmode =>
    simp only [acceptEncryptedExtensions, hmode, if_true]
    exact ⟨_, _, handleServerFinished_ok.mpr ⟨rfl, _,
      checkServerFinished_ok.mpr ⟨_, hfin, hexpected⟩, app, rfl⟩⟩
  | certified hmode hleaf hcv hscheme hkey hverified =>
    simp only [acceptEncryptedExtensions, hmode, Bool.false_eq_true, if_false]
    refine Succeeds.after (handleCertificate_ok.mpr ⟨rfl, _, _, hleaf, rfl⟩) ?_
    refine Succeeds.after (handleCertificateVerify_ok.mpr ⟨rfl, _,
      checkCertificateVerify_ok.mpr ⟨_, _, hcv, hscheme, hkey, hverified⟩, rfl⟩) ?_
    exact ⟨_, _, handleServerFinished_ok.mpr ⟨rfl, _,
      checkServerFinished_ok.mpr ⟨_, hfin, hexpected⟩, app, rfl⟩⟩

end Pollux.Tls
