import PolluxGM.Agreement

/-!
# A declined PSK

The handshake with the offer is compared with the one between the same parties without it:
everything the server looks at besides the offer is the same, and what depends on the transcript
cannot fail.
-/
namespace Pollux.Tls

variable {P : Prims}

variable {b : Bytes}

lemma ne_nil_of_size (h : b.length = sm3Size) : b ≠ [] := by
  intro hnil
  rw [hnil] at h
  cases h

variable {t : UInt8} {body shared certBody proto : Bytes} {s : ServerHandshaker P}
  {alpn : List Extension} {random : Random} {c : ClientHandshaker P} {leaf : P.Certificate}

section

variable (hP : Lawful P)
include hP

lemma sum_length (t : Transcript) : (t.sum P).length = sm3Size := hP.sm3_length t.bytes

lemma trafficKeys_total (secret label : Bytes) (hlabel : label.length ≤ 249) (t : Transcript) :
    ∃ traffic keys, deriveSecret P secret label (t.sum P) = .ok traffic ∧
      deriveQUICPacketKeys P traffic = .ok keys := by
  obtain ⟨traffic, htraffic, hlen⟩ := deriveSecret_total hP secret label hlabel (sum_length hP t)
  obtain ⟨keys, hkeys, -⟩ := deriveQUICPacketKeys_total hP (ne_nil_of_size hlen)
  exact ⟨traffic, keys, htraffic, hkeys⟩

lemma handshakeLevel_total (psk shared : Bytes) (t : Transcript) :
    Nonempty (HandshakeLevel P psk shared (t.sum P)) := by
  obtain ⟨early, hearly, -⟩ := hP.extract_ok [] (if psk = [] then zeros sm3Size else psk)
  obtain ⟨derived, hderived, -⟩ :=
    deriveSecret_total hP early Label.derived (by decide) (hP.sm3_length [])
  obtain ⟨secret, hsecret, -⟩ :=
    hP.extract_ok derived (if shared = [] then zeros sm3Size else shared)
  have hhandshake : deriveHandshakeSecret P early shared = .ok secret := by
    simp only [deriveHandshakeSecret, hderived, wrapErr_ok, ok_bind, hsecret]
  obtain ⟨client, clientKeys, hclient, hclientKeys⟩ :=
    trafficKeys_total hP secret Label.clientHSTraffic (by decide) t
  obtain ⟨server, serverKeys, hserver, hserverKeys⟩ :=
    trafficKeys_total hP secret Label.serverHSTraffic (by decide) t
  exact ⟨⟨early, secret, client, server, clientKeys, serverKeys, hearly, hhandshake, hclient,
    hserver, hclientKeys, hserverKeys⟩⟩

lemma applicationLevel_total (handshakeSecret : Bytes) (t : Transcript) :
    Nonempty (ApplicationLevel P handshakeSecret (t.sum P)) := by
  obtain ⟨derived, hderived, -⟩ :=
    deriveSecret_total hP handshakeSecret Label.derived (by decide) (hP.sm3_length [])
  obtain ⟨master, hmaster, -⟩ := hP.extract_ok derived (zeros sm3Size)
  have hmaster' : deriveMasterSecret P handshakeSecret = .ok master := by
    simp only [deriveMasterSecret, hderived, wrapErr_ok, ok_bind, hmaster]
  obtain ⟨client, clientKeys, hclient, hclientKeys⟩ :=
    trafficKeys_total hP master Label.clientAPTraffic (by decide) t
  obtain ⟨server, serverKeys, hserver, hserverKeys⟩ :=
    trafficKeys_total hP master Label.serverAPTraffic (by decide) t
  exact ⟨⟨master, client, server, clientKeys, serverKeys, hmaster', hclient, hserver, hclientKeys,
    hserverKeys⟩⟩

lemma expectedVerifyData_total (trafficSecret hash : Bytes) :
    ∃ verifyData, expectedVerifyData P trafficSecret hash = .ok verifyData ∧
      verifyData.length = sm3Size := by
  obtain ⟨key, hkey, hlen⟩ :=
    hkdfExpandLabel_total hP trafficSecret Label.finished [] sm3Size (by decide) (by decide)
    (by decide) (by decide)
  refine ⟨P.hmac key hash, ?_, hP.hmac_length key hash⟩
  simp only [expectedVerifyData, deriveFinishedKey, hkey, ok_bind, computeFinishedVerifyData]
  rw [reject_neg (ne_nil_of_size hlen)]
  rfl

lemma certificatesSent_total (serverKey : P.PrivateKey) (sigRand : Bytes) (before : Transcript)
    (hwritten : CertificateMsg.marshalBody ⟨[], [⟨P.certRaw serverCert, []⟩]⟩ = .ok certBody)
    (hfits : certBody.length ≤ maxHandshakeMessageLen) :
    ∃ certVerify signed, CertificatesSent none serverCert serverKey sigRand before
      (frame HandshakeType.certificate certBody) certVerify signed := by
  obtain ⟨sig, hsig, hsigLen⟩ := hP.sign_ok sigRand serverKey sm2IDTLS13KeyExchange
    (buildCertificateVerifyInput serverCertificateVerifyContext
      ((before.addMessage HandshakeType.certificate certBody).sum P))
  have hcv : CertificateVerifyMsg.marshalBody ⟨sm2SigSM3, sig⟩ =
      .ok (be16 sm2SigSM3.toNat ++ be16 sig.length ++ sig) := by
    simp only [CertificateVerifyMsg.marshalBody]
    rw [reject_neg (by omega)]
    rfl
  refine ⟨_, _, .certified rfl hwritten hfits hsig hcv ?_⟩
  simp only [List.length_append, be16_length, maxHandshakeMessageLen]
  omega

lemma clientFinished_succeeds (hphase : c.phase = .afterServerFinished) :
    Succeeds (clientFinished c) := by
  obtain ⟨verifyData, hexpected, hsize⟩ :=
    expectedVerifyData_total hP c.keys.clientHSTraffic (c.transcript.sum P)
  have hfull : marshalHandshakeMessage HandshakeType.finished
      (FinishedMsg.marshalBody ⟨verifyData⟩) = .ok (frame HandshakeType.finished verifyData) :=
    marshalHandshakeMessage_ok.mpr ⟨verifyData, finished_body.mpr ⟨hsize, rfl⟩,
      by rw [hsize]; decide, rfl⟩
  unfold clientFinished
  rw [if_neg (by simp [hphase])]
  simp only [buildClientFinished, hexpected, ok_bind, hfull]
  exact ⟨_, _, rfl⟩

lemma handleClientFinished_succeeds (hphase : s.phase = .afterFlight)
    (hexpected : expectedVerifyData P s.keys.clientHSTraffic (s.transcript.sum P) = .ok verifyData)
    (hsize : verifyData.length = sm3Size) :
    Succeeds (handleClientFinished s (frame HandshakeType.finished verifyData)) := by
  have hread := readHandshakeMessage_frame HandshakeType.finished verifyData []
    (by rw [hsize]; decide)
  rw [List.append_nil] at hread
  have hcheck : checkClientFinished s (frame HandshakeType.finished verifyData) =
    .ok verifyData := by
    simp only [checkClientFinished, hread, wrapErr_ok, ok_bind,
      FinishedMsg.unmarshalBody_ok.mpr ⟨hsize, rfl⟩, hexpected]
    rw [reject_bind (by simp), reject_neg (by simp)]
    rfl
  obtain ⟨rms, hrms, -⟩ :=
    deriveSecret_total hP (s.hash HandshakeType.finished verifyData).keys.masterSecret
    Label.resumptionMaster (by decide)
      (sum_length hP (s.hash HandshakeType.finished verifyData).transcript)
  unfold handleClientFinished
  rw [if_neg (by simp [hphase]), hcheck]
  simp only [deriveResumptionMasterSecret, hrms]
  exact ⟨_, _, rfl⟩

end

/-- The server has ticket keys, and none of them opens the identity. -/
def Declines (s : ServerHandshaker P) (teks : List Bytes) (identity : Bytes) : Prop :=
  s.config.hasSessionTicketKeys = true ∧ ∃ e,
    decryptSessionTicketWithData P teks identity = .error e

variable {m : ClientHelloMsg} {cb : Callbacks} {identity : PskIdentity} {binder : Bytes}

lemma resume_declined
    (hmodes : offersPSKDHEKE (findExtension m.extensions ExtensionType.pskKeyExchangeModes) = true)
    (hoffer : readPreSharedKey (findExtension m.extensions ExtensionType.preSharedKey) =
      .ok (identity, binder))
    (hdeclines : Declines s cb.ticketKeys identity.identity)
    (hnone : s.resumptionSelectedPSK = none) :
    ∃ offered, resumeFromClientHello s m cb =
      (.ok (), { s with clientOfferedEarlyData := offered }) := by
  obtain ⟨hkeys, e, hdecrypt⟩ := hdeclines
  have hne : findExtension m.extensions ExtensionType.preSharedKey ≠ [] := by
    intro hnil
    rw [hnil] at hoffer
    cases hoffer
  have hverify : verifyPSKBinder s m (findExtension m.extensions ExtensionType.preSharedKey)
      cb.ticketKeys = (.ok (), s) := by
    simp only [verifyPSKBinder, hkeys, Bool.true_eq_false, if_false, hoffer, hdecrypt]
  unfold resumeFromClientHello
  dsimp only
  rw [if_neg hne, if_neg (by simp [hmodes]), hverify, andThen_ok]
  unfold decideEarlyData
  split
  · exact ⟨s.clientOfferedEarlyData, rfl⟩
  · refine ⟨true, ?_⟩
    simp only [earlyDataQuery, hnone]

variable {s' : ServerHandshaker P}

lemma declined_of_unselected
    (hmodes : offersPSKDHEKE (findExtension m.extensions ExtensionType.pskKeyExchangeModes) = true)
    (hoffer : readPreSharedKey (findExtension m.extensions ExtensionType.preSharedKey) =
      .ok (identity, binder))
    (h : resumeFromClientHello s m cb = (.ok (), s')) (hnone : s'.resumptionSelectedPSK = none) :
    Declines s cb.ticketKeys identity.identity := by
  have hne : findExtension m.extensions ExtensionType.preSharedKey ≠ [] := by
    intro hnil
    rw [hnil] at hoffer
    cases hoffer
  unfold resumeFromClientHello at h
  dsimp only at h
  rw [if_neg hne, if_neg (by simp [hmodes])] at h
  obtain ⟨_, s₁, hverify, hdecide⟩ := andThen_eq_ok.mp h
  have hkept := decideEarlyData_selected s₁ m.extensions cb.acceptEarlyData
  rw [hdecide, hnone] at hkept
  unfold verifyPSKBinder at hverify
  split at hverify
  · cases congrArg Prod.fst hverify
  rename_i hkeys
  rw [hoffer] at hverify
  dsimp only at hverify
  split at hverify
  · rename_i e hdecrypt
    exact ⟨by simpa using hkeys, e, hdecrypt⟩
  · split at hverify
    · cases congrArg Prod.fst hverify
    · obtain rfl := congrArg Prod.snd hverify
      cases hkept

structure Twins (cfg : ClientConfig P) (c plain : ClientHandshaker P) : Prop where
  fresh : Fresh cfg c
  plainFresh : Fresh { cfg with resumptionPSK := none } plain
  ephemeral : c.ephemeral = plain.ephemeral

variable {cfg : ClientConfig P} {keyPair : Except Err P.PrivateKey}

lemma newClientHandshaker_ephemeral (h : newClientHandshakerWithConfig cfg keyPair = .ok c) :
    keyPair = .ok c.ephemeral := by
  simp only [newClientHandshakerWithConfig, bind_ok, wrapErr_eq_ok, pure_inj] at h
  obtain ⟨_, -, _, -, _, -, priv, hpriv, _, -, _, -, _, -, rfl⟩ := h
  exact hpriv

variable {plain : ClientHandshaker P}

lemma twins_of_new (hc : newClientHandshakerWithConfig cfg keyPair = .ok c)
    (hplain : newClientHandshakerWithConfig { cfg with resumptionPSK := none } keyPair = .ok plain)
    : Twins cfg c plain where
  fresh := newClientHandshaker_fresh hc
  plainFresh := newClientHandshaker_fresh hplain
  ephemeral := Except.ok.inj
    ((newClientHandshaker_ephemeral hc).symm.trans (newClientHandshaker_ephemeral hplain))

lemma Twins.extensions (h : Twins cfg c plain) :
    clientHelloExtensions c none = clientHelloExtensions plain none := by
  simp only [clientHelloExtensions, h.fresh.config, h.plainFresh.config, h.ephemeral]

/-- Two server states that differ only in what the offer and the transcript wrote. -/
structure Mirrors (s₀ s : ServerHandshaker P) : Prop where
  phase : s.phase = .afterClientHello
  config : s.config = s₀.config
  ephemeral : s.ephemeral = s₀.ephemeral
  serverCert : s.serverCert = s₀.serverCert
  serverKey : s.serverKey = s₀.serverKey
  clientPub : s.clientPub = s₀.clientPub
  negotiatedProto : s.negotiatedProto = s₀.negotiatedProto
  selected₀ : s₀.resumptionSelectedPSK = none
  selected : s.resumptionSelectedPSK = none
  early₀ : s₀.keys.secrets.clientEarlyKeys = none
  early : s.keys.secrets.clientEarlyKeys = none

variable {base offer : List Extension}

lemma checkCapabilities_beside (h : Offers c random base offer) :
    checkCapabilities (helloMsg random (base ++ offer)) =
      checkCapabilities (helloMsg random base) := by
  have hversions := find_beside_offer h (t := ExtensionType.supportedVersions) (by decide)
    (by decide)
  have hschemes := find_beside_offer h (t := ExtensionType.signatureAlgorithms) (by decide)
    (by decide)
  have hgroups := find_beside_offer h (t := ExtensionType.supportedGroups) (by decide) (by decide)
  have hshare := find_beside_offer h (t := ExtensionType.keyShare) (by decide) (by decide)
  simp only [checkCapabilities, helloMsg_extensions, hversions, hschemes, hgroups, hshare]
  rfl

lemma negotiateALPN_beside (h : Offers c random base offer) (supported : List Bytes) :
    negotiateALPN supported (base ++ offer) = negotiateALPN supported base := by
  simp only [negotiateALPN, find_beside_offer h (t := ExtensionType.alpn) (by decide) (by decide)]

lemma base_modes (h : clientHelloExtensions c none = .ok base) :
    offersPSKDHEKE (findExtension base ExtensionType.pskKeyExchangeModes) = true := by
  obtain ⟨alpn, -, rfl⟩ := clientHelloExtensions_ok h
  rfl

lemma resumed_nothing {hash : Bytes} {selected : Option Bytes} {early : Option QUICPacketKeys}
    (h : Resumed (P := P) m hash selected early)
    (hnil : findExtension m.extensions ExtensionType.preSharedKey = []) :
    selected = none ∧ early = none := by
  have hselected : selected = none := by
    cases hsel : selected with
    | none => rfl
    | some psk =>
      obtain ⟨identity, binder, covered, hoffer, -⟩ := h.binder psk hsel
      rw [hnil] at hoffer
      cases hoffer
  refine ⟨hselected, ?_⟩
  cases hearly : early with
  | none => rfl
  | some k =>
    obtain ⟨psk, hsel, -⟩ := h.keys k hearly
    rw [hselected] at hsel
    cases hsel

variable {c₁ : ClientHandshaker P} {s₀ : ServerHandshaker P} {rand : Except Err Random}
  {ch psk : Bytes}

lemma hello_mirrored (hP : Lawful P) {p₁ : ClientHandshaker P} {ch₀ : Bytes}
    (htwins : Twins cfg c plain) (hs : FreshServer s) (hpsk : cfg.resumptionPSK = some psk)
    (hhello : clientHello c rand = (.ok ch, c₁)) (hplain : clientHello plain rand = (.ok ch₀, p₁))
    (haccepted : handleClientHello s ch₀ cb = (.ok (), s₀))
    (hdeclines : Declines s cb.ticketKeys cfg.resumptionIdentity) :
    ∃ s₁, handleClientHello s ch cb = (.ok (), s₁) ∧ Mirrors s₀ s₁ := by
  obtain ⟨-, hdrawn, hbase, hoffers, hwritten, hfits, rfl, -, -⟩ := clientHello_sent hhello
  rename_i random base offer body _
  obtain ⟨-, hdrawn₀, hbase₀, hoffers₀, hwritten₀, hfits₀, rfl, -, -⟩ := clientHello_sent hplain
  rename_i random₀ base₀ offer₀ body₀ _
  cases hdrawn.symm.trans hdrawn₀
  cases (htwins.extensions.symm.trans hbase).symm.trans hbase₀
  obtain ⟨halpn, hcapable, hshare, hresumed, rfl⟩ :=
    handleClientHello_taken hs hwritten₀ hfits₀ haccepted
  rename_i proto pub _ _ selected₀ _ early₀
  have hnothing : selected₀ = none ∧ early₀ = none := by
    rcases offer_found hP hbase₀ hoffers₀ hwritten₀ with ⟨-, hnil⟩ | ⟨psk', _, _, hconfig, -⟩
    · exact resumed_nothing hresumed hnil
    · rw [htwins.plainFresh.config] at hconfig
      cases hconfig
  obtain ⟨rfl, rfl⟩ := hnothing
  rcases offer_found hP hbase hoffers hwritten with ⟨hconfig, -⟩ | ⟨_, binder, _, -, -, hfind,
    hpayload, -, -⟩
  · rw [htwins.fresh.config, hpsk] at hconfig
    cases hconfig
  rw [checkCapabilities_beside hoffers₀, ← checkCapabilities_beside hoffers,
    find_beside_offer hoffers₀ (by decide) (by decide)] at hcapable
  rw [negotiateALPN_beside hoffers₀] at halpn
  rw [find_beside_offer hoffers₀ (by decide) (by decide)] at hshare
  have hread := (readClientHello_frame hwritten hfits).mpr ⟨rfl, rfl, hcapable⟩
  have hmodes : offersPSKDHEKE (findExtension (base ++ offer) ExtensionType.pskKeyExchangeModes) =
    true := by
    rw [find_beside_offer hoffers (by decide) (by decide)]
    exact base_modes hbase
  have hoffer : readPreSharedKey (findExtension (base ++ offer) ExtensionType.preSharedKey) =
      .ok (offeredIdentity c.config, binder) := by
    rw [hfind]
    exact hpayload
  have hidentity : (offeredIdentity c.config).identity = cfg.resumptionIdentity := by
    rw [htwins.fresh.config]; rfl
  rw [← hidentity] at hdeclines
  have hresume := resume_declined (m := helloMsg random (base ++ offer))
    (s := recordClientHello { s with negotiatedProto := proto.getD s.negotiatedProto } body pub
      (base ++ offer))
    hmodes hoffer hdeclines hs.selectedPSK
  obtain ⟨offered, hresume⟩ := hresume
  have haccept := handleClientHello_eq cb hs.phase hread
    ((negotiateALPN_beside hoffers s.config.nextProtos).trans halpn) hshare
  exact ⟨_, haccept.trans hresume, rfl, rfl, rfl, rfl, rfl, rfl, rfl, rfl, hs.selectedPSK, rfl,
    hs.earlyKeys⟩

lemma Mirrors.serverHello (h : Mirrors s₀ s) (random : Random) :
    serverHelloMsg s random = serverHelloMsg s₀ random := by
  simp only [serverHelloMsg, h.ephemeral, h.selected, h.selected₀]

lemma Mirrors.answer (h : Mirrors s₀ s) (alpn : List Extension) :
    alpnAnswer s = alpnAnswer s₀ ∧ answerExtensions s alpn = answerExtensions s₀ alpn := by
  simp only [alpnAnswer, answerExtensions, h.negotiatedProto, h.config, h.early, h.early₀, and_self]

variable {sigRand : Bytes} {f₀ : Flight}

/-- The flight is that without the offer, apart from what depends on the transcript. -/
lemma flight_mirrored (hP : Lawful P) (h : Mirrors s₀ s)
    (hsent : FlightSent s₀ rand sigRand f₀ s₀') :
    ∃ f s', FlightSent s rand sigRand f s' ∧ f.serverHello = f₀.serverHello ∧
      f.encryptedExt = f₀.encryptedExt ∧ f.certificate = f₀.certificate := by
  cases hsent with
  | @sent _ random hdrawn shBody shared hhello hhelloFits hshare level alpn eeBody hanswer hext
      hextFits certificate certVerify signed hcerts verifyData hexpected hsize app =>
  cases hcerts with
  | resumed hselected => simp [h.selected₀] at hselected
  | @certified _ certBody _ _ hwritten hcertFits =>
  have hecdhe : serverECDHE s = .ok shared := by
    simpa only [serverECDHE, h.clientPub, h.ephemeral] using hshare
  rw [← h.serverHello] at hhello
  rw [← (h.answer alpn).1] at hanswer
  rw [← (h.answer alpn).2] at hext
  rw [← h.serverCert] at hwritten
  obtain ⟨level'⟩ := handshakeLevel_total hP (s.resumptionSelectedPSK.getD []) shared
    (s.transcript.addMessage HandshakeType.serverHello shBody)
  obtain ⟨certVerify', signed', hcerts'⟩ := certificatesSent_total hP s.serverKey sigRand
    ((s.transcript.addMessage HandshakeType.serverHello shBody).addMessage
      HandshakeType.encryptedExtensions eeBody)
    hwritten hcertFits
  obtain ⟨verifyData', hexpected', hsize'⟩ :=
    expectedVerifyData_total hP level'.serverHSTraffic (signed'.sum P)
  obtain ⟨app'⟩ := applicationLevel_total hP level'.handshakeSecret
    (signed'.addMessage HandshakeType.finished verifyData')
  rw [← h.selected] at hcerts'
  exact ⟨_, _, .sent h.phase hdrawn hhello hhelloFits hecdhe level' hanswer hext hextFits hcerts'
    hexpected' hsize' app', rfl, rfl, rfl⟩

lemma readCertificate_leaf (hwritten : CertificateMsg.marshalBody ⟨[], [⟨raw, []⟩]⟩ = .ok body)
    (hfits : body.length ≤ maxHandshakeMessageLen)
    (h : readCertificate cfg (frame t body) = .ok (body', leaf)) :
    P.parseCertificate raw = .ok leaf := by
  have hread := readHandshakeMessage_frame t body [] hfits
  rw [List.append_nil] at hread
  simp only [readCertificate, hread, wrapErr_ok, ok_bind, CertificateMsg.unmarshal_marshal hwritten,
    bind_ok, wrapErr_eq_ok, pure_inj, Prod.mk.injEq] at h
  obtain ⟨leaf', hleaf, _, -, -, rfl⟩ := h
  exact hleaf

def Certified (P : Prims) (serverCert : P.Certificate) (serverKey : P.PrivateKey) : Prop :=
  ∀ leaf, P.parseCertificate (P.certRaw serverCert) = .ok leaf →
    P.certPublicKey leaf = some (P.publicOf serverKey)

lemma certificates_accepted (hP : Lawful P) (hcertified : Certified P serverCert serverKey)
    (hmode : pskMode = false)
    (hsent : CertificatesSent none serverCert serverKey sigRand before certificate certVerify
      signed)
    (hread : readCertificate cfg certificate = .ok (certBody', leaf)) :
    CertificatesRead cfg pskMode before certificate certVerify signed := by
  cases hsent with
  | resumed hselected => cases hselected
  | certified _ hwritten hfits hsigned hverify hverifyFits =>
    obtain rfl := readCertificate_frame hfits hread
    exact .certified hmode hread
      ((readTyped_frame hverifyFits).mpr ⟨CertificateVerifyMsg.unmarshal_marshal hverify, rfl⟩) rfl
      (hcertified leaf (readCertificate_leaf hwritten hfits hread))
        (hP.verify_sign _ _ _ _ _ hsigned)

variable {p : ClientHandshaker P}

lemma settled_transfer (hprotos : c.config.nextProtos = p.config.nextProtos)
    (h : SettledProto p exts proto) : ∃ proto', SettledProto c exts proto' := by
  unfold SettledProto at h ⊢
  rw [hprotos]
  split at h
  · rename_i hnil
    exact ⟨c.negotiatedProto, by rw [if_pos hnil]⟩
  · rename_i hsome
    exact ⟨proto, by rw [if_neg hsome]; exact h⟩

variable {f : Flight}

lemma flight_accepted (hP : Lawful P) (hcertified : Certified P s.serverCert s.serverKey)
    (hagreed : HelloAgreed c s ch) (hphase : c.phase = .afterClientHello) (hconfig : c.config = cfg)
    (hplainConfig : p.config = { cfg with resumptionPSK := none })
    (hephemeral : c.ephemeral = p.ephemeral) (hnone : s.resumptionSelectedPSK = none)
    (hsent : FlightSent s rand sigRand f s') (hread : FlightRead p f₀ p')
    (hplainMode : p'.pskMode = false) (hsameHello : f.serverHello = f₀.serverHello)
    (hsameExt : f.encryptedExt = f₀.encryptedExt) (hsameCert : f.certificate = f₀.certificate) :
    ∃ c', FlightRead c f c' := by
  cases hread with
  | @accepted _ shBody' shared' sh hreadHello hoffered hshare' level' eeBody' proto ee hreadExt
    hsettled signed' hcerts'
      finBody fin hreadFin hexpected' app' htranscript hkeys hmode hproto hphase' hconfig' =>
  rw [← hsameHello] at hreadHello
  rw [← hsameExt] at hreadExt
  rw [← hsameCert] at hcerts'
  cases hsent with
  | @sent _ random hdrawn shBody shared hhello hhelloFits hshare level alpn eeBody hanswer hext
      hextFits certificate certVerify signed hcerts verifyData hexpected hsize app =>
  obtain ⟨rfl, rfl⟩ := readServerHello_frame ⟨by show _ ≤ versionTLS12.toNat; decide,
    by show versionTLS12.toNat ≤ _; decide⟩ hhello hhelloFits hreadHello
  obtain ⟨-, rfl⟩ := (readTyped_frame hextFits).mp hreadExt
  have hselects : selectsPSK (serverHelloMsg s random) = false := by
    rw [serverHello_selects, hnone]
    rfl
  have hmode₁ : (c.pskMode || selectsPSK (serverHelloMsg s random)) = false := by
    rw [hagreed.pskMode, hselects]
    rfl
  cases hcerts' with
  | resumed hyes =>
    rw [hmode, hyes] at hplainMode
    cases hplainMode
  | certified _ hreadCert =>
  rw [hplainConfig] at hreadCert
  rw [← hephemeral] at hshare'
  have hsecret : shared' = shared := by
    have hclient := serverShare_ok hP hshare'
    rw [hP.ecdh_comm, serverECDHE_ok hagreed.clientPub hshare] at hclient
    exact (Except.ok.inj hclient).symm
  rw [← hagreed.transcript, hnone] at hcerts
  obtain ⟨level₁⟩ := handshakeLevel_total hP
    (if c.pskMode || selectsPSK (serverHelloMsg s random) then
    c.config.resumptionPSK.getD [] else []) shared'
      (c.transcript.addMessage HandshakeType.serverHello shBody')
  have hsame := (level_same level₁ level (earlyPSK_same hagreed.pskMode (by simp [hnone])) hsecret
    (by rw [hagreed.transcript])).2.2.1
  rw [← hsame] at hexpected
  obtain ⟨app₁⟩ := applicationLevel_total hP level₁.handshakeSecret
    (signed.addMessage HandshakeType.finished verifyData)
  have hnextProtos : c.config.nextProtos = p.config.nextProtos := by rw [hconfig, hplainConfig]
  obtain ⟨proto₁, hproto₁⟩ := settled_transfer hnextProtos hsettled
  refine ⟨{ c with
    transcript := signed.addMessage HandshakeType.finished verifyData
    keys := (c.keys.withHandshake level₁).withApplication app₁
    pskMode := c.pskMode || selectsPSK (serverHelloMsg s random)
    negotiatedProto := proto₁
    phase := .afterServerFinished }, ?_⟩
  exact .accepted hphase hreadHello (by simp [hselects]) hshare' level₁ hreadExt hproto₁
    (certificates_accepted hP hcertified hmode₁ hcerts (by rw [hconfig]; exact hreadCert))
    ((readTyped_frame (by rw [hsize]; decide)).mpr ⟨FinishedMsg.unmarshalBody_ok.mpr ⟨hsize, rfl⟩,
      rfl⟩) hexpected app₁
    rfl rfl rfl rfl rfl rfl

lemma finish_succeeds (hP : Lawful P) (h : FlightAgreed c s)
    (hclient : c.phase = .afterServerFinished) (hserver : s.phase = .afterFlight) :
    ∃ cf c' s', clientFinished c = (.ok cf, c') ∧ handleClientFinished s cf = (.ok (), s') := by
  obtain ⟨cf, c', hsent⟩ := clientFinished_succeeds hP hclient
  obtain ⟨verifyData, hexpected, hsize, rfl, -⟩ := clientFinished_ok hsent
  rw [h.keys.clientHSTraffic, h.transcript] at hexpected
  obtain ⟨_, s', hread⟩ := handleClientFinished_succeeds hP hserver hexpected hsize
  exact ⟨_, c', s', hsent, hread⟩

lemma handleClientHello_certificate (hs : FreshServer s)
    (h : handleClientHello s ch cb = (.ok (), s')) :
    s'.serverCert = s.serverCert ∧ s'.serverKey = s.serverKey := by
  obtain ⟨-, body, m, ks, proto, pub, -, -, -, hresume⟩ := handleClientHello_ok h
  obtain ⟨appData, age, selected, offered, early, rfl, -⟩ :=
    resumeFromClientHello_ok hresume hs.selectedPSK hs.earlyKeys
  exact ⟨rfl, rfl⟩

lemma clientHello_keeps (h : clientHello c rand = (.ok ch, c')) :
    c'.phase = .afterClientHello ∧ c'.config = c.config ∧ c'.ephemeral = c.ephemeral := by
  obtain ⟨-, -, -, -, -, -, -, -, rfl⟩ := clientHello_sent h
  exact ⟨rfl, rfl, rfl⟩

/-- The handshake goes through when the server declines. -/
lemma relay_declined (hP : Lawful P) (htwins : Twins cfg c plain) (hs : FreshServer s)
    (hpsk : cfg.resumptionPSK = some psk) (hhello : clientHello c r.clientHello = (.ok ch, c₁))
    (hfull : relay plain s cb r = .ok m₀) (hcertified : Certified P s.serverCert s.serverKey)
    (hdeclines : Declines s cb.ticketKeys cfg.resumptionIdentity) :
    ∃ m, relay c s cb r = .ok m ∧ m.server.resumptionSelectedPSK = none := by
  obtain ⟨p₁, s₀, s₀', p₂, hplain, haccepted₀, hflight₀, hread₀, -⟩ := relay_ok hfull
  obtain ⟨s₁, haccepted, hmirrors⟩ :=
    hello_mirrored hP htwins hs hpsk hhello hplain haccepted₀ hdeclines
  obtain ⟨f, s₂, hsent, hsameHello, hsameExt, hsameCert⟩ :=
    flight_mirrored hP hmirrors (serverFlight_sent hflight₀)
  have hagreed := hello_agreed hP htwins.fresh hs hhello haccepted
  have hagreed₀ := hello_agreed hP htwins.plainFresh hs hplain haccepted₀
  have hmode₀ : p₂.pskMode = false := by
    have hflightAgreed :=
      flight_agreed hP hagreed₀ (by simp [hmirrors.selected₀]) (serverFlight_sent hflight₀)
      (handleServerFlight_read hread₀)
    rw [hflightAgreed.pskMode, (serverFlight_sent hflight₀).selectedPSK, hmirrors.selected₀]
    rfl
  have hcertified₁ : Certified P s₁.serverCert s₁.serverKey := by
    obtain ⟨hcert, hkey⟩ := handleClientHello_certificate hs haccepted
    rw [hcert, hkey]
    exact hcertified
  obtain ⟨hphase, hconfig, hephemeral⟩ := clientHello_keeps hhello
  obtain ⟨-, hconfig₀, hephemeral₀⟩ := clientHello_keeps hplain
  obtain ⟨_, haccepted'⟩ :=
    flight_accepted hP hcertified₁ hagreed hphase (hconfig.trans htwins.fresh.config)
    (hconfig₀.trans htwins.plainFresh.config)
      ((hephemeral.trans htwins.ephemeral).trans hephemeral₀.symm)
    hmirrors.selected hsent (handleServerFlight_read hread₀) hmode₀ hsameHello hsameExt hsameCert
  obtain ⟨_, c₂, hread⟩ := haccepted'.succeeds
  have hflightRead := handleServerFlight_read hread
  have hflightAgreed := flight_agreed hP hagreed (by simp [hmirrors.selected]) hsent hflightRead
  obtain ⟨cf, c₃, s₃, hfinished, hlast⟩ := finish_succeeds hP hflightAgreed
    (by cases hflightRead; assumption) (by cases hsent; rfl)
  refine ⟨⟨ch, f, cf, c₃, s₃⟩, ?_, ?_⟩
  · simp only [relay, bind_ok, settle_eq_ok, pure_inj, Prod.exists]
    exact ⟨ch, c₁, hhello, (), s₁, haccepted, f, s₂, hsent.sends, (), c₂, hread, cf, c₃, hfinished,
      (), s₃, hlast, rfl⟩
  · exact (relay_selected hsent.sends hlast).trans hmirrors.selected

lemma hello_declined (hP : Lawful P) (hc : Fresh cfg c) (hpsk : cfg.resumptionPSK = some psk)
    (hhello : clientHello c rand = (.ok ch, c₁))
    (haccepted : handleClientHello s ch cb = (.ok (), s₁))
    (hnone : s₁.resumptionSelectedPSK = none) :
    Declines s cb.ticketKeys cfg.resumptionIdentity := by
  obtain ⟨-, -, hbase, hoffers, hwritten, hfits, rfl, -, -⟩ := clientHello_sent hhello
  obtain ⟨-, body, m, ks, proto, pub, hread, -, -, hresume⟩ := handleClientHello_ok haccepted
  obtain ⟨-, rfl, -⟩ := (readClientHello_frame hwritten hfits).mp hread
  rcases offer_found hP hbase hoffers hwritten with ⟨hconfig, -⟩ | ⟨_, binder, _, -, -, hfind,
    hpayload, -, -⟩
  · rw [hc.config, hpsk] at hconfig
    cases hconfig
  have hmodes := base_modes hbase
  rw [← find_beside_offer hoffers (by decide) (by decide)] at hmodes
  rw [← hfind] at hpayload
  rw [← hc.config]
  exact declined_of_unselected hmodes hpayload hresume hnone

def CompletesInFull (c : ClientHandshaker P) (s : ServerHandshaker P) (cb : Callbacks)
    (r : RelayRandom) : Prop :=
  ∃ m, relay c s cb r = .ok m ∧ m.server.resumptionSelectedPSK = none ∧ m.flight.certificate ≠ [] ∧
    m.flight.certVerify ≠ [] ∧ Agreed m.client m.server

lemma sent_certificates (h : FlightSent s rand sigRand f s')
    (hnone : s.resumptionSelectedPSK = none) :
    f.certificate ≠ [] ∧ f.certVerify ≠ [] := by
  cases h with
  | sent _ _ _ _ _ _ _ _ _ hcerts =>
  cases hcerts with
  | resumed hselected => simp [hnone] at hselected
  | certified => exact ⟨by simp [frame], by simp [frame]⟩

/-- A client offers a PSK to a server with which it completes without the offer: the handshake
completes in full exactly when the server has ticket keys and none of them opens the identity. A
server without ticket keys aborts instead. -/
theorem declined_psk_completes_iff (hP : Lawful P) {ccfg : ClientConfig P} {scfg : ServerConfig P}
    {ckey skey : Except Err P.PrivateKey} {c plain c₁ : ClientHandshaker P} {s : ServerHandshaker P}
    {psk ch : Bytes} {cb : Callbacks} {r : RelayRandom} {m₀ : Relayed P}
    (hc : newClientHandshakerWithConfig ccfg ckey = .ok c)
    (hs : newServerHandshakerWithConfig scfg skey = .ok s) (hpsk : ccfg.resumptionPSK = some psk)
    (hhello : clientHello c r.clientHello = (.ok ch, c₁))
    (hplain : newClientHandshakerWithConfig { ccfg with resumptionPSK := none } ckey = .ok plain)
    (hfull : relay plain s cb r = .ok m₀)
    (hcertified : ∀ cert ∈ scfg.certificate, ∀ key ∈ scfg.privateKey, Certified P cert key) :
    CompletesInFull c s cb r ↔ Declines s cb.ticketKeys ccfg.resumptionIdentity := by
  have htwins := twins_of_new hc hplain
  have hfresh := newServerHandshaker_fresh hs
  obtain ⟨-, hcert, hkey⟩ := newServerHandshaker_config hs
  constructor
  · intro hcompletes
    obtain ⟨m, hrelay, hnone, -⟩ := hcompletes
    obtain ⟨c₁', s₁, s₂, c₂, hhello', haccepted, hflight, -, -, hlast⟩ := relay_ok hrelay
    have hselected := (relay_selected hflight hlast).symm.trans hnone
    exact hello_declined hP htwins.fresh hpsk hhello' haccepted hselected
  · intro hdeclines
    obtain ⟨m, hrelay, hnone⟩ := relay_declined hP htwins hfresh hpsk hhello hfull
      (hcertified s.serverCert hcert s.serverKey hkey) hdeclines
    have hagreed := relay_agreed hP htwins.fresh hfresh hrelay (by simp [BinderIdentifies, hnone])
    obtain ⟨c₁', s₁, s₂, c₂, -, -, hflight, -, -, hlast⟩ := relay_ok hrelay
    have hselected := (relay_selected hflight hlast).symm.trans hnone
    obtain ⟨hcert, hverify⟩ := sent_certificates (serverFlight_sent hflight) hselected
    exact ⟨m, hrelay, hnone, hcert, hverify, hagreed⟩

def samplePlain : ClientHandshaker toyPrims :=
  okValue (newClientHandshakerWithConfig { sampleResumingConfig with resumptionPSK := none }
    (.ok (5 : UInt8))) (by decide +kernel)

def samplePlainRelayed : Relayed toyPrims :=
  okValue (relay samplePlain sampleServer sampleCallbacks sampleRandom) (by decide +kernel)

theorem declined_psk_completes_iff_sample :
    CompletesInFull sampleResumer sampleServer sampleCallbacks sampleRandom := by
  have hc : newClientHandshakerWithConfig sampleResumingConfig (.ok (5 : UInt8)) =
    .ok sampleResumer := eq_okValue _ _
  have hs : newServerHandshakerWithConfig sampleServerConfig (.ok (6 : UInt8)) = .ok sampleServer :=
    eq_okValue _ _
  have hhello : (clientHello sampleResumer sampleRandom.clientHello).1 = .ok sampleResumption :=
    eq_okValue _ _
  have hplain : newClientHandshakerWithConfig { sampleResumingConfig with resumptionPSK := none }
      (.ok (5 : UInt8)) = .ok samplePlain := eq_okValue _ _
  have hfull : relay samplePlain sampleServer sampleCallbacks sampleRandom =
    .ok samplePlainRelayed := eq_okValue _ _
  have hcertified : ∀ cert ∈ sampleServerConfig.certificate, ∀ key ∈ sampleServerConfig.privateKey,
      Certified toyPrims cert key := by
    intro cert hcert key hkey leaf hleaf
    obtain rfl := Option.some.inj hcert
    obtain rfl := Option.some.inj hkey
    obtain rfl := Except.ok.inj (α := Bytes) hleaf
    rfl
  have hdeclines : Declines sampleServer sampleCallbacks.ticketKeys
    sampleResumingConfig.resumptionIdentity :=
    ⟨by decide +kernel, _, rfl⟩
  exact (declined_psk_completes_iff toyPrims_lawful hc hs rfl (eq_of_fst_ok hhello)
    hplain hfull hcertified).mpr hdeclines

def unkeyedServer : ServerHandshaker toyPrims :=
  okValue (newServerHandshakerWithConfig { sampleServerConfig with hasSessionTicketKeys := false }
    (.ok (6 : UInt8))) (by decide +kernel)

/-- It completes with the client that offers nothing and aborts on the offer. -/
theorem unkeyed_server_aborts :
    (relay samplePlain unkeyedServer sampleCallbacks sampleRandom).isOk = true ∧
      (handleClientHello unkeyedServer sampleResumption sampleCallbacks).1 =
        .error (.text "tls13gm: client offered PSK but server has no session-ticket key configured")
          ∧
      ¬ CompletesInFull sampleResumer unkeyedServer sampleCallbacks sampleRandom := by
  refine ⟨by decide +kernel, by decide +kernel, ?_⟩
  have hfails : (relay sampleResumer unkeyedServer sampleCallbacks sampleRandom).isOk = false := by
    decide +kernel
  intro hcompletes
  obtain ⟨m, hrelay, -⟩ := hcompletes
  rw [hrelay] at hfails
  cases hfails

end Pollux.Tls
