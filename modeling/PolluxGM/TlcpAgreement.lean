import PolluxGM.TlcpClientAuth

/-!
# Agreement of a TLCP client and server

When the handshake octets of each side reach the other one and both handshakes succeed, the two
sides have seen the same messages. The key exchange gives both the same master secret, and the
traffic keys are cut from it crosswise.
-/
namespace Pollux.Tlcp

structure DirectionKeys where
  mac : Bytes
  key : Bytes
  iv : Bytes
  deriving DecidableEq

structure TrafficKeys where
  read : DirectionKeys
  write : DirectionKeys
  deriving DecidableEq

/-- The key material as `establishKeys` deals it out to a side. -/
def trafficKeys (P : Prims) (suite : CipherSuite) (isClient : Bool)
    (masterSecret clientRandom serverRandom : Bytes) :
    TrafficKeys :=
  let km := tlcpKeysFromMaster P.toRecordPrims masterSecret clientRandom serverRandom suite.macLen
    suite.keyLen suite.ivLen
  let client := ⟨km.clientMAC, km.clientKey, km.clientIV⟩
  let server := ⟨km.serverMAC, km.serverKey, km.serverIV⟩
  if isClient then ⟨server, client⟩ else ⟨client, server⟩

def directionSpec (suite : CipherSuite) (k : DirectionKeys) : Except Err CipherSpec :=
  if suite.isAEAD then newAEADSM4GCM k.key k.iv else .ok (.cbc k.key k.mac)

variable {P : Prims} {suite : CipherSuite} {masterSecret clientRandom serverRandom : Bytes}

lemma trafficSpecs_ok
    (h : trafficSpecs P suite isClient masterSecret clientRandom serverRandom = .ok (r, w)) :
    directionSpec suite (trafficKeys P suite isClient masterSecret clientRandom serverRandom).read =
      .ok r ∧
      directionSpec suite
        (trafficKeys P suite isClient masterSecret clientRandom serverRandom).write = .ok w := by
  unfold trafficSpecs at h
  unfold directionSpec
  cases haead : suite.isAEAD <;> cases isClient
  all_goals
    simp only [haead, if_true, if_false, bind_ok, pure_ok, Bool.false_eq_true, Except.ok.injEq,
      Prod.mk.injEq] at h
    simp only [trafficKeys, if_true, if_false, Bool.false_eq_true, Except.ok.injEq]
  · exact h
  · exact h
  · obtain ⟨_, hread, _, hwrite, rfl, rfl⟩ := h
    exact ⟨hread, hwrite⟩
  · obtain ⟨_, hread, _, hwrite, rfl, rfl⟩ := h
    exact ⟨hread, hwrite⟩

lemma trafficKeys_cross (isClient : Bool) :
    (trafficKeys P suite isClient masterSecret clientRandom serverRandom).write =
      (trafficKeys P suite (!isClient) masterSecret clientRandom serverRandom).read := by
  cases isClient <;> rfl

/-- Decryption undoes encryption, whose result is one DER sequence, and both sides of the MQV key
agreement compute the same. -/
structure KeyLaws (P : Prims) (pairs : Bytes → Bytes → Prop) : Prop where
  decrypt : ∀ {pub key plain ct rand rand' : Bytes}, pairs pub key →
    plain.length = preMasterSecretLength →
    P.encryptASN1 pub plain rand = (.ok ct, rand') →
      decodeSM2ASN1SequenceLength ct = .ok ct.length ∧ P.decrypt key ct = some plain
  publicKey : ∀ {pub key priv long : Bytes}, pairs pub key → P.ecdhPrivateKey key = .ok priv →
    P.ecdhPublicKey pub = .ok long → long = P.ecdhPublic priv
  point : ∀ {key pub : Bytes}, P.ecdhPoint (P.ecdhPublic key) = .ok pub → pub = P.ecdhPublic key
  mqv : ∀ {s e s' e' uv uv' : Bytes}, P.sm2mqv s e (P.ecdhPublic s') (P.ecdhPublic e') = .ok uv →
    P.sm2mqv s' e' (P.ecdhPublic s) (P.ecdhPublic e) = .ok uv' → uv = uv'
  sharedKey : ∀ {uv responder sponsor k k' : Bytes} {n : Nat},
    P.sm2SharedKey uv true n responder sponsor = .ok k →
    P.sm2SharedKey uv false n sponsor responder = .ok k' → k = k'

variable {pairs : Bytes → Bytes → Prop}

lemma ecc_agrees (laws : KeyLaws P pairs)
    (hpair : pairs pub decrypter.key)
    (hclient : tlcpECCGenerateClientKeyExchange P version pub rand = (.ok (pms, payload), rand'))
    (hserver : tlcpECCProcessClientKeyExchange P decrypter payload = .ok pms') : pms = pms' := by
  simp only [tlcpECCGenerateClientKeyExchange, bind_eq_ok, pure_eq_ok] at hclient
  obtain ⟨tail, rand₁, hdraw, ct, _, hencrypt, hx, rfl⟩ := hclient
  cases hx
  have hlen : (be16 version.toNat ++ tail).length = preMasterSecretLength := by
    unfold drawRand at hdraw
    split at hdraw
    · cases hdraw
      simp only [List.length_append, be16_length, List.length_take, preMasterSecretLength] at *
      omega
    · cases hdraw
  obtain ⟨hseq, hdecrypt⟩ := laws.decrypt hpair hlen hencrypt
  have hdrop : (be16 ct.length ++ ct).drop 2 = ct := rfl
  simp only [tlcpECCProcessClientKeyExchange, hdrop, ite_bind, bind_ok, reject_ok, need_ok,
    pure_inj] at hserver
  obtain ⟨_, _, _, _, _, _, seqLen, hseqLen, plain, hplain, _, _, rfl⟩ := hserver
  -- Nothing is cut off: the ciphertext is one sequence.
  have hwhole : seqLen = ct.length := by
    split at hseqLen
    · rw [hseq] at hseqLen
      exact (Except.ok.inj (wrapErr_ok.mp hseqLen)).symm
    · exact (Except.ok.inj hseqLen).symm
  rw [hwhole, List.take_length, hdecrypt] at hplain
  exact Option.some.inj hplain

lemma params_parsed {point params rest read pub : Bytes}
    (h : tlcpMarshalECDHEParams point = .ok params)
    (hparse : tlcpParseECDHEParams P (params ++ rest) = .ok (read, pub)) :
    P.ecdhPoint point = .ok pub := by
  simp only [tlcpMarshalECDHEParams, bind_ok, reject_ok, pure_inj, Classical.not_not] at h
  obtain ⟨_, hlen, rfl⟩ := h
  simp only [tlcpParseECDHEParams, bind_ok, reject_ok, wrapErr_ok, pure_inj,
    Prod.mk.injEq] at hparse
  obtain ⟨_, _, _, _, _, _, _, _, _, _, _, hpoint, _, rfl⟩ := hparse
  rw [hlen] at hpoint
  have htake : ((UInt8.ofNat ecdheCurveTypeNamed ::
    (be16 curveSM2.toNat ++ UInt8.ofNat sm2PointLength :: point) ++ rest).take
      (4 + sm2PointLength)).drop 4 = point := by
    change List.take sm2PointLength (point ++ rest) = point
    rw [← hlen, List.take_left]
  exact htake ▸ hpoint

lemma ecdhe_agrees (laws : KeyLaws P pairs) (hserver : pairs serverEncPub encPriv.key)
    (hclient : pairs clientEncPub clientEncPriv.key)
    (hske : tlcpECDHEServerGenerateSKE P sigType signer encPriv clientRandom serverRandom rand₁ =
      (.ok (state, ske), rand₂))
    (hread : tlcpECDHEClientProcessSKE P sigType' signPub clientRandom serverRandom ske =
      .ok ephPub)
    (hcke : tlcpECDHEClientGenerateCKE P ephPub clientEncPriv serverEncPub rand₃ =
      (.ok (pms, cke), rand₄))
    (hdone : tlcpECDHEServerProcessCKE P state clientEncPub cke = .ok pms') : pms = pms' := by
  simp only [tlcpECDHEServerGenerateSKE, ecdhPrivFromDecrypter, bind_eq_ok, lift_eq_ok, bind_ok,
    reject_ok, pure_eq_ok] at hske
  obtain ⟨sponsorPriv, _, ⟨⟨_, _, hsponsorPriv⟩, rfl⟩, sponsorEph, _, _, params, _,
    ⟨hparams, rfl⟩, sig, _, _, hx, rfl⟩ := hske
  cases hx
  simp only [tlcpECDHEClientProcessSKE, bind_ok, reject_ok, wrapErr_ok, pure_inj] at hread
  obtain ⟨_, _, ⟨read, eph⟩, hparse, _, _, _, _, _, _, rfl⟩ := hread
  rw [List.append_assoc] at hparse
  obtain rfl := laws.point (params_parsed hparams hparse)
  simp only [tlcpECDHEClientGenerateCKE, ecdhPrivFromDecrypter, bind_eq_ok, lift_eq_ok, bind_ok,
    reject_ok, wrapErr_ok, pure_eq_ok] at hcke
  obtain ⟨responderPriv, _, ⟨⟨_, _, hresponderPriv⟩, rfl⟩, responderEph, _, _, serverLong, _,
    ⟨hserverLong, rfl⟩, uv, _,
    ⟨hmqv, rfl⟩, _, _, ⟨hshared, rfl⟩, _, _, ⟨hpayload, rfl⟩, hx, rfl⟩ := hcke
  cases hx
  simp only [tlcpECDHEServerProcessCKE, bind_ok, wrapErr_ok] at hdone
  obtain ⟨⟨read', clientEph⟩, hparse', clientLong, hclientLong, uv', hmqv', hshared'⟩ := hdone
  rw [← List.append_nil cke] at hparse'
  obtain rfl := laws.point (params_parsed hpayload hparse')
  obtain rfl := laws.publicKey hserver hsponsorPriv hserverLong
  obtain rfl := laws.publicKey hclient hresponderPriv hclientLong
  obtain rfl := laws.mqv hmqv hmqv'
  exact laws.sharedKey hshared hshared'

/-- The encryption certificate, if usable at all, is that of the private key. -/
def Certified (P : Prims) (pairs : Bytes → Bytes → Prop) (certs : Option DualCerts) : Prop :=
  ∀ d ∈ certs, ∀ k ∈ d.encDecrypter, ∀ cert pub, P.parseCertificate d.encCertDER = .ok cert →
    cert.publicKey = some pub → pairs pub k.key

lemma serverKeys_some (h : serverKeys config = some keys) :
    config.serverCerts = some keys.certs ∧ keys.certs.encDecrypter = some keys.encDecrypter := by
  simp only [serverKeys, Option.bind_eq_bind, Option.bind_eq_some_iff] at h
  obtain ⟨certs, hcerts, signer, _, decrypter, hdecrypter, hx⟩ := h
  cases hx
  exact ⟨hcerts, hdecrypter⟩

section

variable {client server : EngineConfig} {ac as : Account} {f : ServerFlight × ClientFlight}
  {certificates : List Bytes} {hellos : Bytes}

lemma server_key (hcertified : Certified P pairs server.serverCerts)
    (hkeys : serverKeys server = some keys)
    (hsent : ServerSent P keys suite clientRandom serverRandom state flight)
    (hread : ServerRead P suite clientRandom serverRandom encPub ephPub flight) :
    pairs encPub keys.encDecrypter.key := by
  obtain ⟨hcerts, hdecrypter⟩ := serverKeys_some hkeys
  obtain ⟨m, encCert, hm, hparse, hpub⟩ := hread.certified
  rw [certificate_unmarshal hsent.certificate] at hm
  cases hm
  exact hcertified _ hcerts _ hdecrypter encCert encPub hparse hpub

lemma client_key
    (hcertified : Certified P pairs client.clientCerts) (hcerts : client.clientCerts = some certs)
    (hdecrypter : certs.encDecrypter = some decrypter)
    (hsent : CertificateMsg.marshal ⟨[certs.signCertDER, certs.encCertDER]⟩ = .ok cc)
    (hpresented : Presented P server suite (some cc) certificates identity) :
    ∃ pub, identity.encPub = some pub ∧ pairs pub decrypter.key := by
  obtain ⟨hm, hparse, _⟩ := hpresented.parsed cc rfl
  rw [certificate_unmarshal hsent] at hm
  cases hm
  simp only [parseClientCertificates, bind_ok, pure_ok] at hparse
  obtain ⟨sign, _, enc, henc, hx⟩ := hparse
  cases hx
  obtain ⟨⟨cert, pub⟩, rfl, hcert, hpub⟩ := (presentedKey_ok henc).2 certs.encCertDER rfl
  exact ⟨pub, rfl, hcertified certs hcerts decrypter hdecrypter cert pub hcert hpub⟩

/-- With the right certificates both sides come to the same master secret. -/
lemma exchange_agrees (laws : KeyLaws P pairs) (hc : ClientExchange P client ac f)
    (hs : ServerExchange P server as certificates hellos f) (hsuite : ac.suite = as.suite)
    (hclientRandom : ac.clientRandom = as.clientRandom)
    (hserverRandom : ac.serverRandom = as.serverRandom)
    (hserver : Certified P pairs server.serverCerts)
    (hclient : as.suite.ecdhe = true → Certified P pairs client.clientCerts) :
    ac.masterSecret = as.masterSecret := by
  obtain ⟨pms, encPub, ephPub, hread, hsent, hmaster⟩ := hc.made
  obtain ⟨hasked, keys, sigType, state, identity, pms', hkeys, _, hsent', hread', hmaster'⟩ := hs
  rw [hsuite, hclientRandom, hserverRandom] at hread
  rw [hsuite] at hsent
  have hpair := server_key hserver hkeys hsent' hread
  obtain ⟨payload, c₁, c₂, hgenerate, hcke⟩ := hsent.exchanged
  obtain ⟨cke, hparse, hprocess⟩ := hread'.exchanged
  obtain rfl : cke = ⟨payload⟩ := by
    have hround : ClientKeyExchangeMsg.unmarshal f.2.keyExchange = some ⟨payload⟩ := by
      simp [ClientKeyExchangeMsg.unmarshal, opaque_unmarshal hcke]
    exact Option.some.inj (hparse.symm.trans hround)
  obtain ⟨sigType', ske, rand, rand', hske, hskeMsg⟩ := hsent'.exchanged
  suffices hpms : pms = pms' by rw [hmaster, hmaster', hpms, hclientRandom, hserverRandom]
  have hprocess := wrapErr_ok.mp hprocess
  unfold generateClientKeyExchange at hgenerate
  unfold generateServerKeyExchange at hske
  cases hecdhe : as.suite.ecdhe with
  | false =>
    simp only [hecdhe, Bool.false_eq_true, if_false, onRand, bind_eq_ok, ask_eq_ok, on_eq_ok,
      pure_eq_ok] at hgenerate hske
    obtain ⟨_, _, _, hx, _⟩ := hske
    cases hx
    obtain ⟨_, _, ⟨rfl, rfl⟩, _, hecc, _⟩ := hgenerate
    exact ecc_agrees laws hpair hecc hprocess
  | true =>
    simp only [hecdhe, if_true, onRand, bind_eq_ok, lift_eq_ok, need_ok, on_eq_ok,
      pure_eq_ok] at hgenerate hske
    obtain ⟨⟨st, ske'⟩, _, hske, hx, _⟩ := hske
    cases hx
    obtain ⟨decrypter, _, ⟨hdecrypter, rfl⟩, _, hcke, _⟩ := hgenerate
    obtain ⟨certs, hcerts, hdecrypter⟩ := Option.bind_eq_some_iff.mp hdecrypter
    -- An ECDHE suite asks for the client's certificates, so they are in its flight.
    rw [hecdhe, Bool.or_true] at hasked
    obtain ⟨cc, hcc⟩ := Option.isSome_iff_exists.mp hasked
    have hmarshal := hsent.certificate cc hcc
    rw [hcerts] at hmarshal
    have hpresented := hread'.presented
    rw [hcc] at hpresented
    obtain ⟨pub, hpub, hpair'⟩ := client_key (hclient hecdhe) hcerts hdecrypter hmarshal hpresented
    rw [hpub] at hprocess
    obtain ⟨m, _, identity', hm, hskeRead⟩ := hread.exchanged
    have hround : ServerKeyExchangeMsg.unmarshal f.1.keyExchange = some ⟨ske'⟩ := by
      simp [ServerKeyExchangeMsg.unmarshal, opaque_unmarshal hskeMsg]
    rw [hround] at hm
    cases hm
    unfold processServerKeyExchange at hskeRead
    rw [if_pos hecdhe] at hskeRead
    exact ecdhe_agrees laws hpair hpair' hske (wrapErr_ok.mp hskeRead) hcke hprocess

end

/-- The handshake octets that a side has read are the first the other has sent. -/
structure Faithful (c : Conn) (ac : Account) (s : Conn) (as : Account) : Prop where
  toClient : (received c).flatten <+: as.sent
  toServer : (received s).flatten <+: ac.sent

/-- Two secrets with the same Finished of the client are the same. -/
def Distinguished (P : Prims) (masterSecret masterSecret' transcript : Bytes) : Prop :=
  finishedSum P clientFinishedLabel masterSecret transcript =
    finishedSum P clientFinishedLabel masterSecret' transcript → masterSecret = masterSecret'

structure Agree (P : Prims) (client server : EngineConfig) (c : Conn) (ac : Account) (s : Conn)
    (as : Account) : Prop where
  suite : ac.suite = as.suite
  cipherSuite : c.cipherSuite = ac.suite.id ∧ s.cipherSuite = as.suite.id
  resumed : c.didResume = s.didResume
  clientFinished : ac.clientFinished = as.clientFinished
  serverFinished : ac.serverFinished = as.serverFinished
  masterSecret : ac.masterSecret = as.masterSecret
  up : (trafficKeys P ac.suite true ac.masterSecret ac.clientRandom ac.serverRandom).write =
    (trafficKeys P as.suite false as.masterSecret as.clientRandom as.serverRandom).read
  down : (trafficKeys P as.suite false as.masterSecret as.clientRandom as.serverRandom).write =
    (trafficKeys P ac.suite true ac.masterSecret ac.clientRandom ac.serverRandom).read
  upSpec : ∃ spec, directionSpec ac.suite
    (trafficKeys P ac.suite true ac.masterSecret ac.clientRandom ac.serverRandom).write =
    .ok spec ∧ c.outHalf.current = some spec ∧ ReadEvent.staged spec ∈ s.reads
  downSpec : ∃ spec, directionSpec
    as.suite (trafficKeys P as.suite false as.masterSecret as.clientRandom as.serverRandom).write =
    .ok spec ∧ s.outHalf.current = some spec ∧ ReadEvent.staged spec ∈ c.reads
  offered : ac.suite.id ∈ offered client
  accepted : ac.suite.id ∈ server.cipherSuites

lemma mutual_suite (h : tlcpMutualCipherSuite preference peer = some suite) :
    suite.id ∈ preference ∧ tlcpLookupCipherSuite suite.id = some suite := by
  obtain ⟨id, hid, hsome⟩ := List.exists_of_findSome?_eq_some h
  split at hsome
  · obtain rfl := lookup_id hsome
    exact ⟨hid, hsome⟩
  · cases hsome

lemma hellos_agree
    (hc : ClientSide P client ac m c) (hs : ServerSide P server as m s) :
    ac.suite = as.suite ∧ ac.clientRandom = as.clientRandom ∧ ac.serverRandom = as.serverRandom ∧
      ac.suite.id ∈ offered client ∧ ac.suite.id ∈ server.cipherSuites := by
  obtain ⟨hello, hmarshal, hencodable, _, hclientRandom⟩ := hc.hello
  obtain ⟨hello', hparse, hmutual, hclientRandom'⟩ := hs.hello
  rw [clientHello_unmarshal hencodable hmarshal] at hparse
  cases hparse
  obtain ⟨sh, hmarshal', hencodable', hid, hserverRandom'⟩ := hs.serverHello
  obtain ⟨sh', hparse', hlookup, hoffered, hserverRandom⟩ := hc.serverHello
  rw [serverHello_unmarshal hencodable' hmarshal'] at hparse'
  cases hparse'
  obtain ⟨haccepted, hsuite⟩ := mutual_suite hmutual
  rw [hid] at hlookup hoffered
  have hsame : ac.suite = as.suite := Option.some.inj (hlookup.symm.trans hsuite)
  exact ⟨hsame, hclientRandom.trans hclientRandom'.symm, hserverRandom.trans hserverRandom'.symm,
    hsame ▸ hoffered, hsame ▸ haccepted⟩

/-- A client and a server whose handshakes both succeed over a channel that does not change what
is said agree. Where the key exchange does not settle the secret, because the handshake is a
resumed one or a certificate does not belong to its key, the Finished of the client does. -/
theorem handshakes_agree (laws : KeyLaws P pairs) {client server : EngineConfig}
    {clientEnv serverEnv : Surroundings} {toClient toServer : List Arrival}
    {clientWrites serverWrites : List (Option NetErr)} {clientRand serverRand : Bytes} {c s : Conn}
    (hclient : handshake P client clientEnv (newTLCPConn true toClient clientWrites clientRand) =
      (.ok (), c))
    (hserver : handshake P server serverEnv (newTLCPConn false toServer serverWrites serverRand) =
      (.ok (), s))
    : ∃ ac as, account P client clientEnv (newTLCPConn true toClient clientWrites clientRand) =
      .ok ac ∧
      account P server serverEnv (newTLCPConn false toServer serverWrites serverRand) = .ok as ∧
      (Faithful c ac s as →
        (¬ (as.resumed = false ∧ Certified P pairs server.serverCerts ∧
          (as.suite.ecdhe = true → Certified P pairs client.clientCerts)) →
            Distinguished P ac.masterSecret as.masterSecret ac.clientFinished) →
        Agree P client server c ac s as) := by
  obtain ⟨ac, m, haccount, hc, _⟩ := client_handshake hclient
  obtain ⟨as, m', haccount', hs, _⟩ := server_handshake hserver
  refine ⟨ac, as, haccount, haccount', ?_⟩
  intro hfaithful hhmac
  obtain ⟨hdown, hup⟩ := hfaithful
  rw [hc.received, hs.sent] at hdown
  rw [hs.received, hc.sent] at hup
  obtain rfl := hc.follows.unique hs.follows hdown hup
  obtain ⟨hsuite, hclientRandom, hserverRandom, hoffered, haccepted⟩ := hellos_agree hc hs
  have hresumed : ac.resumed = as.resumed := hc.follows.resumed.trans hs.follows.resumed.symm
  have hclientFinished : ac.clientFinished = as.clientFinished := by
    rw [hc.follows.clientFinished, hs.follows.clientFinished, hresumed]
  have hserverFinished : ac.serverFinished = as.serverFinished := by
    rw [hc.follows.serverFinished, hs.follows.serverFinished, hresumed]
  have hmaster : ac.masterSecret = as.masterSecret := by
    by_cases hdirect : as.resumed = false ∧ Certified P pairs server.serverCerts ∧
        (as.suite.ecdhe = true → Certified P pairs client.clientCerts)
    · obtain ⟨hfull, hcertified, hcertified'⟩ := hdirect
      rw [hs.follows.resumed] at hfull
      obtain ⟨f, hf⟩ := Option.isSome_iff_exists.mp (by simpa using hfull)
      exact exchange_agrees laws
        (hc.exchange f hf) (hs.exchange f hf) hsuite hclientRandom hserverRandom hcertified
          hcertified'
    · -- The server has read the Finished that the client has sent.
      refine hhmac hdirect ?_
      have hsent : FinishedMsg.unmarshal m.clientFinished =
          some ⟨finishedSum P clientFinishedLabel ac.masterSecret ac.clientFinished⟩ := by
        simp [FinishedMsg.unmarshal, opaque_unmarshal hc.finished]
      have hsame := Option.some.inj (hsent.symm.trans hs.finished)
      rw [hclientFinished] at hsame ⊢
      exact congrArg FinishedMsg.verifyData hsame
  have hcross (isClient : Bool) :=
    @trafficKeys_cross P as.suite as.masterSecret as.clientRandom as.serverRandom isClient
  obtain ⟨upSpec, ⟨readSpec, hspecs, hstaged⟩, hcurrent⟩ := hc.held.keyed
  obtain ⟨downSpec, ⟨readSpec', hspecs', hstaged'⟩, hcurrent'⟩ := hs.held.keyed
  rw [hc.held.isClient] at hspecs
  rw [hs.held.isClient] at hspecs'
  obtain ⟨hread, hwrite⟩ := trafficSpecs_ok hspecs
  obtain ⟨hread', hwrite'⟩ := trafficSpecs_ok hspecs'
  have hup' : upSpec = readSpec' := by
    rw [hsuite, hmaster, hclientRandom, hserverRandom, hcross true] at hwrite
    exact Except.ok.inj (hwrite.symm.trans hread')
  have hdown' : downSpec = readSpec := by
    rw [hcross false] at hwrite'
    rw [hsuite, hmaster, hclientRandom, hserverRandom] at hread
    exact Except.ok.inj (hwrite'.symm.trans hread)
  exact
    { suite := hsuite
      cipherSuite := ⟨hc.held.cipherSuite, hs.held.cipherSuite⟩
      resumed := by rw [hc.held.didResume, hs.held.didResume, hresumed]
      clientFinished := hclientFinished
      serverFinished := hserverFinished
      masterSecret := hmaster
      up := by rw [hsuite, hmaster, hclientRandom, hserverRandom, hcross true]; rfl
      down := by rw [hsuite, hmaster, hclientRandom, hserverRandom, hcross false]; rfl
      upSpec := ⟨upSpec, hwrite, hcurrent, hup' ▸ hstaged'⟩
      downSpec := ⟨downSpec, hwrite', hcurrent', hdown' ▸ hstaged⟩
      offered := hoffered
      accepted := haccepted }

lemma toyKeyLaws : KeyLaws toyTlcpPrims (· = ·) where
  decrypt := by
    intro pub key plain ct rand rand' _ hlen h
    cases h
    refine ⟨?_, rfl⟩
    simp only [decodeSM2ASN1SequenceLength, List.getD_cons_succ, List.getD_cons_zero,
      List.length_cons, hlen]
    rfl
  publicKey := by
    intro pub key priv long hpair hpriv hlong
    cases hpriv
    cases hlong
    exact hpair
  point := fun h => (Except.ok.inj h).symm
  mqv := fun h h' => (Except.ok.inj h).symm.trans (Except.ok.inj h')
  sharedKey := fun h h' => (Except.ok.inj h).symm.trans (Except.ok.inj h')

def ecdheConfig : EngineConfig :=
  let certs : DualCerts :=
    ⟨[1], zeros 65, [], some ⟨"*sm2.PrivateKey", true, [1]⟩,
      some ⟨"*sm2.PrivateKey", true, zeros 65⟩⟩
  { sampleConfig with
    cipherSuites := [suiteECDHE_SM2_SM4_CBC_SM3], rootCAs :=
      [[1], zeros 65], serverCerts := some certs, clientCerts := some certs }

def sampleParty : Party := ⟨ecdheConfig, sampleEnv none⟩

def sampleConn (isClient : Bool) : Conn :=
  let wires := exchanged sampleParty sampleParty 2
  Party.conn isClient (if isClient then wires.1 else wires.2)

def sampleHandshake (isClient : Bool) : Except Err Unit × Conn :=
  handshake toyTlcpPrims ecdheConfig (sampleEnv none) (sampleConn isClient)

theorem handshakes_agree_sample : ∃ ac as, as.suite.ecdhe = true ∧
    Agree toyTlcpPrims ecdheConfig ecdheConfig (sampleHandshake true).2 ac
      (sampleHandshake false).2 as := by
  -- one evaluation of both handshakes for everything that is asked about them
  have hran : (sampleHandshake true).1 = .ok () ∧ (sampleHandshake false).1 = .ok () ∧
      (account toyTlcpPrims ecdheConfig (sampleEnv none) (sampleConn true)).toOption.map
        (fun a => decide ((received (sampleHandshake false).2).flatten <+: a.sent)) = some true ∧
      (account toyTlcpPrims ecdheConfig (sampleEnv none) (sampleConn false)).toOption.map
        (fun a => (decide ((received (sampleHandshake true).2).flatten <+: a.sent), a.resumed,
          a.suite.ecdhe)) = some (true, false, true) := by decide +kernel
  obtain ⟨hclient, hserver, hto, hfrom⟩ := hran
  obtain ⟨ac, as, haccount, haccount', hagree⟩ :=
    handshakes_agree toyKeyLaws (eq_of_fst_ok hclient) (eq_of_fst_ok hserver)
  have hac : account toyTlcpPrims ecdheConfig (sampleEnv none) (sampleConn true) = .ok ac :=
    haccount
  have has : account toyTlcpPrims ecdheConfig (sampleEnv none) (sampleConn false) = .ok as :=
    haccount'
  rw [hac] at hto
  rw [has] at hfrom
  obtain ⟨htoClient, hrest⟩ := Prod.mk.inj (Option.some.inj hfrom)
  obtain ⟨hfull, hecdhe⟩ := Prod.mk.inj hrest
  have hcertified : Certified toyTlcpPrims (· = ·) ecdheConfig.serverCerts := by
    intro d hd k hk cert pub hparse hpub
    cases hd
    cases hk
    cases hparse
    exact (Option.some.inj hpub).symm
  refine ⟨ac, as, hecdhe,
    hagree ⟨of_decide_eq_true htoClient, of_decide_eq_true (Option.some.inj hto)⟩ fun hnot => ?_⟩
  exact absurd ⟨hfull, hcertified, fun _ => hcertified⟩ hnot

end Pollux.Tlcp
