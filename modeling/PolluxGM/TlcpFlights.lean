import PolluxGM.TlcpAccount

/-!
# The flights of a handshake

What a success of each step of the drivers says about the messages that were read and
written: the hellos, the flights of a full handshake from both sides, and Finished.
-/
namespace Pollux.Tlcp

variable {P : Prims} {config : EngineConfig} {env : Surroundings}

variable {random data : Bytes}

section

variable {c d : Conn}

lemma drawRandom_length (h : drawRandom helloTime c = (.ok random, d)) : random.length = 32 := by
  simp only [drawRandom, onRand, bind_eq_ok, on_eq_ok, pure_eq_ok] at h
  obtain ⟨tail, _, ⟨rand, hdraw, _⟩, rfl, _⟩ := h
  unfold drawRand at hdraw
  split at hdraw
  · cases hdraw
    simp only [be32, List.length_append, List.length_take]
    simp
    omega
  · cases hdraw

def offered (config : EngineConfig) : List UInt16 :=
  if config.cipherSuites = [] then defaultCipherSuites else config.cipherSuites

lemma sendClientHello_told (h : sendClientHello P config env c = (.ok (hello, data), d)) :
    hello.marshal = .ok data ∧ ClientHelloMsg.Encodable hello ∧
      hello.cipherSuites = offered config := by
  simp only [sendClientHello, tlcpMakeClientHello, bind_eq_ok, ask_eq_ok, lift_eq_ok,
    pure_eq_ok] at h
  obtain ⟨fresh, _, ⟨random, _, hrandom, rfl, rfl⟩, session, _, ⟨rfl, rfl⟩, _, _,
    ⟨hmarshal, rfl⟩, _, _, _, hx, rfl⟩ := h
  cases hx
  refine ⟨hmarshal, ⟨⟨drawRandom_length hrandom, ?_, ?_⟩, ?_⟩, rfl⟩
  all_goals simp

lemma receiveServerHello_told
    (h : receiveServerHello P config hello c = (.ok (serverHello, data, suite), d)) :
    ServerHelloMsg.unmarshal data = some serverHello ∧ Says [MessageType.serverHello] [data] ∧
      Hears c d [data] ∧
      Opens c d [data] ∧ tlcpLookupCipherSuite serverHello.cipherSuite = some suite ∧
      serverHello.cipherSuite ∈
        (if hello.cipherSuites = [] then config.cipherSuites else hello.cipherSuites) ∧
      d.isClient = c.isClient ∧ d.cipherSuite = serverHello.cipherSuite ∧
        d.didResume = c.didResume := by
  unfold receiveServerHello at h
  obtain ⟨⟨sh, shData⟩, c₁, hread, h⟩ := bind_eq_ok.mp h
  obtain ⟨hparse, hmessage, hpass⟩ := readMessage_told hread
  simp only [bind_eq_ok, refuse_eq_ok, update_eq_ok, lift_eq_ok, need_ok, pure_eq_ok,
    Classical.not_not] at h
  obtain ⟨_, _, ⟨_, rfl⟩, _, _, rfl, _, _, ⟨hsuite, rfl⟩, _, _, ⟨hoffer, rfl⟩, _, _,
    ⟨_, rfl⟩, _, _, rfl, _, _, ⟨_, rfl⟩, _, _, rfl, hx, rfl⟩ := h
  cases hx
  exact ⟨hparse, .one hmessage (readHeader_type hparse), hpass.hears, hpass.opens, hsuite, hoffer,
    hpass.steady.isClient, rfl, hpass.steady.didResume⟩

lemma receiveClientHello_told
    (h : receiveClientHello P config c = (.ok (clientHello, data, suite), d)) :
    ClientHelloMsg.unmarshal data = some clientHello ∧ Says [MessageType.clientHello] [data] ∧
      Hears c d [data] ∧
      Opens c d [data] ∧ tlcpMutualCipherSuite config.cipherSuites clientHello.cipherSuites =
        some suite ∧
      d.isClient = c.isClient ∧ d.cipherSuite = suite.id ∧ d.didResume = c.didResume ∧
      d.peerCertificates = c.peerCertificates := by
  unfold receiveClientHello at h
  obtain ⟨⟨ch, chData⟩, c₁, hread, h⟩ := bind_eq_ok.mp h
  have hframe := (readMessage_read _ _).step hread
  obtain ⟨hparse, hmessage, hpass⟩ := readMessage_told hread
  simp only [bind_eq_ok, refuse_eq_ok, update_eq_ok, lift_eq_ok, need_ok, pure_eq_ok] at h
  obtain ⟨_, _, ⟨_, rfl⟩, _, _, rfl, _, _, ⟨hsuite, rfl⟩, _, _, rfl, hx, rfl⟩ := h
  cases hx
  exact ⟨hparse, .one hmessage (readHeader_type hparse), hpass.hears, hpass.opens, hsuite,
    hpass.steady.isClient,
    rfl, hpass.steady.didResume, congrArg Outcome.peerCertificates hframe.outcome⟩

lemma serverHello_encodable (h : random.length = 32) (sessionID : Bytes) (suite : CipherSuite) :
    ServerHelloMsg.Encodable (serverHelloWith random sessionID suite) :=
  ⟨⟨h, fun hstapled => absurd hstapled Bool.false_ne_true⟩, fun _ => rfl⟩

end

variable {message : Except Err Bytes}

section

variable {label masterSecret transcript transcript' clientRandom serverRandom : Bytes}
  {suite : CipherSuite} {c d : Conn}

lemma writeHandshakeRecord_told
    (h : writeHandshakeRecord P message transcript c = (.ok transcript', d)) :
    ∃ data, message = .ok data ∧ transcript' = transcript ++ data := by
  simp only [writeHandshakeRecord, bind_eq_ok, lift_eq_ok, pure_eq_ok] at h
  obtain ⟨data, _, ⟨hdata, rfl⟩, _, _, _, rfl, rfl⟩ := h
  exact ⟨data, hdata, rfl⟩

/-- The specs have been made; the one for reading has been staged. -/
structure Keyed (P : Prims) (suite : CipherSuite) (masterSecret clientRandom serverRandom : Bytes)
    (writeSpec : CipherSpec) (c : Conn) : Prop where
  specs : ∃ readSpec, trafficSpecs P suite c.isClient masterSecret clientRandom serverRandom =
    .ok (readSpec, writeSpec) ∧ ReadEvent.staged readSpec ∈ c.reads

lemma Keyed.passes
    (h : Keyed P suite masterSecret clientRandom serverRandom writeSpec c) (hpass : Passes c d ms) :
    Keyed P suite masterSecret clientRandom serverRandom writeSpec d := by
  obtain ⟨readSpec, hspecs, hstaged⟩ := h.specs
  exact ⟨readSpec, hpass.steady.isClient ▸ hspecs, hpass.hears.mem hstaged⟩

lemma establishKeys_told
    (h : establishKeys P suite masterSecret clientRandom serverRandom c = (.ok (), d)) :
    ∃ writeSpec, Keyed P suite masterSecret clientRandom serverRandom writeSpec d ∧
      d.outHalf.next = some writeSpec ∧
      Passes c d [] ∧ outcome d = outcome c ∧ ∀ start, Opening start (readSide c) →
        Staged start (readSide d) := by
  simp only [establishKeys, bind_eq_ok, ask_eq_ok, lift_eq_ok, update_eq_ok] at h
  obtain ⟨_, _, ⟨rfl, rfl⟩, ⟨readSpec, writeSpec⟩, _, ⟨hspecs, rfl⟩, rfl⟩ := h
  refine ⟨writeSpec, ⟨readSpec, hspecs, ?_⟩, rfl,
    ⟨⟨[.staged readSpec], rfl, rfl⟩, rfl, rfl, rfl⟩, rfl, fun _ hc => hc.stage _ _⟩
  exact List.mem_append_right _ (List.mem_singleton.mpr rfl)

lemma changeCipherSpec_told
    (h : Conn.writeRecord P.toRecordPrims .changeCipherSpec payload c = (.ok u, d)) :
    d.outHalf.current = c.outHalf.next := by
  unfold Conn.writeRecord at h
  obtain ⟨record, c₁, hseal, h⟩ := bind_eq_ok.mp h
  dsimp only at h
  rw [if_pos rfl] at h
  obtain ⟨_, c₂, hchange, h⟩ := bind_eq_ok.mp h
  simp only [Conn.onOut, on_eq_ok, changeCipherSpec_eq_ok] at hchange
  obtain ⟨_, ⟨spec, hnext, rfl⟩, rfl⟩ := hchange
  rw [((transmit_sent record).step h).current, ← ((sealRecord_sent _ _ _).step hseal).next, hnext]

lemma sendFinished_told
    (h : sendFinished P label masterSecret transcript c = (.ok transcript', d)) :
    ∃ data, FinishedMsg.marshal ⟨finishedSum P label masterSecret transcript⟩ = .ok data ∧
      Says [MessageType.finished] [data] ∧ transcript' = transcript ++ data ∧ Wrote c d ∧
      d.outHalf.current = c.outHalf.next := by
  have hwrote := (sendFinished_wrote _ _ _).step h
  unfold sendFinished at h
  obtain ⟨_, c₁, hccs, h⟩ := bind_eq_ok.mp h
  obtain ⟨_, c₂, hwrite, h⟩ := bind_eq_ok.mp h
  obtain ⟨_, c₃, hflush, h⟩ := bind_eq_ok.mp h
  obtain ⟨rfl, rfl⟩ := pure_eq_ok.mp h
  obtain ⟨data, hdata, rfl⟩ := writeHandshakeRecord_told hwrite
  refine ⟨data, hdata, marshalHandshake_spoken hdata, rfl, hwrote, ?_⟩
  rw [(flush_sent.step hflush).current, ((writeHandshakeRecord_sent _ _).step hwrite).current,
    changeCipherSpec_told hccs]

lemma readFinished_told
    (h : readFinished P peer label masterSecret transcript c = (.ok transcript', d)) :
    ∃ data, FinishedMsg.unmarshal data = some ⟨finishedSum P label masterSecret transcript⟩ ∧
      Says [MessageType.finished] [data] ∧ transcript' = transcript ++ data ∧ Passes c d [data] ∧
        HasRead c d ∧
      ∀ start, Staged start (readSide c) → Settled start (readSide d) := by
  have hframe := (readFinished_read _ _ _ _).step h
  simp only [readFinished, readMessage, bind_eq_ok, lift_eq_ok, need_ok, refuse_eq_ok, pure_eq_ok,
    Classical.not_not] at h
  obtain ⟨_, _, ⟨data, c₁, hread, fin, _, ⟨hparse, rfl⟩, rfl, rfl⟩, _, _, ⟨hsum, rfl⟩, rfl, rfl⟩ :=
    h
  obtain ⟨hmessage, hreads⟩ := readHandshake_told hread
  have htype := readHeader_type hparse
  exact ⟨data, hsum ▸ hparse, .one hmessage htype, rfl, hreads.toPasses, hframe, fun _ hc =>
    hc.message hread htype⟩

end

structure ServerRead (P : Prims) (suite : CipherSuite)
    (clientRandom serverRandom encPub ephPub : Bytes) (f : ServerFlight) :
    Prop where
  certified : ∃ m encCert, CertificateMsg.unmarshal f.certificate = some m ∧
    P.parseCertificate (m.certificates.getD 1 []) = .ok encCert ∧ encCert.publicKey = some encPub
  exchanged : ∃ m sigType server, ServerKeyExchangeMsg.unmarshal f.keyExchange = some m ∧
    processServerKeyExchange P suite sigType server clientRandom serverRandom m.key = .ok ephPub

structure ServerSent (P : Prims) (keys : ServerKeys) (suite : CipherSuite)
    (clientRandom serverRandom : Bytes) (state : Option ECDHEServerKeyExchange) (f : ServerFlight) :
    Prop where
  certificate : CertificateMsg.marshal
    ⟨keys.certs.signCertDER :: keys.certs.encCertDER :: keys.certs.chainDER⟩ = .ok f.certificate
  exchanged : ∃ sigType payload rand rand',
    generateServerKeyExchange P suite sigType keys clientRandom serverRandom rand =
    (.ok (state, payload), rand') ∧ ServerKeyExchangeMsg.marshal ⟨payload⟩ = .ok f.keyExchange

variable {asked want : Bool} {server : ServerIdentity} {α : Type} {x : α} {keys : ServerKeys}
  {state : Option ECDHEServerKeyExchange}

section

variable {suite : CipherSuite} {hello : ClientHelloMsg} {serverHello : ServerHelloMsg}
  {transcript transcript' : Bytes} {c d : Conn}

lemma readServerHelloDone_told
    (h : readServerHelloDone P transcript c = (.ok (asked, transcript'), d)) :
    ∃ request done, Reads c d (Option.toList request ++ [done]) ∧ asked = request.isSome ∧
      transcript' = transcript ++ (request.toList ++ [done]).flatten ∧
      Says (endTypes request.isSome) (request.toList ++ [done]) := by
  unfold readServerHelloDone at h
  obtain ⟨next, c₁, hread, h⟩ := bind_eq_ok.mp h
  obtain ⟨hnext, hpass⟩ := readHandshake_told hread
  dsimp only at h
  split at h
  · rename_i hrequest
    obtain ⟨_, c₂, hlift, h⟩ := bind_eq_ok.mp h
    obtain ⟨_, rfl⟩ := lift_eq_ok.mp hlift
    obtain ⟨⟨done, data⟩, c₃, hread', h⟩ := bind_eq_ok.mp h
    obtain ⟨hdone, hdata, hpass'⟩ := readMessage_told hread'
    cases h
    refine ⟨some next, data, hpass.trans hpass', rfl, by simp, ?_⟩
    exact .cons hnext hrequest (.one hdata (readHeader_type hdone))
  · simp only [bind_eq_ok, lift_eq_ok, need_ok, pure_eq_ok] at h
    obtain ⟨_, _, ⟨hdone, rfl⟩, hx, rfl⟩ := h
    cases hx
    exact ⟨none, next, hpass, rfl, by simp, .one hnext (readHeader_type hdone)⟩

lemma dualCertificates_type (h : dualCertificates data = some m) :
    data.headD 0 = MessageType.certificate := by
  obtain ⟨m', hm', _⟩ := Option.bind_eq_some_iff.mp h
  exact readHeader_type hm'

lemma keyExchange_type (h : keyExchange data = some m) :
    data.headD 0 = MessageType.serverKeyExchange := by
  obtain ⟨m', hm', _⟩ := Option.bind_eq_some_iff.mp h
  exact readHeader_type hm'

lemma readServerCertificates_told
    (h : readServerCertificates P transcript c = (.ok (server, transcript'), d)) :
    ∃ cert m encCert, Reads c d [cert] ∧ transcript' = transcript ++ cert ∧
      Says [MessageType.certificate] [cert] ∧
      CertificateMsg.unmarshal cert = some m ∧
        P.parseCertificate (m.certificates.getD 1 []) = .ok encCert ∧
      encCert.publicKey = some server.encPub := by
  unfold readServerCertificates at h
  obtain ⟨⟨certMsg, cert⟩, c₁, hread, h⟩ := bind_eq_ok.mp h
  obtain ⟨hdual, hcert, hpass⟩ := readMessage_told hread
  simp only [bind_eq_ok, update_eq_ok, lift_eq_ok, pure_eq_ok] at h
  obtain ⟨_, _, rfl, ⟨encCert, encPub⟩, _, ⟨henc, rfl⟩, ⟨signCert, signPub⟩, _,
    ⟨_, rfl⟩, hx, rfl⟩ := h
  cases hx
  obtain ⟨hparse, hpub⟩ := certificateKey_ok henc
  obtain ⟨m, hm, hsome⟩ := Option.bind_eq_some_iff.mp hdual
  obtain rfl : m = certMsg := by
    split at hsome
    · cases hsome
    · exact Option.some.inj hsome
  refine ⟨cert, m, encCert,
    ⟨⟨hpass.hears, ?_⟩, hpass.opens⟩, rfl, .one hcert (dualCertificates_type hdual), hm, hparse,
      hpub⟩
  exact ⟨hpass.steady.isClient, hpass.steady.cipherSuite, hpass.steady.didResume⟩

lemma readServerFlight_told
    (h : readServerFlight P config suite hello serverHello transcript c =
      (.ok (sigType, server, ephPub, asked, transcript'), d))
    : ∃ f : ServerFlight, Reads c d f.messages ∧ transcript' = transcript ++ f.messages.flatten ∧
      asked = f.request.isSome ∧
      Says f.types f.messages ∧
        ServerRead P suite hello.random serverHello.random server.encPub ephPub f := by
  unfold readServerFlight at h
  obtain ⟨⟨server', transcript₁⟩, c₁, hcerts, h⟩ := bind_eq_ok.mp h
  obtain ⟨cert, certMsg, encCert, hpass₁, rfl, hcert, hparse, henc, hpub⟩ :=
    readServerCertificates_told hcerts
  obtain ⟨sigType', _, hlift, h⟩ := bind_eq_ok.mp h
  obtain ⟨_, rfl⟩ := lift_eq_ok.mp hlift
  obtain ⟨⟨ske, skeData⟩, c₂, hske, h⟩ := bind_eq_ok.mp h
  obtain ⟨hkey, hdata, hpass₂⟩ := readMessage_told hske
  obtain ⟨m, hm, hsome⟩ := Option.bind_eq_some_iff.mp hkey
  obtain rfl : m = ske := by
    split at hsome
    · cases hsome
    · exact Option.some.inj hsome
  obtain ⟨ephPub', _, hlift, h⟩ := bind_eq_ok.mp h
  obtain ⟨hprocess, rfl⟩ := lift_eq_ok.mp hlift
  -- The checks on the chain read nothing.
  have hdone : ∃ y, readServerHelloDone P (transcript ++ cert ++ skeData) c₂ = (.ok y, d) ∧
      (sigType', server', ephPub', y.1, y.2) = (sigType, server, ephPub, asked, transcript') := by
    dsimp only at h
    split at h
    · simp only [bind_eq_ok, lift_eq_ok, pure_eq_ok] at h
      obtain ⟨_, _, ⟨_, rfl⟩, y, _, hdone, hx, rfl⟩ := h
      exact ⟨y, hdone, hx⟩
    · simp only [bind_eq_ok, pure_eq_ok] at h
      obtain ⟨y, _, hdone, hx, rfl⟩ := h
      exact ⟨y, hdone, hx⟩
  obtain ⟨⟨_, _⟩, hdone, hx⟩ := hdone
  cases hx
  obtain ⟨request, done, hpass₃, hasked, rfl, hend⟩ := readServerHelloDone_told hdone
  refine ⟨⟨cert, skeData, request, done⟩,
    (hpass₁.trans hpass₂).trans hpass₃, by simp [ServerFlight.messages], hasked, ?_,
    ⟨⟨certMsg, encCert, hparse, henc, hpub⟩, m, sigType, server, hm, hprocess⟩⟩
  exact hcert.append (.cons hdata (keyExchange_type hkey) hend)

lemma writeOptional_told
    (h : (if wanted = true then writeHandshakeRecord P message transcript >>=
      rest else pure transcript >>= rest) c = (.ok x, d)) :
    ∃ (data : Option Bytes) (c' : Conn), data.isSome = wanted ∧ (∀ m ∈ data, message = .ok m) ∧
      rest (transcript ++ data.toList.flatten) c' = (.ok x, d) := by
  cases wanted with
  | true =>
    obtain ⟨_, c', hwrite, hrest⟩ := bind_eq_ok.mp h
    obtain ⟨data, hdata, rfl⟩ := writeHandshakeRecord_told hwrite
    refine ⟨some data, c', rfl, ?_, by simpa using hrest⟩
    intro m hm
    cases hm
    exact hdata
  | false =>
    have hrest : rest transcript c = (.ok x, d) := h
    exact ⟨none, c, rfl, nofun, by simpa using hrest⟩

lemma sendServerFlight_told
    (h : sendServerFlight P keys suite want hello serverHello transcript c =
      (.ok (sigType, state, transcript'), d))
    : ∃ (sh : Bytes) (f : ServerFlight), serverHello.marshal = .ok sh ∧ transcript' = transcript ++
      (sh :: f.messages).flatten ∧
      want = f.request.isSome ∧ Says (MessageType.serverHello :: f.types) (sh :: f.messages) ∧
      tlcpSigTypeForSuite suite.id = .ok sigType ∧
      ServerSent P keys suite hello.random serverHello.random state f := by
  unfold sendServerFlight at h
  obtain ⟨_, c₁, _, h⟩ := bind_eq_ok.mp h
  obtain ⟨_, c₂, hhello, h⟩ := bind_eq_ok.mp h
  obtain ⟨sh, hsh, rfl⟩ := writeHandshakeRecord_told hhello
  obtain ⟨_, c₃, hcert, h⟩ := bind_eq_ok.mp h
  obtain ⟨cert, hcertMsg, rfl⟩ := writeHandshakeRecord_told hcert
  obtain ⟨_, _, hlift, h⟩ := bind_eq_ok.mp h
  obtain ⟨hsig, rfl⟩ := lift_eq_ok.mp hlift
  obtain ⟨⟨state', payload⟩, c₄, hrand, h⟩ := bind_eq_ok.mp h
  obtain ⟨rand, hgenerate, rfl⟩ := on_eq_ok.mp hrand
  obtain ⟨_, c₅, hske, h⟩ := bind_eq_ok.mp h
  obtain ⟨ske, hskeMsg, rfl⟩ := writeHandshakeRecord_told hske
  obtain ⟨request, c₆, hwant, hrequestMsg, h⟩ := writeOptional_told h
  obtain ⟨_, c₇, hdone, h⟩ := bind_eq_ok.mp h
  obtain ⟨done, hdoneMsg, rfl⟩ := writeHandshakeRecord_told hdone
  obtain ⟨_, _, _, h⟩ := bind_eq_ok.mp h
  cases h
  refine ⟨sh, ⟨cert, ske, request, done⟩, hsh,
    by simp [ServerFlight.messages], hwant.symm, ?_, hsig, hcertMsg, ?_⟩
  · have hrequestSays := Says.optional fun m hm => marshalHandshake_spoken (hrequestMsg m hm)
    exact (serverHello_spoken hsh).append ((marshalHandshake_spoken hcertMsg).append
      ((marshalHandshake_spoken hskeMsg).append
        (hrequestSays.append (marshalHandshake_spoken hdoneMsg))))
  · exact ⟨_, payload, _, _, hgenerate, hskeMsg⟩

end

structure ClientSent (P : Prims) (config : EngineConfig) (suite : CipherSuite)
    (encPub ephPub pms : Bytes) (f : ClientFlight) :
    Prop where
  certificate : ∀ m ∈ f.certificate, CertificateMsg.marshal
    ⟨config.clientCerts.elim [] fun certs => [certs.signCertDER, certs.encCertDER]⟩ = .ok m
  exchanged : ∃ payload c₁ c₂, generateClientKeyExchange P config suite ephPub encPub c₁ =
    (.ok (pms, payload), c₂) ∧ ClientKeyExchangeMsg.marshal ⟨payload⟩ = .ok f.keyExchange

/-- The certificates a client sent, and what the server made of them. -/
structure Presented (P : Prims) (config : EngineConfig) (suite : CipherSuite)
    (message : Option Bytes) (certificates : List Bytes) (client : ClientIdentity) : Prop where
  parsed : ∀ data ∈ message, CertificateMsg.unmarshal data = some ⟨certificates⟩ ∧
    parseClientCertificates P certificates = .ok client ∧
      checkClientAuth P config suite client = .ok ()
  absent : message = none → certificates = [] ∧ client.sign = none

/-- What the server has taken from the flight. -/
structure ClientRead (P : Prims) (config : EngineConfig) (keys : ServerKeys) (suite : CipherSuite)
    (sigType : SigType) (state : Option ECDHEServerKeyExchange) (transcript pms : Bytes)
    (certificates : List Bytes) (client : ClientIdentity) (f : ClientFlight) : Prop where
  presented : Presented P config suite f.certificate certificates client
  exchanged : ∃ m, ClientKeyExchangeMsg.unmarshal f.keyExchange = some m ∧
    processClientKeyExchange P keys state client.encPub m.ciphertext = .ok pms
  verified : ∀ x ∈ client.sign, ∃ data ∈ f.verify, ∃ m,
    CertificateVerifyMsg.unmarshal data = some m ∧ tlcpVerifyHandshakeSignature P sigType x.2
      (P.sm3 (transcript ++ f.certificate.toList.flatten ++ f.keyExchange)) m.signature = .ok ()

section

variable {suite : CipherSuite} {hello : ClientHelloMsg} {serverHello : ServerHelloMsg}
  {sigType : SigType} {transcript transcript' masterSecret encPub ephPub : Bytes} {c d : Conn}

lemma sendCertificateVerify_told
    (h : sendCertificateVerify P sigType asked config transcript c = (.ok transcript', d)) :
    ∃ verify, transcript' = transcript ++ (Option.toList verify).flatten ∧
      Says (if verify.isSome then [MessageType.certificateVerify] else []) verify.toList := by
  have hsilent (hpure : (pure transcript : Cmd Err Conn Bytes) c = (.ok transcript', d)) : ∃ verify,
      transcript' = transcript ++ (Option.toList verify).flatten ∧
      Says (if verify.isSome then [MessageType.certificateVerify] else []) verify.toList := by
    obtain ⟨rfl, _⟩ := pure_eq_ok.mp hpure
    exact ⟨none, by simp, .none⟩
  unfold sendCertificateVerify at h
  generalize config.clientCerts.bind DualCerts.signSigner = signer at h
  cases asked with
  | false => exact hsilent h
  | true =>
    cases signer with
    | none => exact hsilent h
    | some signer =>
      obtain ⟨sig, c₁, _, h⟩ := bind_eq_ok.mp h
      obtain ⟨data, hdata, rfl⟩ := writeHandshakeRecord_told h
      exact ⟨some data, by simp, marshalHandshake_spoken hdata⟩

lemma sendClientFlight_told
    (h : sendClientFlight P config suite
      hello serverHello sigType encPub ephPub asked transcript c =
        (.ok (masterSecret, transcript'), d))
    : ∃ (f : ClientFlight) (pms : Bytes), f.certificate.isSome = asked ∧
      transcript' = transcript ++ f.messages.flatten ∧
      Says f.types f.messages ∧ ClientSent P config suite encPub ephPub pms f ∧
      masterSecret = tlcpMasterFromPreMaster P.toRecordPrims pms hello.random
        serverHello.random := by
  unfold sendClientFlight at h
  obtain ⟨cert, c₁, hasked, hcert, h⟩ := writeOptional_told h
  obtain ⟨⟨pms, payload⟩, c₂, hgenerate, h⟩ := bind_eq_ok.mp h
  obtain ⟨_, c₃, hwrite, h⟩ := bind_eq_ok.mp h
  obtain ⟨cke, hcke, rfl⟩ := writeHandshakeRecord_told hwrite
  obtain ⟨_, c₄, hsign, h⟩ := bind_eq_ok.mp h
  obtain ⟨verify, rfl, hverify⟩ := sendCertificateVerify_told hsign
  cases h
  refine ⟨⟨cert, cke, verify⟩, pms, hasked,
    by simp [ClientFlight.messages], ?_, ⟨?_, payload, c₁, c₂, hgenerate, hcke⟩, rfl⟩
  · have hcertSays := Says.optional fun m hm => marshalHandshake_spoken (hcert m hm)
    exact hcertSays.append ((marshalHandshake_spoken hcke).append hverify)
  · intro m hm
    rw [← hcert m hm]
    cases config.clientCerts <;> rfl

lemma readCertificateVerify_told
    (h : readCertificateVerify P sigType client transcript c = (.ok transcript', d)) :
    ∃ verify, Reads c d (Option.toList verify) ∧ transcript' = transcript ++ verify.toList.flatten ∧
      Says (if verify.isSome then [MessageType.certificateVerify] else []) verify.toList ∧
      d.peerCertificates = c.peerCertificates ∧
      ∀ x ∈ client.sign, ∃ data ∈ verify, ∃ m, CertificateVerifyMsg.unmarshal data = some m ∧
        tlcpVerifyHandshakeSignature P sigType x.2 (P.sm3 transcript) m.signature = .ok () := by
  unfold readCertificateVerify at h
  cases hsign : client.sign with
  | none =>
    rw [hsign] at h
    obtain ⟨rfl, rfl⟩ := pure_eq_ok.mp h
    refine ⟨none, .of_same rfl ⟨rfl, rfl, rfl⟩, by simp, .none, rfl, ?_⟩
    exact nofun
  | some x =>
    rw [hsign] at h
    obtain ⟨⟨cv, data⟩, c₁, hread, h⟩ := bind_eq_ok.mp h
    obtain ⟨hparse, hmessage, hpass⟩ := readMessage_told hread
    have hframe := (readMessage_read _ _).step hread
    simp only [bind_eq_ok, lift_eq_ok, pure_eq_ok] at h
    obtain ⟨_, _, ⟨hverify, rfl⟩, rfl, rfl⟩ := h
    refine ⟨some data, hpass, by simp, .one hmessage (readHeader_type hparse),
      congrArg Outcome.peerCertificates hframe.outcome, ?_⟩
    intro y hy
    cases hy
    exact ⟨data, rfl, cv, hparse, wrapErr_ok.mp hverify⟩

lemma readClientCertificate_told (hfresh : c.peerCertificates = [])
    (h : (if want = true then readClientCertificate P config suite transcript >>=
      rest else pure (⟨none, none⟩, transcript) >>= rest) c = (.ok x, d)) :
    ∃ (cert : Option Bytes) (client : ClientIdentity) (c' : Conn), cert.isSome = want ∧
      Reads c c' cert.toList ∧
      Says (if cert.isSome then [MessageType.certificate] else []) cert.toList ∧
      Presented P config suite cert c'.peerCertificates client ∧
      rest (client, transcript ++ cert.toList.flatten) c' = (.ok x, d) := by
  cases want with
  | false =>
    have hrest : rest (⟨none, none⟩, transcript) c = (.ok x, d) := h
    refine ⟨none, ⟨none, none⟩, c, rfl, .of_same rfl ⟨rfl, rfl, rfl⟩, .none,
      ⟨?_, fun _ => ⟨hfresh, rfl⟩⟩, by simpa using hrest⟩
    exact nofun
  | true =>
    obtain ⟨⟨client, _⟩, c', hcert, hrest⟩ := bind_eq_ok.mp h
    unfold readClientCertificate at hcert
    obtain ⟨⟨cc, data⟩, c₁, hread, hcert⟩ := bind_eq_ok.mp hcert
    obtain ⟨hparse, hmessage, hpass⟩ := readMessage_told hread
    simp only [bind_eq_ok, update_eq_ok, lift_eq_ok, pure_eq_ok] at hcert
    obtain ⟨_, _, rfl, _, _, ⟨hclient, rfl⟩, _, _, ⟨hauth, rfl⟩, hx, rfl⟩ := hcert
    cases hx
    refine ⟨some data, client, { c₁ with peerCertificates := cc.certificates }, rfl,
      ⟨⟨hpass.hears, ?_⟩, hpass.opens⟩,
      .one hmessage (readHeader_type hparse),
        ⟨?_, fun hnone => by cases hnone⟩, by simpa using hrest⟩
    · exact ⟨hpass.steady.isClient, hpass.steady.cipherSuite, hpass.steady.didResume⟩
    · intro y hy
      cases hy
      exact ⟨hparse, hclient, hauth⟩

lemma readClientFlight_told (hfresh : c.peerCertificates = [])
    (h : readClientFlight P config keys suite want sigType state hello serverHello transcript c =
      (.ok (masterSecret, transcript'), d))
    : ∃ (f : ClientFlight) (client : ClientIdentity) (pms : Bytes), f.certificate.isSome = want ∧
      Reads c d f.messages ∧
      transcript' = transcript ++ f.messages.flatten ∧ Says f.types f.messages ∧
      ClientRead P config keys suite sigType state transcript pms d.peerCertificates client f ∧
      masterSecret = tlcpMasterFromPreMaster P.toRecordPrims pms hello.random
        serverHello.random := by
  unfold readClientFlight at h
  obtain ⟨cert, client, c₁, hwant, hpass₁, hcert, hpresented, h⟩ :=
    readClientCertificate_told hfresh h
  obtain ⟨⟨cke, ckeData⟩, c₂, hread, h⟩ := bind_eq_ok.mp h
  obtain ⟨hparse, hmessage, hpass₂⟩ := readMessage_told hread
  have hframe := (readMessage_read _ _).step hread
  obtain ⟨pms, _, hlift, h⟩ := bind_eq_ok.mp h
  obtain ⟨hprocess, rfl⟩ := lift_eq_ok.mp hlift
  obtain ⟨_, c₃, hsign, h⟩ := bind_eq_ok.mp h
  obtain ⟨verify, hpass₃, rfl, hverify, hpeer₃, hverified⟩ := readCertificateVerify_told hsign
  cases h
  have hpeer : d.peerCertificates = c₁.peerCertificates :=
    hpeer₃.trans (congrArg Outcome.peerCertificates hframe.outcome)
  refine ⟨⟨cert, ckeData, verify⟩, client, pms, hwant, ?_, by simp [ClientFlight.messages], ?_,
    ⟨hpeer ▸ hpresented, ⟨cke, hparse, hprocess⟩, hverified⟩, rfl⟩
  · exact hpass₁.trans (hpass₂.trans hpass₃)
  · exact hcert.append (.cons hmessage (readHeader_type hparse) hverify)

end

end Pollux.Tlcp
