import PolluxGM.TlcpClient

/-!
# TLCP server handshake

The driver of `engine_handshake_server.go`, cut at its messages, and `Handshake`, which
runs the driver of its side once and keeps the outcome.
-/
namespace Pollux.Tlcp

open TlcpSession

structure ServerKeys where
  certs : DualCerts
  signSigner : PrivateKey
  encDecrypter : PrivateKey

variable (P : Prims) (config : EngineConfig) (env : Surroundings) (keys : ServerKeys)
  (suite : CipherSuite) (clientHello : ClientHelloMsg)

def serverKeys : Option ServerKeys := do
  let certs ← config.serverCerts
  return ⟨certs, ← certs.signSigner, ← certs.encDecrypter⟩

def receiveClientHello : Cmd Err Conn (ClientHelloMsg × Bytes × CipherSuite) := do
  let (clientHello, chData) ← readMessage P ClientHelloMsg.unmarshal
    "tlcp: failed to parse ClientHello"
  Cmd.refuse (clientHello.version ≠ versionTLCP)
    (.text ("tlcp: client version " ++ hex4 clientHello.version.toNat ++ ", want " ++
      hex4 versionTLCP.toNat))
  Cmd.update fun c => { c with
    vers := versionTLCP, haveVers := true, serverName := clientHello.serverName }
  let suite ← Cmd.lift (need (.text "tlcp: no common cipher suite with client")
    (tlcpMutualCipherSuite config.cipherSuites clientHello.cipherSuites))
  Cmd.update fun c => { c with cipherSuite := suite.id }
  return (clientHello, chData, suite)

def serverHelloWith (random sessionID : Bytes) (suite : CipherSuite) : ServerHelloMsg where
  version := versionTLCP
  random := random
  sessionID := sessionID
  cipherSuite := suite.id
  compressionMethod := 0
  ocspStapling := false
  ocspResponse := []
  alpnProtocol := []
  serverNameAck := false

/-- The session that `Get` returned, if it may be resumed. -/
def resumable (vers : UInt16) (suite : CipherSuite) (sess : SessionState) : Bool :=
  sessionFresh env.lookupTime sess && sess.version = vers && sess.cipherSuite = suite.id

def lookupResumedSession (suite : CipherSuite) : Cmd Err Conn (Option SessionState) := do
  if config.sessionCache = false ∨ clientHello.sessionID = [] then return none
  else
    let key := tlcpSessionKeyHex clientHello.sessionID
    noteCache (.get key)
    let vers ← Cmd.ask Conn.vers
    return (env.lookup key).filter (resumable env vers suite)

def serverResumeHandshake (chData : Bytes) (sess : SessionState) : Cmd Err Conn Unit := do
  let serverRandom ← drawRandom env.helloTime
  let serverHello := serverHelloWith serverRandom clientHello.sessionID suite
  startBuffering
  let transcript ← writeHandshakeRecord P serverHello.marshal chData
  Conn.flush
  Cmd.update fun c => { c with peerCertificates := sess.peerCertificates }
  establishKeys P suite sess.masterSecret clientHello.random serverHello.random
  let transcript ← sendFinished P serverFinishedLabel sess.masterSecret transcript
  let _ ← readFinished P "client" clientFinishedLabel sess.masterSecret transcript
  return ()

/-- ECDHE keeps its keys for the second step. -/
def generateServerKeyExchange (sigType : SigType) (keys : ServerKeys)
    (clientRandom serverRandom : Bytes) :
    Cmd Err Bytes (Option ECDHEServerKeyExchange × Bytes) := do
  if suite.ecdhe then
    let (state, payload) ←
      tlcpECDHEServerGenerateSKE P sigType keys.signSigner keys.encDecrypter clientRandom
        serverRandom
    return (some state, payload)
  else
    let payload ←
      tlcpECCGenerateServerKeyExchange P sigType keys.signSigner clientRandom serverRandom
        keys.certs.encCertDER
    return (none, payload)

def sendServerFlight (wantClientCert : Bool) (clientHello : ClientHelloMsg)
    (serverHello : ServerHelloMsg) (transcript : Bytes) :
    Cmd Err Conn (SigType × Option ECDHEServerKeyExchange × Bytes) := do
  startBuffering
  let transcript ← writeHandshakeRecord P serverHello.marshal transcript
  let transcript ← writeHandshakeRecord P
    (CertificateMsg.marshal ⟨keys.certs.signCertDER :: keys.certs.encCertDER ::
      keys.certs.chainDER⟩) transcript
  let sigType ← Cmd.lift (tlcpSigTypeForSuite suite.id)
  let (state, payload) ←
    onRand (generateServerKeyExchange P suite sigType keys clientHello.random serverHello.random)
  let transcript ← writeHandshakeRecord P (ServerKeyExchangeMsg.marshal ⟨payload⟩) transcript
  let transcript ← if wantClientCert then
      writeHandshakeRecord P (CertificateRequestMsg.marshal ⟨[certTypeECDSA], []⟩) transcript
    else pure transcript
  let transcript ← writeHandshakeRecord P (ServerHelloDoneMsg.marshal ⟨⟩) transcript
  Conn.flush
  return (sigType, state, transcript)

/-- The signing certificate with its key, and the encryption key. -/
structure ClientIdentity where
  sign : Option (Certificate × Bytes)
  encPub : Option Bytes

def presentedKey (context refusal : String) :
    Option Bytes → Except Err (Option (Certificate × Bytes))
  | none => pure none
  | some der => some <$> certificateKey P context refusal der

def parseClientCertificates (certificates : List Bytes) : Except Err ClientIdentity := do
  let sign ← presentedKey P "tlcp: parse client sign cert: " "tlcp: client sign cert not ECDSA"
    certificates[0]?
  let enc ← presentedKey P "tlcp: parse client enc cert: " "tlcp: client enc cert not ECDSA"
    certificates[1]?
  return ⟨sign, enc.map Prod.snd⟩

/-- What the configuration demands of the client's certificates. -/
def checkClientAuth (client : ClientIdentity) : Except Err Unit := do
  reject (suite.ecdhe ∧ client.encPub = none)
    (.text "tlcp: ECDHE requires a client encryption certificate")
  reject ((config.clientAuth = .requireAnyClientCert ∨
    config.clientAuth = .requireAndVerifyClientCert) ∧
    client.sign = none) (.text "tlcp: client did not provide a certificate")
  match config.clientRoots with
  | none => return ()
  | some roots =>
    reject (config.clientAuth = .requireAndVerifyClientCert ∧ client.sign = none)
      (.text "tlcp: client did not provide a certificate")
    match client.sign with
    | none => return ()
    | some (cert, _) =>
      wrapErr "tlcp: client certificate verification failed: "
        (P.verifyCertificate cert ⟨roots, [], [], .clientAuth⟩)

def readClientCertificate (transcript : Bytes) : Cmd Err Conn (ClientIdentity × Bytes) := do
  let (cc, ccData) ← readMessage P CertificateMsg.unmarshal
    "tlcp: failed to parse client Certificate"
  Cmd.update fun c => { c with peerCertificates := cc.certificates }
  let client ← Cmd.lift (parseClientCertificates P cc.certificates)
  Cmd.lift (checkClientAuth P config suite client)
  return (client, transcript ++ ccData)

/-- The ECDHE branch is taken only after both keys were made and checked. -/
def processClientKeyExchange (state : Option ECDHEServerKeyExchange) (encPub : Option Bytes)
    (payload : Bytes) :
    Except Err Bytes :=
  wrapErr "tlcp: ClientKeyExchange: " <|
    match state with
    | some state => tlcpECDHEServerProcessCKE P state (encPub.getD []) payload
    | none => tlcpECCProcessClientKeyExchange P keys.encDecrypter payload

/-- Checked for a client that presented a signing certificate. -/
def readCertificateVerify (sigType : SigType) (client : ClientIdentity) (transcript : Bytes) :
    Cmd Err Conn Bytes :=
  match client.sign with
  | none => pure transcript
  | some (_, signPub) => do
    let (cv, cvData) ← readMessage P CertificateVerifyMsg.unmarshal
      "tlcp: failed to parse CertificateVerify"
    Cmd.lift (wrapErr "tlcp: invalid CertificateVerify signature: "
      (tlcpVerifyHandshakeSignature P sigType signPub (P.sm3 transcript) cv.signature))
    return transcript ++ cvData

def createNewServerSession (serverHello : ServerHelloMsg) (masterSecret : Bytes) :
    Cmd Err Conn Unit := do
  if config.sessionCache then
    let sess ← Cmd.ask (newSession env serverHello.sessionID masterSecret)
    noteCache (.put (tlcpSessionKeyHex sess.sessionID) sess)

def readClientFlight (wantClientCert : Bool) (sigType : SigType)
    (state : Option ECDHEServerKeyExchange) (clientHello : ClientHelloMsg)
    (serverHello : ServerHelloMsg) (transcript : Bytes) : Cmd Err Conn (Bytes × Bytes) := do
  let (client, transcript) ← if wantClientCert then readClientCertificate P config suite transcript
    else pure (⟨none, none⟩, transcript)
  let (cke, ckeData) ← readMessage P ClientKeyExchangeMsg.unmarshal
    "tlcp: failed to parse ClientKeyExchange"
  let pms ← Cmd.lift (processClientKeyExchange P keys state client.encPub cke.ciphertext)
  let transcript ← readCertificateVerify P sigType client (transcript ++ ckeData)
  return (tlcpMasterFromPreMaster P.toRecordPrims pms clientHello.random serverHello.random,
    transcript)

def serverFullHandshake (chData : Bytes) : Cmd Err Conn Unit := do
  let serverRandom ← drawRandom env.helloTime
  let sessionID ← onRand (drawRand 32)
  let serverHello := serverHelloWith serverRandom sessionID suite
  let wantClientCert := config.requestClientCert || suite.ecdhe
  let (sigType, state, transcript) ← sendServerFlight P keys suite wantClientCert clientHello
    serverHello chData
  let (masterSecret, transcript) ←
    readClientFlight P config keys suite wantClientCert sigType state clientHello serverHello
      transcript
  establishKeys P suite masterSecret clientHello.random serverHello.random
  let transcript ← readFinished P "client" clientFinishedLabel masterSecret transcript
  startBuffering
  let _ ← sendFinished P serverFinishedLabel masterSecret transcript
  createNewServerSession config env serverHello masterSecret

def serverHandshakeReal : Cmd Err Conn Unit := do
  let keys ← Cmd.lift (need (.text "tlcp: server requires signing + encryption certificates")
    (serverKeys config))
  let (clientHello, chData, suite) ← receiveClientHello P config
  match ← lookupResumedSession config env clientHello suite with
  | some sess =>
    serverResumeHandshake P env suite clientHello chData sess
    Cmd.update fun c => { c with didResume := true }
  | none => serverFullHandshake P config env keys suite clientHello chData

def driver : Cmd Err Conn Unit := do
  if ← Cmd.ask Conn.isClient then clientHandshakeReal P config env
  else serverHandshakeReal P config env

/-- The alert of a failed handshake; its errors are dropped. -/
def sendFailureAlert (c : Conn) : Conn :=
  let c' := (Conn.writeRecord P.toRecordPrims .alert [alertLevelError, alertHandshakeFailure] c).2
  (Conn.flush c').2

def handshake : Cmd Err Conn Unit := fun c =>
  if c.handshakeStatus then (.ok (), c)
  else
    match c.handshakeErr with
    | some e => (.error e, c)
    | none =>
      match driver P config env c with
      | (.ok (), c') => (.ok (),
        { (Conn.flush c').2 with buffering := false, handshakeStatus := true })
      | (.error e, c') => (.error e, sendFailureAlert P { c' with handshakeErr := some e })

lemma handshake_first {P : Prims} {config : EngineConfig} {env : Surroundings} {c : Conn}
    {Q : Unit → Conn → Prop} {E : Err → Conn → Prop} (hstatus : c.handshakeStatus = false)
    (herr : c.handshakeErr = none)
    (h : Triple (driver P config env) c
      (fun u c' => Q u { (Conn.flush c').2 with buffering := false, handshakeStatus := true }) fun e
        c' => E e (sendFailureAlert P { c' with handshakeErr := some e })) :
    Triple (handshake P config env) c Q E := by
  unfold Triple handshake at *
  rw [if_neg (by simp [hstatus]), herr]
  generalize driver P config env c = r at h ⊢
  obtain ⟨_ | _, _⟩ := r
  · exact h
  · exact h

structure Party where
  config : EngineConfig
  env : Surroundings

def Party.conn (isClient : Bool) (incoming : List Arrival) : Conn :=
  newTLCPConn isClient incoming [] (zeros 200)

/-- The connection of a party whose peer has sent so much. -/
def Party.after (p : Party) (isClient : Bool) (incoming : List Arrival) : Conn :=
  (driver toyTlcpPrims p.config p.env (conn isClient incoming)).2

/-- What the server has sent after some flights, and the client before them. -/
def exchanged (client server : Party) : Nat → List Arrival × List Arrival
  | 0 => ([], [])
  | flights + 1 =>
    let toServer := (client.after true (exchanged client server flights).1).outgoing.map .bytes
    ((server.after false toServer).outgoing.map .bytes, toServer)

def sampleConfig : EngineConfig where
  cipherSuites := [suiteECC_SM2_SM4_GCM_SM3]
  serverName := [115]
  insecureSkipVerify := false
  rootCAs := [[1], [2]]
  serverCerts := some ⟨[1], [2],
    [], some ⟨"*sm2.PrivateKey", true, [1]⟩, some ⟨"*sm2.PrivateKey", true, [2]⟩⟩
  sessionCache := true
  clientCerts := none
  requestClientCert := false
  clientRoots := none
  clientAuth := .noClientCert

def sampleEnv (cached : Option SessionState) : Surroundings where
  remoteAddr := [1]
  lookup := fun _ => cached
  lower := id
  helloTime := 0
  lookupTime := 0
  createdTime := 0

def offeredSession : SessionState where
  sessionID := [7]
  version := versionTLCP
  cipherSuite := suiteECC_SM2_SM4_GCM_SM3
  masterSecret := [9]
  peerCertificates := []
  createdAt := 0

end Pollux.Tlcp
