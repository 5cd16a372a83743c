import PolluxGM.TlcpHandshake

/-!
# TLCP client handshake

The driver of `engine_handshake_client.go`, cut at its messages.
-/
namespace Pollux.Tlcp

open TlcpSession

variable (P : Prims) (config : EngineConfig) (env : Surroundings) (suite : CipherSuite)
  (hello : ClientHelloMsg) (serverHello : ServerHelloMsg) (transcript : Bytes)

def tlcpMakeClientHello : Cmd Err Conn ClientHelloMsg := do
  let random ← drawRandom env.helloTime
  return { version := versionTLCP
           random := random
           sessionID := []
           cipherSuites := if config.cipherSuites = [] then defaultCipherSuites
             else config.cipherSuites
           compressionMethods := [0]
           serverName := config.serverName
           trustedAuthorities := []
           ocspStapling := false
           supportedCurves := [curveSM2]
           supportedSignatureAlgorithms := [sigSM2WithSM3]
           alpnProtocols := [] }

def clientKey : Bytes := sessionCacheKey env.lower env.remoteAddr config.serverName

/-- The session in the cache for this server, if it is fresh. -/
def loadSession : Cmd Err Conn Unit := do
  if config.sessionCache then
    noteCache (.get (clientKey config env))
    match env.lookup (clientKey config env) with
    | none => return ()
    | some sess =>
      if sessionFresh env.lookupTime sess then Cmd.update fun c => { c with session := some sess }
      else return ()

/-- The source panics if the hello cannot be marshalled. -/
def sendClientHello : Cmd Err Conn (ClientHelloMsg × Bytes) := do
  let fresh ← tlcpMakeClientHello config env
  let session ← Cmd.ask Conn.session
  let hello := { fresh with sessionID := (session.map SessionState.sessionID).getD fresh.sessionID }
  let data ← Cmd.lift hello.marshal
  Conn.writeRecord P.toRecordPrims .handshake data
  return (hello, data)

/-- The ServerHello with its octets and its suite, after all checks on it. -/
def receiveServerHello : Cmd Err Conn (ServerHelloMsg × Bytes × CipherSuite) := do
  let (serverHello, shData) ← readMessage P ServerHelloMsg.unmarshal
    "tlcp: failed to parse ServerHello"
  Cmd.refuse (serverHello.version ≠ versionTLCP)
    (.text ("tlcp: server chose version " ++ hex4 serverHello.version.toNat ++ ", want " ++
      hex4 versionTLCP.toNat))
  Cmd.update fun c => { c with
    vers := serverHello.version, haveVers := true, cipherSuite := serverHello.cipherSuite }
  let suite ← Cmd.lift (need
    (.text ("tlcp: server selected unknown cipher suite " ++ hex4 serverHello.cipherSuite.toNat))
    (tlcpLookupCipherSuite serverHello.cipherSuite))
  let offers := if hello.cipherSuites = [] then config.cipherSuites else hello.cipherSuites
  Cmd.refuse (serverHello.cipherSuite ∉ offers)
    (.text ("tlcp: server selected cipher suite " ++ hex4 serverHello.cipherSuite.toNat ++
      " that was not offered"))
  Cmd.refuse (serverHello.compressionMethod ≠ 0)
    (.text "tlcp: server selected non-null compression")
  Cmd.update fun c => { c with serverName := config.serverName }
  Cmd.refuse (serverHello.alpnProtocol ≠ [] ∧ serverHello.alpnProtocol ∉ hello.alpnProtocols)
    (.text "tlcp: server selected ALPN protocol that was not offered")
  Cmd.update fun c => { c with clientProtocol := serverHello.alpnProtocol }
  return (serverHello, shData, suite)

def serverResumedSession (c : Conn) : Option SessionState :=
  c.session.filter fun sess =>
    sess.sessionID ≠ [] ∧ serverHello.sessionID ≠ [] ∧ serverHello.sessionID = sess.sessionID ∧
      serverHello.version = sess.version ∧ serverHello.cipherSuite = sess.cipherSuite

/-- Both entries of the session go, whatever was resumed. -/
def discardSession (c : Conn) : Conn :=
  match config.sessionCache, c.session with
  | true, some sess =>
    { c with
      cacheCalls := c.cacheCalls ++
        [.delete (tlcpSessionKeyHex sess.sessionID), .delete (clientKey config env)]
      session := none }
  | _, _ => c

def clientResumeHandshake (sess : SessionState) : Cmd Err Conn Unit := do
  Cmd.update fun c => { c with peerCertificates := sess.peerCertificates }
  establishKeys P suite sess.masterSecret hello.random serverHello.random
  let transcript ← readFinished P "server" serverFinishedLabel sess.masterSecret transcript
  startBuffering
  let _ ← sendFinished P clientFinishedLabel sess.masterSecret transcript
  return ()

/-- The server's two certificates with their public keys, and the rest. -/
structure ServerIdentity where
  certificates : List Bytes
  signCert : Certificate
  encCert : Certificate
  signPub : Bytes
  encPub : Bytes

def dualCertificates (data : Bytes) : Option CertificateMsg := do
  let m ← CertificateMsg.unmarshal data
  if m.certificates.length < 2 then none else some m

def readServerCertificates : Cmd Err Conn (ServerIdentity × Bytes) := do
  let (certMsg, certData) ← readMessage P dualCertificates
    "tlcp: server did not present a dual certificate pair"
  let signCertDER := certMsg.certificates.getD 0 []
  let encCertDER := certMsg.certificates.getD 1 []
  Cmd.update fun c => { c with peerCertificates := certMsg.certificates }
  let (encCert, encPub) ← Cmd.lift (certificateKey P "tlcp: parse encryption certificate: "
    "tlcp: encryption cert public key is not ECDSA (SM2)" encCertDER)
  let (signCert, signPub) ← Cmd.lift (certificateKey P "tlcp: parse signing certificate: "
    "tlcp: signing cert public key is not ECDSA (SM2)" signCertDER)
  return (⟨certMsg.certificates, signCert, encCert, signPub, encPub⟩, transcript ++ certData)

def keyExchange (data : Bytes) : Option ServerKeyExchangeMsg := do
  let m ← ServerKeyExchangeMsg.unmarshal data
  if m.key.length < 2 then none else some m

/-- ECDHE yields the server's ephemeral key. -/
def processServerKeyExchange (sigType : SigType) (server : ServerIdentity)
    (clientRandom serverRandom skeKey : Bytes) :
    Except Err Bytes :=
  if suite.ecdhe then
    wrapErr "tlcp: ECDHE ServerKeyExchange: "
      (tlcpECDHEClientProcessSKE P sigType server.signPub clientRandom serverRandom skeKey)
  else do
    wrapErr "tlcp: ServerKeyExchange verification: "
      (tlcpECCProcessServerKeyExchange P sigType server.signPub clientRandom serverRandom
        (server.certificates.getD 1 []) skeKey)
    return []

def parseAll (context : String) (ders : List Bytes) : Except Err (List Certificate) :=
  ders.mapM fun der => wrapErr context (P.parseCertificate der)

def verifyServer (server : ServerIdentity) : Except Err Unit := do
  let roots ← parseAll P "tlcp: failed to parse root CA: " config.rootCAs
  reject (roots = []) (.text "tlcp: no root CAs configured for verification")
  let intermediates ← parseAll P "tlcp: failed to parse intermediate certificate: "
    (server.certificates.drop 2)
  let opts : VerifyOptions := ⟨roots, intermediates, config.serverName, .serverAuth⟩
  wrapErr "tlcp: server certificate verification failed: "
    (P.verifyCertificate server.signCert opts)
  wrapErr "tlcp: server encryption certificate verification failed: "
    (P.verifyCertificate server.encCert opts)
  wrapErr "tlcp: dual certificate pair validation failed: "
    (P.verifyDualCerts server.signCert server.encCert)

/-- The flag says that a certificate was requested. -/
def readServerHelloDone : Cmd Err Conn (Bool × Bytes) := do
  let next ← Conn.readHandshake P.toRecordPrims
  let transcript := transcript ++ next
  if next.headD 0 = MessageType.certificateRequest then
    let _ ← Cmd.lift (need (.text "tlcp: failed to parse CertificateRequest")
      (CertificateRequestMsg.unmarshal next))
    let (_, data) ← readMessage P ServerHelloDoneMsg.unmarshal
      "tlcp: failed to parse ServerHelloDone"
    return (true, transcript ++ data)
  else
    let _ ← Cmd.lift (need (.text "tlcp: failed to parse ServerHelloDone")
      (ServerHelloDoneMsg.unmarshal next))
    return (false, transcript)

def sendClientCertificate : Cmd Err Conn Bytes :=
  let certs := match config.clientCerts with
    | some certs => [certs.signCertDER, certs.encCertDER]
    | none => []
  writeHandshakeRecord P (CertificateMsg.marshal ⟨certs⟩) transcript

def generateClientKeyExchange (ephPub encPub : Bytes) : Cmd Err Conn (Bytes × Bytes) :=
  if suite.ecdhe then do
    let encDecrypter ← Cmd.lift (need (.text "tlcp: ECDHE requires a client encryption certificate")
      (config.clientCerts.bind DualCerts.encDecrypter))
    onRand (tlcpECDHEClientGenerateCKE P ephPub encDecrypter encPub)
  else do
    let vers ← Cmd.ask Conn.vers
    onRand (tlcpECCGenerateClientKeyExchange P vers encPub)

def sendCertificateVerify (sigType : SigType) (certRequested : Bool) (config : EngineConfig)
    (transcript : Bytes) :
    Cmd Err Conn Bytes :=
  match certRequested, config.clientCerts.bind DualCerts.signSigner with
  | true, some signer => do
    let sig ← onRand (tlcpSignHandshake P sigType signer (P.sm3 transcript))
    writeHandshakeRecord P (CertificateVerifyMsg.marshal ⟨sig⟩) transcript
  | _, _ => pure transcript

def createNewClientSession (masterSecret : Bytes) : Cmd Err Conn Unit := do
  if config.sessionCache then
    let sess ← Cmd.ask (newSession env serverHello.sessionID masterSecret)
    noteCache (.put (tlcpSessionKeyHex sess.sessionID) sess)
    noteCache (.put (clientKey config env) sess)

/-- The signature type, the server's keys, its ephemeral key, and whether it asks for a
certificate. -/
def readServerFlight : Cmd Err Conn (SigType × ServerIdentity × Bytes × Bool × Bytes) := do
  let (server, transcript) ← readServerCertificates P transcript
  let sigType ← Cmd.lift (tlcpSigTypeForSuite suite.id)
  let (ske, skeData) ← readMessage P keyExchange "tlcp: failed to parse ServerKeyExchange"
  let ephPub ← Cmd.lift (processServerKeyExchange P suite sigType server hello.random
    serverHello.random ske.key)
  if config.insecureSkipVerify = false then Cmd.lift (verifyServer P config server)
  let (certRequested, transcript) ← readServerHelloDone P (transcript ++ skeData)
  return (sigType, server, ephPub, certRequested, transcript)

def sendClientFlight (sigType : SigType) (encPub ephPub : Bytes) (certRequested : Bool)
    (transcript : Bytes) :
    Cmd Err Conn (Bytes × Bytes) := do
  let transcript ← if certRequested then sendClientCertificate P config transcript
    else pure transcript
  let (pms, ckePayload) ← generateClientKeyExchange P config suite ephPub encPub
  let transcript ← writeHandshakeRecord P (ClientKeyExchangeMsg.marshal ⟨ckePayload⟩) transcript
  let transcript ← sendCertificateVerify P sigType certRequested config transcript
  return (tlcpMasterFromPreMaster P.toRecordPrims pms hello.random serverHello.random, transcript)

def clientFullHandshake : Cmd Err Conn Unit := do
  Cmd.update fun c => { c with session := none }
  let (sigType, server, ephPub, certRequested, transcript) ← readServerFlight P config suite hello
    serverHello transcript
  let (masterSecret, transcript) ←
    sendClientFlight P config suite hello serverHello sigType server.encPub ephPub certRequested
      transcript
  establishKeys P suite masterSecret hello.random serverHello.random
  startBuffering
  let transcript ← sendFinished P clientFinishedLabel masterSecret transcript
  let _ ← readFinished P "server" serverFinishedLabel masterSecret transcript
  createNewClientSession config env serverHello masterSecret

def clientHandshakeReal : Cmd Err Conn Unit := do
  Cmd.refuse (config.serverName = [] ∧ config.insecureSkipVerify = false)
    (.text "tlcp: either ServerName or InsecureSkipVerify must be specified in Config")
  loadSession config env
  let (hello, chData) ← sendClientHello P config env
  let (serverHello, shData, suite) ← receiveServerHello P config hello
  match ← Cmd.ask (serverResumedSession serverHello) with
  | some sess =>
    Cmd.onError (clientResumeHandshake P suite hello serverHello (chData ++ shData) sess)
      (discardSession config env)
    Cmd.update fun c => { c with didResume := true }
  | none => clientFullHandshake P config env suite hello serverHello (chData ++ shData)

end Pollux.Tlcp
