import PolluxGM.TlcpKeys

/-!
# TLCP handshakes: configuration and shared steps

The engine configuration, how it is made from the public one, and the steps that both drivers share.
A driver is a command on the connection; the transcript is passed along as its octets. What the
handshake puts into the session cache is noted on the connection.
-/
namespace Pollux.Tlcp

open TlcpSession

inductive ClientAuthType where
  | noClientCert
  | requestClientCert
  | requireAnyClientCert
  | verifyClientCertIfGiven
  | requireAndVerifyClientCert
  deriving DecidableEq

/-- The order of the constants, in which the source compares them. -/
def ClientAuthType.code : ClientAuthType → Nat
  | .noClientCert => 0
  | .requestClientCert => 1
  | .requireAnyClientCert => 2
  | .verifyClientCertIfGiven => 3
  | .requireAndVerifyClientCert => 4

structure DualCerts where
  signCertDER : Bytes
  encCertDER : Bytes
  chainDER : List Bytes
  signSigner : Option PrivateKey
  encDecrypter : Option PrivateKey
  deriving DecidableEq

/-- The random source is part of the connection here. -/
structure EngineConfig where
  cipherSuites : List UInt16
  serverName : Bytes
  insecureSkipVerify : Bool
  rootCAs : List Bytes
  serverCerts : Option DualCerts
  sessionCache : Bool
  clientCerts : Option DualCerts
  requestClientCert : Bool
  clientRoots : Option (List Certificate)
  clientAuth : ClientAuthType
  deriving DecidableEq

/-- A certificate chain with its private key. -/
structure KeyPair where
  certificate : List Bytes
  privateKey : PrivateKey
  isSigner : Bool
  isDecrypter : Bool
  deriving DecidableEq

/-- The fields of the public configuration that the engine reads. -/
structure Config where
  version : String
  cipherSuites : List UInt16
  serverName : Bytes
  insecureSkipVerify : Bool
  sessionCache : Bool
  signCertificate : Option KeyPair
  encCertificate : Option KeyPair
  clientAuth : ClientAuthType
  clientCACertificates : List Certificate
  signRootCertificates : List Certificate
  encRootCertificates : List Certificate
  deriving DecidableEq

def version11 : String := "1.1"

def buildServerCerts (sign enc : KeyPair) : Except Err DualCerts := do
  reject (sign.isSigner = false)
    (.text ("tlcp: signing cert private key " ++ sign.privateKey.goType ++
      " does not implement crypto.Signer"))
  reject (enc.isDecrypter = false)
    (.text ("tlcp: encryption cert private key " ++ enc.privateKey.goType ++
      " does not implement crypto.Decrypter"))
  return ⟨sign.certificate.headD [], enc.certificate.headD [], sign.certificate.drop 1,
    some sign.privateKey, some enc.privateKey⟩

/-- The certificates of a side that has both of them configured. -/
def configuredCerts (c : Config) : Except Err (Option DualCerts) :=
  match c.signCertificate, c.encCertificate with
  | some sign, some enc => some <$> buildServerCerts sign enc
  | _, _ => pure none

def configToNative (c : Config) (isClient : Bool) : Except Err EngineConfig := do
  let version := if c.version = "" then version11 else c.version
  reject (version ≠ version11)
    (.text ("tlcp: invalid version: " ++ version ++ " (only Version11 supported)"))
  let cipherSuites := if c.cipherSuites = [] then defaultCipherSuites else c.cipherSuites
  match cipherSuites.find? fun id => ¬ isTLCPCipherSuite id with
  | some id =>
    .error (.text ("tlcp: invalid cipher suite: cipher suite 0x" ++ hex4 id.toNat ++
      " is not a TLCP suite"))
  | none =>
    let certs ← configuredCerts c
    let asks := ¬ isClient ∧ ClientAuthType.requestClientCert.code ≤ c.clientAuth.code
    let verifies := asks ∧ ClientAuthType.verifyClientCertIfGiven.code ≤ c.clientAuth.code
    reject (verifies ∧ c.clientCACertificates = [])
      (.text "tlcp: RequireAndVerifyClientCert requires ClientCACertificates")
    return { cipherSuites := cipherSuites
             serverName := c.serverName
             insecureSkipVerify := c.insecureSkipVerify
             rootCAs := (c.signRootCertificates ++ c.encRootCertificates).map Certificate.raw
             serverCerts := if isClient then none else certs
             sessionCache := c.sessionCache
             clientCerts := if isClient then certs else none
             requestClientCert := asks
             clientRoots := if verifies then some c.clientCACertificates else none
             clientAuth := if asks then c.clientAuth else .noClientCert }

/-- What a handshake finds around it; the clock is read at three points. -/
structure Surroundings where
  remoteAddr : Bytes
  lookup : Bytes → Option SessionState
  lower : Bytes → Bytes
  helloTime : Nat
  lookupTime : Int
  createdTime : Int

def onRand {α : Type} (m : Cmd Err Bytes α) : Cmd Err Conn α :=
  Cmd.on Conn.rand (fun rand c => { c with rand := rand }) m

def noteCache (call : CacheCall) : Cmd Err Conn Unit :=
  Cmd.update fun c => { c with cacheCalls := c.cacheCalls ++ [call] }

def drawRandom (helloTime : Nat) : Cmd Err Conn Bytes := do
  let tail ← onRand (drawRand 28)
  return be32 helloTime ++ tail

variable (P : Prims)

/-- `writeHandshakeRecord`: the transcript with the message behind it. -/
def writeHandshakeRecord (message : Except Err Bytes) (transcript : Bytes) : Cmd Err Conn Bytes :=
  do
  let data ← Cmd.lift message
  Conn.writeRecord P.toRecordPrims .handshake data
  return transcript ++ data

/-- `refusal` is the error of a message that does not parse. -/
def readMessage {α : Type} (unmarshal : Bytes → Option α) (refusal : String) :
    Cmd Err Conn (α × Bytes) := do
  let data ← Conn.readHandshake P.toRecordPrims
  let message ← Cmd.lift (need (.text refusal) (unmarshal data))
  return (message, data)

def certificateKey (context refusal : String) (der : Bytes) : Except Err (Certificate × Bytes) := do
  let cert ← wrapErr context (P.parseCertificate der)
  let pub ← need (.text refusal) cert.publicKey
  return (cert, pub)

lemma certificateKey_ok {P : Prims} {context refusal : String} {der : Bytes}
    {x : Certificate × Bytes} (h : certificateKey P context refusal der = .ok x) :
    P.parseCertificate der = .ok x.1 ∧ x.1.publicKey = some x.2 := by
  simp only [certificateKey, bind_ok, need_ok, pure_ok] at h
  obtain ⟨cert, hparse, pub, hpub, hx⟩ := h
  cases hx
  exact ⟨wrapErr_ok.mp hparse, hpub⟩

/-- The specs for reading and writing, from this side's point of view. -/
def trafficSpecs (suite : CipherSuite) (isClient : Bool)
    (masterSecret clientRandom serverRandom : Bytes) :
    Except Err (CipherSpec × CipherSpec) := do
  let km := tlcpKeysFromMaster P.toRecordPrims masterSecret clientRandom serverRandom suite.macLen
    suite.keyLen suite.ivLen
  let client := (km.clientMAC, km.clientKey, km.clientIV)
  let server := (km.serverMAC, km.serverKey, km.serverIV)
  let (readMAC, readKey, readIV) := if isClient then server else client
  let (writeMAC, writeKey, writeIV) := if isClient then client else server
  if suite.isAEAD then return (← newAEADSM4GCM readKey readIV, ← newAEADSM4GCM writeKey writeIV)
  else return (.cbc readKey readMAC, .cbc writeKey writeMAC)

def establishKeys (suite : CipherSuite) (masterSecret clientRandom serverRandom : Bytes) :
    Cmd Err Conn Unit := do
  let isClient ← Cmd.ask Conn.isClient
  let (readSpec, writeSpec) ← Cmd.lift
    (trafficSpecs P suite isClient masterSecret clientRandom serverRandom)
  Cmd.update fun c =>
    { c with inHalf := c.inHalf.prepareCipherSpec c.vers readSpec
             outHalf := c.outHalf.prepareCipherSpec c.vers writeSpec
             reads := c.reads ++ [.staged readSpec] }

def startBuffering : Cmd Err Conn Unit := Cmd.update fun c => { c with buffering := true }

/-- Send the ChangeCipherSpec and the Finished message of this side. -/
def sendFinished (label masterSecret transcript : Bytes) : Cmd Err Conn Bytes := do
  Conn.writeRecord P.toRecordPrims .changeCipherSpec [1]
  let transcript ← writeHandshakeRecord P
    (FinishedMsg.marshal ⟨finishedSum P label masterSecret transcript⟩) transcript
  Conn.flush
  return transcript

/-- The ChangeCipherSpec before the Finished is left to `readRecord`. -/
def readFinished (peer : String) (label masterSecret transcript : Bytes) : Cmd Err Conn Bytes := do
  let (fin, finData) ← readMessage P FinishedMsg.unmarshal
    ("tlcp: failed to parse " ++ peer ++ " Finished")
  Cmd.refuse (fin.verifyData ≠ finishedSum P label masterSecret transcript)
    (.text ("tlcp: " ++ peer ++ "'s Finished verify_data mismatch"))
  return transcript ++ finData

def newSession (env : Surroundings) (sessionID masterSecret : Bytes) (c : Conn) : SessionState where
  sessionID := sessionID
  version := c.vers
  cipherSuite := c.cipherSuite
  masterSecret := masterSecret
  peerCertificates := c.peerCertificates
  createdAt := env.createdTime

end Pollux.Tlcp
