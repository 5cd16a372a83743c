import PolluxGM.Keys
import PolluxGM.Run

/-!
# The client handshaker

Embedding of `ClientHandshaker` in `handshake.go`. A method returns its result together with the
state it leaves, also when it fails. Randomness and the generated key pair are arguments, with the
error their source may report.
-/
namespace Pollux.Tls

inductive ClientPhase where
  | none
  | afterClientHello
  | afterServerHello
  | afterEncryptedExtensions
  | afterCertificate
  | afterCertificateVerify
  | afterServerFinished
  | failed
  deriving DecidableEq

def ClientPhase.number : ClientPhase → Nat
  | .none => 0
  | .afterClientHello => 1
  | .afterServerHello => 2
  | .afterEncryptedExtensions => 3
  | .afterCertificate => 4
  | .afterCertificateVerify => 5
  | .afterServerFinished => 6
  | .failed => 7

structure ClientConfig (P : Prims) where
  dcid : Bytes
  serverName : String := ""
  roots : Option (List P.Certificate) := none
  intermediates : Option (List P.Certificate) := none
  insecureSkipVerify : Bool := false
  verifyPeerCertificate : Option (List Bytes → Except Err Unit) := none
  nextProtos : List Bytes := []
  transportParameters : Option Bytes := none
  resumptionPSK : Option Bytes := none
  resumptionIdentity : Bytes := []
  resumptionObfuscatedTicketAge : UInt32 := 0
  resumptionAppData : Option Bytes := none
  earlyData : Bool := false

structure ClientHandshaker (P : Prims) where
  config : ClientConfig P
  ephemeral : P.PrivateKey
  transcript : Transcript
  keys : Keys
  leafCert : Option P.Certificate
  phase : ClientPhase
  peerTransportParams : Bytes
  clientHello1Full : Option Bytes
  offerEarlyData : Bool
  pskMode : Bool
  earlyDataAccepted : Bool
  negotiatedProto : Bytes
  clientFinishedSent : Bool

variable {P : Prims}

variable (cfg : ClientConfig P) (c : ClientHandshaker P)

def newClientHandshakerWithConfig (keyPair : Except Err P.PrivateKey) :
    Except Err (ClientHandshaker P) := do
  reject (cfg.dcid = []) (.text "tls13gm: dcid is required to seed Initial keys")
  reject (!cfg.insecureSkipVerify && cfg.verifyPeerCertificate.isNone && cfg.roots.isNone)
    (.text "tls13gm: ClientConfig.Roots is required (use InsecureSkipVerify only for testing)")
  reject (!cfg.insecureSkipVerify && cfg.roots.isSome && cfg.serverName == "")
    (.text ("tls13gm: ClientConfig.ServerName is required when Roots is set " ++
      "(an empty ServerName silently skips hostname verification)"))
  let priv ← wrapErr "tls13gm: generate ECDHE keypair" keyPair
  let (clientIn, serverIn) ← deriveQUICInitialSecrets P cfg.dcid
  let cInit ← deriveQUICPacketKeys P clientIn
  let sInit ← deriveQUICPacketKeys P serverIn
  return {
    config := cfg
    ephemeral := priv
    transcript := .empty
    keys := { secrets := { clientInitialKeys := some cInit, serverInitialKeys := some sInit } }
    leafCert := none
    phase := .none
    peerTransportParams := []
    clientHello1Full := none
    offerEarlyData := cfg.earlyData
    pskMode := false
    earlyDataAccepted := false
    negotiatedProto := []
    clientFinishedSent := false }

def clientHelloExtensions (cookie : Option Bytes) : Except Err (List Extension) := do
  let alpn ← if c.config.nextProtos = [] then pure [] else do
    let ext ← marshalALPNExtension c.config.nextProtos
    pure [⟨ExtensionType.alpn, ext⟩]
  let cookieExts ← match cookie with
    | none => pure []
    | some cookie => do
      let ext ← marshalCookieExtension cookie
      pure [⟨ExtensionType.cookie, ext⟩]
  return [
    ⟨ExtensionType.supportedVersions, [0x02, 0x03, 0x04]⟩,
    ⟨ExtensionType.signatureAlgorithms, [0x00, 0x02] ++ be16 sm2SigSM3.toNat⟩,
    ⟨ExtensionType.supportedGroups, [0x00, 0x02] ++ be16 curveSM2.toNat⟩,
    ⟨ExtensionType.keyShare,
      marshalClientKeyShare curveSM2 (P.marshalUncompressed (P.publicOf c.ephemeral))⟩,
    ⟨ExtensionType.pskKeyExchangeModes,
      marshalPSKKeyExchangeModesExtension [pskKeyExchangeModeDHEKE]⟩]
    ++ alpn ++ cookieExts ++
    (match c.config.transportParameters with
      | none => []
      | some tp => [⟨ExtensionType.quicTransportParams, tp⟩])

/-- The binder covers the transcript so far and the truncated hello. -/
def appendPreSharedKey (ch : ClientHelloMsg) (psk : Bytes) : Except Err Bytes := do
  let identities : List PskIdentity :=
    [⟨c.config.resumptionIdentity, c.config.resumptionObfuscatedTicketAge⟩]
  let ch : ClientHelloMsg := if c.offerEarlyData
    then { ch with extensions := ch.extensions ++ [⟨ExtensionType.earlyData, []⟩] } else ch
  let truncated ← wrapErr "tls13gm: binder transcript" (pskBinderTranscript ch identities)
  let binder ← wrapErr "tls13gm: compute binder"
    (computeResumptionBinder P psk (c.transcript.bytes ++ truncated))
  let fullExt ← marshalPreSharedKeyExtension identities [binder]
  marshalHandshakeMessage HandshakeType.clientHello
    ({ ch with extensions := ch.extensions ++ [⟨ExtensionType.preSharedKey, fullExt⟩] } :
      ClientHelloMsg).marshalBody

/-- A cookie makes it the ClientHello2 that answers a HelloRetryRequest. -/
def buildClientHello (rand : Except Err Random) (cookie : Option Bytes) : Except Err Bytes := do
  let random ← rand
  let exts ← clientHelloExtensions c cookie
  let ch : ClientHelloMsg := ⟨versionTLS12, random, [], [tlsSM4GCMSM3], exts⟩
  match c.config.resumptionPSK with
  | some psk => appendPreSharedKey c ch psk
  | none => marshalHandshakeMessage HandshakeType.clientHello ch.marshalBody

def outOfOrder (step : String) (phase : Nat) : Err :=
  .text s!"tls13gm: {step} called out of order (phase {phase})"

/-- With a PSK and an early-data offer the keys are derived at once. -/
def deriveClientEarlyKeys (full : Bytes) : Except Err Bytes × ClientHandshaker P :=
  match c.config.resumptionPSK, c.offerEarlyData with
  | some psk, true =>
    match deriveEarlyTrafficKeys P psk (c.transcript.sum P) with
    | .error e => (.error (.wrap "tls13gm: derive 0-RTT keys" e),
        { c with keys := c.keys.discardEarly, phase := .failed })
    | .ok keys => (.ok full, { c with keys := c.keys.setEarly (some keys) })
  | _, _ => (.ok full, c)

/-- ClientHello1 is kept until the server can no longer ask for a retry. -/
def sendClientHello (full : Bytes) : ClientHandshaker P :=
  { c with
    clientHello1Full := some full
    transcript := c.transcript.addMessage HandshakeType.clientHello (full.drop 4)
    phase := .afterClientHello }

def clientHello (rand : Except Err Random) : Except Err Bytes × ClientHandshaker P :=
  if c.phase ≠ .none then (.error (outOfOrder "ClientHello" c.phase.number), c)
  else match buildClientHello c rand none with
    | .error e => (.error e, { c with phase := .failed })
    | .ok full => deriveClientEarlyKeys (sendClientHello c full) full

def readTyped {α : Type} (name : String) (want : UInt8) (unmarshalBody : Bytes → Except Err α)
    (b : Bytes) : Except Err (Bytes × α) := do
  let (typ, body, _) ← wrapErr s!"tls13gm: read {name}" (readHandshakeMessage b)
  reject (typ ≠ want) (.text s!"tls13gm: expected {name}, got type {typ}")
  let msg ← wrapErr s!"tls13gm: {name}" (unmarshalBody body)
  return (body, msg)

def readServerHello (b : Bytes) : Except Err (Bytes × ServerHelloMsg) := do
  let (body, sh) ← readTyped "ServerHello" HandshakeType.serverHello ServerHelloMsg.unmarshalBody b
  reject (sh.cipherSuite ≠ tlsSM4GCMSM3)
    (.text s!"tls13gm: ServerHello negotiated cipher suite {hex sh.cipherSuite.toNat}, expected TLS_SM4_GCM_SM3")
  reject (sh.random = helloRetryRequestRandom) .helloRetryRequest
  reject (findExtension sh.extensions ExtensionType.supportedVersions ≠ be16 versionTLS13.toNat)
    (.text "tls13gm: ServerHello did not negotiate TLS 1.3")
  return (body, sh)

def serverShare (P : Prims) (ephemeral : P.PrivateKey) (sh : ServerHelloMsg) : Except Err Bytes :=
  do
  let ks := findExtension sh.extensions ExtensionType.keyShare
  reject (ks = []) (.text "tls13gm: ServerHello missing key_share extension")
  let keyBytes ← wrapErr "tls13gm: ServerHello key_share" (parseServerKeyShare ks curveSM2)
  let serverPub ← wrapErr "tls13gm: decode server key share" (P.unmarshalUncompressed keyBytes)
  wrapErr "tls13gm: ECDHE" (curveSM2ECDHE P ephemeral serverPub)

def selectsPSK (sh : ServerHelloMsg) : Bool :=
  findExtension sh.extensions ExtensionType.preSharedKey ≠ []

/-- The offered PSK counts only if the server selected it. -/
def ClientHandshaker.earlyPSK : Bytes :=
  if c.pskMode then c.config.resumptionPSK.getD [] else []

def ClientHandshaker.hash (msgType : UInt8) (body : Bytes) :
    ClientHandshaker P := { c with transcript := c.transcript.addMessage msgType body }

/-- Derives the Handshake level; a failure is terminal. -/
def acceptServerHello (body shared : Bytes) : Except Err Unit × ClientHandshaker P :=
  let c := c.hash HandshakeType.serverHello body
  match c.keys.deriveHandshake P c.earlyPSK shared (c.transcript.sum P) with
  | (.error e, keys) => (.error e, { c with keys := keys, phase := .failed })
  | (.ok (), keys) => (.ok (), { c with keys := keys, phase := .afterServerHello })

/-- `pskMode` is set before the key share is looked at, and stays set when that is refused. -/
def handleServerHello (serverHello : Bytes) : Except Err Unit × ClientHandshaker P :=
  if c.phase ≠ .afterClientHello then (.error (outOfOrder "HandleServerHello" c.phase.number), c)
  else match readServerHello serverHello with
    | .error e => (.error e, c)
    | .ok (body, sh) =>
      if selectsPSK sh && c.config.resumptionPSK.isNone then
        (.error (.text "tls13gm: ServerHello selected pre_shared_key but client offered none"), c)
      else
        let c := { c with pskMode := c.pskMode || selectsPSK sh }
        match serverShare P c.ephemeral sh with
        | .error e => (.error e, c)
        | .ok shared => acceptServerHello c body shared

def readHelloRetryRequest (hrr : Bytes) : Except Err (Option Bytes) := do
  let (typ, body, _) ← wrapErr "tls13gm: read HelloRetryRequest" (readHandshakeMessage hrr)
  reject (typ ≠ HandshakeType.serverHello)
    (.text s!"tls13gm: expected HelloRetryRequest (ServerHello), got type {typ}")
  let msg ← wrapErr "tls13gm: HelloRetryRequest" (ServerHelloMsg.unmarshalBody body)
  reject (msg.random ≠ helloRetryRequestRandom)
    (.text "tls13gm: HandleHelloRetryRequest given a non-HRR ServerHello")
  let data := findExtension msg.extensions ExtensionType.cookie
  if data = [] then return none
  else do
    let cookie ← wrapErr "tls13gm: HelloRetryRequest cookie" (parseCookieExtension data)
    return some cookie

def restartForHelloRetry (clientHello1 hrr : Bytes) : ClientHandshaker P :=
  { c with
    transcript := .resetForHelloRetry P clientHello1 hrr
    offerEarlyData := false
    keys := c.keys.discardEarly }

/-- ClientHello1 is consumed, which is what makes a second retry fail. -/
def sendClientHello2 (ch2 : Bytes) : ClientHandshaker P :=
  { c with
    transcript := c.transcript.addMessage HandshakeType.clientHello (ch2.drop 4)
    clientHello1Full := none
    phase := .afterClientHello }

def handleHelloRetryRequest (hrr : Bytes) (rand : Except Err Random) :
    Except Err Bytes × ClientHandshaker P :=
  if c.phase ≠ .afterClientHello then
    (.error (outOfOrder "HandleHelloRetryRequest" c.phase.number), c)
  else match c.clientHello1Full with
    | none => (.error (.text
      ("tls13gm: received a second HelloRetryRequest (RFC 8446 §4.1.4 forbids " ++
        "two HRRs), or HandleHelloRetryRequest before ClientHello")), c)
    | some clientHello1 =>
      match readHelloRetryRequest hrr with
      | .error e => (.error e, c)
      | .ok cookie =>
        let c := restartForHelloRetry c clientHello1 hrr
        match buildClientHello c rand cookie with
        | .error e => (.error e, c)
        | .ok ch2 => (.ok ch2, sendClientHello2 c ch2)

/-- `%q`: octets outside printable ASCII in hexadecimal. -/
def quote (b : Bytes) : String :=
  "\"" ++ String.join (b.map fun x =>
    if x = 0x22 then "\\\"" else if x = 0x5C then "\\\\"
    else if 0x20 ≤ x ∧ x ≤ 0x7E then String.singleton (Char.ofNat x.toNat)
    else "\\x" ++ hexByte x) ++ "\""

def selectedALPN (offered : List Bytes) (exts : List Extension) : Except Err Bytes := do
  let alpn := findExtension exts ExtensionType.alpn
  reject (alpn = []) (.text ("tls13gm: server did not negotiate an ALPN protocol " ++
    "(RFC 9001 §8.1 requires ALPN for QUIC)"))
  let selected ← wrapErr "tls13gm: server ALPN" (parseALPNExtension alpn)
  match selected with
  | [proto] => do
    reject (proto ∉ offered)
      (.text s!"tls13gm: server selected ALPN protocol {quote proto} which the client did not offer")
    return proto
  | _ => .error (.text s!"tls13gm: server ALPN selection must carry exactly one protocol, got {selected.length}")

def acceptEncryptedExtensions (body : Bytes) (exts : List Extension) : ClientHandshaker P :=
  { c with
    earlyDataAccepted := c.earlyDataAccepted ||
      (c.offerEarlyData && c.pskMode && hasExtension exts ExtensionType.earlyData)
    transcript := c.transcript.addMessage HandshakeType.encryptedExtensions body
    phase := if c.pskMode then .afterCertificateVerify else .afterEncryptedExtensions }

/-- The parameters are stored before the ALPN answer is checked. -/
def handleEncryptedExtensions (encryptedExt : Bytes) : Except Err Unit × ClientHandshaker P :=
  if c.phase ≠ .afterServerHello then
    (.error (outOfOrder "HandleEncryptedExtensions" c.phase.number), c)
  else match readTyped "EncryptedExtensions" HandshakeType.encryptedExtensions
      EncryptedExtensionsMsg.unmarshalBody encryptedExt with
    | .error e => (.error e, c)
    | .ok (body, ee) =>
      let tp := findExtension ee.extensions ExtensionType.quicTransportParams
      let c := { c with peerTransportParams := if tp = [] then c.peerTransportParams else tp }
      if c.config.nextProtos = [] then (.ok (), acceptEncryptedExtensions c body ee.extensions)
      else match selectedALPN c.config.nextProtos ee.extensions with
        | .error e => (.error e, c)
        | .ok proto =>
          (.ok (), acceptEncryptedExtensions { c with negotiatedProto := proto } body ee.extensions)

/-- The configured ones and those sent after the leaf; an entry that does not parse is skipped. -/
def chainIntermediates (sent : List CertificateEntry) : Option (List P.Certificate) :=
  if sent = [] ∧ cfg.intermediates.isNone then none
  else some (cfg.intermediates.getD [] ++
    sent.filterMap fun e => (P.parseCertificate e.certificate).toOption)

/-- Pinning: a callback and no roots. The callback alone decides. -/
def ClientConfig.pinning : Bool := cfg.roots.isNone && cfg.verifyPeerCertificate.isSome

def verifyPeerChain (leaf : P.Certificate) (chain : List CertificateEntry) : Except Err Unit := do
  if !cfg.insecureSkipVerify && !cfg.pinning then
    wrapErr "tls13gm: server certificate verification failed"
      (P.verify leaf ⟨cfg.serverName, cfg.roots, chainIntermediates cfg chain.tail⟩)
  match cfg.verifyPeerCertificate with
  | none => return ()
  | some callback =>
    wrapErr "tls13gm: VerifyPeerCertificate" (callback (chain.map CertificateEntry.certificate))

/-- The type octet of the message is not looked at. -/
def readCertificate (certificate : Bytes) : Except Err (Bytes × P.Certificate) := do
  let (_, body, _) ← wrapErr "tls13gm: read Certificate" (readHandshakeMessage certificate)
  let msg ← wrapErr "tls13gm: Certificate" (CertificateMsg.unmarshalBody body)
  match msg.certificateList with
  | [] => .error (.text "tls13gm: server sent an empty Certificate chain")
  | first :: rest => do
    let leaf ← wrapErr "tls13gm: parse server leaf certificate"
      (P.parseCertificate first.certificate)
    verifyPeerChain cfg leaf (first :: rest)
    return (body, leaf)

def acceptCertificate (body : Bytes) (leaf : P.Certificate) : ClientHandshaker P :=
  { c with
    transcript := c.transcript.addMessage HandshakeType.certificate body
    leafCert := some leaf
    phase := .afterCertificate }

def handleCertificate (certificate : Bytes) : Except Err Unit × ClientHandshaker P :=
  if c.phase ≠ .afterEncryptedExtensions then
    (.error (outOfOrder "HandleCertificate" c.phase.number), c)
  else match readCertificate c.config certificate with
    | .error e => (.error e, c)
    | .ok (body, leaf) => (.ok (), acceptCertificate c body leaf)

def hexWord (n : UInt16) : String :=
  hexByte (UInt8.ofNat (n.toNat / 256)) ++ hexByte (UInt8.ofNat n.toNat)

def checkCertificateVerify (certVerify : Bytes) : Except Err Bytes := do
  let (body, cv) ← readTyped "CertificateVerify" HandshakeType.certificateVerify
    CertificateVerifyMsg.unmarshalBody certVerify
  reject (cv.signatureScheme ≠ sm2SigSM3)
    (.text s!"tls13gm: CertificateVerify signature scheme {hexWord cv.signatureScheme} is not SM2SigSM3")
  let key ← need (.text "tls13gm: server cert public key is not ECDSA")
    (c.leafCert.bind P.certPublicKey)
  reject (verifyCertificateVerify P key serverCertificateVerifyContext (c.transcript.sum P)
    cv.signature = false) (.text "tls13gm: CertificateVerify signature verification failed")
  return body

def acceptCertificateVerify (body : Bytes) : ClientHandshaker P :=
  { c with
    transcript := c.transcript.addMessage HandshakeType.certificateVerify body
    phase := .afterCertificateVerify }

def handleCertificateVerify (certVerify : Bytes) : Except Err Unit × ClientHandshaker P :=
  if c.phase ≠ .afterCertificate then
    (.error (outOfOrder "HandleCertificateVerify" c.phase.number), c)
  else match checkCertificateVerify c certVerify with
    | .error e => (.error e, c)
    | .ok body => (.ok (), acceptCertificateVerify c body)

def expectedVerifyData (P : Prims) (trafficSecret transcriptHash : Bytes) : Except Err Bytes := do
  let finishedKey ← deriveFinishedKey P trafficSecret
  computeFinishedVerifyData P finishedKey transcriptHash

def checkServerFinished (finished : Bytes) : Except Err Bytes := do
  let (body, fin) ← readTyped "Finished" HandshakeType.finished FinishedMsg.unmarshalBody finished
  let expected ← expectedVerifyData P c.keys.serverHSTraffic (c.transcript.sum P)
  reject (expected ≠ fin.verifyData) (.text "tls13gm: server Finished verify_data mismatch")
  return body

def handleServerFinished (finished : Bytes) : Except Err Unit × ClientHandshaker P :=
  if c.phase ≠ .afterCertificateVerify then
    (.error (outOfOrder "HandleServerFinished" c.phase.number), c)
  else match checkServerFinished c finished with
    | .error e => (.error e, c)
    | .ok body =>
      let c := c.hash HandshakeType.finished body
      match c.keys.deriveApplication P (c.transcript.sum P) with
      | (.error e, keys) => (.error e, { c with keys := keys, phase := .failed })
      | (.ok (), keys) => (.ok (), { c with keys := keys, phase := .afterServerFinished })

def buildClientFinished : Except Err Bytes := do
  let verifyData ← expectedVerifyData P c.keys.clientHSTraffic (c.transcript.sum P)
  marshalHandshakeMessage HandshakeType.finished (FinishedMsg.marshalBody ⟨verifyData⟩)

/-- The phase is not advanced, so nothing refuses a second call. -/
def sendClientFinished (full : Bytes) : ClientHandshaker P :=
  { c with
    transcript := c.transcript.addMessage HandshakeType.finished (full.drop 4)
    clientFinishedSent := true }

def clientFinished : Except Err Bytes × ClientHandshaker P :=
  if c.phase ≠ .afterServerFinished then
    (.error (.text "tls13gm: HandleServerFinished must complete before ClientFinished"), c)
  else match buildClientFinished c with
    | .error e => (.error e, c)
    | .ok full => (.ok full, sendClientFinished c full)

structure SessionTicket where
  identity : Bytes
  psk : Bytes
  ageAdd : UInt32
  deriving DecidableEq

def handleNewSessionTicket (nstBody : Bytes) : Except Err SessionTicket × ClientHandshaker P :=
  if c.clientFinishedSent = false then
    (.error (.text ("tls13gm: HandleNewSessionTicket before ClientFinished (transcript incomplete; "
      ++ "resumption master secret requires CH..client Finished per RFC 8446 §4.6.1)")), c)
  else match NewSessionTicketMsg.unmarshalBody nstBody with
    | .error e => (.error (.wrap "tls13gm: NewSessionTicket" e), c)
    | .ok msg =>
      match deriveResumptionMasterSecret P c.keys.masterSecret (c.transcript.sum P) with
      | .error e => (.error (.wrap "tls13gm: resumption master secret" e), c)
      | .ok rms =>
        let c := { c with keys := { c.keys with resumptionMasterSecret := rms } }
        match deriveResumptionPSK P rms msg.ticketNonce with
        | .error e => (.error (.wrap "tls13gm: resumption PSK" e), c)
        | .ok psk => (.ok ⟨msg.ticket, psk, msg.ticketAgeAdd⟩, c)

/-- In PSK mode there is no certificate to process. -/
def handleServerFlight (serverHello encryptedExt certificate certVerify finished : Bytes) :
    Except Err Unit × ClientHandshaker P :=
  andThen (handleServerHello c serverHello) fun _ c =>
  andThen (handleEncryptedExtensions c encryptedExt) fun _ c =>
  if c.pskMode then handleServerFinished c finished
  else
    andThen (handleCertificate c certificate) fun _ c =>
    andThen (handleCertificateVerify c certVerify) fun _ c =>
    handleServerFinished c finished

/-- `Zero`. `wiped` is the ephemeral key with its scalar set to zero. -/
def ClientHandshaker.zero (c : ClientHandshaker P) (wiped : P.PrivateKey) : ClientHandshaker P :=
  { c with
    config := { c.config with
      resumptionPSK := c.config.resumptionPSK.map zeroBytes
      resumptionIdentity := zeroBytes c.config.resumptionIdentity }
    ephemeral := wiped
    keys := c.keys.zero }

end Pollux.Tls
