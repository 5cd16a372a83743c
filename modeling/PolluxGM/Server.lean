import PolluxGM.Client
import PolluxGM.Ticket

/-!
# The server handshaker

Embedding of `ServerHandshaker` in `handshake.go`. What the two callbacks answer is an argument of
the call that asks them.
-/
namespace Pollux.Tls

inductive ServerPhase where
  | none
  | afterClientHello
  | afterFlight
  | afterClientFinished
  | failed
  deriving DecidableEq

def ServerPhase.number : ServerPhase → Nat
  | .none => 0
  | .afterClientHello => 1
  | .afterFlight => 2
  | .afterClientFinished => 3
  | .failed => 4

structure ServerConfig (P : Prims) where
  dcid : Bytes
  certificate : Option P.Certificate
  privateKey : Option P.PrivateKey
  transportParameters : Option Bytes := none
  nextProtos : List Bytes := []
  hasSessionTicketKeys : Bool := false
  allowEarlyData : Bool := false
  hasEarlyDataAcceptor : Bool := false

/-- What the callbacks answer during one call; ages are in nanoseconds. -/
structure Callbacks where
  ticketKeys : List Bytes
  acceptEarlyData : Bytes → Nat → Bool

structure ServerHandshaker (P : Prims) where
  config : ServerConfig P
  ephemeral : P.PrivateKey
  serverCert : P.Certificate
  serverKey : P.PrivateKey
  clientPub : Option P.PublicKey
  transcript : Transcript
  keys : Keys
  peerTransportParams : Bytes
  resumptionSelectedPSK : Option Bytes
  resumptionRealAge : Nat
  phase : ServerPhase
  clientOfferedEarlyData : Bool
  acceptedEarlyData : Bool
  negotiatedProto : Bytes
  resumptionAppData : Bytes

variable {P : Prims}

def newServerHandshakerWithConfig (cfg : ServerConfig P) (keyPair : Except Err P.PrivateKey) :
    Except Err (ServerHandshaker P) := do
  let required := Err.text "tls13gm: server certificate and key are required"
  reject (cfg.dcid = []) (.text "tls13gm: dcid is required to seed Initial keys")
  let cert ← need required cfg.certificate
  let key ← need required cfg.privateKey
  let priv ← wrapErr "tls13gm: generate ECDHE keypair" keyPair
  let (clientIn, serverIn) ← deriveQUICInitialSecrets P cfg.dcid
  let cInit ← deriveQUICPacketKeys P clientIn
  let sInit ← deriveQUICPacketKeys P serverIn
  return {
    config := cfg
    ephemeral := priv
    serverCert := cert
    serverKey := key
    clientPub := none
    transcript := .empty
    keys := { secrets := { clientInitialKeys := some cInit, serverInitialKeys := some sInit } }
    peerTransportParams := []
    resumptionSelectedPSK := none
    resumptionRealAge := 0
    phase := .none
    clientOfferedEarlyData := false
    acceptedEarlyData := false
    negotiatedProto := []
    resumptionAppData := [] }

/-- Suite, version, signature scheme, group and key share, whose payload is returned. -/
def checkCapabilities (m : ClientHelloMsg) : Except Err Bytes := do
  reject (containsCipherSuite m.cipherSuites tlsSM4GCMSM3 = false)
    (.text "tls13gm: ClientHello does not offer TLS_SM4_GCM_SM3")
  let sv := findExtension m.extensions ExtensionType.supportedVersions
  reject (sv = [] ∨ containsUint16List sv 1 versionTLS13 = false)
    (.text "tls13gm: ClientHello does not advertise TLS 1.3")
  let sa := findExtension m.extensions ExtensionType.signatureAlgorithms
  reject (sa = [] ∨ containsUint16List sa 2 sm2SigSM3 = false)
    (.text "tls13gm: ClientHello does not offer SM2SigSM3")
  let sg := findExtension m.extensions ExtensionType.supportedGroups
  reject (sg = [] ∨ containsUint16List sg 2 curveSM2 = false)
    (.text "tls13gm: ClientHello does not offer curveSM2")
  let ks := findExtension m.extensions ExtensionType.keyShare
  reject (ks = []) (.text "tls13gm: ClientHello missing key_share extension")
  return ks

def readClientHello (ch : Bytes) : Except Err (Bytes × ClientHelloMsg × Bytes) := do
  let (body, m) ← readTyped "ClientHello" HandshakeType.clientHello ClientHelloMsg.unmarshalBody ch
  let ks ← checkCapabilities m
  return (body, m, ks)

variable (s : ServerHandshaker P)

/-- The first offered protocol the server supports; `none` when either side has none. -/
def negotiateALPN (supported : List Bytes) (exts : List Extension) : Except Err (Option Bytes) :=
  let alpn := findExtension exts ExtensionType.alpn
  if supported = [] ∨ alpn = [] then .ok none
  else do
    let offered ← wrapErr "tls13gm: ClientHello ALPN" (parseALPNExtension alpn)
    match offered.find? (· ∈ supported) with
    | none => .error (.text "tls13gm: no overlapping ALPN protocol (no_application_protocol)")
    | some proto => .ok (some proto)

def clientShare (P : Prims) (ks : Bytes) : Except Err P.PublicKey := do
  let keyBytes ← wrapErr "tls13gm: ClientHello key_share" (parseClientKeyShare ks curveSM2)
  wrapErr "tls13gm: decode client key share" (P.unmarshalUncompressed keyBytes)

def recordClientHello (body : Bytes) (pub : P.PublicKey) (exts : List Extension) :
    ServerHandshaker P :=
  let tp := findExtension exts ExtensionType.quicTransportParams
  { s with
    transcript := s.transcript.addMessage HandshakeType.clientHello body
    clientPub := some pub
    peerTransportParams := if tp = [] then s.peerTransportParams else tp
    phase := .afterClientHello }

def readPreSharedKey (pskExt : Bytes) : Except Err (PskIdentity × Bytes) := do
  let offer ← wrapErr "tls13gm: parse pre_shared_key" (parsePreSharedKeyExtension pskExt)
  match offer with
  | ([identity], [binder]) => .ok (identity, binder)
  | _ => .error (.text "tls13gm: pre_shared_key must offer exactly one identity and binder")

/-- The age the client reports, without the ticket's offset. -/
def realTicketAge (obfuscated ageAdd : UInt32) : Nat := (obfuscated - ageAdd).toNat * 1000000

def checkBinder (P : Prims) (m : ClientHelloMsg) (identity : PskIdentity) (psk binder : Bytes) :
    Except Err Unit := do
  let transcript ← pskBinderTranscript m [identity]
  let expected ← computeResumptionBinder P psk transcript
  reject (expected ≠ binder) (.text "tls13gm: PSK binder verification failed")

/-- A ticket that does not decrypt is declined without an error. -/
def verifyPSKBinder (m : ClientHelloMsg) (pskExt : Bytes) (teks : List Bytes) :
    Except Err Unit × ServerHandshaker P :=
  if s.config.hasSessionTicketKeys = false then
    (.error (.text "tls13gm: client offered PSK but server has no session-ticket key configured"),
      s)
  else match readPreSharedKey pskExt with
    | .error e => (.error e, s)
    | .ok (identity, binder) =>
      match decryptSessionTicketWithData P teks identity.identity with
      | .error _ => (.ok (), s)
      | .ok ticket =>
        let s := { s with
          resumptionAppData := ticket.appData
          resumptionRealAge := realTicketAge identity.obfuscatedTicketAge ticket.ageAdd }
        match checkBinder P m identity ticket.psk binder with
        | .error e => (.error e, s)
        | .ok () => (.ok (), { s with resumptionSelectedPSK := some ticket.psk })

/-- The question put to the early-data acceptor, if it is asked at all. -/
def earlyDataQuery : Option (Bytes × Nat) :=
  match s.resumptionSelectedPSK with
  | none => none
  | some psk =>
    if s.config.allowEarlyData && s.config.hasEarlyDataAcceptor then some (psk, s.resumptionRealAge)
    else none

/-- The 0-RTT keys exist exactly when the acceptor admitted the early data. -/
def decideEarlyData (exts : List Extension) (accept : Bytes → Nat → Bool) :
    Except Err Unit × ServerHandshaker P :=
  if hasExtension exts ExtensionType.earlyData = false then (.ok (), s)
  else
    let s := { s with clientOfferedEarlyData := true }
    match earlyDataQuery s with
    | none => (.ok (), s)
    | some (psk, age) =>
      if accept psk age = false then (.ok (), s)
      else match deriveEarlyTrafficKeys P psk (s.transcript.sum P) with
        | .error e => (.error (.wrap "tls13gm: derive 0-RTT keys" e),
            { s with keys := s.keys.discardEarly })
        | .ok keys => (.ok (), { s with keys := s.keys.setEarly (some keys) })

def resumeFromClientHello (m : ClientHelloMsg) (cb : Callbacks) :
    Except Err Unit × ServerHandshaker P :=
  let pskExt := findExtension m.extensions ExtensionType.preSharedKey
  if pskExt = [] then (.ok (), s)
  else if offersPSKDHEKE (findExtension m.extensions ExtensionType.pskKeyExchangeModes) = false then
    (.ok (), s)
  else
    andThen (verifyPSKBinder s m pskExt cb.ticketKeys) fun _ s =>
      decideEarlyData s m.extensions cb.acceptEarlyData

/-- The protocol is stored before the key share is decoded, and the phase advances before the PSK
is looked at; both stay when a later check fails. -/
def handleClientHello (ch : Bytes) (cb : Callbacks) : Except Err Unit × ServerHandshaker P :=
  if s.phase ≠ .none then (.error (outOfOrder "HandleClientHello" s.phase.number), s)
  else match readClientHello ch with
    | .error e => (.error e, s)
    | .ok (body, m, ks) =>
      match negotiateALPN s.config.nextProtos m.extensions with
      | .error e => (.error e, s)
      | .ok proto =>
        let s := { s with negotiatedProto := proto.getD s.negotiatedProto }
        match clientShare P ks with
        | .error e => (.error e, s)
        | .ok pub => resumeFromClientHello (recordClientHello s body pub m.extensions) m cb

def ServerHandshaker.hash (msgType : UInt8) (body : Bytes) :
    ServerHandshaker P := { s with transcript := s.transcript.addMessage msgType body }

/-- A failure inside the flight is terminal. -/
def ServerHandshaker.fail {α : Type} (e : Err) :
    Except Err α × ServerHandshaker P := (.error e, { s with phase := .failed })

def ServerHandshaker.emit (msgType : UInt8) (marshalBody : Except Err Bytes) :
    Except Err Bytes × ServerHandshaker P :=
  match marshalHandshakeMessage msgType marshalBody with
  | .error e => s.fail e
  | .ok full => (.ok full, s.hash msgType (full.drop 4))

/-- pre_shared_key carries the selected identity, always the first one. -/
def serverHelloMsg (random : Random) : ServerHelloMsg where
  legacyVersion := versionTLS12
  random := random
  legacySessionID := []
  cipherSuite := tlsSM4GCMSM3
  extensions := [
    ⟨ExtensionType.supportedVersions, be16 versionTLS13.toNat⟩,
    ⟨ExtensionType.keyShare,
      marshalServerKeyShare curveSM2 (P.marshalUncompressed (P.publicOf s.ephemeral))⟩] ++
    if s.resumptionSelectedPSK.isSome then [⟨ExtensionType.preSharedKey, [0x00, 0x00]⟩] else []

def emitServerHello (rand : Except Err Random) : Except Err Bytes × ServerHandshaker P :=
  match rand with
  | .error e => s.fail e
  | .ok random => s.emit HandshakeType.serverHello (serverHelloMsg s random).marshalBody

def serverECDHE : Except Err Bytes := do
  let pub ← need (.text "tls13gm: peerPublic is nil") s.clientPub
  curveSM2ECDHE P s.ephemeral pub

def deriveServerHandshake : Except Err Unit × ServerHandshaker P :=
  match serverECDHE s with
  | .error e => s.fail (.wrap "tls13gm: ECDHE" e)
  | .ok shared =>
    match s.keys.deriveHandshake P (s.resumptionSelectedPSK.getD []) shared
      (s.transcript.sum P) with
    | (.error e, keys) => ServerHandshaker.fail { s with keys := keys } e
    | (.ok (), keys) => (.ok (), { s with keys := keys })

def alpnAnswer : Except Err (List Extension) :=
  if s.negotiatedProto = [] then .ok []
  else do
    let ext ← marshalALPNExtension [s.negotiatedProto]
    return [⟨ExtensionType.alpn, ext⟩]

/-- A protocol name that cannot be written is the one failure that does not mark the handshaker
failed. -/
def emitEncryptedExtensions : Except Err Bytes × ServerHandshaker P :=
  match alpnAnswer s with
  | .error e => (.error e, s)
  | .ok alpn =>
    let tp : List Extension := match s.config.transportParameters with
      | none => []
      | some tp => [⟨ExtensionType.quicTransportParams, tp⟩]
    let accepted := s.keys.secrets.clientEarlyKeys.isSome
    let early : List Extension := if accepted then [⟨ExtensionType.earlyData, []⟩] else []
    let s := { s with acceptedEarlyData := s.acceptedEarlyData || accepted }
    s.emit HandshakeType.encryptedExtensions
      (EncryptedExtensionsMsg.marshalBody ⟨tp ++ alpn ++ early⟩)

/-- Certificate and CertificateVerify, both nil when a PSK was selected. -/
def emitCertificate (sigRand : Bytes) : Except Err (Bytes × Bytes) × ServerHandshaker P :=
  if s.resumptionSelectedPSK.isSome then (.ok ([], []), s)
  else
    andThen (s.emit HandshakeType.certificate
      (CertificateMsg.marshalBody ⟨[], [⟨P.certRaw s.serverCert, []⟩]⟩)) fun certificate s =>
    match signCertificateVerify P sigRand s.serverKey serverCertificateVerifyContext
      (s.transcript.sum P) with
    | .error e => s.fail e
    | .ok sig =>
      andThen (s.emit HandshakeType.certificateVerify
        (CertificateVerifyMsg.marshalBody ⟨sm2SigSM3, sig⟩))
        fun certVerify s => (.ok (certificate, certVerify), s)

def emitServerFinished : Except Err Bytes × ServerHandshaker P :=
  match expectedVerifyData P s.keys.serverHSTraffic (s.transcript.sum P) with
  | .error e => s.fail e
  | .ok verifyData => s.emit HandshakeType.finished (FinishedMsg.marshalBody ⟨verifyData⟩)

def deriveServerApplication : Except Err Unit × ServerHandshaker P :=
  match s.keys.deriveApplication P (s.transcript.sum P) with
  | (.error e, keys) => ServerHandshaker.fail { s with keys := keys } e
  | (.ok (), keys) => (.ok (), { s with keys := keys, phase := .afterFlight })

structure Flight where
  serverHello : Bytes
  encryptedExt : Bytes
  certificate : Bytes
  certVerify : Bytes
  finished : Bytes
  deriving DecidableEq

def serverFlight (rand : Except Err Random) (sigRand : Bytes) :
    Except Err Flight × ServerHandshaker P :=
  if s.phase ≠ .afterClientHello then (.error (outOfOrder "ServerFlight" s.phase.number), s)
  else
    andThen (emitServerHello s rand) fun serverHello s =>
    andThen (deriveServerHandshake s) fun _ s =>
    andThen (emitEncryptedExtensions s) fun encryptedExt s =>
    andThen (emitCertificate s sigRand) fun (certificate, certVerify) s =>
    andThen (emitServerFinished s) fun finished s =>
    andThen (deriveServerApplication s) fun _ s =>
    (.ok ⟨serverHello, encryptedExt, certificate, certVerify, finished⟩, s)

def checkClientFinished (cf : Bytes) : Except Err Bytes := do
  let (typ, body, _) ← wrapErr "tls13gm: read client Finished" (readHandshakeMessage cf)
  reject (typ ≠ HandshakeType.finished)
    (.text s!"tls13gm: expected client Finished, got type {typ}")
  let fin ← wrapErr "tls13gm: client Finished" (FinishedMsg.unmarshalBody body)
  let expected ← expectedVerifyData P s.keys.clientHSTraffic (s.transcript.sum P)
  reject (expected ≠ fin.verifyData) (.text "tls13gm: client Finished verify_data mismatch")
  return body

def handleClientFinished (cf : Bytes) : Except Err Unit × ServerHandshaker P :=
  if s.phase ≠ .afterFlight then (.error (outOfOrder "HandleClientFinished" s.phase.number), s)
  else match checkClientFinished s cf with
    | .error e => (.error e, s)
    | .ok body =>
      let s := s.hash HandshakeType.finished body
      match deriveResumptionMasterSecret P s.keys.masterSecret (s.transcript.sum P) with
      | .error e =>
        ServerHandshaker.fail { s with keys := { s.keys with resumptionMasterSecret := [] } }
          (.wrap "tls13gm: derive resumption master secret" e)
      | .ok rms => (.ok (), { s with
          keys := { s.keys with resumptionMasterSecret := rms }
          phase := .afterClientFinished })

lemma handleClientFinished_ok {s s' : ServerHandshaker P} {cf : Bytes}
    (h : handleClientFinished s cf = (.ok (), s')) :
    s.phase = .afterFlight ∧ ∃ body rms, checkClientFinished s cf = .ok body ∧
      deriveResumptionMasterSecret P s.keys.masterSecret
        ((s.hash HandshakeType.finished body).transcript.sum P) = .ok rms ∧
      s' = { s.hash HandshakeType.finished body with
        keys := { s.keys with resumptionMasterSecret := rms }, phase := .afterClientFinished } := by
  unfold handleClientFinished at h
  by_cases hphase : s.phase = .afterFlight
  · rw [if_neg (by simpa using hphase)] at h
    rcases hcheck : checkClientFinished s cf with e | body
    · simp [hcheck] at h
    rcases hrms : deriveResumptionMasterSecret P s.keys.masterSecret
        ((s.hash HandshakeType.finished body).transcript.sum P) with e | rms
    · simp [hcheck, ServerHandshaker.hash, ServerHandshaker.fail] at h hrms
      simp [hrms] at h
    refine ⟨hphase, body, rms, rfl, hrms, ?_⟩
    simp only [ServerHandshaker.hash] at hrms
    simp only [hcheck, ServerHandshaker.hash, hrms, Prod.mk.injEq, true_and] at h
    exact h.symm
  · rw [if_pos hphase] at h
    simp at h

/-- The secret is over the transcript through the client's Finished. -/
lemma handleClientFinished_secret {s s' : ServerHandshaker P} {cf : Bytes}
    (h : handleClientFinished s cf = (.ok (), s')) :
    deriveResumptionMasterSecret P s'.keys.masterSecret (s'.transcript.sum P) =
      .ok s'.keys.resumptionMasterSecret := by
  obtain ⟨-, body, rms, -, hrms, rfl⟩ := handleClientFinished_ok h
  exact hrms

def maxSessionTicketLifetime : UInt32 := 604800

structure TicketRandom where
  nonce : Except Err Bytes
  ageAdd : Except Err UInt32
  sealNonce : Except Err Bytes

def newSessionTicketWithData (ticketLifetime : UInt32) (appData : Bytes) (teks : List Bytes)
    (r : TicketRandom) :
    Except Err Bytes := do
  let lifetime := if maxSessionTicketLifetime < ticketLifetime then maxSessionTicketLifetime
    else ticketLifetime
  reject (s.phase ≠ .afterClientFinished) (outOfOrder "NewSessionTicket" s.phase.number)
  reject (s.config.hasSessionTicketKeys = false)
    (.text "tls13gm: session-ticket key required for NewSessionTicket")
  let nonce ← wrapErr "tls13gm: generate ticket nonce" r.nonce
  let ageAdd ← wrapErr "tls13gm: generate ticket_age_add" r.ageAdd
  let psk ← deriveResumptionPSK P s.keys.resumptionMasterSecret nonce
  let tek ← need (.text "tls13gm: session-ticket key list is empty") teks.head?
  let ticket ← wrapErr "tls13gm: encrypt session ticket"
    (encryptSessionTicketWithData P tek ⟨psk, ageAdd, appData⟩ r.sealNonce)
  marshalHandshakeMessage HandshakeType.newSessionTicket
    (NewSessionTicketMsg.marshalBody ⟨lifetime, ageAdd, nonce, ticket, []⟩)

/-- `Zero`. `wiped` is the ephemeral key with its scalar set to zero. -/
def ServerHandshaker.zero (s : ServerHandshaker P) (wiped : P.PrivateKey) : ServerHandshaker P :=
  { s with
    ephemeral := wiped
    keys := s.keys.zero
    resumptionSelectedPSK := s.resumptionSelectedPSK.map zeroBytes }

end Pollux.Tls
