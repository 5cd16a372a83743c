import PolluxGM.Messages

/-!
# Primitives, transcript and key schedule

The primitives of `sm2`, `sm3`, `sm4` and `smx509` enter as one record of functions. Everything
above them is embedded from `hkdf.go`, `keyschedule.go`, `keyexchange.go`, `quic_keys.go`,
`quic_header.go`, `signature.go`, `transcript.go` and the binder half of `message_psk.go`. Deferred
wipes of local buffers are not embedded.
-/
namespace Pollux.Tls

structure VerifyOptions (Certificate : Type) where
  dnsName : String
  roots : Option (List Certificate)
  intermediates : Option (List Certificate)

/-- The primitives of the engine. Keys are always points and scalars of the SM2 curve, so the
checks of `CurveSM2ECDHE` have nothing to reject. -/
structure Prims where
  PrivateKey : Type
  PublicKey : Type
  Certificate : Type
  sm3 : Bytes → Bytes
  hmac : Bytes → Bytes → Bytes
  hkdfExtract : Bytes → Bytes → Except Err Bytes
  hkdfExpand : Bytes → Bytes → Nat → Except Err Bytes
  publicOf : PrivateKey → PublicKey
  marshalUncompressed : PublicKey → Bytes
  unmarshalUncompressed : Bytes → Except Err PublicKey
  ecdh : PrivateKey → PublicKey → Except Err Bytes
  signASN1 : Bytes → PrivateKey → Bytes → Bytes → Except Err Bytes
  verifyWithSM2 : PublicKey → Bytes → Bytes → Bytes → Bool
  parseCertificate : Bytes → Except Err Certificate
  certPublicKey : Certificate → Option PublicKey
  certRaw : Certificate → Bytes
  verify : Certificate → VerifyOptions Certificate → Except Err Unit
  newGCM : Bytes → Except Err Unit
  gcmSeal : Bytes → Bytes → Bytes → Bytes → Bytes
  gcmOpen : Bytes → Bytes → Bytes → Bytes → Except Err Bytes
  newCipher : Bytes → Except Err Unit
  sm4Encrypt : Bytes → Bytes → Bytes

variable (P : Prims)

def buildHKDFLabel (label context : Bytes) (length : Nat) : Except Err Bytes := do
  let fullLabel := ascii ['t', 'l', 's', '1', '3', ' '] ++ label
  reject (255 < fullLabel.length)
    (.text s!"tls13gm: HKDF label too long: {fullLabel.length} bytes (max 255)")
  reject (255 < context.length)
    (.text s!"tls13gm: HKDF context too long: {context.length} bytes (max 255)")
  return be16 length ++ (UInt8.ofNat fullLabel.length :: fullLabel) ++
    (UInt8.ofNat context.length :: context)

def maxHKDFExpandLen : Nat := 255 * sm3Size

def hkdfExpandLabel (secret label context : Bytes) (length : Nat) : Except Err Bytes := do
  reject (length = 0 ∨ 65535 < length)
    (.text s!"tls13gm: HKDFExpandLabel length must be 1..65535, got {length}")
  reject (maxHKDFExpandLen < length)
    (.text (s!"tls13gm: HKDFExpandLabel length {length} exceeds HKDF-Expand maximum of " ++
      s!"{maxHKDFExpandLen} (255 × SM3 hash size)"))
  let hkdfLabel ← buildHKDFLabel label context length
  P.hkdfExpand secret hkdfLabel length

def deriveSecret (secret label transcriptHash : Bytes) : Except Err Bytes :=
  hkdfExpandLabel P secret label transcriptHash sm3Size

def deriveEarlySecret (ikm : Bytes) : Except Err Bytes :=
  P.hkdfExtract [] (if ikm = [] then zeros sm3Size else ikm)

def deriveHandshakeSecret (earlySecret sharedSecret : Bytes) : Except Err Bytes := do
  let derived ← wrapErr "tls13gm: derive handshake derived secret"
    (deriveSecret P earlySecret Label.derived (P.sm3 []))
  P.hkdfExtract derived (if sharedSecret = [] then zeros sm3Size else sharedSecret)

def deriveMasterSecret (handshakeSecret : Bytes) : Except Err Bytes := do
  let derived ← wrapErr "tls13gm: derive master derived secret"
    (deriveSecret P handshakeSecret Label.derived (P.sm3 []))
  P.hkdfExtract derived (zeros sm3Size)

def deriveFinishedKey (trafficSecret : Bytes) : Except Err Bytes :=
  hkdfExpandLabel P trafficSecret Label.finished [] sm3Size

def computeFinishedVerifyData (finishedKey transcriptHash : Bytes) : Except Err Bytes := do
  reject (finishedKey = []) (.text "tls13gm: finishedKey is empty")
  return P.hmac finishedKey transcriptHash

def deriveResumptionPSK (resumptionMasterSecret ticketNonce : Bytes) : Except Err Bytes :=
  hkdfExpandLabel P resumptionMasterSecret Label.resumption ticketNonce sm3Size

def deriveResumptionMasterSecret (masterSecret transcriptHash : Bytes) : Except Err Bytes :=
  deriveSecret P masterSecret Label.resumptionMaster transcriptHash

structure QUICPacketKeys where
  aeadKey : Bytes
  aeadIV : Bytes
  headerKey : Bytes
  deriving DecidableEq

def quicAEADKeyLen : Nat := 16
def quicAEADIVLen : Nat := 12
def quicHeaderKeyLen : Nat := 16

def emptySecretErr : Err := .text "tls13gm: QUIC traffic secret must not be empty"

def deriveQUICPacketKeys (trafficSecret : Bytes) : Except Err QUICPacketKeys := do
  reject (trafficSecret = []) emptySecretErr
  let key ← wrapErr "tls13gm: derive QUIC AEAD key"
    (hkdfExpandLabel P trafficSecret Label.quicKey [] quicAEADKeyLen)
  let iv ← wrapErr "tls13gm: derive QUIC AEAD IV"
    (hkdfExpandLabel P trafficSecret Label.quicIV [] quicAEADIVLen)
  let hp ← wrapErr "tls13gm: derive QUIC header protection key"
    (hkdfExpandLabel P trafficSecret Label.quicHP [] quicHeaderKeyLen)
  return ⟨key, iv, hp⟩

def quicKeyUpdate (trafficSecret : Bytes) : Except Err Bytes := do
  reject (trafficSecret = []) emptySecretErr
  let out ← hkdfExpandLabel P trafficSecret Label.quicKU [] trafficSecret.length
  reject (out.length ≠ trafficSecret.length)
    (.text s!"tls13gm: QUIC key update produced {out.length} bytes, expected {trafficSecret.length}")
  return out

def deriveEarlyTrafficKeys (psk transcriptHash : Bytes) : Except Err QUICPacketKeys := do
  let early ← wrapErr "tls13gm: derive early secret for 0-RTT keys" (deriveEarlySecret P psk)
  let traffic ← wrapErr "tls13gm: derive client early traffic secret"
    (deriveSecret P early Label.clientEarlyTraffic transcriptHash)
  deriveQUICPacketKeys P traffic

def quicV1InitialSalt : Bytes :=
  [0x38, 0x76, 0x2c, 0xf7, 0xf5, 0x59, 0x34, 0xb3, 0x4d, 0x17,
    0x9a, 0xe6, 0xa4, 0xc8, 0x0c, 0xad, 0xcc, 0xbb, 0x7f, 0x0a]

def deriveQUICInitialSecret (destinationConnectionID : Bytes) : Except Err Bytes := do
  reject (destinationConnectionID = [])
    (.text "tls13gm: QUIC destination connection ID must not be empty")
  P.hkdfExtract quicV1InitialSalt destinationConnectionID

def deriveQUICInitialSecrets (destinationConnectionID : Bytes) : Except Err (Bytes × Bytes) := do
  let initial ← deriveQUICInitialSecret P destinationConnectionID
  let clientIn ← wrapErr "tls13gm: derive QUIC client initial secret"
    (hkdfExpandLabel P initial Label.quicClientIn [] sm3Size)
  let serverIn ← wrapErr "tls13gm: derive QUIC server initial secret"
    (hkdfExpandLabel P initial Label.quicServerIn [] sm3Size)
  return (clientIn, serverIn)

/-- The key sets produced so far; `none` is a nil pointer. -/
structure HandshakeSecrets where
  clientInitialKeys : Option QUICPacketKeys := none
  serverInitialKeys : Option QUICPacketKeys := none
  clientEarlyKeys : Option QUICPacketKeys := none
  clientHandshakeKeys : Option QUICPacketKeys := none
  serverHandshakeKeys : Option QUICPacketKeys := none
  clientApplicationKeys : Option QUICPacketKeys := none
  serverApplicationKeys : Option QUICPacketKeys := none
  clientApplicationTrafficSecret : Bytes := []
  serverApplicationTrafficSecret : Bytes := []
  clientHandshakeTrafficSecret : Bytes := []
  serverHandshakeTrafficSecret : Bytes := []
  deriving DecidableEq

def serverCertificateVerifyContext : Bytes := ascii [
  'T', 'L', 'S', ' ', '1', '.', '3', ',', ' ', 's', 'e', 'r', 'v', 'e', 'r', ' ',
  'C', 'e', 'r', 't', 'i', 'f', 'i', 'c', 'a', 't', 'e', 'V', 'e', 'r', 'i', 'f', 'y']

def sm2IDTLS13KeyExchange : Bytes := ascii [
  'T', 'L', 'S', 'v', '1', '.', '3', '+', 'G', 'M', '+', 'C', 'i', 'p', 'h', 'e', 'r', '+',
  'S', 'u', 'i', 't', 'e']

def buildCertificateVerifyInput (context transcriptHash : Bytes) : Bytes :=
  List.replicate 64 0x20 ++ context ++ (0 :: transcriptHash)

def signCertificateVerify (rand : Bytes) (privateKey : P.PrivateKey)
    (context transcriptHash : Bytes) :
    Except Err Bytes :=
  P.signASN1 rand privateKey sm2IDTLS13KeyExchange
    (buildCertificateVerifyInput context transcriptHash)

def verifyCertificateVerify (publicKey : P.PublicKey) (context transcriptHash signature : Bytes) :
    Bool :=
  P.verifyWithSM2 publicKey sm2IDTLS13KeyExchange
    (buildCertificateVerifyInput context transcriptHash) signature

def curveSM2ECDHE (privateKey : P.PrivateKey) (peerPublic : P.PublicKey) : Except Err Bytes :=
  wrapErr "tls13gm: SM2 ECDH" (P.ecdh privateKey peerPublic)

/-- The messages hashed so far. The source keeps their frames and a running digest. -/
structure Transcript where
  messages : List (UInt8 × Bytes)
  deriving DecidableEq

namespace Transcript

def empty : Transcript := ⟨[]⟩

variable (t : Transcript)

def addMessage (msgType : UInt8) (body : Bytes) : Transcript := ⟨t.messages ++ [(msgType, body)]⟩

def bytes : Bytes := t.messages.flatMap fun m => frame m.1 m.2

def sum : Bytes := P.sm3 t.bytes

/-- What a transcript restarts with after a HelloRetryRequest. -/
def resetForHelloRetry (clientHello1 hrr : Bytes) : Transcript :=
  if hrr.length < 4 then ⟨[(HandshakeType.messageHash, P.sm3 clientHello1)]⟩
  else ⟨[(HandshakeType.messageHash, P.sm3 clientHello1), (HandshakeType.serverHello, hrr.drop 4)]⟩

def types : List UInt8 := t.messages.map Prod.fst

@[simp] lemma addMessage_messages (ty : UInt8) (body : Bytes) :
    (t.addMessage ty body).messages = t.messages ++ [(ty, body)] := rfl

@[simp] lemma addMessage_types (ty : UInt8) (body : Bytes) :
    (t.addMessage ty body).types = t.types ++ [ty] := by simp [types, addMessage]

@[simp] lemma empty_bytes : empty.bytes = [] := rfl

end Transcript

def replacePreSharedKey (placeholder : Bytes) (exts : List Extension) : List Extension :=
  exts.map fun e =>
    if e.typ = ExtensionType.preSharedKey then ⟨ExtensionType.preSharedKey, placeholder⟩ else e

def bindersField : Nat := 2 + 1 + sm3Size

/-- The ClientHello without its binders: written with a placeholder and cut. -/
def pskBinderTranscript (ch : ClientHelloMsg) (identities : List PskIdentity) : Except Err Bytes :=
  do
  reject (identities.length ≠ 1)
    (.text (s!"tls13gm: pskBinderTranscript requires exactly 1 identity (got {identities.length}); "
      ++ "multi-identity PSK is unsupported"))
  let placeholder ← marshalPreSharedKeyExtension identities [zeros sm3Size]
  let exts := replacePreSharedKey placeholder ch.extensions ++
    if hasExtension ch.extensions ExtensionType.preSharedKey then []
    else [⟨ExtensionType.preSharedKey, placeholder⟩]
  let full ← marshalHandshakeMessage HandshakeType.clientHello
    { ch with extensions := exts }.marshalBody
  reject (full.length < bindersField)
    (.text s!"tls13gm: ClientHello too short ({full.length}) for binder transcript")
  return full.take (full.length - bindersField)

def computeResumptionBinder (psk truncatedClientHello : Bytes) : Except Err Bytes := do
  let early ← wrapErr "tls13gm: derive early secret for binder" (deriveEarlySecret P psk)
  let binderKey ← wrapErr "tls13gm: derive binder key"
    (deriveSecret P early Label.resumptionBinder (P.sm3 []))
  let finishedKey ← wrapErr "tls13gm: derive binder finished key"
    (hkdfExpandLabel P binderKey Label.finished [] sm3Size)
  return P.hmac finishedKey (P.sm3 truncatedClientHello)

end Pollux.Tls
