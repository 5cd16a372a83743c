import PolluxGM.TlcpMessages

/-!
# TLCP keys

Embedded from `engine_ciphers.go`, `engine_prf.go`, `engine_auth.go`, `engine_ecdh.go` and
`engine_keyagreement.go`. SM2, SM3 and the certificate package enter as functions; the ones that
draw random octets are commands on the random source.
-/
namespace Pollux.Tlcp

/-- A parsed certificate. Its public key is there if it is an ECDSA key. -/
structure Certificate where
  raw : Bytes
  publicKey : Option Bytes
  deriving DecidableEq

inductive ExtKeyUsage where
  | serverAuth
  | clientAuth
  deriving DecidableEq

structure VerifyOptions where
  roots : List Certificate
  intermediates : List Certificate
  dnsName : Bytes
  keyUsage : ExtKeyUsage
  deriving DecidableEq

/-- A private key behind an interface value, with its dynamic type. -/
structure PrivateKey where
  goType : String
  isSM2 : Bool
  key : Bytes
  deriving DecidableEq

inductive SignerOpts where
  | gm
  | sha256
  deriving DecidableEq

structure Prims extends RecordPrims where
  sm3 : Bytes → Bytes
  sign : SignerOpts → (key tbs : Bytes) → Cmd Err Bytes Bytes
  verifyASN1WithSM2 : (publicKey tbs sig : Bytes) → Bool
  encryptASN1 : (publicKey plaintext : Bytes) → Cmd Err Bytes Bytes
  decrypt : (key ciphertext : Bytes) → Option Bytes
  ecdhPrivateKey : (key : Bytes) → Except Err Bytes
  ecdhPublicKey : (publicKey : Bytes) → Except Err Bytes
  ecdhPoint : (point : Bytes) → Except Err Bytes
  ecdhGenerate : Cmd Err Bytes Bytes
  ecdhPublic : (key : Bytes) → Bytes
  sm2mqv : (key eLocal sRemote eRemote : Bytes) → Except Err Bytes
  sm2SharedKey : (uv : Bytes) → (isResponder : Bool) → (keyLen : Nat) →
    (sPub sRemote : Bytes) → Except Err Bytes
  parseCertificate : Bytes → Except Err Certificate
  verifyCertificate : Certificate → VerifyOptions → Except Err Unit
  verifyDualCerts : Certificate → Certificate → Except Err Unit

def wrapErr {α : Type} (context : String) : Except Err α → Except Err α
  | .ok a => .ok a
  | .error e => .error (.wrap context e)

lemma wrapErr_ok {α : Type} {context : String} {x : Except Err α} {a : α} :
    wrapErr context x = .ok a ↔ x = .ok a := by
  cases x <;> simp [wrapErr]

def suiteECDHE_SM2_SM4_GCM_SM3 : UInt16 := 0xE051
def suiteECDHE_SM2_SM4_CBC_SM3 : UInt16 := 0xE011
def suiteECC_SM2_SM4_GCM_SM3 : UInt16 := 0xE053
def suiteECC_SM2_SM4_CBC_SM3 : UInt16 := 0xE013

def allTLCPSuites : List UInt16 :=
  [suiteECDHE_SM2_SM4_GCM_SM3, suiteECDHE_SM2_SM4_CBC_SM3, suiteECC_SM2_SM4_GCM_SM3,
    suiteECC_SM2_SM4_CBC_SM3]

def defaultCipherSuites : List UInt16 := allTLCPSuites.filter (· = suiteECDHE_SM2_SM4_GCM_SM3)

def isTLCPCipherSuite (id : UInt16) : Bool := allTLCPSuites.contains id

structure CipherSuite where
  id : UInt16
  keyLen : Nat
  macLen : Nat
  ivLen : Nat
  ecdhe : Bool
  deriving DecidableEq

def CipherSuite.isAEAD (s : CipherSuite) : Bool := s.macLen = 0

def tlcpCipherSuites : List CipherSuite :=
  [⟨suiteECC_SM2_SM4_GCM_SM3, 16, 0, noncePrefixLength, false⟩,
    ⟨suiteECC_SM2_SM4_CBC_SM3, 16, 32, 16, false⟩,
    ⟨suiteECDHE_SM2_SM4_GCM_SM3, 16, 0, noncePrefixLength, true⟩,
      ⟨suiteECDHE_SM2_SM4_CBC_SM3, 16, 32, 16, true⟩]

def tlcpLookupCipherSuite (id : UInt16) : Option CipherSuite := tlcpCipherSuites.find? (·.id = id)

/-- The first suite of the preference that is implemented and offered. -/
def tlcpMutualCipherSuite (preference peerIDs : List UInt16) : Option CipherSuite :=
  preference.findSome? fun id => if peerIDs.contains id then tlcpLookupCipherSuite id else none

def masterSecretLength : Nat := 48
def finishedVerifyLength : Nat := 12

def label (s : String) : Bytes := s.toList.map fun ch => UInt8.ofNat ch.toNat

def masterSecretLabel : Bytes := label "master secret"
def keyExpansionLabel : Bytes := label "key expansion"
def clientFinishedLabel : Bytes := label "client finished"
def serverFinishedLabel : Bytes := label "server finished"

/-- The loop of `tlcpPHash` with `a` computed and `n` octets to fill. -/
def pHashFrom (hmac : Bytes → Bytes) (seed : Bytes) : Nat → Bytes → Nat → Bytes
  | 0, _, _ => []
  | rounds + 1, a, n =>
    if n = 0 then []
    else
      let b := hmac (a ++ seed)
      b.take n ++ pHashFrom hmac seed rounds (hmac a) (n - b.length)

/-- Every block fills at least one octet. -/
def tlcpPHash (hmac : Bytes → Bytes) (n : Nat) (seed : Bytes) : Bytes :=
  pHashFrom hmac seed n (hmac seed) n

def tlcpPRF (P : RecordPrims) (n : Nat) (secret label seed : Bytes) : Bytes :=
  tlcpPHash (P.hmacSM3 secret) n (label ++ seed)

def tlcpMasterFromPreMaster (P : RecordPrims) (preMasterSecret clientRandom serverRandom : Bytes) :
    Bytes :=
  tlcpPRF P masterSecretLength preMasterSecret masterSecretLabel (clientRandom ++ serverRandom)

structure KeyMaterial where
  clientMAC : Bytes
  serverMAC : Bytes
  clientKey : Bytes
  serverKey : Bytes
  clientIV : Bytes
  serverIV : Bytes
  deriving DecidableEq

def tlcpKeysFromMaster (P : RecordPrims) (masterSecret clientRandom serverRandom : Bytes)
    (macLen keyLen ivLen : Nat) :
    KeyMaterial :=
  let raw := tlcpPRF P (2 * macLen + 2 * keyLen + 2 * ivLen) masterSecret keyExpansionLabel
    (serverRandom ++ clientRandom)
  let slice (off length : Nat) := (raw.drop off).take length
  { clientMAC := slice 0 macLen
    serverMAC := slice macLen macLen
    clientKey := slice (2 * macLen) keyLen
    serverKey := slice (2 * macLen + keyLen) keyLen
    clientIV := slice (2 * macLen + 2 * keyLen) ivLen
    serverIV := slice (2 * macLen + 2 * keyLen + ivLen) ivLen }

variable (P : Prims)

def finishedSum (label masterSecret transcript : Bytes) : Bytes :=
  tlcpPRF P.toRecordPrims finishedVerifyLength masterSecret label (P.sm3 transcript)

inductive SigType where
  | none
  | rsa256
  | rsaSM3
  | eccSM3
  | ibsSM3
  deriving DecidableEq

def SigType.code : SigType → Nat
  | .none => 0
  | .rsa256 => 1
  | .rsaSM3 => 2
  | .eccSM3 => 3
  | .ibsSM3 => 4

def tlcpSigTypeForSuite (suiteID : UInt16) : Except Err SigType :=
  if suiteID = suiteECC_SM2_SM4_CBC_SM3 ∨ suiteID = suiteECC_SM2_SM4_GCM_SM3 ∨
      suiteID = suiteECDHE_SM2_SM4_CBC_SM3 ∨ suiteID = suiteECDHE_SM2_SM4_GCM_SM3 then .ok .eccSM3
  else .error (.text ("tlcp: unsupported certificate-verify signature for suite " ++
    hex4 suiteID.toNat))

/-- The callers have an ECDSA public key. -/
def tlcpVerifyHandshakeSignature (sigType : SigType) (publicKey tbs sig : Bytes) :
    Except Err Unit :=
  match sigType with
  | .eccSM3 => reject (P.verifyASN1WithSM2 publicKey tbs sig = false)
      (.text "tlcp: SM2 handshake-signature verification failed")
  | .rsa256 => .error (.text "tlcp: RSA_SHA256 verify expects *rsa.PublicKey, got *ecdsa.PublicKey")
  | .rsaSM3 | .ibsSM3 =>
    .error (.text s!"tlcp: handshake signature type {sigType.code} not implemented")
  | .none => .error (.text s!"tlcp: unknown handshake signature type {sigType.code}")

def tlcpSignHandshake (sigType : SigType) (priv : PrivateKey) (tbs : Bytes) : Cmd Err Bytes Bytes :=
  match sigType with
  | .eccSM3 => do
    Cmd.refuse (priv.isSM2 = false)
      (.text ("tlcp: ECC_SM3 signature requires an SM2 private key, got " ++ priv.goType))
    P.sign .gm priv.key tbs
  | .rsa256 => P.sign .sha256 priv.key tbs
  | .rsaSM3 | .ibsSM3 =>
    Cmd.fail (.text s!"tlcp: handshake signature type {sigType.code} not implemented")
  | .none => Cmd.fail (.text s!"tlcp: unknown handshake signature type {sigType.code}")

def preMasterSecretLength : Nat := 48

def tlcpECCSignedParams (clientRandom serverRandom encCertDER : Bytes) : Bytes :=
  clientRandom ++ serverRandom ++ be24 encCertDER.length ++ encCertDER

def tlcpECCProcessServerKeyExchange (sigType : SigType)
    (signPub clientRandom serverRandom encCertDER skeKey : Bytes) :
    Except Err Unit := do
  reject (skeKey.length < 2) (.text "tlcp: ServerKeyExchange too short")
  reject (be16At skeKey 0 + 2 ≠ skeKey.length)
    (.text "tlcp: ServerKeyExchange signature length mismatch")
  tlcpVerifyHandshakeSignature P sigType signPub
    (tlcpECCSignedParams clientRandom serverRandom encCertDER) (skeKey.drop 2)

def tlcpECCGenerateClientKeyExchange (version : UInt16) (encPub : Bytes) :
    Cmd Err Bytes (Bytes × Bytes) := do
  let tail ← drawRand (preMasterSecretLength - 2)
  let preMasterSecret := be16 version.toNat ++ tail
  let encrypted ← P.encryptASN1 encPub preMasterSecret
  return (preMasterSecret, be16 encrypted.length ++ encrypted)

def tlcpECCGenerateServerKeyExchange (sigType : SigType) (signer : PrivateKey)
    (clientRandom serverRandom encCertDER : Bytes) :
    Cmd Err Bytes Bytes := do
  let sig ← tlcpSignHandshake P sigType signer
    (tlcpECCSignedParams clientRandom serverRandom encCertDER)
  return be16 sig.length ++ sig

def hex2 (n : Nat) : String := String.ofList ((hex4 n).toList.drop 2)

/-- The length of the DER sequence at the front; the caller has checked the tag. -/
def decodeSM2ASN1SequenceLength (ciphertext : Bytes) : Except Err Nat :=
  let b := (ciphertext.getD 1 0).toNat
  if b ≤ 0x7F then .ok (2 + b)
  else if b = 0x80 then .error (.text "indefinite-length form (0x80) is forbidden in DER")
  else if b = 0x81 then do
    reject (ciphertext.length < 3) (.text "truncated 0x81 long-form length")
    let v := (ciphertext.getD 2 0).toNat
    reject (v < 0x80)
      (.text s!"non-canonical DER length: 0x81 0x{hex2 v} encodes {v} (< 128, must use short form)")
    return 3 + v
  else if b = 0x82 then do
    reject (ciphertext.length < 4) (.text "truncated 0x82 long-form length")
    let v := be16At ciphertext 2
    reject (v < 0x100) (.text s!"non-canonical DER length: 0x82 encodes {v} (fits in 0x81 form)")
    return 4 + v
  else if b = 0x83 ∨ b = 0x84 then
    .error (.text s!"unsupported DER long-form length 0x{hex2 b} (SM2 ciphertexts never reach this size)")
  else .error (.text s!"reserved/invalid DER length prefix 0x{hex2 b}")

def errClientKeyExchangeFailed : Err := .text "tlcp: failed to decrypt ClientKeyExchange"

def tlcpECCProcessClientKeyExchange (decrypter : PrivateKey) (ckePayload : Bytes) :
    Except Err Bytes := do
  reject (ckePayload.length < 2) (.text "tlcp: ClientKeyExchange too short")
  reject (be16At ckePayload 0 + 2 ≠ ckePayload.length)
    (.text "tlcp: ClientKeyExchange ciphertext length mismatch")
  let ciphertext := ckePayload.drop 2
  reject (ciphertext = [] ∨ ciphertext.headD 0 ≠ 0x30)
    (.text "tlcp: ClientKeyExchange ciphertext is not SM2 ASN1")
  -- Octets behind the sequence are cut off; a sequence that claims more than there is stays as it is.
  let seqLen ← if 2 ≤ ciphertext.length then
      wrapErr "tlcp: ClientKeyExchange ciphertext ASN.1 length: "
        (decodeSM2ASN1SequenceLength ciphertext)
    else pure ciphertext.length
  let plain ← need errClientKeyExchangeFailed (P.decrypt decrypter.key (ciphertext.take seqLen))
  reject (plain.length ≠ preMasterSecretLength) errClientKeyExchangeFailed
  return plain

def ecdheCurveTypeNamed : Nat := 3
def sm2PointLength : Nat := 65

def ecdhPrivFromDecrypter (dec : PrivateKey) : Except Err Bytes := do
  reject (dec.isSM2 = false) (.text "tlcp: ECDHE encryption key must be an SM2 private key")
  P.ecdhPrivateKey dec.key

def tlcpMarshalECDHEParams (point : Bytes) : Except Err Bytes := do
  reject (point.length ≠ sm2PointLength)
    (.text s!"tlcp: unexpected SM2 point length {point.length}")
  return UInt8.ofNat ecdheCurveTypeNamed ::
    (be16 curveSM2.toNat ++ UInt8.ofNat point.length :: point)

def tlcpParseECDHEParams (data : Bytes) : Except Err (Bytes × Bytes) := do
  reject (data.length < 4) (.text "tlcp: ECDHE params too short")
  let curveType := (data.getD 0 0).toNat
  reject (curveType ≠ ecdheCurveTypeNamed)
    (.text s!"tlcp: ECDHE unsupported curve_type {curveType}")
  let curve := be16At data 1
  reject (curve ≠ curveSM2.toNat) (.text s!"tlcp: ECDHE unsupported named_curve {curve}")
  let pubLen := (data.getD 3 0).toNat
  reject (pubLen ≠ sm2PointLength) (.text s!"tlcp: ECDHE unexpected point length {pubLen}")
  reject (data.length < 4 + pubLen) (.text "tlcp: ECDHE params truncated")
  let paramsBytes := data.take (4 + pubLen)
  let pubKey ← wrapErr "tlcp: parse ECDHE ephemeral key: " (P.ecdhPoint (paramsBytes.drop 4))
  return (paramsBytes, pubKey)

def tlcpECDHESignedParams (clientRandom serverRandom ecdheParams : Bytes) : Bytes :=
  clientRandom ++ serverRandom ++ ecdheParams

/-- The server's long-term and ephemeral keys between its two steps. -/
structure ECDHEServerKeyExchange where
  sponsorPriv : Bytes
  sponsorEph : Bytes
  deriving DecidableEq

def tlcpECDHEServerGenerateSKE (sigType : SigType) (signer encPriv : PrivateKey)
    (clientRandom serverRandom : Bytes) :
    Cmd Err Bytes (ECDHEServerKeyExchange × Bytes) := do
  let sponsorPriv ← Cmd.lift (ecdhPrivFromDecrypter P encPriv)
  let sponsorEph ← P.ecdhGenerate
  let params ← Cmd.lift (tlcpMarshalECDHEParams (P.ecdhPublic sponsorEph))
  let sig ← tlcpSignHandshake P sigType signer
    (tlcpECDHESignedParams clientRandom serverRandom params)
  return (⟨sponsorPriv, sponsorEph⟩, params ++ be16 sig.length ++ sig)

def tlcpECDHEServerProcessCKE (state : ECDHEServerKeyExchange) (clientEncPub ckePayload : Bytes) :
    Except Err Bytes := do
  let (_, clientEphPub) ← tlcpParseECDHEParams P ckePayload
  let clientLongPub ← P.ecdhPublicKey clientEncPub
  let uv ← wrapErr "tlcp: ECDHE MQV: "
    (P.sm2mqv state.sponsorPriv state.sponsorEph clientLongPub clientEphPub)
  P.sm2SharedKey uv false preMasterSecretLength (P.ecdhPublic state.sponsorPriv) clientLongPub

def tlcpECDHEClientProcessSKE (sigType : SigType)
    (signPub clientRandom serverRandom skeKey : Bytes) : Except Err Bytes := do
  reject (skeKey.length < 4) (.text "tlcp: ECDHE ServerKeyExchange too short")
  let (paramsBytes, serverEphPub) ← tlcpParseECDHEParams P skeKey
  let rest := skeKey.drop paramsBytes.length
  reject (rest.length < 2) (.text "tlcp: ECDHE ServerKeyExchange truncated before signature length")
  reject (2 + be16At rest 0 ≠ rest.length) (.text "tlcp: ECDHE SKE signature length mismatch")
  wrapErr "tlcp: ECDHE SKE signature: "
    (tlcpVerifyHandshakeSignature P sigType signPub
      (tlcpECDHESignedParams clientRandom serverRandom paramsBytes) (rest.drop 2))
  return serverEphPub

def tlcpECDHEClientGenerateCKE (serverEphPub : Bytes) (clientEncPriv : PrivateKey)
    (serverEncPub : Bytes) :
    Cmd Err Bytes (Bytes × Bytes) := do
  let responderPriv ← Cmd.lift (ecdhPrivFromDecrypter P clientEncPriv)
  let responderEph ← P.ecdhGenerate
  let serverLongPub ← Cmd.lift (P.ecdhPublicKey serverEncPub)
  let uv ← Cmd.lift (wrapErr "tlcp: ECDHE MQV: "
    (P.sm2mqv responderPriv responderEph serverLongPub serverEphPub))
  let pms ← Cmd.lift (P.sm2SharedKey uv true preMasterSecretLength (P.ecdhPublic responderPriv)
    serverLongPub)
  let payload ← Cmd.lift (tlcpMarshalECDHEParams (P.ecdhPublic responderEph))
  return (pms, payload)

/-- A key is its own public key and a certificate its own octets; a root is verified. -/
def toyTlcpPrims : Prims where
  toRecordPrims := toyRecordPrims
  sm3 := toyTag 32
  sign _ key tbs := pure (key ++ toyTag 32 tbs)
  verifyASN1WithSM2 publicKey tbs sig := sig = publicKey ++ toyTag 32 tbs
  encryptASN1 _ plaintext := pure (0x30 :: UInt8.ofNat plaintext.length :: plaintext)
  decrypt _ ciphertext := some (ciphertext.drop 2)
  ecdhPrivateKey key := .ok key
  ecdhPublicKey publicKey := .ok publicKey
  ecdhPoint point := .ok point
  ecdhGenerate := drawRand sm2PointLength
  ecdhPublic key := key
  sm2mqv _ _ _ _ := .ok []
  sm2SharedKey _ _ keyLen _ _ := .ok (zeros keyLen)
  parseCertificate der := .ok ⟨der, some der⟩
  verifyCertificate cert opts := if cert ∈ opts.roots then .ok ()
    else .error (.text "x509: unknown authority")
  verifyDualCerts _ _ := .ok ()

end Pollux.Tlcp
