import PolluxGM.Smx509

/-!
# Parsing OCSP responses

`ParseOCSPResponseWithIssuerAt` of `ocsp.go` and the parser for SM2 signatures of
`ocsp_sm2_parse.go`. What `encoding/asn1`, the hashes, gmsm and `x/crypto/ocsp` do is given by
functions. The time 0 stands for an absent update as it does in Go.
-/
namespace Pollux.Ocsp

open Smx509

structure RawValue where
  cls : Nat
  tag : Nat
  isCompound : Bool
  bytes : Bytes
  deriving DecidableEq

structure Extension where
  id : OID
  critical : Bool
  value : Bytes
  deriving DecidableEq

structure BitString where
  bytes : Bytes
  bitLength : Nat
  deriving DecidableEq

def BitString.rightAlign (b : BitString) : Bytes :=
  let shift := 8 - b.bitLength % 8
  if shift = 8 ∨ b.bytes = [] then b.bytes
  else
    List.zipWith (fun before x =>
      (before <<< UInt8.ofNat (8 - shift)) ||| (x >>> UInt8.ofNat shift)) (0 :: b.bytes) b.bytes

structure CertID where
  hashAlgorithm : OID
  nameHash : Bytes
  issuerKeyHash : Bytes
  serialNumber : Int
  deriving DecidableEq

structure RevokedInfo where
  revocationTime : Int
  reason : Int
  deriving DecidableEq

structure ParseSingleResponse where
  certID : CertID
  good : Bool
  revoked : RevokedInfo
  unknown : Bool
  thisUpdate : Int
  nextUpdate : Int
  singleExtensions : List Extension
  deriving DecidableEq

structure ParseResponseData where
  raw : Bytes
  version : Int
  rawResponderID : RawValue
  producedAt : Int
  responses : List ParseSingleResponse
  responseExtensions : List Extension
  deriving DecidableEq

structure ParseBasicResponse where
  tbsResponseData : ParseResponseData
  signatureAlgorithm : OID
  signature : BitString
  certificates : List Bytes
  deriving DecidableEq

structure ResponseASN1 where
  status : Int
  responseType : OID
  response : Bytes
  deriving DecidableEq

/-- The hashes of `crypto`. SM3 is not one of them. -/
inductive Hash where
  | sha1
  | sha256
  | sha384
  | sha512
  | other (code : Nat)
  deriving DecidableEq

def sm2HashOIDs : List (Hash × OID) :=
  [(.sha1, [1, 3, 14, 3, 2, 26]), (.sha256, [2, 16, 840, 1, 101, 3, 4, 2, 1]),
    (.sha384, [2, 16, 840, 1, 101, 3, 4, 2, 2]), (.sha512, [2, 16, 840, 1, 101, 3, 4, 2, 3])]

def sm3HashOID : OID := [1, 2, 156, 10197, 1, 401]

def oidSignatureSM2WithSM3 : OID := [1, 2, 156, 10197, 1, 501]

def idPKIXOCSPBasic : OID := [1, 3, 6, 1, 5, 5, 7, 48, 1, 1]

def oidExtKeyUsageOCSPSigning : OID := [1, 3, 6, 1, 5, 5, 7, 3, 9]

def extKeyUsageOCSPSigning : Int := 9

def defaultSM2UID : Bytes := "1234567812345678".toUTF8.toList

def classContextSpecific : Nat := 2

def ocspSuccess : Int := 0
def ocspGood : Int := 0
def ocspRevoked : Int := 1
def ocspUnknown : Int := 2

def second : Int := 1000000000
def ocspFreshnessLeeway : Int := 5 * 60 * second
def maxOCSPNoNextUpdateAge : Int := 7 * 24 * 3600 * second

inductive ResponderID where
  | name (rawResponderName : Bytes)
  | keyHash (responderKeyHash : Bytes)
  deriving DecidableEq

/-- The parsed response. An issuer hash of 0 is none. -/
structure Response where
  raw : Bytes
  tbsResponseData : Bytes
  signature : Bytes
  extensions : List Extension
  extraExtensions : List Extension
  serialNumber : Int
  status : Int
  producedAt : Int
  thisUpdate : Int
  nextUpdate : Int
  revokedAt : Int
  revocationReason : Int
  responder : Option ResponderID
  certificate : Option Certificate
  issuerHash : Option Hash
  deriving DecidableEq

structure Host where
  unmarshalResponse : Bytes → Except Err (ResponseASN1 × Bytes)
  unmarshalBasic : Bytes → Except Err (ParseBasicResponse × Bytes)
  unmarshalTBS : Bytes → Except Err (ParseResponseData × Bytes)
  unmarshalOctets : Bytes → Except Err (Bytes × Bytes)
  unmarshalKeyInfo : Bytes → Except Err (BitString × Bytes)
  smParse : Bytes → Except Err Certificate
  stdParse : Bytes → Except Err Certificate
  verifyWithSM2 : PublicKey → (uid data sig : Bytes) → Bool
  sm3 : Bytes → Bytes
  hash : Hash → Bytes → Bytes
  available : Hash → Bool
  parseResponse : Bytes → Certificate → Except Err Response

def unmarshalAll {α : Type} (unmarshal : Bytes → Except Err (α × Bytes)) (der : Bytes)
    (trailing : String) : Except Err α := do
  let (x, rest) ← unmarshal der
  reject (rest ≠ []) (.text trailing)
  return x

variable (H : Host) (data : Bytes) (issuer : Option Certificate) (now : Int)
  (basicResp : ParseBasicResponse)

def isSM2OCSPResponse : Bool :=
  match H.unmarshalResponse data with
  | .error _ => false
  | .ok (resp, _) =>
    resp.responseType = idPKIXOCSPBasic &&
      match H.unmarshalBasic resp.response with
      | .error _ => false
      | .ok (basicResp, _) => basicResp.signatureAlgorithm = oidSignatureSM2WithSM3

/-- Without a serial number, only a response with one status is clear. -/
def onlyResponse : List ParseSingleResponse → Except Err ParseSingleResponse
  | [] => .error (.text "smx509: OCSP response contains no statuses")
  | [singleResp] => .ok singleResp
  | _ => .error (.text "smx509: OCSP response contains multiple statuses; use a cert-filtering parser")

def parseResponderID (rid : RawValue) : Except Err ResponderID := do
  reject (rid.cls ≠ classContextSpecific)
    (.text "smx509: invalid responder id class (want context-specific)")
  match rid.tag with
  | 1 => return .name rid.bytes
  | 2 =>
    match H.unmarshalOctets rid.bytes with
    | .ok (hash, []) => return .keyHash hash
    | _ => .error (.text "smx509: invalid responder key hash")
  | _ => .error (.text "smx509: invalid responder id tag")

def asECDSA : PublicKey → Option PublicKey
  | .other => none
  | pub => some pub

def checkSignature (notECDSA bad : String) (tbs signature : Bytes) (cert : Certificate) :
    Except Err Unit := do
  let pub ← need (.text notECDSA) (asECDSA cert.publicKey)
  reject (H.verifyWithSM2 pub defaultSM2UID tbs signature = false) (.text bad)

def verifyAgainst (tbs signature : Bytes) (signerCert : Certificate) : Except Err Unit :=
  checkSignature H "smx509: responder public key is not ECDSA (SM2)"
    "smx509: bad SM2 OCSP signature" tbs signature signerCert

def certIDHashFunc (oid : OID) : Option (Bytes → Bytes) :=
  if oid = sm3HashOID then some H.sm3
  else (sm2HashOIDs.find? fun (h, ha) => oid = ha ∧ H.available h).map fun (h, _) => H.hash h

/-- The key is hashed with the algorithm of the CertID. -/
def matchesResponderID (hashAlgorithm : OID) (responder : ResponderID) (signerCert : Certificate) :
    Bool :=
  match responder with
  | .name rawResponderName => signerCert.rawSubject = rawResponderName
  | .keyHash responderKeyHash =>
    match certIDHashFunc H hashAlgorithm, H.unmarshalKeyInfo signerCert.rawSubjectPublicKeyInfo with
    | some hf, .ok (publicKey, _) => hf publicKey.rightAlign = responderKeyHash
    | _, _ => false

def hasOCSPSigningEKU (cert : Certificate) : Bool :=
  cert.extKeyUsage.contains extKeyUsageOCSPSigning || cert.unknownExtKeyUsage.contains
    oidExtKeyUsageOCSPSigning

/-- Go panics on a nil key here. -/
def sameKey : PublicKey → PublicKey → Bool
  | .ecdsa sm2 point, .ecdsa sm2' point' => sm2 = sm2' && point = point'
  | _, _ => false

def checkIssued (embedded : Certificate) : Option Certificate → Except Err Unit
  | none => return
  | some issuer =>
    checkSignature H "smx509: issuer public key is not ECDSA (SM2)"
      "smx509: embedded responder cert not signed by issuer"
      embedded.rawTBSCertificate embedded.signature issuer

/-- The first certificate. Only a key of its own needs the OCSP usage. -/
def checkEmbedded (matchesResponder : Certificate → Bool) (der : Bytes) : Except Err Certificate :=
  do
  let embedded ← parseCertificate H.smParse H.stdParse der
  let isIssuerDirect := issuer.any fun issuer => sameKey embedded.publicKey issuer.publicKey
  reject (isIssuerDirect = false ∧ hasOCSPSigningEKU embedded = false)
    (.text "smx509: embedded responder cert lacks id-kp-OCSPSigning EKU")
  (verifyAgainst H basicResp.tbsResponseData.raw basicResp.signature.rightAlign embedded).mapError
    (.wrap "smx509: bad signature on embedded certificate: ")
  reject (matchesResponder embedded = false)
    (.text "smx509: OCSP ResponderID does not match embedded responder certificate")
  checkIssued H embedded issuer
  reject (now ≠ 0 ∧ now + ocspFreshnessLeeway < embedded.notBefore)
    (.text "smx509: embedded responder certificate is not yet valid")
  reject (now ≠ 0 ∧ embedded.notAfter < now)
    (.text "smx509: embedded responder certificate is expired")
  return embedded

/-- Checks the signer, and returns the response's certificate if it has one. -/
def checkSigner (matchesResponder : Certificate → Bool) : Except Err (Option Certificate) :=
  match basicResp.certificates, issuer with
  | der :: _, _ => do
    let embedded ← checkEmbedded H issuer now basicResp matchesResponder der
    return some embedded
  | [], some issuer => do
    (verifyAgainst H basicResp.tbsResponseData.raw basicResp.signature.rightAlign issuer).mapError
      (.wrap "smx509: bad SM2 OCSP signature: ")
    reject (matchesResponder issuer = false)
      (.text "smx509: OCSP ResponderID does not match issuer certificate")
    return none
  | [], none => return none

/-- SM3 is reported as SHA-256, since `crypto` has no name for it. -/
def issuerHashOf (oid : OID) : Option Hash :=
  if oid = sm3HashOID then some .sha256
  else (sm2HashOIDs.find? fun entry => oid = entry.2).map Prod.fst

/-- `now.Sub(t)` stays within the range of a duration. -/
def durationSince (t : Int) : Int := max (-9223372036854775808) (min 9223372036854775807 (now - t))

def checkFreshness (thisUpdate nextUpdate : Int) : Except Err Unit := do
  reject (now ≠ 0 ∧ thisUpdate ≠ 0 ∧ now + ocspFreshnessLeeway < thisUpdate)
    (.text "smx509: OCSP response ThisUpdate is in the future")
  reject (now ≠ 0 ∧ nextUpdate ≠ 0 ∧ nextUpdate < now)
    (.text "smx509: OCSP response is stale (past NextUpdate)")
  reject (now ≠ 0 ∧ nextUpdate = 0 ∧ thisUpdate ≠ 0 ∧
    maxOCSPNoNextUpdateAge < durationSince now thisUpdate)
    (.text "smx509: OCSP response has no NextUpdate and ThisUpdate exceeds the local maximum age")

/-- The status, with the time and the reason of a revocation. -/
def ParseSingleResponse.statusInfo (singleResp : ParseSingleResponse) : Int × Int × Int :=
  if singleResp.good then (ocspGood, 0, 0)
  else if singleResp.unknown then (ocspUnknown, 0, 0)
  else (ocspRevoked, singleResp.revoked.revocationTime, singleResp.revoked.reason)

def parsedResponse (singleResp : ParseSingleResponse) (responder : ResponderID)
    (certificate : Option Certificate) (issuerHash : Hash) : Response where
  raw := data
  tbsResponseData := basicResp.tbsResponseData.raw
  signature := basicResp.signature.rightAlign
  extensions := singleResp.singleExtensions
  extraExtensions := []
  serialNumber := singleResp.certID.serialNumber
  status := singleResp.statusInfo.1
  producedAt := basicResp.tbsResponseData.producedAt
  thisUpdate := singleResp.thisUpdate
  nextUpdate := singleResp.nextUpdate
  revokedAt := singleResp.statusInfo.2.1
  revocationReason := singleResp.statusInfo.2.2
  responder := some responder
  certificate := certificate
  issuerHash := some issuerHash

def parseSM2OCSPResponse : Except Err Response := do
  let resp ← unmarshalAll H.unmarshalResponse data "smx509: trailing data in OCSP response"
  reject (resp.status ≠ ocspSuccess) (.responseError resp.status)
  reject (resp.responseType ≠ idPKIXOCSPBasic) (.text "smx509: bad OCSP response type")
  let basicResp ← unmarshalAll H.unmarshalBasic resp.response
    "smx509: trailing data in basic OCSP response"
  let singleResp ← onlyResponse basicResp.tbsResponseData.responses
  let responder ← parseResponderID H basicResp.tbsResponseData.rawResponderID
  let certificate ←
    checkSigner H issuer now basicResp
      (matchesResponderID H singleResp.certID.hashAlgorithm responder)
  reject (singleResp.singleExtensions.any Extension.critical)
    (.text "smx509: unsupported critical extension in OCSP singleResponse")
  let issuerHash ← need (.text "smx509: unsupported issuer hash algorithm in CertID")
    (issuerHashOf singleResp.certID.hashAlgorithm)
  checkFreshness now singleResp.thisUpdate singleResp.nextUpdate
  return parsedResponse data basicResp singleResp responder certificate issuerHash

def parseOCSPResponseWithIssuerAt : Except Err Response := do
  let issuer ← need (.text "smx509: issuer certificate is required for OCSP response verification")
    issuer
  if isSM2OCSPResponse H data then parseSM2OCSPResponse H data (some issuer) now
  else do
    let resp ← H.parseResponse data issuer
    checkFreshness now resp.thisUpdate resp.nextUpdate
    return resp

/-- The raw content of a structure is what it was decoded from. -/
structure Host.Lawful : Prop where
  rawContent : ∀ der basicResp rest, H.unmarshalBasic der = .ok (basicResp, rest) →
    H.unmarshalTBS basicResp.tbsResponseData.raw = .ok (basicResp.tbsResponseData, [])

/-- The hash that an identifier stands for. -/
def Names (oid : OID) (hf : Bytes → Bytes) : Prop :=
  oid = sm3HashOID ∧ hf = H.sm3 ∨ ∃ h, (h, oid) ∈ sm2HashOIDs ∧ hf = H.hash h

/-- By the name of the certificate, or by the hash of its key. -/
def Identifies (rid : RawValue) (hashAlgorithm : OID) (cert : Certificate) : Prop :=
  rid.cls = classContextSpecific ∧
    (rid.tag = 1 ∧ rid.bytes = cert.rawSubject ∨
      rid.tag = 2 ∧ ∃ hf key rest, Names H hashAlgorithm hf ∧
        H.unmarshalKeyInfo cert.rawSubjectPublicKeyInfo = .ok (key, rest) ∧
        H.unmarshalOctets rid.bytes = .ok (hf key.rightAlign, []))

def SignedBy (cert : Certificate) (tbs signature : Bytes) : Prop :=
  H.verifyWithSM2 cert.publicKey defaultSM2UID tbs signature = true

/-- A certificate that the issuer let answer for it. -/
structure Delegate (issuer cert : Certificate) (now : Int) : Prop where
  issued : SignedBy H issuer cert.rawTBSCertificate cert.signature
  begun : cert.notBefore ≤ now + ocspFreshnessLeeway
  unexpired : now ≤ cert.notAfter
  usage : extKeyUsageOCSPSigning ∈ cert.extKeyUsage ∨
    oidExtKeyUsageOCSPSigning ∈ cert.unknownExtKeyUsage ∨ cert.publicKey = issuer.publicKey

def EmbeddedIn (cert : Certificate) : Prop :=
  ∃ resp basicResp der more, H.unmarshalResponse data = .ok (resp, []) ∧
    H.unmarshalBasic resp.response = .ok (basicResp, []) ∧ basicResp.certificates = der :: more ∧
    parseCertificate H.smParse H.stdParse der = .ok cert

def Fresh (thisUpdate nextUpdate : Int) : Prop :=
  thisUpdate ≠ 0 → thisUpdate ≤ now + ocspFreshnessLeeway ∧
    (now ≤ nextUpdate ∨ nextUpdate = 0 ∧ now - thisUpdate ≤ maxOCSPNoNextUpdateAge)

/-- The response says what the flags of the signed answer say: good, else unknown, else revoked at
the time and for the reason given. -/
structure Reports (r : Response) (single : ParseSingleResponse) : Prop where
  good : single.good = true → r.status = ocspGood
  unknown : single.good = false → single.unknown = true → r.status = ocspUnknown
  revoked : single.good = false → single.unknown = false → r.status = ocspRevoked ∧
    r.revokedAt = single.revoked.revocationTime ∧ r.revocationReason = single.revoked.reason

structure Attested (issuer : Certificate) (now : Int) (r : Response) (signer : Certificate)
    (tbs : ParseResponseData) (single : ParseSingleResponse) : Prop where
  inside : H.unmarshalTBS r.tbsResponseData = .ok (tbs, [])
  only : tbs.responses = [single]
  serial : r.serialNumber = single.certID.serialNumber
  status : Reports r single
  times : r.thisUpdate = single.thisUpdate ∧ r.nextUpdate = single.nextUpdate
  signed : SignedBy H signer r.tbsResponseData r.signature
  entitled : signer = issuer ∨ EmbeddedIn H data signer ∧ Delegate H issuer signer now
  responder : Identifies H tbs.rawResponderID single.certID.hashAlgorithm signer
  noncritical : ∀ ext ∈ single.singleExtensions, ext.critical = false
  fresh : Fresh now r.thisUpdate r.nextUpdate

variable {der : Bytes} {issuer certificate : Option Certificate} {now : Int} {cert : Certificate}
  {basicResp : ParseBasicResponse} {matchesResponder : Certificate → Bool}

section

variable {H : Host}

lemma unmarshalAll_ok {α : Type} {unmarshal : Bytes → Except Err (α × Bytes)} {trailing : String}
    {x : α} :
    unmarshalAll unmarshal der trailing = .ok x ↔ unmarshal der = .ok (x, []) := by
  simp only [unmarshalAll, bind_ok, reject_ok, pure_inj, Decidable.not_not]
  constructor
  · rintro ⟨⟨y, rest⟩, hdecode, _, rfl, rfl⟩
    exact hdecode
  · intro hdecode
    exact ⟨(x, []), hdecode, (), rfl, rfl⟩

structure Parsed (H : Host) (data : Bytes) (issuer : Option Certificate) (now : Int)
    (resp : ResponseASN1) (basicResp : ParseBasicResponse) (single : ParseSingleResponse)
    (responder : ResponderID) (certificate : Option Certificate) (issuerHash : Hash) : Prop where
  outer : H.unmarshalResponse data = .ok (resp, [])
  success : resp.status = ocspSuccess
  kind : resp.responseType = idPKIXOCSPBasic
  basic : H.unmarshalBasic resp.response = .ok (basicResp, [])
  only : basicResp.tbsResponseData.responses = [single]
  responderID : parseResponderID H basicResp.tbsResponseData.rawResponderID = .ok responder
  signer : checkSigner H issuer now basicResp
    (matchesResponderID H single.certID.hashAlgorithm responder) = .ok certificate
  noncritical : single.singleExtensions.any Extension.critical = false
  hash : issuerHashOf single.certID.hashAlgorithm = some issuerHash
  fresh : checkFreshness now single.thisUpdate single.nextUpdate = .ok ()

lemma onlyResponse_ok {responses : List ParseSingleResponse} {single : ParseSingleResponse} :
    onlyResponse responses = .ok single ↔ responses = [single] := by
  match responses with
  | [] => simp [onlyResponse]
  | [first] => simp [onlyResponse]
  | first :: second :: more => simp [onlyResponse]

lemma parseSM2OCSPResponse_ok {data : Bytes} {r : Response} :
    parseSM2OCSPResponse H data issuer now = .ok r ↔
      ∃ resp basicResp single responder certificate issuerHash,
        Parsed H data issuer now resp basicResp single responder certificate issuerHash ∧
        parsedResponse data basicResp single responder certificate issuerHash = r := by
  simp only [parseSM2OCSPResponse, bind_ok, reject_ok, unmarshalAll_ok, onlyResponse_ok, need_ok,
    pure_inj, Decidable.not_not, Bool.not_eq_true]
  constructor
  · rintro ⟨resp, houter, _, hsuccess, _, hkind, basicResp, hbasic, single, honly, responder,
      hresponder, certificate, hsigner, _, hcritical, issuerHash, hhash, _, hfresh, hr⟩
    exact ⟨resp, basicResp, single, responder, certificate, issuerHash,
      ⟨houter, hsuccess, hkind, hbasic, honly, hresponder, hsigner, hcritical, hhash, hfresh⟩, hr⟩
  · rintro ⟨resp, basicResp, single, responder, certificate, issuerHash, h, hr⟩
    exact ⟨resp, h.outer, (), h.success, (), h.kind, basicResp, h.basic, single, h.only, responder,
      h.responderID, certificate, h.signer, (), h.noncritical, issuerHash, h.hash, (), h.fresh, hr⟩

lemma checkSignature_ok {notECDSA bad : String} {tbs signature : Bytes} {u : Unit} :
    checkSignature H notECDSA bad tbs signature cert = .ok u ↔ cert.publicKey ≠ .other ∧
      SignedBy H cert tbs signature := by
  simp only [checkSignature, bind_ok, need_ok, reject_ok, Bool.not_eq_false, SignedBy]
  cases cert.publicKey <;> simp [asECDSA]

lemma certIDHashFunc_names {oid : OID} {hf : Bytes → Bytes} (h : certIDHashFunc H oid = some hf) :
    Names H oid hf := by
  unfold certIDHashFunc at h
  split at h
  · rename_i hsm3
    exact .inl ⟨hsm3, (Option.some.inj h).symm⟩
  · obtain ⟨⟨hash, oid'⟩, hfind, rfl⟩ := Option.map_eq_some_iff.mp h
    have hoid := List.find?_some hfind
    obtain rfl : oid = oid' := by
      simp only [decide_eq_true_eq] at hoid
      exact hoid.1
    exact .inr ⟨hash, List.mem_of_find?_eq_some hfind, rfl⟩

lemma matches_identifies {rid : RawValue} {hashAlgorithm : OID} {responder : ResponderID}
    (hrid : parseResponderID H rid = .ok responder)
    (hmatch : matchesResponderID H hashAlgorithm responder cert = true) :
    Identifies H rid hashAlgorithm cert := by
  simp only [parseResponderID, bind_ok, reject_ok, Decidable.not_not] at hrid
  obtain ⟨_, hclass, hrid⟩ := hrid
  refine ⟨hclass, ?_⟩
  split at hrid
  · rename_i htag
    cases hrid
    exact .inl ⟨htag, (of_decide_eq_true hmatch).symm⟩
  · rename_i htag
    split at hrid
    · rename_i hash hoctets
      cases hrid
      simp only [matchesResponderID] at hmatch
      split at hmatch
      · rename_i hf key rest hfunc hkey
        refine .inr ⟨htag, hf, key, rest, certIDHashFunc_names hfunc, hkey, ?_⟩
        rw [of_decide_eq_true hmatch, hoctets]
      · cases hmatch
    · cases hrid
  · cases hrid

lemma sameKey_iff {a b : PublicKey} (h : sameKey a b = true) : a = b := by
  cases a <;> cases b <;> simp_all [sameKey]

lemma checkEmbedded_ok {issuer : Certificate} (hnow : now ≠ 0)
    (h : checkEmbedded H (some issuer) now basicResp matchesResponder der = .ok cert) :
    parseCertificate H.smParse H.stdParse der = .ok cert ∧ Delegate H issuer cert now ∧
      SignedBy H cert basicResp.tbsResponseData.raw basicResp.signature.rightAlign ∧
        matchesResponder cert = true := by
  simp only [checkEmbedded, bind_ok, reject_ok, mapError_ok, pure_inj] at h
  obtain ⟨embedded, hparse, _, husage, _, hsigned, _, hmatch, _, hissued, _, hbegun, _, hexpired,
    rfl⟩ := h
  refine ⟨hparse, ?_, (checkSignature_ok.mp hsigned).2, by simpa using hmatch⟩
  constructor
  · exact (checkSignature_ok.mp hissued).2
  · omega
  · omega
  · by_cases heku : hasOCSPSigningEKU embedded = true
    · simp only [hasOCSPSigningEKU, Bool.or_eq_true, List.contains_iff_mem] at heku
      exact heku.imp_right .inl
    · refine .inr (.inr (sameKey_iff ?_))
      simpa [heku] using husage

lemma checkFreshness_ok {thisUpdate nextUpdate : Int} (hnow : now ≠ 0)
    (h : checkFreshness now thisUpdate nextUpdate = .ok ()) : Fresh now thisUpdate nextUpdate := by
  simp only [checkFreshness, bind_ok, reject_ok] at h
  obtain ⟨_, hfuture, _, hstale, hold⟩ := h
  intro hthis
  refine ⟨by omega, ?_⟩
  by_cases hnext : nextUpdate = 0
  · have hage : durationSince now thisUpdate ≤ maxOCSPNoNextUpdateAge := by
      by_contra hlong
      exact hold ⟨hnow, hnext, hthis, by omega⟩
    -- The longest duration is far above a week, so the cut does not matter.
    simp only [durationSince, maxOCSPNoNextUpdateAge, second] at hage ⊢
    omega
  · exact .inl (by omega)

lemma parsedResponse_reports (data : Bytes) (single : ParseSingleResponse) (responder : ResponderID)
    (issuerHash : Hash) :
    Reports (parsedResponse data basicResp single responder certificate issuerHash) single := by
  constructor <;> simp +contextual [parsedResponse, ParseSingleResponse.statusInfo]

lemma checkSigner_embedded {more : List Bytes} (hcerts : basicResp.certificates = der :: more) :
    checkSigner H issuer now basicResp matchesResponder = .ok certificate ↔
      ∃ cert, checkEmbedded H issuer now basicResp matchesResponder der = .ok cert ∧
        some cert = certificate := by
  unfold checkSigner
  simp only [hcerts, bind_ok, pure_inj]

/-- The signer of an accepted response is the issuer, or one it let answer. -/
lemma checkSigner_ok {issuer : Certificate} (hnow : now ≠ 0)
    (h : checkSigner H (some issuer) now basicResp matchesResponder = .ok certificate) :
    ∃ signer, SignedBy H signer basicResp.tbsResponseData.raw basicResp.signature.rightAlign ∧
      matchesResponder signer = true ∧
      (signer = issuer ∨ Delegate H issuer signer now ∧ ∃ der more,
        basicResp.certificates = der :: more ∧
        parseCertificate H.smParse H.stdParse der = .ok signer) := by
  cases hcerts : basicResp.certificates with
  | cons der more =>
    obtain ⟨signer, hembedded, _⟩ := (checkSigner_embedded hcerts).mp h
    obtain ⟨hparse, hdelegate, hsigned, hmatch⟩ := checkEmbedded_ok hnow hembedded
    exact ⟨signer, hsigned, hmatch, .inr ⟨hdelegate, der, more, rfl, hparse⟩⟩
  | nil =>
    simp only [checkSigner, hcerts, bind_ok, mapError_ok, reject_ok, Bool.not_eq_false] at h
    obtain ⟨_, hsigned, _, hmatch, _⟩ := h
    exact ⟨issuer, (checkSignature_ok.mp hsigned).2, hmatch, .inl rfl⟩

end

/-- What an accepted SM2 response says was signed by the issuer or one it let answer, and is
fresh. -/
theorem accepted_response_attested (H : Host) (hH : H.Lawful) (data : Bytes) (issuer : Certificate)
    (now : Int) (hnow : now ≠ 0) (hsm2 : isSM2OCSPResponse H data = true) (r : Response)
    (hparse : parseOCSPResponseWithIssuerAt H data (some issuer) now = .ok r) :
    ∃ signer tbs single, Attested H data issuer now r signer tbs single := by
  simp only [parseOCSPResponseWithIssuerAt, need_some, ok_bind, if_pos hsm2,
    parseSM2OCSPResponse_ok] at hparse
  obtain ⟨resp, basicResp, single, responder, certificate, issuerHash, h, rfl⟩ := hparse
  obtain ⟨signer, hsigned, hmatch, hentitled⟩ := checkSigner_ok hnow h.signer
  refine ⟨signer, basicResp.tbsResponseData, single, ?_⟩
  constructor
  · exact hH.rawContent _ _ _ h.basic
  · exact h.only
  · rfl
  · exact parsedResponse_reports data single responder issuerHash
  · exact ⟨rfl, rfl⟩
  · exact hsigned
  · rcases hentitled with rfl | ⟨hdelegate, der, more, hcerts, hcert⟩
    · exact .inl rfl
    · exact .inr ⟨⟨resp, basicResp, der, more, h.outer, h.basic, hcerts, hcert⟩, hdelegate⟩
  · exact matches_identifies h.responderID hmatch
  · simpa using h.noncritical
  · exact checkFreshness_ok hnow h.fresh

def sampleIssuer : Certificate :=
  ⟨[1], 1, [11], [21], [31], [31], .ecdsa true [1], [1], 0, 100 * second, [], []⟩

def sampleDelegate : Certificate :=
  ⟨[2], 2, [12], [22], [32], [31], .ecdsa true [2], [1], 0, 100 * second, [9], []⟩

def sampleBasic : ParseBasicResponse where
  tbsResponseData := ⟨[5], 0, ⟨2, 1, true, [32]⟩, 0,
    [⟨⟨[2, 16, 840, 1, 101, 3, 4, 2, 1], [], [], 7⟩, true, ⟨0, 0⟩, false, 10 * second, 90 * second,
      []⟩], []⟩
  signatureAlgorithm := oidSignatureSM2WithSM3
  signature := ⟨[2], 8⟩
  certificates := [[2]]

/-- Every response decodes to the sample, and a signature is the point of the key. -/
def sampleHost : Host where
  unmarshalResponse _ := .ok (⟨ocspSuccess, idPKIXOCSPBasic, []⟩, [])
  unmarshalBasic _ := .ok (sampleBasic, [])
  unmarshalTBS _ := .ok (sampleBasic.tbsResponseData, [])
  unmarshalOctets der := .ok (der, [])
  unmarshalKeyInfo der := .ok (⟨der, 8 * der.length⟩, [])
  smParse der := if der = sampleDelegate.raw then .ok sampleDelegate
    else .error (.text "x509: malformed certificate")
  stdParse _ := .error (.text "x509: malformed certificate")
  verifyWithSM2 pub _ _ sig := pub = .ecdsa true sig
  sm3 data := data
  hash _ data := data
  available _ := true
  parseResponse _ _ := .error (.text "ocsp: unsupported algorithm")

lemma sampleHost_lawful : sampleHost.Lawful where
  rawContent := by
    intro der basicResp rest h
    cases h
    rfl

def sampleResponse : Response :=
  ⟨[], [5], [2], [], [], 7, ocspGood, 0, 10 * second, 90 * second, 0, 0, some (.name [32]),
    some sampleDelegate, some .sha256⟩

theorem accepted_response_attested_sample :
    ∃ signer tbs single,
      Attested sampleHost [] sampleIssuer (50 * second) sampleResponse signer tbs single :=
  accepted_response_attested sampleHost sampleHost_lawful [] sampleIssuer (50 * second) (by decide)
    (by decide) sampleResponse (by decide)

end Pollux.Ocsp
