import PolluxGM.Ocsp
import Mathlib.Tactic.DeriveEncodable
import Mathlib.Logic.Equiv.List

/-!
# Creating OCSP responses

`NewOCSPResponseTemplate` and `CreateOCSPResponse` of `ocsp.go` with
`createSM2OCSPResponse` of `ocsp_sm2.go`, and what the parser makes of the responses.
-/
namespace Pollux.Ocsp

open Smx509

instance encodableByte : Encodable UInt8 :=
  Encodable.ofLeftInverse UInt8.toNat UInt8.ofNat fun _ => UInt8.ofNat_toNat

deriving instance Encodable for RawValue, Extension, BitString, CertID, ResponseASN1

/-- The revocation information is a raw value, left out for another status. -/
structure SingleResponse where
  certID : CertID
  good : Bool
  revoked : Option RawValue
  unknown : Bool
  thisUpdate : Int
  nextUpdate : Int
  singleExtensions : List Extension
  deriving Encodable

structure ResponseData where
  version : Int
  rawResponderID : RawValue
  producedAt : Int
  responses : List SingleResponse
  deriving Encodable

structure BasicResponse where
  tbsResponseData : ResponseData
  signatureAlgorithm : OID
  signature : BitString
  certificates : List Bytes
  deriving Encodable

/-- A key that signs. Only an SM2 key is signed with here. -/
inductive Signer where
  | sm2 (key : Bytes)
  | other (key : Bytes)

structure Maker extends Host where
  marshalResponse : ResponseASN1 → Except Err Bytes
  marshalBasic : BasicResponse → Except Err Bytes
  marshalTBS : ResponseData → Except Err Bytes
  marshalRevokedInfo : RevokedInfo → Except Err Bytes
  marshalRevocationTime : Int → Except Err Bytes
  unmarshalRaw : Bytes → Except Err (RawValue × Bytes)
  unmarshalRevokedInfo : RawValue → RevokedInfo
  sign : (key data : Bytes) → Except Err Bytes
  publicOf : Bytes → PublicKey
  createResponse : Certificate → Certificate → Response → Bytes → Except Err Bytes
  clock : Int

variable (M : Maker)

def newOCSPResponseTemplate (cert issuer : Option Certificate)
    (status thisUpdate nextUpdate : Int) : Except Err Response := do
  let cert ← need (.text "smx509: certificate is required for OCSP response template") cert
  return {
    raw := []
    tbsResponseData := []
    signature := []
    extensions := []
    extraExtensions := []
    serialNumber := cert.serialNumber
    status := status
    producedAt := 0
    thisUpdate := thisUpdate
    nextUpdate := nextUpdate
    revokedAt := 0
    revocationReason := 0
    responder := none
    certificate := issuer
    issuerHash := none }

def oidFromHashAlgorithm : Hash → Option OID
  | .sha1 => some [1, 3, 14, 3, 2, 26]
  | .sha256 => some [2, 16, 840, 1, 101, 3, 4, 2, 1]
  | .sha384 => some [2, 16, 840, 1, 101, 3, 4, 2, 2]
  | .sha512 => some [2, 16, 840, 1, 101, 3, 4, 2, 3]
  | .other _ => none

/-- A reason of 0 is left out of the encoding. -/
def marshalRevokedInfoRaw (revokedAt reason : Int) : Except Err RawValue := do
  let der ← if reason ≠ 0 then M.marshalRevokedInfo ⟨revokedAt, reason⟩
    else M.marshalRevocationTime revokedAt
  let (outer, _) ← M.unmarshalRaw der
  return ⟨classContextSpecific, 1, true, outer.bytes⟩

def withStatus (template : Response) (inner : SingleResponse) : Except Err SingleResponse :=
  if template.status = ocspGood then .ok { inner with good := true }
  else if template.status = ocspUnknown then .ok { inner with unknown := true }
  else if template.status = ocspRevoked then do
    let revoked ← marshalRevokedInfoRaw M template.revokedAt template.revocationReason
    return { inner with revoked := some revoked }
  else .error (.text s!"smx509: unknown OCSP status {template.status}")

def minute : Int := 60 * second

def createSM2OCSPResponse (issuer responderCert : Option Certificate) (template : Response)
    (priv : Bytes) :
    Except Err Bytes := do
  let issuer ← need (.text "smx509: issuer certificate must not be nil") issuer
  let responderCert ← need (.text "smx509: responder certificate must not be nil") responderCert
  let publicKeyInfo ← (M.unmarshalKeyInfo issuer.rawSubjectPublicKeyInfo).mapError
    (.wrap "smx509: parse issuer SubjectPublicKeyInfo: ")
  let issuerHash := template.issuerHash.getD .sha256
  reject (M.available issuerHash = false)
    (.text "smx509: issuer hash algorithm not linked into binary")
  let hashOID ← need (.text "smx509: unsupported issuer hash algorithm")
    (oidFromHashAlgorithm issuerHash)
  let innerResponse ← withStatus M template {
    certID := ⟨hashOID, M.hash issuerHash issuer.rawSubject,
      M.hash issuerHash publicKeyInfo.1.rightAlign, template.serialNumber⟩
    good := false
    revoked := none
    unknown := false
    thisUpdate := template.thisUpdate
    nextUpdate := template.nextUpdate
    singleExtensions := template.extraExtensions }
  let tbsResponseData : ResponseData :=
    ⟨0, ⟨classContextSpecific, 1, true, responderCert.rawSubject⟩, M.clock - M.clock % minute,
      [innerResponse]⟩
  let tbsResponseDataDER ← (M.marshalTBS tbsResponseData).mapError
    (.wrap "smx509: marshal tbsResponseData: ")
  let signature ← M.sign priv tbsResponseDataDER
  let responseDER ← (M.marshalBasic ⟨tbsResponseData, oidSignatureSM2WithSM3,
    ⟨signature, 8 * signature.length⟩,
    template.certificate.toList.map Certificate.raw⟩).mapError
      (.wrap "smx509: marshal basic OCSP response: ")
  (M.marshalResponse ⟨ocspSuccess, idPKIXOCSPBasic, responseDER⟩).mapError
    (.wrap "smx509: marshal OCSP response: ")

def createOCSPResponse (issuer responderCert : Option Certificate) (template : Option Response)
    (signer : Signer) :
    Except Err Bytes := do
  let issuer ← need (.text "smx509: issuer certificate is required to compute the OCSP CertID")
    issuer
  let responderCert ← need
    (.text "smx509: responder certificate is required to sign the OCSP response") responderCert
  let template ← need (.text "smx509: OCSP response template is required") template
  match signer with
  | .sm2 key => createSM2OCSPResponse M (some issuer) (some responderCert) template key
  | .other key => M.createResponse issuer responderCert template key

/-- How the parser's structures hold an encoded response. -/
def SingleResponse.read (x : SingleResponse) : ParseSingleResponse :=
  ⟨x.certID, x.good, (x.revoked.map M.unmarshalRevokedInfo).getD ⟨0, 0⟩, x.unknown, x.thisUpdate,
    x.nextUpdate, x.singleExtensions⟩

def BasicResponse.read (M : Maker) (tbs : Bytes) (x : BasicResponse) : ParseBasicResponse where
  tbsResponseData := ⟨tbs, x.tbsResponseData.version, x.tbsResponseData.rawResponderID,
    x.tbsResponseData.producedAt, x.tbsResponseData.responses.map (SingleResponse.read M), []⟩
  signatureAlgorithm := x.signatureAlgorithm
  signature := x.signature
  certificates := x.certificates

def day : Int := 24 * 60 * minute

/-- In whole seconds, and in the years 0 to 9999. -/
def Dated (t : Int) : Prop := t % second = 0 ∧ -366 * day ≤ t ∧ t < 3652059 * day

def oidSHA256 : OID := [2, 16, 840, 1, 101, 3, 4, 2, 1]

/-- Decoding undoes encoding of what is made here. A signature verifies under the key that made it
and no other. -/
structure Maker.Lawful : Prop where
  response : ∀ basicDER, ∃ der, M.marshalResponse ⟨ocspSuccess, idPKIXOCSPBasic, basicDER⟩ =
    .ok der ∧ M.unmarshalResponse der = .ok (⟨ocspSuccess, idPKIXOCSPBasic, basicDER⟩, [])
  tbs : ∀ name producedAt (single : SingleResponse), single.certID.hashAlgorithm = oidSHA256 →
    single.singleExtensions = [] → Dated producedAt → Dated single.thisUpdate →
      Dated single.nextUpdate →
    ∃ der, M.marshalTBS ⟨0, ⟨classContextSpecific, 1, true, name⟩, producedAt, [single]⟩ = .ok der
  basic : ∀ x tbs signature cert, M.marshalTBS x = .ok tbs →
    parseCertificate M.smParse M.stdParse cert.raw = .ok cert →
    let made : BasicResponse :=
      ⟨x, oidSignatureSM2WithSM3, ⟨signature, 8 * signature.length⟩, [cert.raw]⟩
    ∃ der, M.marshalBasic made = .ok der ∧ M.unmarshalBasic der = .ok (made.read M tbs, [])
  revocation : ∃ der outer, M.marshalRevocationTime 0 = .ok der ∧ M.unmarshalRaw der = .ok outer
  sign : ∀ key data, ∃ signature, M.sign key data = .ok signature ∧
    ∀ pub, M.verifyWithSM2 pub defaultSM2UID data signature = true ↔ pub = M.publicOf key
  sha256 : M.available .sha256 = true
  clock : 0 ≤ M.clock ∧ M.clock < 3652059 * day

/-- A question about a certificate of an SM2 authority, and who may answer: the authority, or a
delegate with a valid certificate. -/
structure Occasion where
  issuer : Certificate
  responder : Certificate
  cert : Certificate
  key : Bytes
  status : Int
  thisUpdate : Int
  nextUpdate : Int
  now : Int
  issuer_parsed : parseCertificate M.smParse M.stdParse issuer.raw = .ok issuer
  issuer_sm2 : isSM2PublicKey issuer.publicKey = true
  issuer_key : ∃ info, M.unmarshalKeyInfo issuer.rawSubjectPublicKeyInfo = .ok info
  issuer_valid : issuer.notBefore ≤ now ∧ now ≤ issuer.notAfter
  entitled : responder = issuer ∨
    SignedBy M.toHost issuer responder.rawTBSCertificate responder.signature ∧
      hasOCSPSigningEKU responder = true ∧ responder.notBefore ≤ now ∧ now ≤ responder.notAfter
  responder_key : responder.publicKey = M.publicOf key
  known : status = ocspGood ∨ status = ocspRevoked ∨ status = ocspUnknown
  dated : Dated thisUpdate ∧ Dated nextUpdate
  current : thisUpdate ≤ now ∧ now ≤ nextUpdate

variable {now producedAt : Int} {der tbs signature : Bytes} {single : ParseSingleResponse}

namespace Occasion

variable {M : Maker}

variable (o : Occasion M)

def Answered : Prop :=
  ∃ template der r,
    newOCSPResponseTemplate (some o.cert) (some o.issuer) o.status o.thisUpdate o.nextUpdate =
      .ok template ∧
    createOCSPResponse M (some o.issuer) (some o.responder) (some template) (.sm2 o.key) = .ok der ∧
    parseOCSPResponseWithIssuerAt M.toHost der (some o.issuer) o.now = .ok r ∧
    r.serialNumber = o.cert.serialNumber ∧ r.status = o.status ∧
    r.thisUpdate = o.thisUpdate ∧ r.nextUpdate = o.nextUpdate

/-- A self-signed issuer answers with its own key and name. The last clause is about dates before
the year 1, where a next update can be Go's zero time and then counts as absent. -/
structure Direct : Prop where
  root : SignedBy M.toHost o.issuer o.issuer.rawTBSCertificate o.issuer.signature
  key : o.responder.publicKey = o.issuer.publicKey
  name : o.responder.rawSubject = o.issuer.rawSubject
  dated : o.nextUpdate = 0 → o.now = 0 ∨ o.now - o.thisUpdate ≤ maxOCSPNoNextUpdateAge

def template : Response :=
  ⟨[], [], [], [], [], o.cert.serialNumber, o.status, 0, o.thisUpdate, o.nextUpdate, 0, 0, none,
    some o.issuer, none⟩

structure Told (single : ParseSingleResponse) : Prop where
  serial : single.certID.serialNumber = o.cert.serialNumber
  hash : single.certID.hashAlgorithm = oidSHA256
  status : single.statusInfo.1 = o.status
  thisUpdate : single.thisUpdate = o.thisUpdate
  nextUpdate : single.nextUpdate = o.nextUpdate
  extensions : single.singleExtensions = []

lemma withStatus_told (hM : M.Lawful) (o : Occasion M) (nameHash keyHash : Bytes) :
    ∃ inner, withStatus M o.template
      ⟨⟨oidSHA256, nameHash, keyHash, o.cert.serialNumber⟩, false, none, false,
        o.thisUpdate, o.nextUpdate, []⟩ = .ok inner ∧
      o.Told (inner.read M) ∧ Dated inner.thisUpdate ∧ Dated inner.nextUpdate := by
  have hstatus : o.template.status = o.status := rfl
  generalize hblank : (⟨⟨oidSHA256, nameHash, keyHash, o.cert.serialNumber⟩, false, none, false,
    o.thisUpdate, o.nextUpdate, []⟩ : SingleResponse) = blank
  rcases o.known with hgood | hrevoked | hunknown
  · have hinner : withStatus M o.template blank = .ok { blank with good := true } := by
      rw [withStatus, hstatus, hgood, if_pos rfl]
    refine ⟨_, hinner, ?_, ?_⟩ <;> subst hblank
    · constructor <;> first | rfl | exact hgood.symm
    · exact o.dated
  · obtain ⟨der, outer, hder, houter⟩ := hM.revocation
    have hraw : marshalRevokedInfoRaw M o.template.revokedAt o.template.revocationReason =
        .ok ⟨classContextSpecific, 1, true, outer.1.bytes⟩ := by
      simp [marshalRevokedInfoRaw, template, hder, houter]
    have hinner : withStatus M o.template blank =
        .ok { blank with revoked := some ⟨classContextSpecific, 1, true, outer.1.bytes⟩ } := by
      rw [withStatus, hstatus, hrevoked, if_neg (by decide), if_neg (by decide), if_pos rfl, hraw]
      rfl
    refine ⟨_, hinner, ?_, ?_⟩ <;> subst hblank
    · constructor <;> first | rfl | exact hrevoked.symm
    · exact o.dated
  · have hinner : withStatus M o.template blank = .ok { blank with unknown := true } := by
      rw [withStatus, hstatus, hunknown, if_neg (by decide), if_pos rfl]
    refine ⟨_, hinner, ?_, ?_⟩ <;> subst hblank
    · constructor <;> first | rfl | exact hunknown.symm
    · exact o.dated

lemma rightAlign_whole (signature : Bytes) :
    BitString.rightAlign ⟨signature, 8 * signature.length⟩ = signature := by
  simp [BitString.rightAlign]

/-- The response that is made. It embeds the certificate of the issuer, whoever signs. -/
def answer (tbs : Bytes) (producedAt : Int) (single : ParseSingleResponse) (signature : Bytes) :
    ParseBasicResponse where
  tbsResponseData := ⟨tbs, 0, ⟨classContextSpecific, 1, true, o.responder.rawSubject⟩, producedAt,
    [single], []⟩
  signatureAlgorithm := oidSignatureSM2WithSM3
  signature := ⟨signature, 8 * signature.length⟩
  certificates := [o.issuer.raw]

lemma created (hM : M.Lawful) (o : Occasion M) :
    ∃ der basicDER tbs producedAt single signature,
      createOCSPResponse M (some o.issuer) (some o.responder) (some o.template) (.sm2 o.key) =
        .ok der ∧
      M.unmarshalResponse der = .ok (⟨ocspSuccess, idPKIXOCSPBasic, basicDER⟩, []) ∧
      M.unmarshalBasic basicDER = .ok (o.answer tbs producedAt single signature, []) ∧
      o.Told single ∧
      ∀ pub, M.verifyWithSM2 pub defaultSM2UID tbs signature = true ↔
        pub = o.responder.publicKey := by
  obtain ⟨info, hinfo⟩ := o.issuer_key
  obtain ⟨inner, hinner, htold, hdated⟩ :=
    withStatus_told hM o (M.hash .sha256 o.issuer.rawSubject) (M.hash .sha256 info.1.rightAlign)
  have hproduced : Dated (M.clock - M.clock % minute) := by
    have hclock := hM.clock
    simp only [Dated, day, minute, second] at hclock ⊢
    omega
  obtain ⟨tbs, htbs⟩ := hM.tbs o.responder.rawSubject _ inner htold.hash htold.extensions hproduced
    hdated.1 hdated.2
  obtain ⟨signature, hsign, hverify⟩ := hM.sign o.key tbs
  obtain ⟨basicDER, hbasic, hread⟩ := hM.basic _ tbs signature o.issuer htbs o.issuer_parsed
  obtain ⟨der, hder, hresponse⟩ := hM.response basicDER
  refine ⟨der, basicDER, tbs, _, inner.read M, signature, ?_, hresponse, hread, htold, ?_⟩
  · simp only [template, oidSHA256] at hinner
    simp [createOCSPResponse, createSM2OCSPResponse, template, hinfo, oidFromHashAlgorithm,
      hM.sha256, hinner, htbs, hsign, hbasic, hder]
  · rw [o.responder_key]
    exact hverify

lemma checkEmbedded_issuer {issuer : Certificate} {basicResp : ParseBasicResponse}
    {matchesResponder : Certificate → Bool}
    (hparse : parseCertificate H.smParse H.stdParse der = .ok issuer)
    (hsm2 : isSM2PublicKey issuer.publicKey = true)
    (hvalid : issuer.notBefore ≤ now ∧ now ≤ issuer.notAfter) :
    (∃ cert, checkEmbedded H (some issuer) now basicResp matchesResponder der = .ok cert) ↔
      SignedBy H issuer basicResp.tbsResponseData.raw basicResp.signature.rightAlign ∧
        matchesResponder issuer = true ∧
        SignedBy H issuer issuer.rawTBSCertificate issuer.signature := by
  have hkey : issuer.publicKey ≠ .other ∧ sameKey issuer.publicKey issuer.publicKey = true := by
    cases hpub : issuer.publicKey <;> rw [hpub] at hsm2 <;> simp_all [isSM2PublicKey, sameKey]
  simp only [checkEmbedded, hparse, ok_bind, bind_ok, reject_ok, mapError_ok, pure_inj,
    verifyAgainst, checkIssued, checkSignature_ok, Option.any_some, hkey.2]
  constructor
  · rintro ⟨cert, _, _, _, hsigned, _, hmatch, _, hissued, _⟩
    exact ⟨hsigned.2, by simpa using hmatch, hissued.2⟩
  · rintro ⟨hsigned, hmatch, hissued⟩
    have hbegun : ¬ (now ≠ 0 ∧ now + ocspFreshnessLeeway < issuer.notBefore) := by
      simp only [ocspFreshnessLeeway, second]
      omega
    exact ⟨issuer, (), by
      simp, (), ⟨hkey.1, hsigned⟩,
        (), by simp [hmatch], (), ⟨hkey.1, hissued⟩, (), hbegun, (), by omega, rfl⟩

lemma checkFreshness_current {thisUpdate nextUpdate : Int}
    (hcurrent : thisUpdate ≤ now ∧ now ≤ nextUpdate) :
    checkFreshness now thisUpdate nextUpdate = .ok () ↔
      (nextUpdate = 0 → now = 0 ∨ now - thisUpdate ≤ maxOCSPNoNextUpdateAge) := by
  simp only [checkFreshness, bind_ok, reject_ok]
  simp only [ocspFreshnessLeeway, maxOCSPNoNextUpdateAge, durationSince, second]
  constructor
  · rintro ⟨_, _, _, _, hage⟩
    omega
  · intro hage
    exact ⟨(), by omega, (), by omega, by omega⟩

lemma answer_embedded
    (hverify : ∀ pub, M.verifyWithSM2 pub defaultSM2UID tbs signature = true ↔
      pub = o.responder.publicKey) :
    (∃ cert, checkEmbedded M.toHost (some o.issuer) o.now (o.answer tbs producedAt single signature)
      (matchesResponderID M.toHost single.certID.hashAlgorithm (.name o.responder.rawSubject))
        o.issuer.raw = .ok cert) ↔
    o.responder.publicKey = o.issuer.publicKey ∧ o.responder.rawSubject = o.issuer.rawSubject ∧
      SignedBy M.toHost o.issuer o.issuer.rawTBSCertificate o.issuer.signature := by
  rw [checkEmbedded_issuer o.issuer_parsed o.issuer_sm2 o.issuer_valid, answer, rightAlign_whole,
    SignedBy, hverify,
    matchesResponderID, decide_eq_true_iff, eq_comm, eq_comm (a := o.issuer.rawSubject)]

lemma answer_sm2
    (hresponse : M.unmarshalResponse der = .ok (⟨ocspSuccess, idPKIXOCSPBasic, basicDER⟩, []))
    (hbasic : M.unmarshalBasic basicDER = .ok (o.answer tbs producedAt single signature, [])) :
    parseOCSPResponseWithIssuerAt M.toHost der (some o.issuer) o.now =
      parseSM2OCSPResponse M.toHost der (some o.issuer) o.now := by
  have hsm2 : isSM2OCSPResponse M.toHost der = true := by
    simp [isSM2OCSPResponse, hresponse, hbasic, answer]
  rw [parseOCSPResponseWithIssuerAt, need_some, ok_bind, if_pos hsm2]

lemma direct_of_answered (hM : M.Lawful) (o : Occasion M) (h : o.Answered) : o.Direct := by
  obtain ⟨der, basicDER, tbs, producedAt, single, signature, hcreate, hresponse, hbasic, htold,
    hverify⟩ := o.created hM
  obtain ⟨template, der', r, htemplate, hcreate', hparse, _⟩ := h
  cases htemplate
  cases hcreate.symm.trans hcreate'
  rw [o.answer_sm2 hresponse hbasic, parseSM2OCSPResponse_ok] at hparse
  obtain ⟨resp, basicResp, single', responder, certificate, issuerHash, hparsed, _⟩ := hparse
  cases hresponse.symm.trans hparsed.outer
  cases hbasic.symm.trans hparsed.basic
  cases hparsed.only
  cases hparsed.responderID
  obtain ⟨embedded, hcert, _⟩ := (checkSigner_embedded rfl).mp hparsed.signer
  obtain ⟨hkey, hname, hroot⟩ := (o.answer_embedded hverify).mp ⟨embedded, hcert⟩
  have hfresh := hparsed.fresh
  rw [htold.thisUpdate, htold.nextUpdate] at hfresh
  exact ⟨hroot, hkey, hname, (checkFreshness_current o.current).mp hfresh⟩

lemma answered_of_direct (hM : M.Lawful) (o : Occasion M) (h : o.Direct) : o.Answered := by
  obtain ⟨der, basicDER, tbs, producedAt, single, signature, hcreate, hresponse, hbasic, htold,
    hverify⟩ := o.created hM
  have hembedded := @answer_embedded producedAt tbs signature single M o hverify
  obtain ⟨embedded, hcert⟩ := hembedded.mpr ⟨h.key, h.name, h.root⟩
  have hparsed : Parsed M.toHost der (some o.issuer) o.now ⟨ocspSuccess, idPKIXOCSPBasic, basicDER⟩
      (o.answer tbs producedAt single signature) single (.name o.responder.rawSubject)
        (some embedded) .sha256 := by
    constructor
    · exact hresponse
    · rfl
    · rfl
    · exact hbasic
    · rfl
    · rfl
    · exact (checkSigner_embedded rfl).mpr ⟨embedded, hcert, rfl⟩
    · rw [htold.extensions]
      rfl
    · rw [htold.hash]
      rfl
    · rw [htold.thisUpdate, htold.nextUpdate]
      exact (checkFreshness_current o.current).mpr h.dated
  have hparse := (o.answer_sm2 hresponse hbasic).trans
    (parseSM2OCSPResponse_ok.mpr ⟨_, _, _, _, _, _, hparsed, rfl⟩)
  exact ⟨o.template, der, _, rfl, hcreate, hparse, htold.serial, htold.status, htold.thisUpdate,
    htold.nextUpdate⟩

/-- The response of an entitled responder is accepted, and tells what was asked, exactly when the
issuer is a root that answers for itself. -/
theorem answered_iff_direct (hM : M.Lawful) (o : Occasion M) : o.Answered ↔ o.Direct := by
  constructor
  · exact o.direct_of_answered hM
  · exact o.answered_of_direct hM

end Occasion

def unary {α : Type} [Encodable α] (x : α) : Bytes := zeros (Encodable.encode x)

def readUnary {α : Type} [Encodable α] (der : Bytes) : Except Err (α × Bytes) :=
  match Encodable.decode der.length with
  | some x => .ok (x, [])
  | none => .error (.text "asn1: structure error")

lemma readUnary_unary {α : Type} [Encodable α] (x : α) : readUnary (unary x) = .ok (x, []) := by
  simp [readUnary, unary, Encodable.encodek]

/-- The issuer's key is 1, another authority's 2, a delegate's 3; a signature is the key that made
it. -/
def sampleCert (raw key signature : UInt8) (extKeyUsage : List Int) : Certificate :=
  ⟨[raw], 7, [], [], [key], [], .ecdsa true [key], [signature], 0, 100 * second, extKeyUsage, []⟩

def rootCA : Certificate := sampleCert 1 1 1 []
def intermediateCA : Certificate := sampleCert 2 1 2 []
def delegateCert : Certificate := sampleCert 3 3 1 [extKeyUsageOCSPSigning]

def sampleMaker : Maker where
  unmarshalResponse := readUnary
  unmarshalBasic der := do
    let (x, rest) ← readUnary (α := BasicResponse) der
    return (⟨⟨unary x.tbsResponseData, x.tbsResponseData.version, x.tbsResponseData.rawResponderID,
      x.tbsResponseData.producedAt, x.tbsResponseData.responses.map fun single =>
        ⟨single.certID, single.good,
        (single.revoked.map fun _ => ⟨0, 0⟩).getD ⟨0, 0⟩, single.unknown, single.thisUpdate,
          single.nextUpdate,
        single.singleExtensions⟩, []⟩, x.signatureAlgorithm, x.signature, x.certificates⟩, rest)
  unmarshalTBS _ := .error (.text "asn1: structure error")
  unmarshalOctets der := .ok (der, [])
  unmarshalKeyInfo der := .ok (⟨der, 8 * der.length⟩, [])
  smParse der := need (.text "x509: malformed certificate")
    ([rootCA, intermediateCA, delegateCert].find? (·.raw = der))
  stdParse _ := .error (.text "x509: malformed certificate")
  verifyWithSM2 pub _ _ sig := pub = .ecdsa true sig
  sm3 data := data
  hash _ data := data
  available _ := true
  parseResponse _ _ := .error (.text "ocsp: unsupported algorithm")
  marshalResponse r := .ok (unary r)
  marshalBasic x := .ok (unary x)
  marshalTBS x := .ok (unary x)
  marshalRevokedInfo _ := .ok []
  marshalRevocationTime _ := .ok []
  unmarshalRaw der := .ok (⟨0, 16, true, der⟩, [])
  unmarshalRevokedInfo _ := ⟨0, 0⟩
  sign key _ := .ok key
  publicOf key := .ecdsa true key
  createResponse _ _ _ _ := .error (.text "ocsp: unsupported key")
  clock := 50 * second

lemma sampleMaker_lawful : sampleMaker.Lawful where
  response _ := ⟨_, rfl, readUnary_unary _⟩
  tbs name producedAt single _ _ _ _ _ := ⟨_, rfl⟩
  basic := by
    intro x tbs signature cert htbs _
    cases htbs
    refine ⟨_, rfl, ?_⟩
    simp only [sampleMaker, readUnary_unary, ok_bind, pure_ok]
    rfl
  revocation := ⟨[], _, rfl, rfl⟩
  sign key data := ⟨key, rfl, by simp [sampleMaker]⟩
  sha256 := rfl
  clock := by decide

/-- A question about a certificate, answered with the responder's key. -/
def sampleOccasion (issuer responder : Certificate) (key : Bytes)
    (hissuer : issuer = rootCA ∨ issuer = intermediateCA)
    (hresponder : responder = issuer ∧ key = [1] ∨ responder = delegateCert ∧ key = [3]) :
    Occasion sampleMaker where
  issuer := issuer
  responder := responder
  cert := delegateCert
  key := key
  status := ocspGood
  thisUpdate := 10 * second
  nextUpdate := 90 * second
  now := 50 * second
  issuer_parsed := by rcases hissuer with rfl | rfl <;> decide
  issuer_sm2 := by rcases hissuer with rfl | rfl <;> rfl
  issuer_key := ⟨_, rfl⟩
  issuer_valid := by rcases hissuer with rfl | rfl <;> decide
  entitled := by
    rcases hresponder with ⟨rfl, _⟩ | ⟨rfl, _⟩
    · exact .inl rfl
    · rcases hissuer with rfl | rfl <;>
        exact .inr ⟨by unfold SignedBy; decide, by decide, by decide, by decide⟩
  responder_key := by
    rcases hresponder with ⟨rfl, rfl⟩ | ⟨rfl, rfl⟩
    · rcases hissuer with rfl | rfl <;> rfl
    · rfl
  known := .inl rfl
  dated := by unfold Dated; decide
  current := by decide

theorem answered_iff_direct_root :
    (sampleOccasion rootCA rootCA [1] (.inl rfl) (.inl ⟨rfl, rfl⟩)).Direct ∧
      (sampleOccasion rootCA rootCA [1] (.inl rfl) (.inl ⟨rfl, rfl⟩)).Answered := by
  have hdirect : (sampleOccasion rootCA rootCA [1] (.inl rfl) (.inl ⟨rfl, rfl⟩)).Direct :=
    ⟨by unfold SignedBy; decide, rfl, rfl, fun hnone => absurd hnone (by decide)⟩
  exact ⟨hdirect, (Occasion.answered_iff_direct sampleMaker_lawful _).mpr hdirect⟩

/-- An intermediate authority that answers itself, and the delegate of a root. -/
theorem entitled_responders_unanswered :
    ¬ (sampleOccasion intermediateCA intermediateCA [1] (.inr rfl) (.inl ⟨rfl, rfl⟩)).Answered ∧
      ¬ (sampleOccasion rootCA delegateCert [3] (.inl rfl) (.inr ⟨rfl, rfl⟩)).Answered := by
  constructor
  · intro h
    have hroot := (Occasion.direct_of_answered sampleMaker_lawful _ h).root
    unfold SignedBy at hroot
    revert hroot
    decide
  · intro h
    have hkey := (Occasion.direct_of_answered sampleMaker_lawful _ h).key
    revert hkey
    decide

end Pollux.Ocsp
