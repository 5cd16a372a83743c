import PolluxGM.KeyDecrypt
import PolluxGM.Pem

/-!
# Parsing private keys

`ParsePrivateKeyFromPEM` of `pem.go`, `ParsePrivateKeyPEM` of `privatekey.go`, and
`DecryptPEMPrivateKeyWithOptions` of `cert.go` with the label it chooses. The parsers of the two
backends are primitives.
-/
namespace Pollux.KeyParse

open KeyDecrypt

inductive ECKey (K F : Type) where
  | onSM2 (key : K)
  | foreign (key : F)
  deriving DecidableEq

inductive AnyKey (K F : Type) where
  | sm2 (key : K)
  | ecdsa (key : ECKey K F)
  | other (key : F)
  deriving DecidableEq

structure Backends (K F : Type) where
  gmsmParsePKCS8 : Bytes → Except Err (AnyKey K F)
  gmsmParseEC : Bytes → Except Err (ECKey K F)
  stdParsePKCS8 : Bytes → Except Err (AnyKey K F)
  stdParsePKCS1 : Bytes → Except Err F
  stdParseEC : Bytes → Except Err (ECKey K F)
  fromECPrivateKey : K → Except Err K
  marshalPKCS8 : K → Except Err Bytes
  marshalEC : K → Except Err Bytes
  encodePEM : String → Bytes → Bytes

/-- The errors of the SM2 package; a caller can recognize the first two. -/
inductive Sm2Err where
  | notSM2Key
  | noKeyInPEM
  | text (message : String)
  | library (cause : Err)
  deriving DecidableEq

def Sm2Err.toErr : Sm2Err → Err
  | .notSM2Key => .text "sm2: key is not SM2"
  | .noKeyInPEM => .text "sm2: no key found in PEM data"
  | .text message => .text message
  | .library cause => cause

def pemTypePrivateKey : String := "PRIVATE KEY"

section

variable {K F : Type} (P : Primitives) (B : Backends K F)

def fromEC : ECKey K F → Except Sm2Err K
  | .onSM2 key => (B.fromECPrivateKey key).mapError .library
  | .foreign _ => .error .notSM2Key

def parsePrivateKeyFromPEM (pemData : Bytes) : Except Sm2Err K := do
  let block ← need (.text "sm2: failed to decode PEM block") (P.decodePEM pemData)
  reject (isPEMEncrypted block = true)
    (.text "sm2: PEM key is encrypted; use smx509.DecryptPEMPrivateKey to decrypt first")
  match B.gmsmParsePKCS8 block.bytes with
  | .ok (.sm2 key) => return key
  | .ok (.ecdsa key) => fromEC B key
  | .ok (.other _) => .error .notSM2Key
  | .error _ =>
    match B.stdParseEC block.bytes with
    | .ok key => fromEC B key
    | .error _ => .error .noKeyInPEM

def parseStandard (der : Bytes) : Except Err (AnyKey K F) :=
  match B.stdParsePKCS8 der, B.stdParsePKCS1 der, B.stdParseEC der with
  | .ok key, _, _ => .ok key
  | .error _, .ok key, _ => .ok (.other key)
  | .error _, .error _, .ok key => .ok (.ecdsa key)
  | .error _, .error _, .error _ =>
    .error (.text "smx509: cannot parse private key PEM (not SM2/RSA/ECDSA/Ed25519)")

def parsePrivateKeyPEM (pemData : Bytes) : Except Err (AnyKey K F) := do
  let block ← need (.text "smx509: failed to decode private key PEM") (P.decodePEM pemData)
  reject (isPEMEncrypted block = true)
    (.text "smx509: PEM private key is encrypted; decrypt first with DecryptPEMPrivateKey")
  match parsePrivateKeyFromPEM P B pemData with
  | .ok key => return .sm2 key
  | .error .notSM2Key | .error .noKeyInPEM => parseStandard B block.bytes
  | .error e => .error (.wrap "smx509: SM2 private key parse failed: " e.toErr)

def detectKeyType (der : Bytes) : String :=
  match B.stdParsePKCS1 der, B.gmsmParseEC der with
  | .ok _, _ => "RSA PRIVATE KEY"
  | .error _, .ok _ => "EC PRIVATE KEY"
  | .error _, .error _ => pemTypePrivateKey

def decryptPEMPrivateKeyWithOptions (pemData password : Bytes) (opts : DecryptOptions) :
    Except Fault Bytes := do
  let block ← need (.err (.text "smx509: failed to decode PEM data")) (P.decodePEM pemData)
  if isPEMEncrypted block = false then return pemData
  else do
    let der ← decryptPEMBlock P block password opts.allowLegacyDESPEM
    return B.encodePEM (detectKeyType B der) der

def decryptPEMPrivateKey (pemData password : Bytes) : Except Fault Bytes :=
  decryptPEMPrivateKeyWithOptions P B pemData password ⟨false⟩

def writePrivateKeyToPEM (key : K) : Except Err Bytes := do
  let der ← B.marshalPKCS8 key
  return B.encodePEM "PRIVATE KEY" der

end

inductive Form where
  | pkcs8
  | sec1
  deriving DecidableEq

def Form.marshal {K F : Type} (B : Backends K F) : Form → K → Except Err Bytes
  | .pkcs8 => B.marshalPKCS8
  | .sec1 => B.marshalEC

/-- The labels that blocks are written with. -/
def pemLabels : List String := [pemTypePrivateKey, "EC PRIVATE KEY", "RSA PRIVATE KEY"]

/-- gmsm inverts its marshallers, the standard library parses no SM2 key and no marshalled one, no
PKCS#8 parser takes SEC1, and a marshalled key written as PEM is decoded to its block. -/
structure Backends.Lawful {K F : Type} (P : Primitives) (B : Backends K F) : Prop where
  pkcs8 : ∀ {key der}, B.marshalPKCS8 key = .ok der → B.gmsmParsePKCS8 der = .ok (.sm2 key)
  sec1 : ∀ {key der}, B.marshalEC key = .ok der → B.gmsmParseEC der = .ok (.onSM2 key)
  gmsm_rejects : ∀ {key der}, B.marshalEC key = .ok der → ∃ e, B.gmsmParsePKCS8 der = .error e
  std_rejects : ∀ {key der}, B.marshalEC key = .ok der → ∃ e, B.stdParsePKCS8 der = .error e
  std_curves : ∀ {key der}, B.marshalEC key = .ok der → ∃ e, B.stdParseEC der = .error e
  marshals : ∀ key, (∃ der, B.marshalPKCS8 key = .ok der) ∧ ∃ der, B.marshalEC key = .ok der
  decodes : ∀ {form : Form} {key der type}, form.marshal B key = .ok der → type ∈ pemLabels →
    P.decodePEM (B.encodePEM type der) = some ⟨type, fun _ => "", der⟩

variable {type : String} {der : Bytes}

section

variable {K F : Type} {P : Primitives} {B : Backends K F}

def Form.write (B : Backends K F) : Form → K → Except Err Bytes
  | .pkcs8, key => writePrivateKeyToPEM B key
  | .sec1, key => do
    let der ← B.marshalEC key
    return B.encodePEM "EC PRIVATE KEY" der

lemma not_encrypted (htype : type ∈ pemLabels) (der : Bytes) :
    isPEMEncrypted ⟨type, fun _ => "", der⟩ = false := by
  have hplain : ∀ label ∈ pemLabels, label ≠ pemTypeEncryptedPrivateKey := by decide
  simp [isPEMEncrypted, hplain type htype]

variable (h : B.Lawful P)
include h

lemma sm2_encoded {form : Form} (hder : form.marshal B key = .ok der) (htype : type ∈ pemLabels) :
    parsePrivateKeyFromPEM P B (B.encodePEM type der) =
      match B.gmsmParsePKCS8 der with
      | .ok (.sm2 key) => .ok key
      | .ok (.ecdsa key) => fromEC B key
      | .ok (.other _) => .error .notSM2Key
      | .error _ =>
        match B.stdParseEC der with
        | .ok key => fromEC B key
        | .error _ => .error .noKeyInPEM := by
  rw [parsePrivateKeyFromPEM, h.decodes hder htype, need_some, ok_bind, not_encrypted htype,
    reject_bind (by decide)]
  rfl

lemma parse_encoded {form : Form} (hder : form.marshal B key = .ok der) (htype : type ∈ pemLabels) :
    parsePrivateKeyPEM P B (B.encodePEM type der) =
      match parsePrivateKeyFromPEM P B (B.encodePEM type der) with
      | .ok key => .ok (.sm2 key)
      | .error .notSM2Key | .error .noKeyInPEM => parseStandard B der
      | .error e => .error (.wrap "smx509: SM2 private key parse failed: " e.toErr) := by
  rw [parsePrivateKeyPEM, h.decodes hder htype, need_some, ok_bind, not_encrypted htype,
    reject_bind (by decide)]
  rfl

/-- SEC1 goes to the standard library, here and in the parsers after it. -/
lemma parse_marshalled (form : Form) (htype : type ∈ pemLabels)
    (hder : form.marshal B key = .ok der) :
    parsePrivateKeyPEM P B (B.encodePEM type der) = .ok (.sm2 key) ↔ form = .pkcs8 := by
  rw [parse_encoded h hder htype, sm2_encoded h hder htype]
  cases form with
  | pkcs8 =>
    rw [h.pkcs8 hder]
    exact iff_of_true rfl rfl
  | sec1 =>
    obtain ⟨e₁, hgmsm⟩ := h.gmsm_rejects hder
    obtain ⟨e₂, hpkcs8⟩ := h.std_rejects hder
    obtain ⟨e₃, hec⟩ := h.std_curves hder
    rw [hgmsm, hec]
    dsimp only
    rw [parseStandard, hpkcs8, hec]
    refine iff_of_false ?_ (by decide)
    cases B.stdParsePKCS1 der with
    | ok foreign => exact fun hsame => by cases hsame
    | error e => exact fun hsame => by cases hsame

lemma parse_written (key : K) (form : Form) : ∃ pem, form.write B key = .ok pem ∧
    (parsePrivateKeyPEM P B pem = .ok (.sm2 key) ↔ form = .pkcs8) := by
  obtain ⟨⟨pkcs8, hpkcs8⟩, sec1, hsec1⟩ := h.marshals key
  cases form with
  | pkcs8 =>
    refine ⟨B.encodePEM "PRIVATE KEY" pkcs8, ?_, parse_marshalled h .pkcs8 (by decide) hpkcs8⟩
    rw [Form.write, writePrivateKeyToPEM, hpkcs8, ok_bind]
    rfl
  | sec1 =>
    refine ⟨B.encodePEM "EC PRIVATE KEY" sec1, ?_, parse_marshalled h .sec1 (by decide) hsec1⟩
    rw [Form.write, hsec1, ok_bind]
    rfl

omit h in
lemma detectKeyType_label (der : Bytes) : detectKeyType B der ∈ pemLabels := by
  unfold detectKeyType
  split <;> decide

lemma parse_decrypted {key : K} {form : Form} {pemData password : Bytes} {opts : DecryptOptions}
    {block : Block} (hder : form.marshal B key = .ok der)
    (hblock : P.decodePEM pemData = some block) (hencrypted : isPEMEncrypted block = true)
    (hdecrypt : decryptPEMBlock P block password opts.allowLegacyDESPEM = .ok der) :
    ∃ pem, decryptPEMPrivateKeyWithOptions P B pemData password opts = .ok pem ∧
      (parsePrivateKeyPEM P B pem = .ok (.sm2 key) ↔ form = .pkcs8) := by
  refine ⟨B.encodePEM (detectKeyType B der) der, ?_,
    parse_marshalled h form (detectKeyType_label der) hder⟩
  rw [decryptPEMPrivateKeyWithOptions, hblock, need_some, ok_bind, hencrypted, if_neg (by decide),
    hdecrypt, ok_bind]
  rfl

end

/-- An SM2 key comes back from what the library writes or decrypts exactly in PKCS#8 form. -/
theorem sm2_key_survives_iff {K F : Type} (P : Primitives) (B : Backends K F) (h : B.Lawful P)
    (key : K) (form : Form) :
    (∃ pem, form.write B key = .ok pem ∧
      (parsePrivateKeyPEM P B pem = .ok (.sm2 key) ↔ form = .pkcs8)) ∧
    ∀ der pemData password opts block, form.marshal B key = .ok der →
      P.decodePEM pemData = some block →
      isPEMEncrypted block = true → decryptPEMBlock P block password opts.allowLegacyDESPEM =
        .ok der →
      ∃ pem, decryptPEMPrivateKeyWithOptions P B pemData password opts = .ok pem ∧
        (parsePrivateKeyPEM P B pem = .ok (.sm2 key) ↔ form = .pkcs8) :=
  ⟨parse_written h key form, fun _ _ _ _ _ => parse_decrypted h⟩

/-- A block with one line of base64, as three octets fill it. -/
def sampleEncodePEM (type : String) (der : Bytes) : Bytes :=
  [10].intercalate [Pem.beginLine (Text.ascii type), Base64.encodeRaw der,
    Pem.endLine (Text.ascii type), []]

/-- The type and the contents of the first block. -/
def firstBlock (pem : Bytes) : Option (Bytes × Bytes) :=
  (Pem.decoder.find (pem.splitOn 10)).map fun f => (f.block.type, f.block.bytes)

def samplePrimitives : Primitives :=
  { toyPrimitives with decodePEM := fun pem => (firstBlock pem).map fun block =>
      ⟨String.ofList (block.1.map fun c => Char.ofNat c.toNat), fun _ => "", block.2⟩ }

def sampleBackends : Backends Bool Unit where
  gmsmParsePKCS8 der := if der.head? = some 8 then .ok (.sm2 (der = [8, 0, 1]))
    else .error (.text "asn1: structure error")
  gmsmParseEC der := if der.head? = some 1 then .ok (.onSM2 (der = [1, 0, 1]))
    else .error (.text "asn1: structure error")
  stdParsePKCS8 _ := .error (.text "x509: unknown elliptic curve")
  stdParsePKCS1 _ := .error (.text "asn1: structure error")
  stdParseEC _ := .error (.text "x509: unknown elliptic curve")
  fromECPrivateKey key := .ok key
  marshalPKCS8 key := .ok [8, 0, if key then 1 else 0]
  marshalEC key := .ok [1, 0, if key then 1 else 0]
  encodePEM := sampleEncodePEM

lemma firstBlock_sample : ∀ type ∈ pemLabels, ∀ der ∈ [[8, 0, 0], [8, 0, 1], [1, 0, 0], [1, 0, 1]],
    firstBlock (sampleEncodePEM type der) = some (Text.ascii type, der) ∧
      String.ofList ((Text.ascii type).map fun c => Char.ofNat c.toNat) = type := by
  decide +kernel

lemma sampleBackends_lawful : sampleBackends.Lawful samplePrimitives where
  pkcs8 {key der} h := by cases h; cases key <;> rfl
  sec1 {key der} h := by cases h; cases key <;> rfl
  gmsm_rejects h := by cases h; exact ⟨_, rfl⟩
  std_rejects _ := ⟨_, rfl⟩
  std_curves _ := ⟨_, rfl⟩
  marshals key := ⟨⟨_, rfl⟩, _, rfl⟩
  decodes {form key der type} hder htype := by
    have hlisted : der ∈ [[8, 0, 0], [8, 0, 1], [1, 0, 0], [1, 0, 1]] := by
      cases form <;> cases hder <;> cases key <;> decide
    obtain ⟨hblock, htext⟩ := firstBlock_sample type htype der hlisted
    simp only [samplePrimitives, sampleBackends, hblock, Option.map_some, htext]

theorem sm2_key_survives_iff_sample :
    sampleBackends.Lawful samplePrimitives ∧
      ∃ pem, writePrivateKeyToPEM sampleBackends true = .ok pem ∧
        parsePrivateKeyPEM samplePrimitives sampleBackends pem = .ok (.sm2 true) := by
  obtain ⟨pem, hwrite, hparse⟩ := (sm2_key_survives_iff _ _ sampleBackends_lawful true .pkcs8).1
  exact ⟨sampleBackends_lawful, pem, hwrite, hparse.mpr rfl⟩

/-- The same key in SEC1 form is not parsed. -/
theorem sec1_key_lost :
    ∃ pem, Form.write sampleBackends .sec1 true = .ok pem ∧
      parsePrivateKeyPEM samplePrimitives sampleBackends pem =
        .error (.text "smx509: cannot parse private key PEM (not SM2/RSA/ECDSA/Ed25519)") := by
  refine ⟨sampleEncodePEM "EC PRIVATE KEY" [1, 0, 1], rfl, ?_⟩
  have hder : Form.sec1.marshal sampleBackends true = .ok [1, 0, 1] := rfl
  have hlabel : "EC PRIVATE KEY" ∈ pemLabels := by decide
  exact (parse_encoded sampleBackends_lawful hder hlabel).trans
    (by rw [sm2_encoded sampleBackends_lawful hder hlabel]; rfl)

end Pollux.KeyParse
