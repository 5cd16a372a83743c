import Mathlib.Data.List.Infix
import PolluxGM.Bytes
import PolluxGM.OneFailure

/-!
# Decrypting private keys

`DecryptPEMPrivateKeyDERWithOptions` of `cert.go`: PKCS#8 keys under PBES2, and the legacy envelopes
with a DEK-Info header. Every slice and call that may panic is written as one that can. A primitive
may refuse to work, whatever the password is.
-/
namespace Pollux.KeyDecrypt

open Failure

inductive Err where
  | text (message : String)
  | wrap (context : String) (cause : Err)
  deriving DecidableEq

inductive Fault where
  | err (e : Err)
  | panicked (message : String)
  deriving DecidableEq

def Fault.IsErr : Fault → Prop
  | .err _ => True
  | .panicked _ => False

def fail {α : Type} (message : String) : Except Fault α := .error (.err (.text message))

/-- `fmt.Errorf` with `%w`. A panic passes through. -/
def Fault.wrap (context : String) : Fault → Fault
  | .err e => .err (.wrap context e)
  | .panicked m => .panicked m

def returns {α : Type} (x : Except Err α) : Except Fault α := x.mapError .err

def refuses (refusal : Option Err) : Except Err Unit :=
  match refusal with
  | some e => .error e
  | none => .ok ()

abbrev OID := List Nat

def OID.text (oid : OID) : String := String.intercalate "." (oid.map toString)

/-- `FullBytes` of the parameters. -/
structure AlgorithmIdentifier where
  algorithm : OID
  parameters : Bytes

structure EncryptedPrivateKeyInfo where
  encryptionAlgorithm : AlgorithmIdentifier
  encryptedData : Bytes

structure Pbes2Params where
  kdf : AlgorithmIdentifier
  es : AlgorithmIdentifier

structure Pbkdf2Params where
  salt : Bytes
  iterationCount : Int
  prf : OID

/-- A PEM block; a header that is missing is empty. -/
structure Block where
  type : String
  headers : String → String
  bytes : Bytes

inductive PRF where
  | sha256
  | sha384
  | sha512
  | sm3
  deriving DecidableEq

inductive Kind where
  | aes
  | sm4
  | des
  | tripleDES
  deriving DecidableEq

def Kind.blockSize : Kind → Nat
  | .aes | .sm4 => 16
  | .des | .tripleDES => 8

def Kind.accepts : Kind → Nat → Bool
  | .aes, n => n = 16 ∨ n = 24 ∨ n = 32
  | .sm4, n => n = 16
  | .des, n => n = 8
  | .tripleDES, n => n = 24

def Kind.keySizeError : Kind → Nat → Err
  | .aes, n => .text s!"crypto/aes: invalid key size {n}"
  | .sm4, n => .text s!"sm4: invalid key size {n}"
  | .des, n => .text s!"crypto/des: invalid key size {n}"
  | .tripleDES, n => .text s!"crypto/des: invalid key size {n}"

structure Primitives where
  decodePEM : Bytes → Option Block
  unmarshalInfo : Bytes → Except Err EncryptedPrivateKeyInfo
  unmarshalPBES2 : Bytes → Except Err Pbes2Params
  unmarshalPBKDF2 : Bytes → Except Err Pbkdf2Params
  unmarshalGCMNonce : Bytes → Except Err Bytes
  unmarshalOctets : Bytes → Except Err Bytes
  decodeHex : String → Except Err Bytes
  pbkdf2Refusal : PRF → Bytes → Int → Nat → Option Err
  pbkdf2 : PRF → Bytes → Bytes → Int → Nat → Bytes
  cipherRefusal : Kind → Option Err
  gcmRefusal : Kind → Option Err
  cryptBlocks : Kind → Bytes → Bytes → Bytes → Bytes
  gcmOpen : Kind → Bytes → Bytes → Bytes → Option Bytes
  md5 : Bytes → Bytes
  pbkdf2_length : ∀ f password salt count n, (pbkdf2 f password salt count n).length = n
  md5_length : ∀ b, (md5 b).length = 16

structure Cipher where
  kind : Kind
  key : Bytes

section

variable (P : Primitives)

def pbkdf2Key (f : PRF) (password salt : Bytes) (count : Int) (n : Nat) : Except Err Bytes := do
  refuses (P.pbkdf2Refusal f salt count n)
  return P.pbkdf2 f password salt count n

def newCipher (kind : Kind) (key : Bytes) : Except Err Cipher := do
  refuses (P.cipherRefusal kind)
  reject (kind.accepts key.length = false) (kind.keySizeError key.length)
  return ⟨kind, key⟩

def cbcDecrypt (c : Cipher) (iv ciphertext : Bytes) : Except Fault Bytes := do
  reject (iv.length ≠ c.kind.blockSize)
    (.panicked "cipher.NewCBCDecrypter: IV length must equal block size")
  reject (ciphertext.length % c.kind.blockSize ≠ 0)
    (.panicked "crypto/cipher: input not full blocks")
  return P.cryptBlocks c.kind c.key iv ciphertext

def gcmNonceSize : Nat := 12

def aeadOpen (c : Cipher) (nonce ciphertext : Bytes) : Except Fault (Option Bytes) := do
  reject (nonce.length ≠ gcmNonceSize)
    (.panicked "crypto/cipher: incorrect nonce length given to GCM")
  return P.gcmOpen c.kind c.key nonce ciphertext

def slice (b : Bytes) (low high : Int) : Except Fault Bytes := do
  reject (low < 0 ∨ high < low ∨ (b.length : Int) < high) (.panicked "slice bounds out of range")
  return (b.take high.toNat).drop low.toNat

def index (b : Bytes) (i : Int) : Except Fault UInt8 :=
  if i < 0 then .error (.panicked "index out of range")
    else need (.panicked "index out of range") b[i.toNat]?

def errInvalidPadding : Fault := .err (.text "smx509: invalid PKCS#7 padding")

def errDecryptFailed : Fault := .err (.text "smx509: decryption failed")

def asn1IsSequence (der : Bytes) : Bool := der.head? = some 0x30

/-- The loop looks at every octet of the padding. -/
def paddingValid (padding : Bytes) (padLen : Nat) : Bool :=
  padding.foldl (fun valid b => valid && b = UInt8.ofNat padLen) true

def pkcs7Unpad (data : Bytes) (blockSize : Nat) : Except Fault Bytes := do
  reject (data.length = 0) errInvalidPadding
  let last ← index data (data.length - 1)
  let padLen := last.toNat
  reject (padLen = 0 ∨ blockSize < padLen ∨ data.length < padLen) errInvalidPadding
  let padding ← slice data (data.length - padLen) data.length
  reject (paddingValid padding padLen = false) errInvalidPadding
  slice data 0 (data.length - padLen)

/-- The one error of every failure after key derivation. -/
def collapse : Fault → Fault
  | .err _ => errDecryptFailed
  | .panicked m => .panicked m

/-- The common end of the PBES2 path and the legacy path. -/
def decryptCBC (c : Cipher) (iv ciphertext : Bytes) : Except Fault Bytes := do
  reject (ciphertext.length % c.kind.blockSize ≠ 0) errDecryptFailed
  reject (iv.length ≠ c.kind.blockSize) errDecryptFailed
  let plaintext ← cbcDecrypt P c iv ciphertext
  let unpadded ← (pkcs7Unpad plaintext c.kind.blockSize).mapError collapse
  reject (asn1IsSequence unpadded = false) errDecryptFailed
  return unpadded

def oidPBES2 : OID := [1, 2, 840, 113549, 1, 5, 13]
def oidPBKDF2 : OID := [1, 2, 840, 113549, 1, 5, 12]
def oidHMACWithSHA256 : OID := [1, 2, 840, 113549, 2, 9]
def oidHMACWithSHA384 : OID := [1, 2, 840, 113549, 2, 10]
def oidHMACWithSHA512 : OID := [1, 2, 840, 113549, 2, 11]
def oidHMACWithSM3 : OID := [1, 2, 156, 10197, 1, 401, 2]
def oidAES128CBC : OID := [2, 16, 840, 1, 101, 3, 4, 1, 2]
def oidAES192CBC : OID := [2, 16, 840, 1, 101, 3, 4, 1, 22]
def oidAES256CBC : OID := [2, 16, 840, 1, 101, 3, 4, 1, 42]
def oidAES128GCM : OID := [2, 16, 840, 1, 101, 3, 4, 1, 6]
def oidAES192GCM : OID := [2, 16, 840, 1, 101, 3, 4, 1, 26]
def oidAES256GCM : OID := [2, 16, 840, 1, 101, 3, 4, 1, 46]
def oidSM4CBC : OID := [1, 2, 156, 10197, 1, 104, 2]
def oidSM4GCM : OID := [1, 2, 156, 10197, 1, 104, 8]

def newPRF (oid : OID) : Option PRF :=
  if oid = oidHMACWithSHA256 then some .sha256
  else if oid = oidHMACWithSHA384 then some .sha384
  else if oid = oidHMACWithSHA512 then some .sha512
  else if oid = oidHMACWithSM3 then some .sm3
  else none

def encKeySize (oid : OID) : Nat :=
  if oid = oidAES128CBC ∨ oid = oidAES128GCM ∨ oid = oidSM4CBC ∨ oid = oidSM4GCM then 16
  else if oid = oidAES192CBC ∨ oid = oidAES192GCM then 24
  else if oid = oidAES256CBC ∨ oid = oidAES256GCM then 32
  else 0

def unsupportedScheme {α : Type} (oid : OID) : Except Fault α :=
  let name := oid.text
  fail s!"smx509: unsupported encryption scheme: {name}"

def schemeKind (oid : OID) : Kind := if oid = oidSM4CBC ∨ oid = oidSM4GCM then .sm4 else .aes

/-- The nonce of `gcmParams`, or the parameters as a bare octet string. -/
def gcmNonce (parameters : Bytes) : Except Fault Bytes :=
  match P.unmarshalGCMNonce parameters with
  | .ok (b :: nonce) => .ok (b :: nonce)
  | _ => (returns (P.unmarshalOctets parameters)).mapError (Fault.wrap "smx509: parse GCM nonce: ")

def decryptBlock (es : AlgorithmIdentifier) (key ciphertext : Bytes) : Except Fault Bytes :=
  if encKeySize es.algorithm = 0 then unsupportedScheme es.algorithm
  else do
    let c ← returns (newCipher P (schemeKind es.algorithm) key)
    if es.algorithm = oidAES128CBC ∨ es.algorithm = oidAES192CBC ∨ es.algorithm = oidAES256CBC ∨
        es.algorithm = oidSM4CBC then do
      let iv ← (returns (P.unmarshalOctets es.parameters)).mapError
        (Fault.wrap "smx509: parse IV: ")
      decryptCBC P c iv ciphertext
    else if es.algorithm = oidAES128GCM ∨ es.algorithm = oidAES192GCM ∨
        es.algorithm = oidAES256GCM ∨ es.algorithm = oidSM4GCM then do
      let nonce ← gcmNonce P es.parameters
      returns (refuses (P.gcmRefusal c.kind))
      reject (nonce.length ≠ gcmNonceSize) errDecryptFailed
      let plaintext ← aeadOpen P c nonce ciphertext
      need errDecryptFailed plaintext
    else unsupportedScheme es.algorithm

def decryptPKCS8 (encryptedDER password : Bytes) : Except Fault Bytes := do
  let encInfo ← (returns (P.unmarshalInfo encryptedDER)).mapError
    (Fault.wrap "smx509: parse EncryptedPrivateKeyInfo: ")
  let name := encInfo.encryptionAlgorithm.algorithm.text
  reject (encInfo.encryptionAlgorithm.algorithm ≠ oidPBES2)
    (.err (.text s!"smx509: unsupported encryption algorithm: {name} (PBES2 only)"))
  let params ← (returns (P.unmarshalPBES2 encInfo.encryptionAlgorithm.parameters)).mapError
    (Fault.wrap "smx509: parse PBES2 params: ")
  let name := params.kdf.algorithm.text
  reject (params.kdf.algorithm ≠ oidPBKDF2) (.err (.text s!"smx509: unsupported KDF: {name}"))
  let kdfParams ← (returns (P.unmarshalPBKDF2 params.kdf.parameters)).mapError
    (Fault.wrap "smx509: parse PBKDF2 params: ")
  let count := kdfParams.iterationCount
  reject (count < 10000) (.err (.text s!"PBKDF2 iterations {count} below minimum 10000"))
  reject (10000000 < count) (.err (.text s!"PBKDF2 iterations {count} above maximum 10000000"))
  let name := kdfParams.prf.text
  let prf ← need (.err (.text
    s!"smx509: unsupported PBKDF2 PRF: {name} (allowed: HMAC-SHA256/384/512, HMAC-SM3)"))
    (newPRF kdfParams.prf)
  let keyLen := encKeySize params.es.algorithm
  if keyLen = 0 then unsupportedScheme params.es.algorithm
  else do
    let derivedKey ← (returns (pbkdf2Key P prf password kdfParams.salt count keyLen)).mapError
      (Fault.wrap "smx509: pbkdf2: ")
    decryptBlock P params.es derivedKey encInfo.encryptedData

inductive LegacyCipher where
  | desCBC
  | desEDE3CBC
  | aes128CBC
  | aes192CBC
  | aes256CBC
  deriving DecidableEq

def legacyCipher (name : String) : Option LegacyCipher :=
  if name = "DES-CBC" then some .desCBC
  else if name = "DES-EDE3-CBC" then some .desEDE3CBC
  else if name = "AES-128-CBC" then some .aes128CBC
  else if name = "AES-192-CBC" then some .aes192CBC
  else if name = "AES-256-CBC" then some .aes256CBC
  else none

def LegacyCipher.keyLen : LegacyCipher → Nat
  | .desCBC => 8
  | .desEDE3CBC => 24
  | .aes128CBC => 16
  | .aes192CBC => 24
  | .aes256CBC => 32

def LegacyCipher.kind : LegacyCipher → Kind
  | .desCBC => .des
  | .desEDE3CBC => .tripleDES
  | .aes128CBC | .aes192CBC | .aes256CBC => .aes

def LegacyCipher.isDES : LegacyCipher → Bool
  | .desCBC | .desEDE3CBC => true
  | _ => false

def isSpace (c : Char) : Bool :=
  let n := c.toNat
  (9 ≤ n && n ≤ 13) || (0x2000 ≤ n && n ≤ 0x200a) ||
    [0x20, 0x85, 0xa0, 0x1680, 0x2028, 0x2029, 0x202f, 0x205f, 0x3000].contains n

def trimSpace (cs : List Char) : String :=
  String.ofList ((cs.dropWhile isSpace).reverse.dropWhile isSpace).reverse

/-- `strings.SplitN` at the first comma, when there is one. -/
def splitComma (s : String) : Option (List Char × List Char) :=
  match s.toList.span (· ≠ ',') with
  | (name, _ :: iv) => some (name, iv)
  | (_, []) => none

def evpRounds (password salt : Bytes) (keyLen : Nat) : Nat → Bytes → Bytes → Bytes
  | 0, result, _ => result
  | rounds + 1, result, prev =>
    if result.length < keyLen then
      let next := P.md5 (prev ++ password ++ salt)
      evpRounds password salt keyLen rounds (result ++ next) next
    else result

def evpBytesToKey (password salt : Bytes) (keyLen : Nat) : Except Fault Bytes :=
  slice (evpRounds P password salt keyLen keyLen [] []) 0 keyLen

def errLegacyDESRequiresOptIn : Fault :=
  .err (.text "smx509: legacy DES-CBC/DES-EDE3-CBC PEM cipher requires DecryptOptions.AllowLegacyDESPEM")

def decryptLegacyPEM (block : Block) (password : Bytes) (allowLegacyDES : Bool) :
    Except Fault Bytes := do
  let dekInfo := block.headers "DEK-Info"
  reject (dekInfo = "") (.err (.text "smx509: missing DEK-Info header"))
  let parts ← need (.err (.text s!"smx509: invalid DEK-Info format: {dekInfo}"))
    (splitComma dekInfo)
  let cipherName := trimSpace parts.1
  let iv ← (returns (P.decodeHex (trimSpace parts.2))).mapError
    (Fault.wrap "smx509: parse IV failed: ")
  let cipher ← need (.err (.text s!"unsupported encryption algorithm: {cipherName}"))
    (legacyCipher cipherName)
  reject (allowLegacyDES = false ∧ cipher.isDES = true) errLegacyDESRequiresOptIn
  let given := iv.length
  reject (iv.length < 8) (.err (.text s!"IV too short: need >= 8 bytes, got {given}"))
  let salt ← slice iv 0 8
  let key ← evpBytesToKey P password salt cipher.keyLen
  let c ← returns (newCipher P cipher.kind key)
  decryptCBC P c iv block.bytes

structure DecryptOptions where
  allowLegacyDESPEM : Bool

def pemTypeEncryptedPrivateKey : String := "ENCRYPTED PRIVATE KEY"

def decryptPEMBlock (block : Block) (password : Bytes) (allowLegacyDES : Bool) :
    Except Fault Bytes :=
  if block.type = pemTypeEncryptedPrivateKey then
    (decryptPKCS8 P block.bytes password).mapError
      (Fault.wrap "decrypt PKCS#8 private key failed: ")
  else
    (decryptLegacyPEM P block password allowLegacyDES).mapError
      (Fault.wrap "smx509: decrypt PEM block failed: ")

def isPEMEncrypted (block : Block) : Bool :=
  block.type = pemTypeEncryptedPrivateKey || "ENCRYPTED".toList <:+:
    (block.headers "Proc-Type").toList

def decryptPEMPrivateKeyDERWithOptions (pemData password : Bytes) (opts : DecryptOptions) :
    Except Fault Bytes := do
  let block ← need (.err (.text "smx509: failed to decode PEM data")) (P.decodePEM pemData)
  if isPEMEncrypted block = false then return block.bytes
  else decryptPEMBlock P block password opts.allowLegacyDESPEM

end

lemma sound_fail {α : Type} (message : String) :
    Sound Fault.IsErr (fail message : Except Fault α) := Sound.error trivial

lemma sound_returns {α : Type} (x : Except Err α) : Sound Fault.IsErr (returns x) := by
  cases x with
  | error e => exact Sound.error trivial
  | ok a => exact Sound.ok a

lemma wrap_isErr (context : String) (e : Fault) (h : e.IsErr) : (e.wrap context).IsErr := by
  cases e with
  | err => trivial
  | panicked => exact h

lemma sound_wrapped {α : Type} (context : String) (x : Except Err α) :
    Sound Fault.IsErr ((returns x).mapError (Fault.wrap context)) :=
  (sound_returns x).mapError (wrap_isErr context)

section

variable {kind : Fault → Prop} {e : Fault}

lemma sound_reject {bad : Prop} [Decidable bad] (h : kind e) : Sound kind (reject bad e) := by
  intro e' he
  rw [((reject_error _ _ _).mp he).2.symm]
  exact h

lemma sound_need {α : Type} (h : kind e) (o : Option α) : Sound kind (need e o) := by
  cases o with
  | none => exact Sound.error h
  | some a => exact Sound.ok a

end

lemma slice_ok (hlow : 0 ≤ low) (hle : low ≤ high) (hhigh : high ≤ b.length) :
    slice b low high = .ok ((b.take high.toNat).drop low.toNat) := by
  unfold slice
  rw [reject_neg (by omega)]
  rfl

lemma index_last (h : b.length ≠ 0) : ∃ last, index b (b.length - 1) = .ok last := by
  have hlt : b.length - 1 < b.length := by omega
  refine ⟨b[b.length - 1], ?_⟩
  unfold index
  rw [if_neg (by omega),
    show ((b.length : Int) - 1).toNat = b.length - 1 by omega, List.getElem?_eq_getElem hlt]
  rfl

lemma pkcs7Unpad_sound (data : Bytes) (blockSize : Nat) :
    Sound Fault.IsErr (pkcs7Unpad data blockSize) := by
  unfold pkcs7Unpad
  refine Sound.bind (sound_reject trivial) fun _ hne => ?_
  obtain ⟨last, hlast⟩ := index_last ((reject_ok _ _ _).mp hne)
  rw [hlast, ok_bind]
  refine Sound.bind (sound_reject trivial) fun _ hpad => ?_
  have hle := (reject_ok _ _ _).mp hpad
  rw [slice_ok (by omega) (by omega) (by omega), ok_bind]
  refine Sound.bind (sound_reject trivial) fun _ _ => ?_
  rw [slice_ok (by omega) (by omega) (by omega)]
  exact Sound.ok _

section

variable (P : Primitives)

/-- Every failure with the cipher at hand is the one error. -/
lemma decryptCBC_sound (c : Cipher) (iv ciphertext : Bytes) :
    Sound (· = errDecryptFailed) (decryptCBC P c iv ciphertext) := by
  unfold decryptCBC
  refine Sound.bind (sound_reject rfl) fun _ hfull => ?_
  refine Sound.bind (sound_reject rfl) fun _ hiv => ?_
  have hplain : cbcDecrypt P c iv ciphertext = .ok (P.cryptBlocks c.kind c.key iv ciphertext) := by
    unfold cbcDecrypt
    rw [reject_neg ((reject_ok _ _ _).mp hiv), reject_neg ((reject_ok _ _ _).mp hfull)]
    rfl
  rw [hplain, ok_bind]
  refine ((pkcs7Unpad_sound _ _).mapError ?_).bind fun _ _ => ?_
  · intro e he
    cases e with
    | err => rfl
    | panicked => exact he.elim
  · refine Sound.bind (sound_reject rfl) fun _ _ => ?_
    exact Sound.ok _

lemma newCipher_eq (h : kind.accepts key.length = true) :
    newCipher P kind key = refuses (P.cipherRefusal kind) >>= fun _ => .ok ⟨kind, key⟩ := by
  unfold newCipher
  rw [reject_neg (by rw [h]; decide)]
  rfl

lemma schemeKind_accepts (h : encKeySize oid ≠ 0) :
    (schemeKind oid).accepts (encKeySize oid) = true := by
  by_cases hsm4 : oid = oidSM4CBC ∨ oid = oidSM4GCM
  · rcases hsm4 with rfl | rfl <;> decide
  · rw [schemeKind, if_neg hsm4]
    unfold encKeySize at *
    split
    · rfl
    split
    · rfl
    split
    · rfl
    · rename_i h16 h24 h32
      simp only [if_neg h16, if_neg h24, if_neg h32] at h
      exact absurd rfl h

lemma decryptBlock_one {π : Type} (es : AlgorithmIdentifier) {key : π → Bytes}
    (hkey : ∀ p, (key p).length = encKeySize es.algorithm) (ciphertext : Bytes) :
    OneFailure Fault.IsErr fun p => decryptBlock P es (key p) ciphertext := by
  unfold decryptBlock
  by_cases hsize : encKeySize es.algorithm = 0
  · simp only [if_pos hsize]
    exact .fixed (sound_fail _)
  simp only [if_neg hsize]
  have hcipher : ∀ p, returns (newCipher P (schemeKind es.algorithm) (key p)) =
      returns (refuses (P.cipherRefusal (schemeKind es.algorithm))) >>= fun _ =>
        .ok ⟨schemeKind es.algorithm, key p⟩ := by
    intro p
    rw [newCipher_eq P (by rw [hkey]; exact schemeKind_accepts hsize)]
    cases refuses (P.cipherRefusal (schemeKind es.algorithm)) <;> rfl
  simp only [hcipher]
  refine OneFailure.after (sound_returns _) ?_
  dsimp only
  split
  · refine OneFailure.bind (sound_wrapped _ _) fun iv _ => ?_
    exact .only errDecryptFailed trivial fun p => decryptCBC_sound P _ iv ciphertext
  split
  · refine OneFailure.bind ?_ fun nonce _ => ?_
    · unfold gcmNonce
      split
      · exact Sound.ok _
      · exact sound_wrapped _ _
    refine OneFailure.bind (sound_returns _) fun _ _ => ?_
    refine .only errDecryptFailed trivial fun p => ?_
    refine Sound.bind (sound_reject rfl) fun _ hnonce => ?_
    rw [aeadOpen, reject_neg ((reject_ok _ _ _).mp hnonce)]
    simp only [ok_bind, pure_ok]
    apply sound_need
    rfl
  · exact .fixed (sound_fail _)

lemma decryptPKCS8_one (encryptedDER : Bytes) :
    OneFailure Fault.IsErr fun p => decryptPKCS8 P encryptedDER p := by
  unfold decryptPKCS8
  refine OneFailure.bind (sound_wrapped _ _) fun encInfo _ => ?_
  refine OneFailure.bind (sound_reject trivial) fun _ _ => ?_
  refine OneFailure.bind (sound_wrapped _ _) fun params _ => ?_
  refine OneFailure.bind (sound_reject trivial) fun _ _ => ?_
  refine OneFailure.bind (sound_wrapped _ _) fun kdfParams _ => ?_
  refine OneFailure.bind (sound_reject trivial) fun _ _ => ?_
  refine OneFailure.bind (sound_reject trivial) fun _ _ => ?_
  refine OneFailure.bind (sound_need trivial _) fun prf _ => ?_
  dsimp only
  split
  · exact .fixed (sound_fail _)
  · have hkdf : ∀ p, (returns
      (pbkdf2Key P prf p kdfParams.salt kdfParams.iterationCount
          (encKeySize params.es.algorithm))).mapError (Fault.wrap "smx509: pbkdf2: ") =
        (returns (refuses
          (P.pbkdf2Refusal prf kdfParams.salt kdfParams.iterationCount
            (encKeySize params.es.algorithm)))).mapError
          (Fault.wrap "smx509: pbkdf2: ") >>= fun _ =>
          .ok (P.pbkdf2 prf p kdfParams.salt kdfParams.iterationCount
            (encKeySize params.es.algorithm)) := by
      intro p
      unfold pbkdf2Key
      cases refuses (P.pbkdf2Refusal prf kdfParams.salt kdfParams.iterationCount
        (encKeySize params.es.algorithm)) <;> rfl
    simp only [hkdf]
    refine OneFailure.after (sound_wrapped _ _) ?_
    exact decryptBlock_one P params.es (fun p => P.pbkdf2_length _ _ _ _ _) encInfo.encryptedData

lemma evpRounds_length (password salt : Bytes) (keyLen rounds : Nat) (result prev : Bytes)
    (h : keyLen ≤ result.length + rounds) :
    keyLen ≤ (evpRounds P password salt keyLen rounds result prev).length := by
  induction rounds generalizing result prev with
  | zero => exact h
  | succ rounds ih =>
    rw [evpRounds]
    split
    · apply ih
      rw [List.length_append, P.md5_length]
      omega
    · rename_i hdone
      exact Nat.not_lt.mp hdone

lemma evpBytesToKey_ok (password salt : Bytes) (keyLen : Nat) :
    ∃ key, evpBytesToKey P password salt keyLen = .ok key ∧ key.length = keyLen := by
  have hlen := evpRounds_length P password salt keyLen keyLen [] [] (by simp)
  refine ⟨_, slice_ok (Int.le_refl 0) (Int.natCast_nonneg _) (by exact_mod_cast hlen), ?_⟩
  simp only [Int.toNat_natCast, Int.toNat_zero, List.drop_zero, List.length_take]
  omega

lemma decryptLegacyPEM_one (block : Block) (allowLegacyDES : Bool) :
    OneFailure Fault.IsErr fun p => decryptLegacyPEM P block p allowLegacyDES := by
  unfold decryptLegacyPEM
  refine OneFailure.bind (sound_reject trivial) fun _ _ => ?_
  refine OneFailure.bind (sound_need trivial _) fun parts _ => ?_
  refine OneFailure.bind (sound_wrapped _ _) fun iv _ => ?_
  refine OneFailure.bind (sound_need trivial _) fun cipher _ => ?_
  refine OneFailure.bind (sound_reject trivial) fun _ _ => ?_
  refine OneFailure.bind (sound_reject trivial) fun _ hiv => ?_
  have hlong := (reject_ok _ _ _).mp hiv
  rw [slice_ok (by omega) (by omega) (by omega)]
  simp only [ok_bind]
  choose key hkey hlen using fun p =>
    evpBytesToKey_ok P p ((iv.take (8 : Int).toNat).drop (0 : Int).toNat) cipher.keyLen
  have hcipher : ∀ p, (evpBytesToKey P p ((iv.take (8 : Int).toNat).drop (0 : Int).toNat)
    cipher.keyLen >>= fun key =>
        returns (newCipher P cipher.kind key)) =
      returns (refuses (P.cipherRefusal cipher.kind)) >>= fun _ => .ok ⟨cipher.kind, key p⟩ := by
    intro p
    rw [hkey, ok_bind, newCipher_eq P (by rw [hlen]; cases cipher <;> rfl)]
    cases refuses (P.cipherRefusal cipher.kind) <;> rfl
  simp only [← bind_assoc, hcipher]
  refine OneFailure.after (sound_returns _) ?_
  exact .only errDecryptFailed trivial fun p => decryptCBC_sound P _ iv block.bytes

lemma decrypt_one (pemData : Bytes) (opts : DecryptOptions) :
    OneFailure Fault.IsErr fun p => decryptPEMPrivateKeyDERWithOptions P pemData p opts := by
  unfold decryptPEMPrivateKeyDERWithOptions
  refine OneFailure.bind (sound_need trivial _) fun block _ => ?_
  split
  · exact .fixed (Sound.ok _)
  · unfold decryptPEMBlock
    split
    · exact (decryptPKCS8_one P block.bytes).mapError (wrap_isErr _)
    · exact (decryptLegacyPEM_one P block opts.allowLegacyDESPEM).mapError (wrap_isErr _)

/-- Two passwords that both fail get the same error, and no password makes it panic. -/
theorem no_decryption_oracle (pemData : Bytes) (opts : DecryptOptions) :
    (∀ password password' fault fault', decryptPEMPrivateKeyDERWithOptions P pemData password opts =
      .error fault →
      decryptPEMPrivateKeyDERWithOptions P pemData password' opts = .error fault' → fault = fault')
        ∧
    ∀ password message, decryptPEMPrivateKeyDERWithOptions P pemData password opts ≠ .error
      (.panicked message) := by
  have hone := decrypt_one P pemData opts
  refine ⟨hone.same, ?_⟩
  intro password message h
  exact hone.sound password (.panicked message) h

end

def toyPrimitives : Primitives where
  decodePEM pemData := some ⟨pemTypeEncryptedPrivateKey, fun _ => "", pemData⟩
  unmarshalInfo der := .ok ⟨⟨oidPBES2, []⟩, der⟩
  unmarshalPBES2 _ := .ok ⟨⟨oidPBKDF2, []⟩, ⟨oidAES128CBC, []⟩⟩
  unmarshalPBKDF2 _ := .ok ⟨[], 10000, oidHMACWithSM3⟩
  unmarshalGCMNonce _ := .ok []
  unmarshalOctets _ := .ok (zeros 16)
  decodeHex _ := .ok []
  pbkdf2Refusal _ _ _ _ := none
  pbkdf2 _ password _ _ n := (password ++ zeros n).take n
  cipherRefusal _ := none
  gcmRefusal _ := none
  cryptBlocks _ key _ ciphertext := ciphertext.map fun b => b ^^^ key.headD 0
  gcmOpen _ _ _ _ := none
  md5 _ := zeros 16
  pbkdf2_length := by
    intro f password salt count n
    simp
  md5_length := by
    intro b
    simp

def toyFile : Bytes := [0x30, 0] ++ List.replicate 14 14

/-- The first fails at the padding, the second at the check of the sequence. -/
theorem no_decryption_oracle_toy :
    decryptPEMPrivateKeyDERWithOptions toyPrimitives toyFile [0] ⟨false⟩ = .ok [0x30, 0] ∧
    ∃ fault fault', decryptPEMPrivateKeyDERWithOptions toyPrimitives toyFile [1] ⟨false⟩ =
      .error fault ∧
      decryptPEMPrivateKeyDERWithOptions toyPrimitives toyFile [2] ⟨false⟩ = .error fault' ∧
        fault = fault' := by
  refine ⟨by decide +kernel, errDecryptFailed.wrap "decrypt PKCS#8 private key failed: ",
    errDecryptFailed.wrap "decrypt PKCS#8 private key failed: ",
      by decide +kernel, by decide +kernel, ?_⟩
  exact (no_decryption_oracle toyPrimitives toyFile ⟨false⟩).1 [1] [2] _ _ (by decide +kernel)
    (by decide +kernel)

end Pollux.KeyDecrypt
