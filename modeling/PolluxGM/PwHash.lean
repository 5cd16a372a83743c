import PolluxGM.Base64
import PolluxGM.Password

/-!
# Password hash strings

`argon2id.go`, `pbkdf2_sm3.go` and `params.go` of `pwHash`, and `PBKDF2` of `kdf`. The two
derivations are primitives; `crypto/pbkdf2` may refuse, as it does in FIPS mode.
-/
namespace Pollux.PwHash

open Text Base64 Password

/-- `malformedHash` is `ErrMalformedHash`; the others of that name are it with a detail. -/
inductive Err where
  | text (message : String)
  | wrap (context : String) (cause : Err)
  | malformedHash
  | malformed (detail : String)
  | malformedParam (detail : String) (quoted : Bytes)
  | malformedAs (cause : Err)
  deriving DecidableEq

structure Primitives where
  idKey : (password salt : Bytes) → (time memory : UInt32) → (threads : UInt8) →
    (keyLen : UInt32) → Bytes
  pbkdf2Key : (password salt : Bytes) → (iter keyLength : Int) → Except Err Bytes
  idKey_length : ∀ password salt time memory threads keyLen,
    (idKey password salt time memory threads keyLen).length = keyLen.toNat
  pbkdf2Key_length : ∀ {password salt iter keyLength dk},
    pbkdf2Key password salt iter keyLength = .ok dk → (dk.length : Int) = keyLength

def minSaltLength : Nat := 8
def minKeyLength : Nat := 16
def minArgon2Memory : Nat := 4 * 1024
def maxArgon2Memory : Nat := 1 * 1024 * 1024
def maxArgon2Parallelism : Nat := 64
def maxPBKDF2Iteration : Nat := 10000000
def maxKeyLength : Nat := 1048576
def maxArgon2Iteration : Nat := maxPBKDF2Iteration

structure Argon2idParams where
  memory : UInt32
  iterations : UInt32
  parallelism : UInt8
  saltLength : UInt32
  keyLength : UInt32
  deriving DecidableEq

def Argon2idParams.validate (p : Argon2idParams) : Except Err Unit := do
  reject (p.memory.toNat < minArgon2Memory)
    (.text "pwhash: argon2id memory must be at least 4 MiB (4096 KiB)")
  reject (p.memory.toNat > maxArgon2Memory)
    (.text "pwhash: argon2id memory exceeds safe upper bound (1 GiB)")
  reject (p.iterations.toNat = 0) (.text "pwhash: argon2id iterations must be positive")
  reject (p.iterations.toNat > maxArgon2Iteration)
    (.text "pwhash: argon2id iterations exceed safe upper bound")
  reject (p.parallelism.toNat = 0) (.text "pwhash: argon2id parallelism must be positive")
  reject (p.parallelism.toNat > maxArgon2Parallelism)
    (.text "pwhash: argon2id parallelism exceeds safe upper bound (64)")
  reject (p.saltLength.toNat < minSaltLength)
    (.text "pwhash: argon2id salt length must be at least 8 bytes")
  reject (p.keyLength.toNat < minKeyLength)
    (.text "pwhash: argon2id key length must be at least 16 bytes")
  reject (p.keyLength.toNat > maxKeyLength)
    (.text "pwhash: argon2id key length exceeds safe upper bound (1 MiB)")

def defaultArgon2idParams : Argon2idParams := ⟨64 * 1024, 3, 2, 16, 32⟩

structure PBKDF2Params where
  iterations : Int
  saltLength : Int
  keyLength : Int
  deriving DecidableEq

def PBKDF2Params.validate (p : PBKDF2Params) : Except Err Unit := do
  reject (p.iterations < 1) (.text "pwhash: pbkdf2 iterations must be positive")
  reject (p.iterations > maxPBKDF2Iteration)
    (.text "pwhash: pbkdf2 iterations exceed safe upper bound")
  reject (p.saltLength < minSaltLength)
    (.text "pwhash: pbkdf2 salt length must be at least 8 bytes")
  reject (p.keyLength < minKeyLength) (.text "pwhash: pbkdf2 key length must be at least 16 bytes")
  reject (p.keyLength > maxKeyLength)
    (.text "pwhash: pbkdf2 key length exceeds safe upper bound (1 MiB)")

def defaultPBKDF2SM3Params : PBKDF2Params := ⟨200000, 16, 32⟩

/-- A hasher has parameters that were validated. -/
structure Argon2id where
  params : Argon2idParams
  valid : params.validate = .ok ()

structure PBKDF2SM3 where
  params : PBKDF2Params
  valid : params.validate = .ok ()

def newArgon2id (p : Argon2idParams) : Except Err Argon2id :=
  match h : p.validate with
  | .error e => .error e
  | .ok () => .ok ⟨p, h⟩

def newPBKDF2SM3 (p : PBKDF2Params) : Except Err PBKDF2SM3 :=
  match h : p.validate with
  | .error e => .error e
  | .ok () => .ok ⟨p, h⟩

def argon2idAlgo : Bytes := ascii "argon2id"

def argon2Version : Nat := 19

def encodeArgon2id (p : Argon2idParams) (salt dk : Bytes) : Bytes :=
  ascii "$" ++ argon2idAlgo ++ ascii "$v=" ++ decimal argon2Version ++ ascii "$m=" ++
    decimal p.memory.toNat ++
    ascii ",t=" ++ decimal p.iterations.toNat ++ ascii ",p=" ++ decimal p.parallelism.toNat ++
    ascii "$" ++ encodeRaw salt ++ ascii "$" ++ encodeRaw dk

structure ParamBlock where
  params : Argon2idParams
  gotM : Bool
  gotT : Bool
  gotP : Bool
  deriving DecidableEq

variable (st : ParamBlock)

def setParam (k : Bytes) (n : Nat) : Except Err ParamBlock :=
  if k = ascii "m" then .ok
    { st with params := { st.params with memory := UInt32.ofNat n }, gotM := true }
  else if k = ascii "t" then .ok
    { st with params := { st.params with iterations := UInt32.ofNat n }, gotT := true }
  else if k = ascii "p" then
    if n > 255 then .error (.malformed "parallelism out of range")
    else .ok { st with params := { st.params with parallelism := UInt8.ofNat n }, gotP := true }
  else .error (.malformedParam "unknown param" k)

def parseParam (kv : Bytes) : Except Err ParamBlock := do
  let (k, v) ← need (.malformedParam "bad param" kv) (cutByte 61 kv)
  let n ← need (.malformedParam "bad param value" kv) (parseUint 32 v)
  setParam st k n

def parseArgon2idParamBlock (block : Bytes) : Except Err Argon2idParams := do
  let st ← (block.splitOn 44).foldlM parseParam ⟨⟨0, 0, 0, 0, 0⟩, false, false, false⟩
  reject (st.gotM = false ∨ st.gotT = false ∨ st.gotP = false) (.malformed "missing m/t/p")
  return st.params

def Argon2idParams.validateDecoded (p : Argon2idParams) (saltLen keyLen : Nat) : Except Err Unit :=
  do
  reject (p.memory.toNat = 0) (.malformed "memory must be positive")
  reject (p.iterations.toNat = 0) (.malformed "iterations must be positive")
  reject (p.iterations.toNat > maxArgon2Iteration) (.malformed "iterations exceed safe upper bound")
  reject (p.parallelism.toNat = 0) (.malformed "parallelism must be positive")
  -- the product is one of 32 bits
  reject (p.memory < p.parallelism.toUInt32 * 8)
    (.malformed s!"memory {p.memory} KiB below RFC 9106 minimum (8*parallelism={p.parallelism.toUInt32 * 8})")
  reject (p.memory.toNat > maxArgon2Memory)
    (.malformed s!"memory {p.memory} KiB exceeds safe upper bound")
  reject (p.parallelism.toNat > maxArgon2Parallelism)
    (.malformed s!"parallelism {p.parallelism} exceeds safe upper bound")
  reject (keyLen = 0) (.malformed "hash must be non-empty")
  reject (keyLen > maxKeyLength) (.malformed "key length exceeds safe upper bound")
  reject (saltLen < minSaltLength) (.malformed "salt too short")

def decodeArgon2id (encoded : Bytes) : Except Err (Argon2idParams × Bytes × Bytes) :=
  match encoded.splitOn 36 with
  | [_, algo, version, block, salt64, hash64] => do
    reject (algo ≠ argon2idAlgo) .malformedHash
    let version ← need .malformedHash (after (ascii "v=") version)
    let ver ← need .malformedHash (parseUint 32 version)
    reject (ver ≠ argon2Version) (.malformed s!"unsupported version {ver}")
    let params ← parseArgon2idParamBlock block
    let salt ← need (.malformed "bad salt b64") (decodeRaw salt64)
    let dk ← need (.malformed "bad hash b64") (decodeRaw hash64)
    let params := { params with
      saltLength := UInt32.ofNat salt.length, keyLength := UInt32.ofNat dk.length }
    params.validateDecoded salt.length dk.length
    return (params, salt, dk)
  | _ => .error .malformedHash

def argon2idFormat : Format Argon2idParams Err where
  saltLength p := p.saltLength.toNat
  encode := encodeArgon2id
  decode := decodeArgon2id
  differ p q := p ≠ q
  failed := .wrap "pwhash/argon2id: "

section

variable (P : Primitives)

def idKey (p : Argon2idParams) (password salt : Bytes) : Bytes :=
  P.idKey password salt p.iterations p.memory p.parallelism p.keyLength

def deriveArgon2id (p : Argon2idParams) (password salt : Bytes) : Except Err Bytes :=
  .ok (idKey P p password salt)

def Argon2id.hash (h : Argon2id) (rand : Reader Err) (password : Bytes) : Except Err Bytes :=
  argon2idFormat.hash (deriveArgon2id P) rand h.params password

/-- The parameters of the hasher itself are not used. -/
def Argon2id.verify (_ : Argon2id) (password encoded : Bytes) : Bool :=
  argon2idFormat.verify (deriveArgon2id P) password encoded

end

def Argon2id.needsRehash (h : Argon2id) (encoded : Bytes) : Bool :=
  argon2idFormat.needsRehash h.params encoded

def errInvalidIteration : Err := .text "kdf: iteration count must be positive"
def errInvalidKeyLen : Err := .text "kdf: key length must be positive"
def errInvalidSalt : Err := .text "kdf: salt must not be empty"

def maxIteration : Int := 10000000
def maxKeyLen : Int := 1048576

section

variable (P : Primitives)

def pbkdf2 (password salt : Bytes) (iter keyLen : Int) : Except Err Bytes := do
  reject (iter ≤ 0) errInvalidIteration
  reject (iter > maxIteration)
    (.wrap s!"kdf: iteration count {iter} exceeds limit {maxIteration}: " errInvalidIteration)
  reject (keyLen ≤ 0) errInvalidKeyLen
  reject (keyLen > maxKeyLen)
    (.wrap s!"kdf: key length {keyLen} exceeds limit {maxKeyLen}: " errInvalidKeyLen)
  reject (salt.length = 0) errInvalidSalt
  (P.pbkdf2Key password salt iter keyLen).mapError (.wrap "kdf: pbkdf2: ")

end

def pbkdf2SM3Algo : Bytes := ascii "pbkdf2-sm3"

def encodePBKDF2SM3 (p : PBKDF2Params) (salt dk : Bytes) : Bytes :=
  ascii "$" ++ pbkdf2SM3Algo ++
    ascii "$i=" ++ decimalInt p.iterations ++ ascii "$" ++ encodeRaw salt ++ ascii "$" ++
      encodeRaw dk

def decodePBKDF2SM3 (encoded : Bytes) : Except Err (PBKDF2Params × Bytes × Bytes) :=
  match encoded.splitOn 36 with
  | [_, algo, iterations, salt64, hash64] => do
    reject (algo ≠ pbkdf2SM3Algo) .malformedHash
    let iterations ← need .malformedHash (after (ascii "i=") iterations)
    let iter ← need (.malformed "bad iteration") (atoi iterations)
    reject (iter ≤ 0) (.malformed "bad iteration")
    let salt ← need (.malformed "bad salt b64") (decodeRaw salt64)
    let dk ← need (.malformed "bad hash b64") (decodeRaw hash64)
    let params : PBKDF2Params := ⟨iter, salt.length, dk.length⟩
    params.validate.mapError .malformedAs
    return (params, salt, dk)
  | _ => .error .malformedHash

def pbkdf2SM3Format : Format PBKDF2Params Err where
  saltLength p := p.saltLength.toNat
  encode := encodePBKDF2SM3
  decode := decodePBKDF2SM3
  differ p q := p.iterations ≠ q.iterations || p.saltLength ≠ q.saltLength || p.keyLength ≠
    q.keyLength
  failed := .wrap "pwhash/pbkdf2-sm3: "

section

variable (P : Primitives)

def derivePBKDF2SM3 (p : PBKDF2Params) (password salt : Bytes) : Except Err Bytes :=
  pbkdf2 P password salt p.iterations p.keyLength

def PBKDF2SM3.hash (h : PBKDF2SM3) (rand : Reader Err) (password : Bytes) : Except Err Bytes :=
  pbkdf2SM3Format.hash (derivePBKDF2SM3 P) rand h.params password

def PBKDF2SM3.verify (_ : PBKDF2SM3) (password encoded : Bytes) : Bool :=
  pbkdf2SM3Format.verify (derivePBKDF2SM3 P) password encoded

end

def PBKDF2SM3.needsRehash (h : PBKDF2SM3) (encoded : Bytes) : Bool :=
  pbkdf2SM3Format.needsRehash h.params encoded

lemma newArgon2id_ok (h : Argon2id) : newArgon2id h.params = .ok h := by
  unfold newArgon2id
  split
  next e he => cases he.symm.trans h.valid
  next => rfl

lemma newPBKDF2SM3_ok (h : PBKDF2SM3) : newPBKDF2SM3 h.params = .ok h := by
  unfold newPBKDF2SM3
  split
  next e he => cases he.symm.trans h.valid
  next => rfl

lemma Argon2idParams.validate_ok {p : Argon2idParams} (h : p.validate = .ok ()) :
    (4096 ≤ p.memory.toNat ∧ p.memory.toNat ≤ 1048576) ∧
      (1 ≤ p.iterations.toNat ∧ p.iterations.toNat ≤ 10000000) ∧
    (1 ≤ p.parallelism.toNat ∧ p.parallelism.toNat ≤ 64) ∧ 8 ≤ p.saltLength.toNat ∧
    16 ≤ p.keyLength.toNat ∧ p.keyLength.toNat ≤ 1048576 := by
  simp only [Argon2idParams.validate, bind_ok, reject_ok] at h
  simp only [minArgon2Memory, maxArgon2Memory, maxArgon2Iteration, maxPBKDF2Iteration,
    maxArgon2Parallelism, minSaltLength, minKeyLength, maxKeyLength] at h
  obtain ⟨_, h₁, _, h₂, _, h₃, _, h₄, _, h₅, _, h₆, _, h₇, _, h₈, h₉⟩ := h
  omega

lemma Argon2idParams.validateDecoded_ok {p : Argon2idParams} (h : p.validate = .ok ()) :
    p.validateDecoded p.saltLength.toNat p.keyLength.toNat = .ok () := by
  obtain ⟨⟨hmem, hmem'⟩, ⟨hiter, hiter'⟩, ⟨hpar, hpar'⟩, hsalt, hkey, hkey'⟩ := p.validate_ok h
  have hfloor : ¬ p.memory < p.parallelism.toUInt32 * 8 := by
    rw [UInt32.lt_iff_toNat_lt, UInt32.toNat_mul, UInt8.toNat_toUInt32]
    change ¬ p.memory.toNat < p.parallelism.toNat * 8 % 2 ^ 32
    omega
  simp only [Argon2idParams.validateDecoded, bind_ok, reject_ok]
  simp only [maxArgon2Memory, maxArgon2Iteration, maxPBKDF2Iteration, maxArgon2Parallelism,
    minSaltLength, maxKeyLength]
  exact ⟨(), by omega, (), by omega, (), by omega, (), by omega, (), hfloor, (), by omega,
    (), by omega, (), by omega, (), by omega, by omega⟩

variable {p : PBKDF2Params}

lemma PBKDF2Params.validate_ok (h : p.validate = .ok ()) :
    (1 ≤ p.iterations ∧ p.iterations ≤ 10000000) ∧ 8 ≤ p.saltLength ∧ 16 ≤ p.keyLength ∧
      p.keyLength ≤ 1048576 := by
  simp only [PBKDF2Params.validate, bind_ok, reject_ok] at h
  simp only [maxPBKDF2Iteration, minSaltLength, minKeyLength, maxKeyLength] at h
  obtain ⟨_, h₁, _, h₂, _, h₃, _, h₄, h₅⟩ := h
  omega

def paramBlock (p : Argon2idParams) : List Bytes :=
  [ascii "m" ++ 61 :: decimal p.memory.toNat, ascii "t" ++ 61 :: decimal p.iterations.toNat,
    ascii "p" ++ 61 :: decimal p.parallelism.toNat]

lemma encodeArgon2id_parts (p : Argon2idParams) (salt dk : Bytes) :
    encodeArgon2id p salt dk =
      [36].intercalate [[], argon2idAlgo, ascii "v=" ++ decimal argon2Version,
      [44].intercalate (paramBlock p), encodeRaw salt, encodeRaw dk] := by
  simp [encodeArgon2id, paramBlock, List.intercalate, ascii]

lemma parseParam_eq (hk : 61 ∉ k) (hn : n < 2 ^ 32) :
    parseParam st (k ++ 61 :: decimal n) = setParam st k n := by
  rw [parseParam, cutByte_append hk, need_some, ok_bind]
  dsimp only
  rw [parseUint_decimal hn, need_some, ok_bind]

lemma parseParam_m (n : UInt32) : parseParam st (ascii "m" ++ 61 :: decimal n.toNat) =
    .ok { st with params := { st.params with memory := n }, gotM := true } := by
  rw [parseParam_eq st (by decide) n.toNat_lt, setParam, if_pos rfl, UInt32.ofNat_toNat]

lemma parseParam_t (n : UInt32) : parseParam st (ascii "t" ++ 61 :: decimal n.toNat) =
    .ok { st with params := { st.params with iterations := n }, gotT := true } := by
  rw [parseParam_eq st (by decide) n.toNat_lt, setParam, if_neg (by decide), if_pos rfl,
    UInt32.ofNat_toNat]

lemma parseParam_p (n : UInt8) : parseParam st (ascii "p" ++ 61 :: decimal n.toNat) =
    .ok { st with params := { st.params with parallelism := n }, gotP := true } := by
  have hn := byte_lt n
  rw [parseParam_eq st (by decide) (by omega), setParam, if_neg (by decide), if_neg (by decide),
    if_pos rfl, if_neg (by omega), UInt8.ofNat_toNat]

lemma not_mem_paramBlock (hletters : c ∉ ascii "mtp=") (hdigit : isDigit c = false)
    (p : Argon2idParams) :
    ∀ part ∈ paramBlock p, c ∉ part := by
  have hpart (k : UInt8) (hk : k ∈ ascii "mtp=") (n : Nat) : c ∉ k :: 61 :: decimal n := by
    have hne : ∀ x ∈ ascii "mtp=", c ≠ x := fun x hx hsame => hletters (hsame ▸ hx)
    exact List.not_mem_cons_of_ne_of_not_mem (hne k hk)
      (List.not_mem_cons_of_ne_of_not_mem (hne 61 (by decide)) (not_mem_decimal hdigit))
  rw [paramBlock, List.forall_mem_cons, List.forall_mem_cons, List.forall_mem_cons]
  exact ⟨hpart 109 (by decide) _, hpart 116 (by decide) _, hpart 112 (by decide) _, fun _ h =>
    by cases h⟩

lemma split_paramBlock (p : Argon2idParams) :
    ([44].intercalate (paramBlock p)).splitOn 44 = paramBlock p :=
  List.splitOn_intercalate _ (not_mem_paramBlock (by decide) rfl p) (List.cons_ne_nil _ _)

lemma parse_paramBlock (p : Argon2idParams) :
    parseArgon2idParamBlock ([44].intercalate (paramBlock p)) =
      .ok { p with saltLength := 0, keyLength := 0 } := by
  have hfold : (paramBlock p).foldlM parseParam ⟨⟨0, 0, 0, 0, 0⟩, false, false, false⟩ =
      .ok ⟨{ p with saltLength := 0, keyLength := 0 }, true, true, true⟩ := by
    rw [paramBlock, List.foldlM_cons, parseParam_m, ok_bind, List.foldlM_cons, parseParam_t,
      ok_bind, List.foldlM_cons, parseParam_p, ok_bind]
    rfl
  rw [parseArgon2idParamBlock, split_paramBlock, hfold, ok_bind, reject_neg (by simp)]
  rfl

lemma split_argon2id (p : Argon2idParams) (salt dk : Bytes) :
    (encodeArgon2id p salt dk).splitOn 36 = [[], argon2idAlgo, ascii "v=" ++ decimal argon2Version,
      [44].intercalate (paramBlock p), encodeRaw salt, encodeRaw dk] := by
  rw [encodeArgon2id_parts]
  apply List.splitOn_intercalate _ _ (List.cons_ne_nil _ _)
  have hblock : 36 ∉ [44].intercalate (paramBlock p) :=
    not_mem_intercalate (by decide) (not_mem_paramBlock (by decide) rfl p)
  simp only [List.forall_mem_cons]
  exact ⟨by simp, by decide, not_mem_append (by decide) (not_mem_decimal rfl), hblock,
    not_mem_encodeRaw rfl, not_mem_encodeRaw rfl, fun _ h => by cases h⟩

variable {salt dk : Bytes}

lemma decodeArgon2id_encodeArgon2id {p : Argon2idParams} (h : p.validate = .ok ())
    (hsalt : salt.length = p.saltLength.toNat) (hdk : dk.length = p.keyLength.toNat) :
    decodeArgon2id (encodeArgon2id p salt dk) = .ok (p, salt, dk) := by
  have hversion : parseUint 32 (decimal argon2Version) = some argon2Version :=
    parseUint_decimal (by decide)
  rw [decodeArgon2id, split_argon2id]
  dsimp only
  rw [reject_bind (not_not.mpr rfl), after_append, need_some, ok_bind, hversion, need_some, ok_bind,
    reject_bind (not_not.mpr rfl), parse_paramBlock, ok_bind, decodeRaw_encodeRaw, need_some,
      ok_bind,
    decodeRaw_encodeRaw, need_some, ok_bind, hsalt, hdk, UInt32.ofNat_toNat, UInt32.ofNat_toNat]
  rw [Argon2idParams.validateDecoded_ok h, ok_bind]
  rfl

lemma decimalInt_of_nonneg (hn : 0 ≤ n) : decimalInt n = decimal n.toNat := by
  obtain ⟨m, rfl⟩ := Int.eq_ofNat_of_zero_le hn
  rfl

lemma split_pbkdf2 (h : p.validate = .ok ()) (salt dk : Bytes) :
    (encodePBKDF2SM3 p salt dk).splitOn 36 =
      [[], pbkdf2SM3Algo, ascii "i=" ++ decimal p.iterations.toNat, encodeRaw salt,
        encodeRaw dk] := by
  have hparts : encodePBKDF2SM3 p salt dk =
      [36].intercalate [[], pbkdf2SM3Algo, ascii "i=" ++ decimal p.iterations.toNat, encodeRaw salt,
        encodeRaw dk] := by
    rw [encodePBKDF2SM3, decimalInt_of_nonneg (by have := p.validate_ok h; omega)]
    simp [List.intercalate, ascii]
  rw [hparts]
  apply List.splitOn_intercalate _ _ (List.cons_ne_nil _ _)
  simp only [List.forall_mem_cons]
  exact ⟨by simp, by decide, not_mem_append (by decide) (not_mem_decimal rfl),
    not_mem_encodeRaw rfl, not_mem_encodeRaw rfl, fun _ h => by cases h⟩

lemma decodePBKDF2SM3_encodePBKDF2SM3 (h : p.validate = .ok ())
    (hsalt : salt.length = p.saltLength.toNat) (hdk : (dk.length : Int) = p.keyLength) :
    decodePBKDF2SM3 (encodePBKDF2SM3 p salt dk) = .ok (p, salt, dk) := by
  obtain ⟨⟨hiter, hiter'⟩, hsaltMin, -⟩ := p.validate_ok h
  have hiterations : ((p.iterations.toNat : Nat) : Int) = p.iterations :=
    Int.toNat_of_nonneg (by omega)
  have hsaltLength : (salt.length : Int) = p.saltLength := by omega
  have hatoi : atoi (decimal p.iterations.toNat) = some p.iterations := by
    rw [atoi_decimal (by omega), hiterations]
  rw [decodePBKDF2SM3, split_pbkdf2 h]
  dsimp only
  rw [reject_bind (not_not.mpr rfl), after_append, need_some, ok_bind, hatoi, need_some, ok_bind,
    reject_bind (by omega), decodeRaw_encodeRaw, need_some, ok_bind, decodeRaw_encodeRaw, need_some,
      ok_bind,
    hsaltLength, hdk, h, mapError_of_ok, ok_bind]
  rfl

section

variable (P : Primitives)

lemma argon2id_lawful :
    argon2idFormat.Lawful (deriveArgon2id P) (fun p => p.validate = .ok ()) where
  reads hvalid hsalt hdigest := by
    have hlength := P.idKey_length
    rw [← Except.ok.inj hdigest]
    exact decodeArgon2id_encodeArgon2id hvalid hsalt (hlength ..)
  differ_iff p q := decide_eq_true_iff

lemma derivePBKDF2SM3_eq (h : p.validate = .ok ()) (hsalt : salt.length = p.saltLength.toNat)
    (password : Bytes) :
    derivePBKDF2SM3 P p password salt =
      (P.pbkdf2Key password salt p.iterations p.keyLength).mapError (.wrap "kdf: pbkdf2: ") := by
  obtain ⟨⟨hiter, hiter'⟩, hsaltMin, hkey, hkey'⟩ := p.validate_ok h
  have hmaxIteration : maxIteration = 10000000 := rfl
  have hmaxKeyLen : maxKeyLen = 1048576 := rfl
  rw [derivePBKDF2SM3, pbkdf2, reject_bind (by omega), reject_bind (by omega),
    reject_bind (by omega), reject_bind (by omega), reject_bind (by omega)]

lemma pbkdf2SM3_lawful :
    pbkdf2SM3Format.Lawful (derivePBKDF2SM3 P) (fun p => p.validate = .ok ()) where
  reads hvalid hsalt hdigest := by
    rw [derivePBKDF2SM3_eq P hvalid hsalt, mapError_ok] at hdigest
    exact decodePBKDF2SM3_encodePBKDF2SM3 hvalid hsalt (P.pbkdf2Key_length hdigest)
  differ_iff p q := by
    obtain ⟨iterations, saltLength, keyLength⟩ := p
    obtain ⟨iterations', saltLength', keyLength'⟩ := q
    simp only [pbkdf2SM3Format, Bool.or_eq_true, decide_eq_true_eq, ne_eq, PBKDF2Params.mk.injEq,
      not_and_or, or_assoc]

end

/-- In both schemes a hash string is read back, verifies exactly the passwords that derive its
digest, and asks for a new hash exactly from a hasher with other parameters. -/
theorem password_hash_roundTrip (P : Primitives) (rand : Reader Err) (password salt : Bytes) :
    (∀ h : Argon2id, rand.read h.params.saltLength.toNat = .ok salt →
      ∃ e, h.hash P rand password = .ok e ∧
        decodeArgon2id e = .ok (h.params, salt, idKey P h.params password salt) ∧
        (∀ (other : Argon2id) (password' : Bytes), other.verify P password' e = true ↔
          idKey P h.params password' salt = idKey P h.params password salt) ∧
        h.needsRehash e = false ∧ ∀ other :
          Argon2id, other.needsRehash e = true ↔ other.params ≠ h.params) ∧
    ∀ (h : PBKDF2SM3) (digest : Bytes), rand.read h.params.saltLength.toNat = .ok salt →
      P.pbkdf2Key password salt h.params.iterations h.params.keyLength = .ok digest →
      ∃ e, h.hash P rand password = .ok e ∧ decodePBKDF2SM3 e = .ok (h.params, salt, digest) ∧
        (∀ (other : PBKDF2SM3) (password' : Bytes), other.verify P password' e = true ↔
          P.pbkdf2Key password' salt h.params.iterations h.params.keyLength = .ok digest) ∧
        h.needsRehash e = false ∧ ∀ other :
          PBKDF2SM3, other.needsRehash e = true ↔ other.params ≠ h.params := by
  constructor
  · intro h hsalt
    have hdigest : deriveArgon2id P h.params password salt = .ok (idKey P h.params password salt) :=
      rfl
    obtain ⟨e, hhash, hdecode, hverify, hsame, hother⟩ :=
      (argon2id_lawful P).roundTrip h.valid hsalt hdigest
    refine ⟨e, hhash, hdecode, ?_, hsame, fun other => hother other.params⟩
    intro other password'
    exact (hverify password').trans ⟨Except.ok.inj, congrArg Except.ok⟩
  · intro h digest hsalt hkey
    have hderive (password : Bytes) := derivePBKDF2SM3_eq P h.valid (rand.full hsalt) password
    have hdigest : derivePBKDF2SM3 P h.params password salt = .ok digest := by
      rw [hderive, hkey, mapError_of_ok]
    obtain ⟨e, hhash, hdecode, hverify, hsame, hother⟩ :=
      (pbkdf2SM3_lawful P).roundTrip h.valid hsalt hdigest
    refine ⟨e, hhash, hdecode, ?_, hsame, fun other => hother other.params⟩
    intro other password'
    rw [← mapError_ok _ (Err.wrap "kdf: pbkdf2: "), ← hderive]
    exact hverify password'

def samplePrimitives : Primitives where
  idKey password _ _ _ _ keyLen := (password ++ zeros keyLen.toNat).take keyLen.toNat
  pbkdf2Key password _ _ keyLength :=
    if keyLength < 0 then .error (.text "pbkdf2: key length is negative")
      else .ok ((password ++ zeros keyLength.toNat).take keyLength.toNat)
  idKey_length := by
    intro password salt time memory threads keyLen
    simp
  pbkdf2Key_length := by
    intro password salt iter keyLength dk h
    split at h
    · cases h
    · cases h
      simp
      omega

def sampleArgon2id : Argon2id := ⟨defaultArgon2idParams, by decide⟩

def samplePBKDF2SM3 : PBKDF2SM3 := ⟨defaultPBKDF2SM3Params, by decide⟩

theorem password_hash_roundTrip_sample :
    (∃ e, sampleArgon2id.hash samplePrimitives zeroReader [1] = .ok e ∧
      sampleArgon2id.verify samplePrimitives [1] e = true ∧
      sampleArgon2id.verify samplePrimitives [2] e = false) ∧
    ∃ e, samplePBKDF2SM3.hash samplePrimitives zeroReader [1] = .ok e ∧
      samplePBKDF2SM3.verify samplePrimitives [1] e = true ∧
      samplePBKDF2SM3.needsRehash e = false := by
  obtain ⟨hargon, hpbkdf2⟩ := password_hash_roundTrip samplePrimitives zeroReader [1] (zeros 16)
  obtain ⟨e, hhash, -, hverify, -⟩ := hargon sampleArgon2id rfl
  obtain ⟨e', hhash', -, hverify', hrehash', -⟩ := hpbkdf2 samplePBKDF2SM3 _ rfl rfl
  refine ⟨⟨e, hhash, (hverify _ _).mpr rfl, ?_⟩, e', hhash', (hverify' _ _).mpr rfl, hrehash'⟩
  rw [Bool.eq_false_iff, ne_eq, hverify]
  decide

end Pollux.PwHash
