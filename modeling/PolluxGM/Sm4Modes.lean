import PolluxGM.Sm4

/-!
# Modes of SM4

`Encrypt` and `Decrypt` of `modes.go`. The standard library panics on vectors, texts and nonces of a
wrong length, so these calls are written as ones that can. GCM is a primitive.
-/
namespace Pollux.Sm4

open Access Modes

def errInvalidIVLen : Fault String := .err "sm4: invalid IV length"

def errNonceMissing : Fault String :=
  .err "sm4: nonce required (none provided and ciphertext too short to contain a prepended one)"

def errNotAligned : Fault String := .err "sm4: ciphertext not aligned to block size"

def gcmNonceSize : Nat := 12

def gcmOverhead : Nat := 16

/-- The ciphers of the keys, and GCM without additional data. -/
structure Primitives where
  cipher : Bytes → BlockCipher blockSize
  gcmSeal : Bytes → Bytes → Bytes → Bytes
  gcmOpen : Bytes → Bytes → Bytes → Option Bytes
  gcmSeal_length : ∀ key nonce plaintext,
    (gcmSeal key nonce plaintext).length = plaintext.length + gcmOverhead
  gcmOpen_gcmSeal : ∀ key nonce plaintext, gcmOpen key nonce (gcmSeal key nonce plaintext) =
    some plaintext

/-- `Mode` is a string in the source, and any other one is refused. -/
inductive Mode where
  | ecb
  | cbc
  | ctr
  | gcm
  | cfb
  | other (name : String)
  deriving DecidableEq

section

variable (P : Primitives)

/-- The constructors they call in the standard library check again, and panic. -/
def newMode (constructor : String) (key iv : Bytes) : Result (BlockCipher blockSize) := do
  reject (iv.length ≠ blockSize) errInvalidIVLen
  let block ← returned (newCipher P.cipher key)
  reject (iv.length ≠ blockSize) (.panicked (constructor ++ ": IV length must equal block size"))
  return block

def newCBCEncrypter : Bytes → Bytes → Result (BlockCipher blockSize) :=
  newMode P "cipher.NewCBCEncrypter"
def newCBCDecrypter : Bytes → Bytes → Result (BlockCipher blockSize) :=
  newMode P "cipher.NewCBCDecrypter"
def newCTR : Bytes → Bytes → Result (BlockCipher blockSize) := newMode P "cipher.NewCTR"
def newCFBEncrypter : Bytes → Bytes → Result (BlockCipher blockSize) := newMode P "cipher.newCFB"
def newCFBDecrypter : Bytes → Bytes → Result (BlockCipher blockSize) := newMode P "cipher.newCFB"

def blockLoop (f : Bytes → Bytes) (src : Bytes) : Result Bytes := do
  let dst ← (List.range (rounds blockSize src.length)).mapM fun k => do
    let b ← slice src (blockSize * k : Nat) ((blockSize * k : Nat) + blockSize)
    return f b
  return dst.flatten

def cryptBlocks (step : Bytes → Bytes → Bytes × Bytes) (iv src : Bytes) : Result Bytes := do
  reject (src.length % blockSize ≠ 0) (.panicked "crypto/cipher: input not full blocks")
  return run blockSize step iv src

def newGCM (key : Bytes) : Result Bytes := do
  let _ ← returned (newCipher P.cipher key)
  return key

def aeadSeal (aead nonce plaintext : Bytes) : Result Bytes := do
  reject (nonce.length ≠ gcmNonceSize)
    (.panicked "crypto/cipher: incorrect nonce length given to GCM")
  return P.gcmSeal aead nonce plaintext

def aeadOpen (aead nonce ciphertext : Bytes) : Result Bytes := do
  reject (nonce.length ≠ gcmNonceSize)
    (.panicked "crypto/cipher: incorrect nonce length given to GCM")
  need (.err "cipher: message authentication failed") (P.gcmOpen aead nonce ciphertext)

def encryptECB (key plaintext : Bytes) : Result Bytes := do
  let padded ← pkcs7Pad plaintext blockSize
  let block ← returned (newCipher P.cipher key)
  blockLoop block.encrypt padded

def decryptECB (key ciphertext : Bytes) : Result Bytes := do
  reject (ciphertext.length % blockSize ≠ 0) errNotAligned
  let block ← returned (newCipher P.cipher key)
  let plaintext ← blockLoop block.decrypt ciphertext
  pkcs7Unpad plaintext blockSize

def encryptCBC (key plaintext iv : Bytes) : Result Bytes := do
  reject (iv.length ≠ blockSize) errInvalidIVLen
  let padded ← pkcs7Pad plaintext blockSize
  let mode ← newCBCEncrypter P key iv
  cryptBlocks (cbcEncryptStep mode) iv padded

def decryptCBC (key ciphertext iv : Bytes) : Result Bytes := do
  reject (iv.length ≠ blockSize) errInvalidIVLen
  reject (ciphertext.length % blockSize ≠ 0) errNotAligned
  let mode ← newCBCDecrypter P key iv
  let plaintext ← cryptBlocks (cbcDecryptStep mode) iv ciphertext
  pkcs7Unpad plaintext blockSize

def encryptCTR (key plaintext iv : Bytes) : Result Bytes := do
  reject (iv.length ≠ blockSize) errInvalidIVLen
  let stream ← newCTR P key iv
  return run blockSize (ctrStep stream) iv plaintext

def decryptCTR (key ciphertext iv : Bytes) : Result Bytes := encryptCTR P key ciphertext iv

def encryptGCM (rand : Reader String) (key plaintext nonce : Bytes) : Result Bytes := do
  let aead ← newGCM P key
  if nonce.length = 0 then
    let nonce ← returned (rand.read gcmNonceSize)
    let sealed ← aeadSeal P aead nonce plaintext
    return nonce ++ sealed
  else
    reject (nonce.length ≠ gcmNonceSize) errInvalidIVLen
    aeadSeal P aead nonce plaintext

def decryptGCM (key ciphertext nonce : Bytes) : Result Bytes := do
  let aead ← newGCM P key
  if nonce.length = 0 then
    reject (ciphertext.length < gcmNonceSize + gcmOverhead) errNonceMissing
    let nonce ← slice ciphertext 0 gcmNonceSize
    let ciphertext ← slice ciphertext gcmNonceSize ciphertext.length
    aeadOpen P aead nonce ciphertext
  else
    reject (nonce.length ≠ gcmNonceSize) errInvalidIVLen
    aeadOpen P aead nonce ciphertext

def encryptCFB (key plaintext iv : Bytes) : Result Bytes := do
  reject (iv.length ≠ blockSize) errInvalidIVLen
  let stream ← newCFBEncrypter P key iv
  return run blockSize (cfbEncryptStep stream) iv plaintext

def decryptCFB (key ciphertext iv : Bytes) : Result Bytes := do
  reject (iv.length ≠ blockSize) errInvalidIVLen
  let stream ← newCFBDecrypter P key iv
  return run blockSize (cfbDecryptStep stream) iv ciphertext

def encrypt (rand : Reader String) (key plaintext : Bytes) (mode : Mode) (iv : Bytes) :
    Result Bytes :=
  match mode with
  | .ecb => encryptECB P key plaintext
  | .cbc => encryptCBC P key plaintext iv
  | .ctr => encryptCTR P key plaintext iv
  | .gcm => encryptGCM P rand key plaintext iv
  | .cfb => encryptCFB P key plaintext iv
  | .other _ => .error (.err "sm4: unsupported mode")

def decrypt (key ciphertext : Bytes) (mode : Mode) (iv : Bytes) : Result Bytes :=
  match mode with
  | .ecb => decryptECB P key ciphertext
  | .cbc => decryptCBC P key ciphertext iv
  | .ctr => decryptCTR P key ciphertext iv
  | .gcm => decryptGCM P key ciphertext iv
  | .cfb => decryptCFB P key ciphertext iv
  | .other _ => .error (.err "sm4: unsupported mode")

end

section

variable {P : Primitives} {key iv : Bytes}

/-- The check in front is the one that the constructor would panic on. -/
lemma newMode_eq (constructor : String) : newMode P constructor key iv =
    reject (iv.length ≠ blockSize) errInvalidIVLen >>= fun _ =>
      returned (newCipher P.cipher key) := by
  apply reject_congr
  intro hiv
  rw [reject_neg hiv]
  cases returned (newCipher P.cipher key) <;> rfl

lemma newMode_returns (constructor : String) : Returns (newMode P constructor key iv) := by
  rw [newMode_eq]
  exact .bind (.of_reject _ _) fun _ _ => .of_returned _

lemma newMode_ok (h : newMode P constructor key iv = .ok block) :
    iv.length = blockSize ∧ key.length = keySize ∧ block = P.cipher key := by
  simp only [newMode_eq, bind_ok, reject_ok, not_not, returned, mapError_ok] at h
  obtain ⟨-, hiv, hblock⟩ := h
  exact ⟨hiv, newCipher_eq_ok hblock⟩

lemma newMode_of (constructor : String) (hiv : iv.length = blockSize)
    (hkey : key.length = keySize) : newMode P constructor key iv = .ok (P.cipher key) := by
  rw [newMode_eq, reject_bind (not_not.mpr hiv), newCipher_ok hkey, returned_ok]

lemma chain_ecbStep (f : Bytes → Bytes) (ps : List Bytes) : chain (ecbStep f) () ps = ps.map f := by
  induction ps with
  | nil => rfl
  | cons p ps ih => rw [chain, List.map_cons, ← ih, ecbStep]

lemma blockLoop_eq (f : Bytes → Bytes) (h : src.length % blockSize = 0) :
    blockLoop f src = .ok (run blockSize (ecbStep f) () src) := by
  have hslice : ∀ k ∈ List.range (rounds blockSize src.length),
      (slice src (blockSize * k : Nat) ((blockSize * k : Nat) + blockSize) >>= fun b =>
        pure (f b) : Result Bytes) = .ok (f ((src.drop (blockSize * k)).take blockSize)) := by
    intro k hk
    have hround : k < (src.length + 16 - 1) / 16 := List.mem_range.mp hk
    have hend : 16 * k + 16 ≤ src.length := by
      change src.length % 16 = 0 at h
      omega
    rw [slice_middle (Int.natCast_nonneg _) (Int.ofNat_le.mpr hend), Int.toNat_natCast]
    rfl
  rw [blockLoop, mapM_of_ok hslice, ok_bind, run, chain_ecbStep, cut_eq_range (by decide),
    List.map_map]
  rfl

lemma cryptBlocks_eq (step : Bytes → Bytes → Bytes × Bytes) (h : src.length % blockSize = 0) :
    cryptBlocks step iv src = .ok (run blockSize step iv src) := by
  rw [cryptBlocks, reject_neg (not_not.mpr h)]
  rfl

lemma newGCM_ok (h : newGCM P key = .ok aead) : aead = key ∧ newGCM P key = .ok key := by
  have hsame : aead = key := by
    simp only [newGCM, bind_ok, pure_inj] at h
    obtain ⟨-, -, hkey⟩ := h
    exact hkey.symm
  exact ⟨hsame, hsame ▸ h⟩

lemma newGCM_returns : Returns (newGCM P key) :=
  .bind (.of_returned _) fun _ _ => .of_returned (.ok key)

lemma aeadOpen_returns (h : nonce.length = gcmNonceSize) :
    Returns (aeadOpen P aead nonce ciphertext) := by
  rw [aeadOpen, reject_bind (not_not.mpr h)]
  cases P.gcmOpen aead nonce ciphertext <;> exact fun _ h => by cases h

lemma aeadSeal_ok (h : aeadSeal P aead nonce plaintext = .ok sealed) :
    nonce.length = gcmNonceSize ∧ sealed.length = plaintext.length + gcmOverhead ∧
      aeadOpen P aead nonce sealed = .ok plaintext := by
  simp only [aeadSeal, bind_ok, reject_ok, not_not, pure_inj] at h
  obtain ⟨-, hnonce, rfl⟩ := h
  refine ⟨hnonce, P.gcmSeal_length aead nonce plaintext, ?_⟩
  rw [aeadOpen, reject_bind (not_not.mpr hnonce), P.gcmOpen_gcmSeal, need_some]

lemma pkcs7Pad_block (h : pkcs7Pad data blockSize = .ok padded) :
    padded.length % blockSize = 0 ∧ pkcs7Unpad padded blockSize = .ok data := by
  rw [pkcs7Pad_eq data (by decide), Except.ok.injEq] at h
  have haligned : padded.length % blockSize = 0 := by
    rw [← h, List.length_append, List.length_replicate]
    exact aligned_pad _ (by decide)
  refine ⟨haligned, ?_⟩
  have hlt : data.length % 16 < 16 := Nat.mod_lt _ (by decide)
  have hbounds : 0 < 16 - data.length % 16 ∧ 16 - data.length % 16 ≤ 255 ∧
    16 - data.length % 16 ≤ 16 := by omega
  rw [pkcs7Unpad_eq _ (by decide), returned, mapError_ok, unpad_ok]
  exact ⟨haligned, 16 - data.length % 16, hbounds.1, hbounds.2.1, hbounds.2.2, h.symm⟩

lemma pkcs7Unpad_returns (data : Bytes) : Returns (pkcs7Unpad data blockSize) := by
  rw [pkcs7Unpad_eq data (by decide)]
  exact .of_returned _

end

section

variable {P : Primitives} {rand : Reader String} {key plaintext iv ciphertext : Bytes}

lemma decryptECB_encryptECB (h : encryptECB P key plaintext = .ok ciphertext) :
    decryptECB P key ciphertext = .ok plaintext := by
  simp only [encryptECB, bind_ok] at h
  obtain ⟨padded, hpad, block, hblock, hloop⟩ := h
  obtain ⟨haligned, hunpad⟩ := pkcs7Pad_block hpad
  have hpieces := length_of_mem_cut (by decide) padded haligned
  have hinv := ecb_inverts block
  rw [blockLoop_eq _ haligned, Except.ok.injEq] at hloop
  subst hloop
  have hlen := hinv.run_length (s := ()) (by decide) trivial hpieces
  rw [decryptECB, reject_bind (by rw [hlen]; exact not_not.mpr haligned), hblock, ok_bind,
    blockLoop_eq _ (by rw [hlen]; exact haligned), ok_bind,
      hinv.run_undo (by decide) trivial hpieces, hunpad]

lemma decryptCBC_encryptCBC (h : encryptCBC P key plaintext iv = .ok ciphertext) :
    decryptCBC P key ciphertext iv = .ok plaintext := by
  simp only [encryptCBC, bind_ok, reject_ok, not_not] at h
  obtain ⟨-, hiv, padded, hpad, block, hblock, hcrypt⟩ := h
  obtain ⟨haligned, hunpad⟩ := pkcs7Pad_block hpad
  obtain ⟨-, hkey, rfl⟩ := newMode_ok hblock
  have hpieces := length_of_mem_cut (by decide) padded haligned
  have hinv := cbc_inverts (P.cipher key)
  rw [cryptBlocks_eq _ haligned, Except.ok.injEq] at hcrypt
  subst hcrypt
  have hlen := hinv.run_length (by decide) hiv hpieces
  rw [decryptCBC, reject_bind (not_not.mpr hiv),
    reject_bind (by rw [hlen]; exact not_not.mpr haligned),
    newCBCDecrypter, newMode_of _ hiv hkey, ok_bind,
      cryptBlocks_eq _ (by rw [hlen]; exact haligned), ok_bind,
    hinv.run_undo (by decide) hiv hpieces, hunpad]

lemma decryptCTR_encryptCTR (h : encryptCTR P key plaintext iv = .ok ciphertext) :
    decryptCTR P key ciphertext iv = .ok plaintext := by
  simp only [encryptCTR, bind_ok, reject_ok, not_not, pure_inj] at h
  obtain ⟨-, hiv, stream, hstream, rfl⟩ := h
  obtain ⟨-, hkey, rfl⟩ := newMode_ok hstream
  have hpieces := length_le_of_mem_cut (n := blockSize) (by decide) plaintext
  rw [decryptCTR, encryptCTR, reject_bind (not_not.mpr hiv), newCTR, newMode_of _ hiv hkey, ok_bind,
    (ctr_inverts (P.cipher key)).run_undo (by decide) hiv hpieces]
  rfl

lemma decryptCFB_encryptCFB (h : encryptCFB P key plaintext iv = .ok ciphertext) :
    decryptCFB P key ciphertext iv = .ok plaintext := by
  simp only [encryptCFB, bind_ok, reject_ok, not_not, pure_inj] at h
  obtain ⟨-, hiv, stream, hstream, rfl⟩ := h
  obtain ⟨-, hkey, rfl⟩ := newMode_ok hstream
  have hpieces := length_le_of_mem_cut (n := blockSize) (by decide) plaintext
  rw [decryptCFB, reject_bind (not_not.mpr hiv), newCFBDecrypter, newMode_of _ hiv hkey, ok_bind,
    (cfb_inverts (P.cipher key)).run_undo (by decide) hiv hpieces]
  rfl

lemma decryptGCM_encryptGCM (h : encryptGCM P rand key plaintext iv = .ok ciphertext) :
    decryptGCM P key ciphertext iv = .ok plaintext := by
  simp only [encryptGCM, bind_ok] at h
  obtain ⟨aead, haead, h⟩ := h
  obtain ⟨rfl, hgcm⟩ := newGCM_ok haead
  rw [decryptGCM, haead, ok_bind]
  split at h
  next hempty =>
    simp only [bind_ok, pure_inj] at h
    obtain ⟨nonce, -, sealed, hseal, rfl⟩ := h
    obtain ⟨hnonce, hlen, hopen⟩ := aeadSeal_ok hseal
    have htotal : (nonce ++ sealed).length = gcmNonceSize + (plaintext.length + gcmOverhead) := by
      rw [List.length_append, hnonce, hlen]
    rw [if_pos hempty, reject_bind (by omega), slice_take (by omega), ok_bind,
      slice_drop (by omega), ok_bind, List.take_left' hnonce, List.drop_left' hnonce, hopen]
  next hgiven =>
    simp only [bind_ok, reject_ok, not_not] at h
    obtain ⟨-, hnonce, hseal⟩ := h
    rw [if_neg hgiven, reject_bind (not_not.mpr hnonce), (aeadSeal_ok hseal).2.2]

lemma decryptECB_returns : Returns (decryptECB P key ciphertext) := by
  refine .bind (.of_reject _ _) fun _ haligned => ?_
  refine .bind (.of_returned _) fun block _ => ?_
  rw [blockLoop_eq _ (not_not.mp ((reject_ok _ _ _).mp haligned)), ok_bind]
  exact pkcs7Unpad_returns _

lemma decryptCBC_returns : Returns (decryptCBC P key ciphertext iv) := by
  refine .bind (.of_reject _ _) fun _ _ => ?_
  refine .bind (.of_reject _ _) fun _ haligned => ?_
  refine .bind (newMode_returns _) fun mode _ => ?_
  rw [cryptBlocks_eq _ (not_not.mp ((reject_ok _ _ _).mp haligned)), ok_bind]
  exact pkcs7Unpad_returns _

lemma decryptCTR_returns : Returns (decryptCTR P key ciphertext iv) :=
  .bind (.of_reject _ _) fun _ _ => .bind (newMode_returns _) fun _ _ => .of_returned (.ok _)

lemma decryptCFB_returns : Returns (decryptCFB P key ciphertext iv) :=
  .bind (.of_reject _ _) fun _ _ => .bind (newMode_returns _) fun _ _ => .of_returned (.ok _)

lemma decryptGCM_returns : Returns (decryptGCM P key ciphertext iv) := by
  refine .bind newGCM_returns fun aead _ => ?_
  split
  · refine .bind (.of_reject _ _) fun _ hlong => ?_
    have hlong := (reject_ok _ _ _).mp hlong
    have hfront : (ciphertext.take gcmNonceSize).length = gcmNonceSize := by
      rw [List.length_take]
      omega
    rw [slice_take (by omega), ok_bind, slice_drop (by omega), ok_bind]
    exact aeadOpen_returns hfront
  · exact .bind (.of_reject _ _) fun _ hnonce =>
      aeadOpen_returns (not_not.mp ((reject_ok _ _ _).mp hnonce))

end

/-- A vector of one block, for GCM a nonce, or none if one can be drawn. -/
def AcceptsIV (rand : Reader String) : Mode → Bytes → Prop
  | .ecb, _ => True
  | .cbc, iv | .ctr, iv | .cfb, iv => iv.length = blockSize
  | .gcm, iv => iv.length = gcmNonceSize ∨ iv = [] ∧ ∃ nonce, rand.read gcmNonceSize = .ok nonce
  | .other _, _ => False

variable {P : Primitives} {rand : Reader String} {key : Bytes}

lemma newGCM_of (hkey : key.length = keySize) : newGCM P key = .ok key := by
  rw [newGCM, newCipher_ok hkey, returned_ok, ok_bind]
  rfl

lemma aeadSeal_of (plaintext : Bytes) (h : nonce.length = gcmNonceSize) :
    aeadSeal P aead nonce plaintext = .ok (P.gcmSeal aead nonce plaintext) := by
  rw [aeadSeal, reject_neg (not_not.mpr h)]
  rfl

lemma encryptGCM_accepts (hkey : key.length = keySize) (plaintext iv : Bytes) :
    (∃ ciphertext, encryptGCM P rand key plaintext iv = .ok ciphertext) ↔
      AcceptsIV rand .gcm iv := by
  rw [encryptGCM, newGCM_of hkey, ok_bind]
  by_cases hempty : iv.length = 0
  · obtain rfl : iv = [] := List.length_eq_zero_iff.mp hempty
    constructor
    · rintro ⟨ciphertext, h⟩
      simp only [List.length_nil, if_true, bind_ok, returned, mapError_ok] at h
      obtain ⟨nonce, hread, -⟩ := h
      exact .inr ⟨rfl, nonce, hread⟩
    · rintro (h | ⟨-, nonce, hread⟩)
      · cases h
      · rw [if_pos hempty, hread, returned_ok, ok_bind, aeadSeal_of _ (rand.full hread), ok_bind]
        exact ⟨_, rfl⟩
  · have hne : iv ≠ [] := fun h => hempty (List.length_eq_zero_iff.mpr h)
    constructor
    · rintro ⟨ciphertext, h⟩
      simp only [if_neg hempty, bind_ok, reject_ok, not_not] at h
      obtain ⟨-, hnonce, -⟩ := h
      exact .inl hnonce
    · rintro (hnonce | ⟨h, -⟩)
      · rw [if_neg hempty, reject_bind (not_not.mpr hnonce), aeadSeal_of _ hnonce]
        exact ⟨_, rfl⟩
      · exact absurd h hne

/-- A mode that checks the length of its vector first and then cannot fail. -/
lemma checked_iv {iv : Bytes} {f : Unit → Result Bytes}
    (hf : iv.length = blockSize → ∃ ciphertext, f () = .ok ciphertext) :
    (∃ ciphertext, (reject (iv.length ≠ blockSize) e >>= f) = .ok ciphertext) ↔
      iv.length = blockSize := by
  constructor
  · rintro ⟨ciphertext, h⟩
    obtain ⟨_, hiv, -⟩ := bind_ok.mp h
    exact not_not.mp ((reject_ok _ _ _).mp hiv)
  · intro hiv
    rw [reject_bind (not_not.mpr hiv)]
    exact hf hiv

/-- With a key of the right length, only the vector or want of randomness makes it fail. -/
lemma encrypt_accepts (hkey : key.length = keySize) (plaintext : Bytes) (mode : Mode) (iv : Bytes) :
    (∃ ciphertext, encrypt P rand key plaintext mode iv = .ok ciphertext) ↔
      AcceptsIV rand mode iv := by
  have haligned : (plaintext ++ List.replicate (blockSize - plaintext.length % blockSize)
      (UInt8.ofNat (blockSize - plaintext.length % blockSize))).length % blockSize = 0 := by
    rw [List.length_append, List.length_replicate, aligned_pad _ (by decide)]
  cases mode with
  | ecb =>
    rw [encrypt, encryptECB, pkcs7Pad_eq plaintext (by decide), ok_bind, newCipher_ok hkey,
      returned_ok, ok_bind, blockLoop_eq _ haligned]
    exact ⟨fun _ => trivial, fun _ => ⟨_, rfl⟩⟩
  | cbc =>
    refine checked_iv fun hiv => ?_
    rw [pkcs7Pad_eq plaintext (by decide), ok_bind, newCBCEncrypter, newMode_of _ hiv hkey, ok_bind,
      cryptBlocks_eq _ haligned]
    exact ⟨_, rfl⟩
  | ctr =>
    refine checked_iv fun hiv => ?_
    rw [newCTR, newMode_of _ hiv hkey, ok_bind]
    exact ⟨_, rfl⟩
  | gcm => exact encryptGCM_accepts hkey plaintext iv
  | cfb =>
    refine checked_iv fun hiv => ?_
    rw [newCFBEncrypter, newMode_of _ hiv hkey, ok_bind]
    exact ⟨_, rfl⟩
  | other name =>
    constructor
    · rintro ⟨ciphertext, h⟩
      cases h
    · exact False.elim

lemma decrypt_of_encrypt (h : encrypt P rand key plaintext mode iv = .ok ciphertext) :
    decrypt P key ciphertext mode iv = .ok plaintext := by
  cases mode with
  | ecb => exact decryptECB_encryptECB h
  | cbc => exact decryptCBC_encryptCBC h
  | ctr => exact decryptCTR_encryptCTR h
  | gcm => exact decryptGCM_encryptGCM h
  | cfb => exact decryptCFB_encryptCFB h
  | other name => cases h

/-- With a key of sixteen octets every plaintext is encrypted exactly under the vectors that the
mode takes, decryption gives back what was encrypted, and it comes back for every input. -/
theorem modes_round_trip (P : Primitives) (rand : Reader String) (mode : Mode) (key iv : Bytes) :
    (key.length = 16 → ∀ plaintext, AcceptsIV rand mode iv ↔
      ∃ ciphertext, encrypt P rand key plaintext mode iv = .ok ciphertext ∧
        decrypt P key ciphertext mode iv = .ok plaintext) ∧
    ∀ ciphertext, Returns (decrypt P key ciphertext mode iv) := by
  constructor
  · intro hkey plaintext
    rw [← encrypt_accepts hkey plaintext mode iv]
    constructor
    · rintro ⟨ciphertext, h⟩
      exact ⟨ciphertext, h, decrypt_of_encrypt h⟩
    · rintro ⟨ciphertext, h, -⟩
      exact ⟨ciphertext, h⟩
  · intro ciphertext
    cases mode with
    | ecb => exact decryptECB_returns
    | cbc => exact decryptCBC_returns
    | ctr => exact decryptCTR_returns
    | gcm => exact decryptGCM_returns
    | cfb => exact decryptCFB_returns
    | other name => exact Returns.of_returned (.error "sm4: unsupported mode")

def samplePrimitives : Primitives where
  cipher _ := complement
  gcmSeal _ _ plaintext := plaintext ++ zeros gcmOverhead
  gcmOpen _ _ ciphertext :=
    if ciphertext.drop (ciphertext.length - gcmOverhead) = zeros gcmOverhead then
      some (ciphertext.take (ciphertext.length - gcmOverhead))
    else none
  gcmSeal_length _ _ plaintext := by rw [List.length_append, zeros_length]
  gcmOpen_gcmSeal _ _ plaintext := by
    have hlen : (plaintext ++ zeros gcmOverhead).length - gcmOverhead = plaintext.length := by
      rw [List.length_append, zeros_length, Nat.add_sub_cancel]
    rw [hlen, List.drop_left, if_pos rfl, List.take_left]

/-- A vector for each mode; GCM also draws one. -/
def sampleVectors : List (Mode × Bytes) :=
  [(.ecb, []), (.cbc, zeros 16), (.ctr, zeros 16), (.cfb, zeros 16), (.gcm, zeros 12), (.gcm, [])]

theorem modes_round_trip_sample : ∀ m ∈ sampleVectors, ∃ ciphertext,
    encrypt samplePrimitives zeroReader (zeros 16) [1, 2, 3, 4, 5] m.1 m.2 = .ok ciphertext ∧
      decrypt samplePrimitives (zeros 16) ciphertext m.1 m.2 = .ok [1, 2, 3, 4, 5] := by
  intro m hm
  have haccepts : AcceptsIV zeroReader m.1 m.2 := by
    simp only [sampleVectors, List.mem_cons, List.not_mem_nil, or_false] at hm
    rcases hm with rfl | rfl | rfl | rfl | rfl | rfl
    · trivial
    · rfl
    · rfl
    · rfl
    · exact .inl rfl
    · exact .inr ⟨rfl, zeros 12, rfl⟩
  exact ((modes_round_trip samplePrimitives zeroReader m.1 (zeros 16) m.2).1 rfl [1, 2, 3, 4, 5]).mp
    haccepts

end Pollux.Sm4
