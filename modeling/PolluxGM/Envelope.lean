import PolluxGM.Sm4Modes

/-!
# Envelopes of SM2 and SM4

`EnvelopeEncryptSM4` and `EnvelopeDecryptSM4` of `envelope.go`: a fresh SM4 key encrypted
with SM2, and a text sealed with GCM under it. Opening takes its nonce from the envelope.
-/
namespace Pollux.Sm2Envelope

open Access Sm4

/-- SM2 encryption. A seed stands for what it draws; decryption takes it back under the matching
key, and may give anything for other ciphertexts. -/
structure Sm2 (PrivateKey PublicKey Seed : Type) where
  publicKey : PrivateKey → PublicKey
  encryptASN1 : Seed → PublicKey → Bytes → Except String Bytes
  decrypt : PrivateKey → Bytes → Except String Bytes
  decrypt_encryptASN1 : ∀ {seed priv msg c}, encryptASN1 seed (publicKey priv) msg = .ok c →
    decrypt priv c = .ok msg

structure Envelope where
  encryptedKey : Bytes
  nonce : Bytes
  ciphertext : Bytes

structure Draws (Seed : Type) where
  key : Reader String
  seed : Seed
  nonce : Reader String

variable {PrivateKey PublicKey Seed : Type}

def errDecryptFailed : String := "sm2: decryption failed"

section

variable (S : Sm2 PrivateKey PublicKey Seed) (P : Primitives)

def generateKey (rand : Reader String) : Except String Bytes :=
  (rand.read keySize).mapError fun e => "sm4: failed to generate key: " ++ e

def envelopeEncryptSM4 (draws : Draws Seed) (pub : Option PublicKey) (plaintext : Bytes) :
    Result Envelope := do
  let pub ← need (.err "sm2: nil public key") pub
  let sm4Key ← returned (generateKey draws.key)
  let encryptedKey ← returned (S.encryptASN1 draws.seed pub sm4Key)
  let aead ← newGCM P sm4Key
  let nonce ← returned (draws.nonce.read gcmNonceSize)
  let ciphertext ← aeadSeal P aead nonce plaintext
  return ⟨encryptedKey, nonce, ciphertext⟩

def envelopeDecryptSM4 (priv : Option PrivateKey) (env : Envelope) : Result Bytes := do
  let priv ← need (.err "sm2: nil private key") priv
  let sm4Key ← failAs errDecryptFailed (returned (S.decrypt priv env.encryptedKey))
  let aead ← failAs errDecryptFailed (newGCM P sm4Key)
  failAs errDecryptFailed (aeadOpen P aead env.nonce env.ciphertext)

end

/-- GCM opens nothing but what it sealed. -/
def Authentic (P : Primitives) : Prop :=
  ∀ {key nonce ciphertext plaintext}, P.gcmOpen key nonce ciphertext = some plaintext →
    P.gcmSeal key nonce plaintext = ciphertext

/-- The text sealed to this ciphertext under this nonce and the key carried. -/
def Sealed (S : Sm2 PrivateKey PublicKey Seed) (P : Primitives) (priv : PrivateKey) (env : Envelope)
    (plaintext : Bytes) : Prop :=
  ∃ sm4Key, S.decrypt priv env.encryptedKey = .ok sm4Key ∧ newGCM P sm4Key = .ok sm4Key ∧
    aeadSeal P sm4Key env.nonce plaintext = .ok env.ciphertext

def CarriesKey (S : Sm2 PrivateKey PublicKey Seed) (priv : PrivateKey) (env : Envelope) : Prop :=
  ∃ sm4Key, S.decrypt priv env.encryptedKey = .ok sm4Key ∧ sm4Key.length = keySize

variable {S : Sm2 PrivateKey PublicKey Seed} {P : Primitives} {priv : PrivateKey} {env : Envelope}

lemma decrypt_without_key (h : ¬ CarriesKey S priv env) :
    envelopeDecryptSM4 S P (some priv) env = .error (.err errDecryptFailed) := by
  rw [envelopeDecryptSM4, need_some, ok_bind]
  cases hkey : S.decrypt priv env.encryptedKey with
  | error e => rfl
  | ok sm4Key =>
    have hsize : sm4Key.length ≠ keySize := fun hsize => h ⟨sm4Key, hkey, hsize⟩
    have hcipher : newCipher P.cipher sm4Key =
      .error s!"sm4: invalid key size {sm4Key.length}" := by
      rw [newCipher, reject, if_pos hsize]
      rfl
    rw [returned_ok, failAs_ok, ok_bind, newGCM, hcipher]
    rfl

lemma decrypt_with_key (hkey : S.decrypt priv env.encryptedKey = .ok sm4Key)
    (hsize : sm4Key.length = keySize) :
    envelopeDecryptSM4 S P (some priv) env =
      failAs errDecryptFailed (aeadOpen P sm4Key env.nonce env.ciphertext) := by
  rw [envelopeDecryptSM4, need_some, ok_bind, hkey, returned_ok, failAs_ok, ok_bind,
    newGCM_of hsize, failAs_ok, ok_bind]

lemma aeadOpen_panics (h : nonce.length ≠ gcmNonceSize) :
    aeadOpen P aead nonce ciphertext =
      .error (.panicked "crypto/cipher: incorrect nonce length given to GCM") := by
  rw [aeadOpen, reject, if_pos h]
  rfl

lemma aeadOpen_of (h : nonce.length = gcmNonceSize) :
    aeadOpen P aead nonce ciphertext = need (.err "cipher: message authentication failed")
      (P.gcmOpen aead nonce ciphertext) := by
  rw [aeadOpen, reject_bind (not_not.mpr h)]

lemma decrypt_opens (hauth : Authentic P) (hkey : S.decrypt priv env.encryptedKey = .ok sm4Key)
    (hsize : sm4Key.length = keySize) (hnonce : env.nonce.length = gcmNonceSize) :
    (∃ plaintext, envelopeDecryptSM4 S P (some priv) env = .ok plaintext ∧
      Sealed S P priv env plaintext) ∨
      envelopeDecryptSM4 S P (some priv) env = .error (.err errDecryptFailed) := by
  rw [decrypt_with_key hkey hsize, aeadOpen_of hnonce]
  cases hopen : P.gcmOpen sm4Key env.nonce env.ciphertext with
  | none => exact .inr rfl
  | some plaintext =>
    refine .inl ⟨plaintext, rfl, sm4Key, hkey, newGCM_of hsize, ?_⟩
    rw [aeadSeal_of _ hnonce, hauth hopen]

lemma decrypt_encrypt
    (h : envelopeEncryptSM4 S P draws (some (S.publicKey priv)) plaintext = .ok env) :
    envelopeDecryptSM4 S P (some priv) env = .ok plaintext := by
  simp only [envelopeEncryptSM4, need_some, ok_bind, bind_ok, returned, mapError_ok, pure_inj] at h
  obtain ⟨sm4Key, hgen, encryptedKey, henc, aead, haead, nonce, -, ciphertext, hseal, rfl⟩ := h
  obtain ⟨rfl, -⟩ := newGCM_ok haead
  simp only [generateKey, mapError_ok] at hgen
  rw [decrypt_with_key (S.decrypt_encryptASN1 henc) (draws.key.full hgen),
    (aeadSeal_ok hseal).2.2, failAs_ok]

/-- Opening gives what was sealed, or the one error, exactly when the nonce has the length of GCM
or no key is carried; in the other cases it panics. -/
theorem envelopeDecryptSM4_total_iff (S : Sm2 PrivateKey PublicKey Seed) (P : Primitives)
    (hauth : Authentic P) (priv : PrivateKey) (env : Envelope) :
    (((∃ plaintext, envelopeDecryptSM4 S P (some priv) env = .ok plaintext ∧
      Sealed S P priv env plaintext) ∨
        envelopeDecryptSM4 S P (some priv) env = .error (.err errDecryptFailed)) ↔
      env.nonce.length = gcmNonceSize ∨ ¬ CarriesKey S priv env) ∧
    ∀ draws plaintext, envelopeEncryptSM4 S P draws (some (S.publicKey priv)) plaintext = .ok env →
      envelopeDecryptSM4 S P (some priv) env = .ok plaintext := by
  refine ⟨?_, fun draws plaintext => decrypt_encrypt⟩
  by_cases hcarries : CarriesKey S priv env
  · obtain ⟨sm4Key, hkey, hsize⟩ := hcarries
    by_cases hnonce : env.nonce.length = gcmNonceSize
    · exact ⟨fun _ => .inl hnonce, fun _ => decrypt_opens hauth hkey hsize hnonce⟩
    · have hpanics := decrypt_with_key (P := P) hkey hsize
      rw [aeadOpen_panics hnonce, failAs_panicked] at hpanics
      rw [hpanics]
      constructor
      · rintro (⟨plaintext, h, -⟩ | h) <;> cases h
      · rintro (h | h)
        · exact absurd h hnonce
        · exact absurd ⟨sm4Key, hkey, hsize⟩ h
  · exact ⟨fun _ => .inr hcarries, fun _ => .inr (decrypt_without_key hcarries)⟩

def sampleSm2 : Sm2 Unit Unit Unit where
  publicKey := id
  encryptASN1 _ _ msg := .ok msg
  decrypt _ c := .ok c
  decrypt_encryptASN1 h := by rw [Except.ok.inj h]

lemma samplePrimitives_authentic : Authentic samplePrimitives := by
  intro key nonce ciphertext plaintext h
  simp only [samplePrimitives, Option.ite_none_right_eq_some, Option.some.injEq] at h
  obtain ⟨htag, rfl⟩ := h
  change ciphertext.take _ ++ zeros gcmOverhead = ciphertext
  rw [← htag, List.take_append_drop]

theorem envelopeDecryptSM4_total_iff_sample :
    Authentic samplePrimitives ∧
      envelopeDecryptSM4 sampleSm2 samplePrimitives (some ())
        ⟨zeros 16, zeros 12, [7] ++ zeros 16⟩ = .ok [7] :=
  ⟨samplePrimitives_authentic,
    (envelopeDecryptSM4_total_iff sampleSm2 samplePrimitives samplePrimitives_authentic () _).2
      ⟨zeroReader, (), zeroReader⟩ [7] rfl⟩

/-- A key is carried, and the nonce is missing. -/
theorem short_nonce_panics :
    envelopeDecryptSM4 sampleSm2 samplePrimitives (some ()) ⟨zeros 16, [], [7] ++ zeros 16⟩ =
      .error (.panicked "crypto/cipher: incorrect nonce length given to GCM") := rfl

end Pollux.Sm2Envelope
