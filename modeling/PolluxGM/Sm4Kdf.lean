import PolluxGM.Sm4

/-!
# Deriving keys

`DeriveKey` of `kdf.go`: the counter mode of a KDF over CMAC. The label and the context are told
apart by a zero octet between them.
-/
namespace Pollux.Sm4Kdf

open Modes Sm4

structure Mac where
  cipher : Bytes → BlockCipher blockSize
  mac : BlockCipher blockSize → Bytes → Bytes
  mac_length : ∀ block data, (mac block data).length = blockSize

structure Request where
  label : Bytes
  context : Bytes
  length : Int
  deriving DecidableEq

def maxDeriveKeyLength : Nat := 1024

variable (r : Request)

/-- `roundInput` before the first round, with a place for the counter. -/
def roundInput : Bytes :=
  let fixedInput := r.label ++ 0x00 :: r.context
  let lBits := be32 (r.length * 8).toNat
  zeros 4 ++ (fixedInput ++ lBits)

def roundInputs : List Nat → Bytes → List Bytes
  | [], _ => []
  | i :: is, buffer => (be32 i ++ buffer.drop 4) :: roundInputs is (be32 i ++ buffer.drop 4)

def cmacInputs : List Bytes :=
  roundInputs (List.range' 1 (rounds blockSize r.length.toNat)) (roundInput r)

section

variable (M : Mac)

def computeCMAC (key data : Bytes) : Except String Bytes := do
  let block ← newCipher M.cipher key
  return M.mac block data

def deriveKey (masterKey : Bytes) (r : Request) : Except String Bytes := do
  reject (masterKey.length ≠ keySize) "sm4/kdf: master key must be 16 bytes"
  reject (r.length ≤ 0) "sm4/kdf: length must be positive"
  reject (maxDeriveKeyLength < r.length)
    s!"sm4/kdf: length {r.length} exceeds maximum {maxDeriveKeyLength}"
  let result ← (cmacInputs r).mapM (computeCMAC M masterKey)
  return result.flatten.take r.length.toNat

end

def suffix : Bytes := r.label ++ 0x00 :: r.context ++ be32 (r.length * 8).toNat

def input (i : Nat) : Bytes := be32 i ++ suffix r

lemma roundInputs_eq (is : List Nat) (hfront : front.length = 4) (rest : Bytes) :
    roundInputs is (front ++ rest) = is.map fun i => be32 i ++ rest := by
  induction is generalizing front with
  | nil => rfl
  | cons i is ih => rw [roundInputs, List.drop_left' hfront, ih (be32_length i), List.map_cons]

lemma cmacInputs_eq :
    cmacInputs r = (List.range' 1 (rounds blockSize r.length.toNat)).map (input r) :=
  roundInputs_eq _ (zeros_length 4) _

structure Accepted (masterKey : Bytes) (r : Request) : Prop where
  key : masterKey.length = keySize
  pos : 0 < r.length
  max : r.length ≤ maxDeriveKeyLength

variable {M : Mac} {masterKey : Bytes} {r r₁ r₂ : Request}

lemma deriveKey_ok :
    deriveKey M masterKey r = .ok key ↔ Accepted masterKey r ∧
      ((cmacInputs r).map (M.mac (M.cipher masterKey))).flatten.take r.length.toNat = key := by
  have hmac (hkey : masterKey.length = keySize) :
      (cmacInputs r).mapM (computeCMAC M masterKey) =
        .ok ((cmacInputs r).map (M.mac (M.cipher masterKey))) := by
    apply mapM_of_ok
    intro x _
    rw [computeCMAC, newCipher_ok hkey]
    rfl
  constructor
  · intro h
    simp only [deriveKey, bind_ok, reject_ok, not_not, pure_inj] at h
    obtain ⟨-, hkey, -, hpos, -, hmax, blocks, hblocks, hresult⟩ := h
    rw [hmac hkey, Except.ok.injEq] at hblocks
    subst hblocks
    exact ⟨⟨hkey, Int.not_le.mp hpos, Int.not_lt.mp hmax⟩, hresult⟩
  · rintro ⟨⟨hkey, hpos, hmax⟩, rfl⟩
    rw [deriveKey, reject_bind (not_not.mpr hkey), reject_bind (Int.not_le.mpr hpos),
      reject_bind (Int.not_lt.mpr hmax), hmac hkey]
    rfl

def cmacBlocks (M : Mac) (masterKey : Bytes) (r : Request) (N : Nat) : List Bytes :=
  (List.range' 1 N).map fun i => M.mac (M.cipher masterKey) (input r i)

lemma cmacBlocks_length (N : Nat) : (cmacBlocks M masterKey r N).flatten.length = 16 * N := by
  have hsizes : (cmacBlocks M masterKey r N).map List.length = List.replicate N 16 := by
    rw [cmacBlocks, List.map_map]
    refine List.eq_replicate_iff.mpr ⟨by rw [List.length_map, List.length_range'], ?_⟩
    intro size hsize
    obtain ⟨i, -, rfl⟩ := List.mem_map.mp hsize
    exact M.mac_length _ _
  rw [List.length_flatten, hsizes, List.sum_replicate_nat, Nat.mul_comm]

lemma cmacBlocks_take (hn : n ≤ N) (hlen : len ≤ 16 * n) :
    (cmacBlocks M masterKey r N).flatten.take len =
      (cmacBlocks M masterKey r n).flatten.take len := by
  have hsplit : List.range' 1 N = List.range' 1 n ++ List.range' (1 + n) (N - n) := by
    rw [List.range'_append_1, Nat.add_sub_of_le hn]
  rw [cmacBlocks, hsplit, List.map_append, List.flatten_append, List.take_append_of_le_length]
  · rfl
  · exact hlen.trans_eq (cmacBlocks_length n).symm

lemma deriveKey_blocks (h : deriveKey M masterKey r = .ok key) :
    key.length = r.length.toNat ∧
      ∀ N : Nat, r.length ≤ 16 * N → key =
        (cmacBlocks M masterKey r N).flatten.take r.length.toNat := by
  obtain ⟨⟨-, hpos, -⟩, hkey⟩ := deriveKey_ok.mp h
  have hrounds : rounds blockSize r.length.toNat = (r.length.toNat + 16 - 1) / 16 := rfl
  rw [cmacInputs_eq, List.map_map, hrounds] at hkey
  change (cmacBlocks M masterKey r _).flatten.take _ = key at hkey
  constructor
  · rw [← hkey, List.length_take, cmacBlocks_length]
    omega
  · intro N hN
    rw [← hkey]
    exact (cmacBlocks_take (by omega) (by omega)).symm

/-- The zero octet behind one label is an octet of the other. -/
def Shifted (a b : Request) : Prop :=
  ∃ s, b.label = a.label ++ 0x00 :: s ∧ a.context = s ++ 0x00 :: b.context

/-- Requests that differ only in where the separator is taken to be. -/
def Confusable (a b : Request) : Prop := a.length = b.length ∧ (Shifted a b ∨ Shifted b a)

lemma Shifted.fixedInput (h : Shifted a b) :
    a.label ++ 0x00 :: a.context = b.label ++ 0x00 :: b.context := by
  obtain ⟨s, hlabel, hcontext⟩ := h
  rw [hlabel, hcontext, List.append_assoc, List.cons_append]

lemma shifted_of_longer {a b : Request} {t : Bytes} (hlabel : b.label = a.label ++ t)
    (hrest : 0x00 :: a.context = t ++ 0x00 :: b.context) :
    (b.label = a.label ∧ a.context = b.context) ∨ Shifted a b := by
  cases t with
  | nil =>
    rw [List.append_nil] at hlabel
    exact .inl ⟨hlabel, (List.cons.inj hrest).2⟩
  | cons x s =>
    obtain ⟨rfl, hcontext⟩ := List.cons.inj hrest
    exact .inr ⟨s, hlabel, hcontext⟩

lemma fixedInput_eq (hlen : a.length = b.length) (hne : a ≠ b) :
    a.label ++ 0x00 :: a.context = b.label ++ 0x00 :: b.context ↔ Shifted a b ∨ Shifted b a := by
  have hdiffer : ¬ (a.label = b.label ∧ a.context = b.context) := by
    rintro ⟨hlabel, hcontext⟩
    apply hne
    cases a
    cases b
    simp only at hlabel hcontext hlen
    rw [hlabel, hcontext, hlen]
  constructor
  · intro h
    rcases List.append_eq_append_iff.mp h with ⟨t, hlabel, hrest⟩ | ⟨t, hlabel, hrest⟩
    · rcases shifted_of_longer hlabel hrest with ⟨hsame, hcontext⟩ | hshift
      · exact absurd ⟨hsame.symm, hcontext⟩ hdiffer
      · exact .inl hshift
    · rcases shifted_of_longer hlabel hrest with ⟨hsame, hcontext⟩ | hshift
      · exact absurd ⟨hsame, hcontext.symm⟩ hdiffer
      · exact .inr hshift
  · rintro (h | h)
    · exact h.fixedInput
    · exact h.fixedInput.symm

lemma suffix_eq (h₁ : Accepted masterKey r₁) (h₂ : Accepted masterKey r₂) :
    suffix r₁ = suffix r₂ ↔
      r₁.length = r₂.length ∧ r₁.label ++ 0x00 :: r₁.context = r₂.label ++ 0x00 :: r₂.context := by
  have hmax₁ : r₁.length ≤ 1024 := h₁.max
  have hmax₂ : r₂.length ≤ 1024 := h₂.max
  have hpos₁ := h₁.pos
  have hpos₂ := h₂.pos
  constructor
  · intro h
    have hvalue := be32_inj (by omega) (by omega) (List.append_inj_right' h rfl)
    exact ⟨by omega, List.append_inj_left' h rfl⟩
  · rintro ⟨hlen, hfixed⟩
    rw [suffix, suffix, hlen, hfixed]

lemma mem_cmacInputs (h : Accepted masterKey r) (hx : x ∈ cmacInputs r) :
    ∃ i < 4294967296, x = input r i := by
  have hmax : r.length ≤ 1024 := h.max
  have hrounds : rounds blockSize r.length.toNat = (r.length.toNat + 16 - 1) / 16 := rfl
  rw [cmacInputs_eq] at hx
  obtain ⟨i, hi, rfl⟩ := List.mem_map.mp hx
  rw [List.mem_range'_1, hrounds] at hi
  exact ⟨i, by omega, rfl⟩

lemma first_mem_cmacInputs (h : Accepted masterKey r) : input r 1 ∈ cmacInputs r := by
  have hpos := h.pos
  have hrounds : rounds blockSize r.length.toNat = (r.length.toNat + 16 - 1) / 16 := rfl
  rw [cmacInputs_eq]
  exact List.mem_map_of_mem (List.mem_range'_1.mpr ⟨Nat.le_refl 1, by omega⟩)

/-- Requests that differ share an input exactly if confusable, and then the first one. -/
lemma disjoint_iff (h₁ : Accepted masterKey r₁) (h₂ : Accepted masterKey r₂) (hne : r₁ ≠ r₂) :
    (∀ x ∈ cmacInputs r₁, x ∉ cmacInputs r₂) ↔ ¬ Confusable r₁ r₂ := by
  constructor
  · rintro hdisjoint ⟨hlen, hshift⟩
    have hsuffix := (suffix_eq h₁ h₂).mpr ⟨hlen, (fixedInput_eq hlen hne).mpr hshift⟩
    have hsame : input r₁ 1 = input r₂ 1 := by rw [input, hsuffix, input]
    exact hdisjoint _ (first_mem_cmacInputs h₁) (hsame ▸ first_mem_cmacInputs h₂)
  · intro hconfusable x hx₁ hx₂
    obtain ⟨i, hi, rfl⟩ := mem_cmacInputs h₁ hx₁
    obtain ⟨j, hj, hsame⟩ := mem_cmacInputs h₂ hx₂
    obtain ⟨hlen, hfixed⟩ := (suffix_eq h₁ h₂).mp (List.append_inj_right hsame rfl)
    exact hconfusable ⟨hlen, (fixedInput_eq hlen hne).mp hfixed⟩

lemma not_confusable (h₁ : 0x00 ∉ r₁.label) (h₂ : 0x00 ∉ r₂.label) : ¬ Confusable r₁ r₂ := by
  rintro ⟨-, ⟨s, hlabel, -⟩ | ⟨s, hlabel, -⟩⟩
  · exact h₂ (hlabel ▸ List.mem_append_right _ List.mem_cons_self)
  · exact h₁ (hlabel ▸ List.mem_append_right _ List.mem_cons_self)

/-- The rounds for two requests have no input in common, unless a zero octet in the label of one
of them can be taken for the separator of the other. -/
theorem deriveKey_separated (M : Mac) (masterKey : Bytes) (r₁ r₂ : Request) (hne : r₁ ≠ r₂)
    (key₁ key₂ : Bytes) (h₁ : deriveKey M masterKey r₁ = .ok key₁)
    (h₂ : deriveKey M masterKey r₂ = .ok key₂) :
    ((∀ x ∈ cmacInputs r₁, x ∉ cmacInputs r₂) ↔ ¬ Confusable r₁ r₂) ∧
    key₁.length = r₁.length.toNat ∧
      ∀ N : Nat, r₁.length ≤ 16 * N → key₁ =
        (cmacBlocks M masterKey r₁ N).flatten.take r₁.length.toNat :=
  ⟨disjoint_iff (deriveKey_ok.mp h₁).1 (deriveKey_ok.mp h₂).1 hne, deriveKey_blocks h₁⟩

def sampleMac : Mac where
  cipher _ := complement
  mac _ data := List.replicate blockSize (UInt8.ofNat data.length)
  mac_length _ _ := List.length_replicate

theorem deriveKey_separated_sample :
    deriveKey sampleMac (zeros 16) ⟨[1], [2], 8⟩ = .ok (List.replicate 8 11) ∧
      ∀ x ∈ cmacInputs ⟨[1], [2], 8⟩, x ∉ cmacInputs ⟨[1], [2], 9⟩ :=
  ⟨by decide +kernel, (deriveKey_separated sampleMac (zeros 16) ⟨[1], [2], 8⟩ ⟨[1], [2], 9⟩
    (by decide) (List.replicate 8 11) (List.replicate 9 11) (by decide +kernel) (by decide +kernel)).1.mpr
      (not_confusable (by simp) (by simp))⟩

/-- The label 01 with the context 00 02, and the label 01 00 with the context 02. -/
theorem shared_input :
    cmacInputs ⟨[1], [0, 2], 16⟩ = cmacInputs ⟨[1, 0], [2], 16⟩ ∧
      deriveKey sampleMac (zeros 16) ⟨[1], [0, 2], 16⟩ =
        deriveKey sampleMac (zeros 16) ⟨[1, 0], [2], 16⟩ ∧
      ∃ key, deriveKey sampleMac (zeros 16) ⟨[1], [0, 2], 16⟩ = .ok key :=
  ⟨by decide +kernel, by decide +kernel, List.replicate 16 12, by decide +kernel⟩

end Pollux.Sm4Kdf
