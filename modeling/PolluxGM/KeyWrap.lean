import Mathlib.Data.List.GetD
import PolluxGM.Reversal
import PolluxGM.Sm4

/-!
# Wrapping keys

`KeyWrap` and `KeyUnwrap` of `keywrap.go`. The register and the semiblocks go through two
nested loops, and the number of the step is mixed into the register.
-/
namespace Pollux.KeyWrap

open Modes Sm4

def uint64 (b : Bytes) : UInt64 :=
  match u32 b with
  | none => 0
  | some (high, rest) =>
    match u32 rest with
    | none => 0
    | some (low, _) => UInt64.ofNat (high * 4294967296 + low)

def putUint64 (x : UInt64) : Bytes := be32 (x.toNat / 4294967296) ++ be32 (x.toNat % 4294967296)

lemma putUint64_length (x : UInt64) : (putUint64 x).length = 8 := rfl

lemma uint64_putUint64 (x : UInt64) : uint64 (putUint64 x) = x := by
  have hx := x.toNat_lt
  have hlow := u32_be32 (x.toNat % 4294967296) (by omega) []
  rw [List.append_nil] at hlow
  rw [uint64, putUint64, u32_be32 _ (by omega)]
  change (match u32 (be32 (x.toNat % 4294967296)) with
    | none => 0
    | some (low, _) => UInt64.ofNat (x.toNat / 4294967296 * 4294967296 + low)) = x
  rw [hlow]
  change UInt64.ofNat (x.toNat / 4294967296 * 4294967296 + x.toNat % 4294967296) = x
  rw [Nat.mul_comm, Nat.div_add_mod, UInt64.ofNat_toNat]

variable {b : Bytes}

/-- Eight octets are the octets of a number. -/
lemma exists_putUint64 (hb : b.length = 8) : ∃ x, b = putUint64 x := by
  match b, hb with
  | [a₁, a₂, a₃, a₄, b₁, b₂, b₃, b₄], _ =>
    obtain ⟨hhigh, hhigh'⟩ := u32_some (b := [a₁, a₂, a₃, a₄]) rfl
    obtain ⟨hlow, hlow'⟩ := u32_some (b := [b₁, b₂, b₃, b₄]) rfl
    generalize a₁.toNat * 16777216 + a₂.toNat * 65536 + a₃.toNat * 256 + a₄.toNat =
      high at hhigh hhigh'
    generalize b₁.toNat * 16777216 + b₂.toNat * 65536 + b₃.toNat * 256 + b₄.toNat =
      low at hlow hlow'
    refine ⟨UInt64.ofNat (high * 4294967296 + low), ?_⟩
    have hvalue : (UInt64.ofNat (high * 4294967296 + low)).toNat = high * 4294967296 + low := by
      rw [UInt64.toNat_ofNat']
      exact Nat.mod_eq_of_lt (by omega)
    have hdiv : (high * 4294967296 + low) / 4294967296 = high := by omega
    have hmod : (high * 4294967296 + low) % 4294967296 = low := by omega
    rw [List.append_nil] at hhigh hlow
    rw [putUint64, hvalue, hdiv, hmod, ← hhigh, ← hlow]
    rfl

def mix (A : Bytes) (t : UInt64) : Bytes := putUint64 (uint64 A ^^^ t)

variable {A : Bytes}

lemma mix_mix (hA : A.length = 8) (t : UInt64) : mix (mix A t) t = A := by
  obtain ⟨x, rfl⟩ := exists_putUint64 hA
  rw [mix, mix, uint64_putUint64, uint64_putUint64, UInt64.xor_assoc, UInt64.xor_self,
    UInt64.xor_zero]

/-- `R` holds the semiblocks from number one on. -/
structure Registers where
  A : Bytes
  R : List Bytes

def keyWrapIV : Bytes := List.replicate 8 0xA6

section

variable (c : BlockCipher blockSize) (n : Nat)

def counter (j i : Nat) : UInt64 := UInt64.ofNat (n * j + i)

def wrapStep (j i : Nat) (s : Registers) : Registers :=
  let output := c.encrypt (s.A ++ s.R.getD (i - 1) [])
  ⟨mix (output.take 8) (counter n j i), s.R.set (i - 1) (output.drop 8)⟩

def unwrapStep (j i : Nat) (s : Registers) : Registers :=
  let output := c.decrypt (mix s.A (counter n j i) ++ s.R.getD (i - 1) [])
  ⟨output.take 8, s.R.set (i - 1) (output.drop 8)⟩

def wrapLoop (s : Registers) : Registers :=
  loop (fun j => loop (wrapStep c n j) (List.range' 1 n)) (List.range 6) s

def unwrapLoop (s : Registers) : Registers :=
  loop (fun j => loop (unwrapStep c n j) (List.range' 1 n).reverse) (List.range 6).reverse s

end

def semiblocks (n : Nat) (b : Bytes) : List Bytes :=
  (List.range n).map fun i => (b.drop (8 * i)).take 8

section

variable (E : Bytes → BlockCipher blockSize)

def keyWrap (kek plaintextKey : Bytes) : Except String Bytes := do
  reject (kek.length ≠ keySize) "sm4/keywrap: KEK must be 16 bytes"
  reject (plaintextKey.length % 8 ≠ 0 ∨ plaintextKey.length < 16)
    "sm4/keywrap: plaintext key must be a multiple of 8 bytes and at least 16 bytes"
  let block ← newCipher E kek
  let n := plaintextKey.length / 8
  let s := wrapLoop block n ⟨keyWrapIV, semiblocks n plaintextKey⟩
  return s.A ++ s.R.flatten

def keyUnwrap (kek ciphertext : Bytes) : Except String Bytes := do
  reject (kek.length ≠ keySize) "sm4/keywrap: KEK must be 16 bytes"
  reject (ciphertext.length % 8 ≠ 0 ∨ ciphertext.length < 24)
    "sm4/keywrap: ciphertext must be a multiple of 8 bytes and at least 24 bytes"
  let block ← newCipher E kek
  let n := (ciphertext.length - 8) / 8
  let s := unwrapLoop block n ⟨ciphertext.take 8, semiblocks n (ciphertext.drop 8)⟩
  reject (s.A ≠ keyWrapIV) "sm4/keywrap: integrity check failed"
  return s.R.flatten

end

structure Shaped (n : Nat) (s : Registers) : Prop where
  register : s.A.length = 8
  count : s.R.length = n
  semiblock : ∀ r ∈ s.R, r.length = 8

variable {c : BlockCipher blockSize} {n : Nat} {s : Registers}

variable {k : Nat}

lemma Shaped.getD (h : Shaped n s) (hk : k < n) : (s.R.getD k []).length = 8 := by
  rw [List.getD_eq_getElem _ _ (by rw [h.count]; exact hk)]
  exact h.semiblock _ (List.getElem_mem _)

variable {output : Bytes}

lemma Shaped.set (h : Shaped n s) (k : Nat) (hA : A.length = 8) (hout : output.length = blockSize) :
    Shaped n ⟨A, s.R.set k (output.drop 8)⟩ where
  register := hA
  count := by rw [List.length_set, h.count]
  semiblock r hr := by
    rcases List.mem_or_eq_of_mem_set hr with hold | rfl
    · exact h.semiblock r hold
    · rw [List.length_drop, hout]
      rfl

lemma halves_length (hout : output.length = blockSize) : (output.take 8).length = 8 := by
  rw [List.length_take, hout]
  rfl

lemma Shaped.input (h : Shaped n s) (hk : k < n) (hA : A.length = 8) :
    (A ++ s.R.getD k []).length = blockSize := by
  rw [List.length_append, hA, h.getD hk]

variable {R : List Bytes}

lemma set_set_getD (hk : k < R.length) (x : Bytes) : (R.set k x).set k (R.getD k []) = R := by
  rw [List.set_set, List.getD_eq_getElem _ _ hk, List.set_getElem_self]

lemma getD_set (hk : k < R.length) (x : Bytes) : (R.set k x).getD k [] = x := by
  rw [List.getD_eq_getElem?_getD, List.getElem?_set_self hk, Option.getD_some]

variable {i : Nat}

lemma wrapStep_undone (j : Nat) (hi : i ∈ List.range' 1 n) :
    Undone (Shaped n) (wrapStep c n j i) (unwrapStep c n j i) := by
  have hk : i - 1 < n := by
    rw [List.mem_range'_1] at hi
    omega
  constructor
  · intro s hs
    exact hs.set (i - 1) (putUint64_length _) (c.encrypt_length (hs.input hk hs.register))
  · intro s hs
    have hin := hs.input hk hs.register
    have hout := c.encrypt_length hin
    have hlt : i - 1 < s.R.length := by rw [hs.count]; exact hk
    rw [wrapStep, unwrapStep]
    dsimp only
    rw [mix_mix (halves_length hout), getD_set hlt, List.take_append_drop, c.decrypt_encrypt hin,
      List.take_left' hs.register, List.drop_left' hs.register, set_set_getD hlt]

lemma unwrapStep_undone (j : Nat) (hi : i ∈ List.range' 1 n) :
    Undone (Shaped n) (unwrapStep c n j i) (wrapStep c n j i) := by
  have hk : i - 1 < n := by
    rw [List.mem_range'_1] at hi
    omega
  constructor
  · intro s hs
    have hout := c.decrypt_length (hs.input hk (putUint64_length (uint64 s.A ^^^ counter n j i)))
    exact hs.set (i - 1) (halves_length hout) hout
  · intro s hs
    have hmix : (mix s.A (counter n j i)).length = 8 := putUint64_length _
    have hin := hs.input hk hmix
    have hlt : i - 1 < s.R.length := by rw [hs.count]; exact hk
    rw [wrapStep, unwrapStep]
    dsimp only
    rw [getD_set hlt, List.take_append_drop, c.encrypt_decrypt hin, List.take_left' hmix,
      List.drop_left' hmix, mix_mix hs.register, set_set_getD hlt]

lemma wrapLoop_undone : Undone (Shaped n) (wrapLoop c n) (unwrapLoop c n) :=
  Undone.loop fun j _ => Undone.loop fun _ hi => wrapStep_undone j hi

lemma unwrapLoop_undone : Undone (Shaped n) (unwrapLoop c n) (wrapLoop c n) :=
  Undone.loop_reverse fun j _ => Undone.loop_reverse fun _ hi => unwrapStep_undone j hi

lemma semiblocks_eq_cut (hb : b.length = 8 * n) : semiblocks n b = cut 8 b := by
  have hrounds : rounds 8 b.length = n := by
    rw [rounds, hb]
    omega
  rw [cut_eq_range (by decide), hrounds, semiblocks]

lemma shaped_semiblocks (hA : A.length = 8) (hb : b.length = 8 * n) :
    Shaped n ⟨A, semiblocks n b⟩ where
  register := hA
  count := by rw [semiblocks, List.length_map, List.length_range]
  semiblock := by
    rw [semiblocks_eq_cut hb]
    exact length_of_mem_cut (by decide) b (by omega)

lemma flatten_semiblocks (hb : b.length = 8 * n) : (semiblocks n b).flatten = b := by
  rw [semiblocks_eq_cut hb, flatten_cut (by decide)]

lemma Shaped.flatten_length (h : Shaped n s) : s.R.flatten.length = 8 * n := by
  have hsum : (s.R.map List.length).sum = s.R.length * 8 := by
    rw [List.map_congr_left h.semiblock, List.map_const', List.sum_replicate_nat]
  rw [List.length_flatten, hsum, h.count, Nat.mul_comm]

lemma Shaped.semiblocks_flatten (h : Shaped n s) : semiblocks n s.R.flatten = s.R := by
  rw [semiblocks_eq_cut h.flatten_length, cut_blocks (by decide) h.semiblock]

variable {E : Bytes → BlockCipher blockSize} {kek : Bytes}

variable {key : Bytes}

lemma keyWrap_eq (hkek : kek.length = keySize) (hkey : key.length = 8 * n) (hn : 2 ≤ n) :
    keyWrap E kek key = .ok ((wrapLoop (E kek) n ⟨keyWrapIV, semiblocks n key⟩).A ++
      (wrapLoop (E kek) n ⟨keyWrapIV, semiblocks n key⟩).R.flatten) := by
  have hcount : key.length / 8 = n := by omega
  rw [keyWrap, reject_bind (by rw [hkek]; decide), reject_neg (by omega), ok_bind,
    newCipher_ok hkek, ok_bind, hcount]
  rfl

variable {ciphertext : Bytes}

lemma keyUnwrap_eq (hkek : kek.length = keySize) (hlen : ciphertext.length = 8 + 8 * n) (hn : 2 ≤ n)
    (hs : unwrapLoop (E kek) n ⟨ciphertext.take 8, semiblocks n (ciphertext.drop 8)⟩ = s) :
    keyUnwrap E kek ciphertext =
      (reject (s.A ≠ keyWrapIV) "sm4/keywrap: integrity check failed" >>= fun _ =>
        .ok s.R.flatten) := by
  have hcount : (ciphertext.length - 8) / 8 = n := by omega
  rw [keyUnwrap, reject_bind (by rw [hkek]; decide), reject_neg (by omega), ok_bind,
    newCipher_ok hkek, ok_bind, hcount]
  dsimp only
  rw [hs]
  rfl

lemma keyUnwrap_length (h : keyUnwrap E kek ciphertext = .ok key) :
    ∃ n, ciphertext.length = 8 + 8 * n ∧ 2 ≤ n := by
  simp only [keyUnwrap, bind_ok, reject_ok] at h
  obtain ⟨-, -, -, hlen, -⟩ := h
  exact ⟨(ciphertext.length - 8) / 8, by omega, by omega⟩

lemma keyUnwrap_wrapped (hkek : kek.length = keySize) (hkey : key.length = 8 * n) (hn : 2 ≤ n)
    (hs : wrapLoop (E kek) n ⟨keyWrapIV, semiblocks n key⟩ = s) :
    keyUnwrap E kek (s.A ++ s.R.flatten) = .ok key := by
  have hstart : Shaped n ⟨keyWrapIV, semiblocks n key⟩ := shaped_semiblocks rfl hkey
  have hshape : Shaped n s := hs ▸ wrapLoop_undone.keeps hstart
  have hback : unwrapLoop (E kek) n s = ⟨keyWrapIV, semiblocks n key⟩ :=
    hs ▸ wrapLoop_undone.undo hstart
  have hlen : (s.A ++ s.R.flatten).length = 8 + 8 * n := by
    rw [List.length_append, hshape.register, hshape.flatten_length]
  rw [keyUnwrap_eq hkek hlen hn (s := ⟨keyWrapIV, semiblocks n key⟩), reject_bind (by simp),
    flatten_semiblocks hkey]
  rw [List.take_left' hshape.register, List.drop_left' hshape.register, hshape.semiblocks_flatten]
  exact hback

lemma keyWrap_unwrapped (hkek : kek.length = keySize) (h : keyUnwrap E kek ciphertext = .ok key) :
    keyWrap E kek key = .ok ciphertext := by
  obtain ⟨n, hlen, hn⟩ := keyUnwrap_length h
  have hdrop : (ciphertext.drop 8).length = 8 * n := by
    rw [List.length_drop]
    omega
  have hstart : Shaped n ⟨ciphertext.take 8, semiblocks n (ciphertext.drop 8)⟩ :=
    shaped_semiblocks (by rw [List.length_take]; omega) hdrop
  generalize hs : unwrapLoop (E kek) n ⟨ciphertext.take 8, semiblocks n (ciphertext.drop 8)⟩ = s
  have hshape : Shaped n s := hs ▸ unwrapLoop_undone.keeps hstart
  have hback : wrapLoop (E kek) n s = ⟨ciphertext.take 8, semiblocks n (ciphertext.drop 8)⟩ :=
    hs ▸ unwrapLoop_undone.undo hstart
  -- the integrity check leaves the start of the wrapping loop
  rw [keyUnwrap_eq hkek hlen hn hs] at h
  simp only [bind_ok, reject_ok, Except.ok.injEq, not_not] at h
  obtain ⟨-, hiv, rfl⟩ := h
  have hsame : (⟨keyWrapIV, s.R⟩ : Registers) = s := by rw [← hiv]
  rw [keyWrap_eq hkek hshape.flatten_length hn, hshape.semiblocks_flatten, hsame, hback]
  exact congrArg Except.ok (by rw [flatten_semiblocks hdrop, List.take_append_drop])

/-- Unwrapping takes wrapping back, and what it accepts is what wrapping its result gives. -/
theorem keyWrap_bijective (E : Bytes → BlockCipher blockSize) (kek : Bytes)
    (hkek : kek.length = keySize) :
    (∀ key : Bytes, key.length % 8 = 0 → 16 ≤ key.length →
      ∃ ciphertext, keyWrap E kek key = .ok ciphertext ∧ keyUnwrap E kek ciphertext = .ok key) ∧
    ∀ ciphertext key : Bytes, keyUnwrap E kek ciphertext = .ok key →
      keyWrap E kek key = .ok ciphertext := by
  constructor
  · intro key hmod hlen
    obtain ⟨n, hkey⟩ : ∃ n, key.length = 8 * n := ⟨key.length / 8, by omega⟩
    exact ⟨_, keyWrap_eq hkek hkey (by omega), keyUnwrap_wrapped hkek hkey (by omega) rfl⟩
  · intro ciphertext key h
    exact keyWrap_unwrapped hkek h

theorem keyWrap_bijective_complement :
    (zeros 16).length = keySize ∧ ∃ ciphertext,
      keyWrap (fun _ => complement) (zeros 16) (zeros 24) = .ok ciphertext ∧
        keyUnwrap (fun _ => complement) (zeros 16) ciphertext = .ok (zeros 24) :=
  ⟨rfl, (keyWrap_bijective (fun _ => complement) (zeros 16) rfl).1 (zeros 24) rfl (by decide)⟩

end Pollux.KeyWrap
