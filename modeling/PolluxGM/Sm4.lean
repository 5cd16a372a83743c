import PolluxGM.Access
import PolluxGM.BlockCipher

/-!
# SM4 and its padding

`NewCipher` of `sm4.go`, and `PKCS7Pad` and `PKCS7Unpad` of `modes.go`. The count of the
padding is stored in one octet, while a block size may be any positive number.
-/
namespace Pollux.Sm4

open Access Modes

abbrev blockSize : Nat := 16

abbrev keySize : Nat := 16

abbrev Result := Except (Fault String)

def newCipher (E : Bytes → BlockCipher blockSize) (key : Bytes) :
    Except String (BlockCipher blockSize) := do
  reject (key.length ≠ keySize) s!"sm4: invalid key size {key.length}"
  return E key

variable {E : Bytes → BlockCipher blockSize} {key : Bytes}

lemma newCipher_ok (hkey : key.length = keySize) : newCipher E key = .ok (E key) := by
  rw [newCipher, reject_neg (by rw [hkey]; decide)]
  rfl

lemma newCipher_eq_ok (h : newCipher E key = .ok block) :
    key.length = keySize ∧ block = E key := by
  simp only [newCipher, bind_ok, reject_ok, not_not, pure_inj] at h
  obtain ⟨-, hkey, rfl⟩ := h
  exact ⟨hkey, rfl⟩

def errInvalidBlockSize : Fault String := .err "sm4: invalid block size"

def errInvalidPadding : Fault String := .err "sm4: invalid PKCS7 padding"

def pkcs7Pad (data : Bytes) (blockSize : Int) : Result Bytes := do
  reject (blockSize ≤ 0) errInvalidBlockSize
  let padding := blockSize - data.length % blockSize
  return data ++ List.replicate padding.toNat (UInt8.ofNat padding.toNat)

def constantTimeByteEq (x y : UInt8) : Nat := if x = y then 1 else 0

def pkcs7Unpad (data : Bytes) (blockSize : Int) : Result Bytes := do
  reject (blockSize ≤ 0) errInvalidBlockSize
  reject (data.length = 0 ∨ data.length % blockSize ≠ 0) (.err "sm4: invalid padded data length")
  let pad ← index data (data.length - 1)
  let padding := pad.toNat
  reject (padding = 0 ∨ blockSize < padding) errInvalidPadding
  let valid ← (List.range padding).foldlM (fun valid (i : Nat) => do
    let b ← index data (data.length - padding + i)
    return valid &&& constantTimeByteEq b pad) 1
  reject (valid = 0) errInvalidPadding
  slice data 0 (data.length - padding)

variable {data : Bytes}

lemma padding_loop {start : Int} (hstart : 0 ≤ start) (is : List Nat)
    (his : ∀ i ∈ is, start + i < data.length) (valid : Nat) (hvalid : valid ≤ 1) :
    ∃ verdict, is.foldlM (fun valid (i : Nat) => do
        let b ← index data (start + i)
        return valid &&& constantTimeByteEq b pad) valid = (.ok verdict : Result Nat) ∧
          verdict ≤ 1 ∧
      (verdict ≠ 0 ↔ valid ≠ 0 ∧ ∀ i ∈ is, data[start.toNat + i]? = some pad) := by
  induction is generalizing valid with
  | nil => exact ⟨valid, rfl, hvalid, by simp⟩
  | cons i is ih =>
    obtain ⟨hi, his⟩ := List.forall_mem_cons.mp his
    have hpos : start.toNat + i < data.length := by omega
    have hget : data[start.toNat + i]? = some data[start.toNat + i] := List.getElem?_eq_getElem hpos
    have hindex : (index data (start + i) : Result UInt8) = .ok data[start.toNat + i] := by
      refine index_ok (by omega) ?_
      rw [← hget]
      congr 1
      omega
    have hbit : valid &&& constantTimeByteEq data[start.toNat + i] pad =
        if data[start.toNat + i] = pad then valid else 0 := by
      rw [constantTimeByteEq]
      split
      · rw [Nat.and_one_is_mod]
        omega
      · exact Nat.and_zero valid
    obtain ⟨verdict, hrun, hle, hiff⟩ :=
      ih his (if data[start.toNat + i] = pad then valid else 0) (by split <;> omega)
    refine ⟨verdict, ?_, hle, ?_⟩
    · rw [List.foldlM_cons, hindex, ok_bind, pure_ok, ok_bind, hbit]
      exact hrun
    · rw [hiff, List.forall_mem_cons, hget, Option.some.injEq]
      by_cases heq : data[start.toNat + i] = pad <;> simp [heq]

variable {p : Nat}

lemma drop_eq_replicate (hp : p ≤ data.length) (pad : UInt8) :
    data.drop (data.length - p) = List.replicate p pad ↔
      ∀ i ∈ List.range p, data[data.length - p + i]? = some pad := by
  constructor
  · intro h i hi
    rw [← List.getElem?_drop, h, List.getElem?_replicate, if_pos (List.mem_range.mp hi)]
  · intro h
    apply List.ext_getElem?
    intro i
    rw [List.getElem?_drop, List.getElem?_replicate]
    split
    next hi => exact h i (List.mem_range.mpr hi)
    next hi => exact List.getElem?_eq_none (by omega)

/-- What the removal of the padding comes to, without accesses. -/
def unpad (data : Bytes) (blockSize : Nat) : Except String Bytes := do
  reject (data.length = 0 ∨ data.length % blockSize ≠ 0) "sm4: invalid padded data length"
  let pad := data.getLastD 0
  reject (pad.toNat = 0 ∨ blockSize < pad.toNat) "sm4: invalid PKCS7 padding"
  reject (data.drop (data.length - pad.toNat) ≠ List.replicate pad.toNat pad)
    "sm4: invalid PKCS7 padding"
  return data.take (data.length - pad.toNat)

lemma index_last (h : data.length ≠ 0) :
    (index data (data.length - 1) : Result UInt8) = .ok (data.getLastD 0) := by
  have hne : data ≠ [] := fun h' => h (List.length_eq_zero_iff.mpr h')
  refine index_ok (by omega) ?_
  have hlast : ((data.length : Int) - 1).toNat = data.length - 1 := by omega
  rw [hlast, ← List.getLast?_eq_getElem?, List.getLast?_eq_getLast_of_ne_nil hne,
    List.getLastD_eq_getLast?, List.getLast?_eq_getLast_of_ne_nil hne, Option.getD_some]

variable {blockSize : Nat}

lemma pkcs7Unpad_eq (data : Bytes) (hbs : 0 < blockSize) :
    pkcs7Unpad data blockSize = returned (unpad data blockSize) := by
  have hmod : (data.length : Int) % blockSize ≠ 0 ↔ data.length % blockSize ≠ 0 := by
    rw [← Int.natCast_mod]
    exact Int.natCast_ne_zero
  rw [pkcs7Unpad, unpad, reject_bind (by omega), returned_bind, returned_reject,
    reject_iff (or_congr Iff.rfl hmod)]
  apply reject_congr
  intro hlen
  obtain ⟨hne, haligned⟩ := not_or.mp hlen
  rw [index_last hne, ok_bind]
  dsimp only
  rw [returned_bind, returned_reject, reject_iff (or_congr Iff.rfl Int.ofNat_lt)]
  apply reject_congr
  intro hpad
  have hle : (data.getLastD 0).toNat ≤ data.length :=
    Nat.le_trans (by omega)
      (Nat.le_of_dvd (by omega) (Nat.dvd_of_mod_eq_zero (not_not.mp haligned)))
  obtain ⟨verdict, hrun, -, hiff⟩ := @padding_loop data (data.getLastD 0)
    ((data.length : Int) - (data.getLastD 0).toNat) (by omega) (List.range (data.getLastD 0).toNat)
    (fun i hi => by have := List.mem_range.mp hi; omega) 1 (Nat.le_refl 1)
  have hstart : ((data.length : Int) - (data.getLastD 0).toNat).toNat =
    data.length - (data.getLastD 0).toNat := by omega
  have hverdict : verdict = 0 ↔
      data.drop (data.length - (data.getLastD 0).toNat) ≠ List.replicate (data.getLastD 0).toNat
        (data.getLastD 0) := by
    rw [hstart, ← drop_eq_replicate hle] at hiff
    rw [← not_iff_not, ← ne_eq, hiff]
    simp
  rw [hrun, ok_bind, returned_bind, returned_reject, reject_iff hverdict,
    slice_front (by omega) (by omega), hstart]
  rfl

lemma pkcs7Pad_eq (data : Bytes) (hbs : 0 < blockSize) :
    pkcs7Pad data blockSize = .ok (data ++ List.replicate (blockSize - data.length % blockSize)
      (UInt8.ofNat (blockSize - data.length % blockSize))) := by
  have hlt := Nat.mod_lt data.length hbs
  have hcount : ((blockSize : Int) - data.length % blockSize).toNat =
    blockSize - data.length % blockSize := by
    rw [← Int.natCast_mod]
    omega
  rw [pkcs7Pad, reject_bind (by omega)]
  dsimp only
  rw [hcount]
  rfl

lemma unpad_ok :
    unpad c blockSize = .ok d ↔ c.length % blockSize = 0 ∧
      ∃ p, 0 < p ∧ p ≤ 255 ∧ p ≤ blockSize ∧ c = d ++ List.replicate p (UInt8.ofNat p) := by
  constructor
  · intro h
    simp only [unpad, bind_ok, reject_ok, pure_inj, not_or, not_not] at h
    obtain ⟨-, ⟨-, haligned⟩, -, ⟨hpos, hle⟩, -, hdrop, rfl⟩ := h
    have hlt := byte_lt (c.getLastD 0)
    refine ⟨haligned, (c.getLastD 0).toNat, by omega, by omega, by omega, ?_⟩
    rw [UInt8.ofNat_toNat, ← hdrop, List.take_append_drop]
  · rintro ⟨haligned, p, hpos, hmax, hle, rfl⟩
    have hpad : (UInt8.ofNat p).toNat = p := by
      rw [UInt8.toNat_ofNat']
      exact Nat.mod_eq_of_lt (by omega)
    have hlast : (d ++ List.replicate p (UInt8.ofNat p)).getLastD 0 = UInt8.ofNat p := by
      rw [List.getLastD_eq_getLast?, List.getLast?_append, List.getLast?_replicate,
        if_neg (by omega)]
      rfl
    have hlen : (d ++ List.replicate p (UInt8.ofNat p)).length = d.length + p := by
      rw [List.length_append, List.length_replicate]
    have hfront : d.length + p - p = d.length := Nat.add_sub_cancel _ _
    rw [unpad, hlast]
    dsimp only
    rw [hpad, hlen, hfront, List.take_left, List.drop_left,
      reject_bind (by rw [hlen] at haligned; omega),
      reject_neg (by omega), ok_bind, reject_neg (by simp), ok_bind]
    rfl

/-- The padding is determined by the length of what it fills up. -/
lemma padding_unique (hpos : 0 < p) (hle : p ≤ blockSize) (h : (len + p) % blockSize = 0) :
    blockSize - len % blockSize = p := by
  have hlt := Nat.mod_lt len (Nat.lt_of_lt_of_le hpos hle)
  obtain ⟨k, hk⟩ : blockSize ∣ len % blockSize + p := by
    rw [Nat.dvd_iff_mod_eq_zero, Nat.mod_add_mod, h]
  have hone : k = 1 := by
    have hlow : 0 < k := Nat.pos_of_ne_zero fun h0 => by rw [h0, Nat.mul_zero] at hk; omega
    have hhigh : blockSize * k < blockSize * 2 := by omega
    have := Nat.lt_of_mul_lt_mul_left hhigh
    omega
  rw [hone] at hk
  omega

lemma aligned_pad (len : Nat) (hbs : 0 < blockSize) :
    (len + (blockSize - len % blockSize)) % blockSize = 0 := by
  have hlt := Nat.mod_lt len hbs
  have hsum : len % blockSize + (blockSize - len % blockSize) = blockSize := by omega
  rw [← Nat.mod_add_mod, hsum, Nat.mod_self]

/-- Padding is taken back exactly when its count fits in an octet. What is accepted as padded is
always what padding gives. -/
theorem pkcs7_exact (d : Bytes) (blockSize : Int) (hbs : 0 < blockSize) :
    ((pkcs7Pad d blockSize >>= fun padded => pkcs7Unpad padded blockSize) = .ok d ↔
      blockSize - d.length % blockSize ≤ 255) ∧
    ∀ c r, pkcs7Unpad c blockSize = .ok r → pkcs7Pad r blockSize = .ok c := by
  obtain ⟨m, rfl⟩ : ∃ m : Nat, blockSize = m := ⟨blockSize.toNat, by omega⟩
  have hm : 0 < m := by omega
  have hlt := Nat.mod_lt d.length hm
  constructor
  · rw [pkcs7Pad_eq d hm, ok_bind, pkcs7Unpad_eq _ hm, returned, mapError_ok, unpad_ok,
      ← Int.natCast_mod]
    constructor
    · rintro ⟨-, p, -, hmax, -, heq⟩
      have hp := congrArg List.length (List.append_cancel_left heq)
      rw [List.length_replicate, List.length_replicate] at hp
      omega
    · intro hmax
      refine ⟨?_, m - d.length % m, by omega, by omega, by omega, rfl⟩
      rw [List.length_append, List.length_replicate, aligned_pad _ hm]
  · intro c r h
    rw [pkcs7Unpad_eq _ hm, returned, mapError_ok, unpad_ok] at h
    obtain ⟨haligned, p, hpos, -, hle, rfl⟩ := h
    rw [List.length_append, List.length_replicate] at haligned
    rw [pkcs7Pad_eq r hm, padding_unique hpos hle haligned]

theorem pkcs7_exact_sixteen :
    (0 : Int) < 16 ∧ (pkcs7Pad [1, 2, 3] 16 >>= fun padded => pkcs7Unpad padded 16) =
      .ok [1, 2, 3] :=
  ⟨by decide, (pkcs7_exact [1, 2, 3] 16 (by decide)).1.mpr (by decide)⟩

/-- A count of 300 is stored as 44, and 256 octets of padding are taken for data. -/
theorem pkcs7_padding_kept :
    (pkcs7Pad [] 300 >>= fun padded => pkcs7Unpad padded 300) = .ok (List.replicate 256 44) := by
  decide +kernel

def complement : BlockCipher blockSize where
  encrypt b := b.map (~~~ ·)
  decrypt b := b.map (~~~ ·)
  encrypt_length h := by rw [List.length_map, h]
  decrypt_length h := by rw [List.length_map, h]
  decrypt_encrypt _ := by simp [Function.comp_def]

end Pollux.Sm4
