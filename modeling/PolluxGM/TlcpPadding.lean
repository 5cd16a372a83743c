import PolluxGM.TlcpRecord

/-!
# What the padding check computes

The bit operations of `extractPadding` read back: the sign bytes are comparisons, the loop collects
one verdict for each octet, and the folding keeps it only if no bit was lost.
-/
namespace Pollux.Tlcp

lemma signByte_eq (t : BitVec 64) : signByte t = if (t.setWidth 32).msb then 255 else 0 := by
  rw [signByte, ← UInt8.toBitVec_inj]
  generalize t.setWidth 32 = u
  have hbit (i : Nat) (hi : i < 8) : ((u.sshiftRight 31).setWidth 8).getLsbD i = u.msb := by
    rw [BitVec.getLsbD_setWidth, BitVec.getLsbD_sshiftRight]
    have hsmall : ¬ 32 ≤ i := by omega
    by_cases h : 31 + i < 32
    · obtain rfl : i = 0 := by omega
      simp [BitVec.msb_eq_getLsbD_last]
    · simp [hi, hsmall, h]
  apply BitVec.eq_of_getLsbD_eq
  intro i hi
  cases hmsb : u.msb with
  | true =>
    change ((u.sshiftRight 31).setWidth 8).getLsbD i = (BitVec.allOnes 8).getLsbD i
    rw [hbit i hi, hmsb, BitVec.getLsbD_allOnes, decide_eq_true hi]
  | false =>
    change ((u.sshiftRight 31).setWidth 8).getLsbD i = (0#8).getLsbD i
    rw [hbit i hi, hmsb, BitVec.getLsbD_zero]

lemma signByte_not (h : n < 2147483648) : signByte (~~~ BitVec.ofNat 64 n) = 255 := by
  have hmsb : ((~~~ BitVec.ofNat 64 n).setWidth 32).msb = true := by
    rw [BitVec.msb_eq_decide]
    simp
    omega
  rw [signByte_eq, hmsb, if_pos rfl]

lemma signByte_of (h : n < 2147483648) : signByte (BitVec.ofNat 64 n) = 0 := by
  have hmsb : ((BitVec.ofNat 64 n).setWidth 32).msb = false := by
    rw [BitVec.msb_eq_decide]
    simp
    omega
  rw [signByte_eq, hmsb, if_neg Bool.false_ne_true]

lemma signByte_sub (hp : p < 2147483648) (hi : i < 2147483648) :
    signByte (~~~(BitVec.ofNat 64 p - BitVec.ofNat 64 i)) = if i ≤ p then 255 else 0 := by
  by_cases h : i ≤ p
  · have heq : BitVec.ofNat 64 p - BitVec.ofNat 64 i = BitVec.ofNat 64 (p - i) := by bv_omega
    rw [heq, signByte_not (by omega), if_pos h]
  · have heq : ~~~(BitVec.ofNat 64 p - BitVec.ofNat 64 i) = BitVec.ofNat 64 (i - p - 1) := by
      bv_omega
    rw [heq, signByte_of (by omega), if_neg h]

lemma and_eq_full {a b : UInt8} : a &&& b = 255 ↔ a = 255 ∧ b = 255 := by
  simp only [← UInt8.toBitVec_inj, UInt8.toBitVec_and]
  exact BitVec.and_eq_allOnes_iff

lemma not_eq_full {a : UInt8} : ~~~a = 255 ↔ a = 0 := by
  simp only [← UInt8.toBitVec_inj, UInt8.toBitVec_not]
  exact BitVec.not_eq_comm

lemma xor_eq_none {a b : UInt8} : a ^^^ b = 0 ↔ a = b := by
  simp only [← UInt8.toBitVec_inj, UInt8.toBitVec_xor]
  exact BitVec.xor_eq_zero_iff

lemma full_and (a : UInt8) : 255 &&& a = a := by
  rw [← UInt8.toBitVec_inj, UInt8.toBitVec_and]
  exact BitVec.allOnes_and

lemma replicateGood_eq (good : UInt8) : replicateGood good = if good = 255 then 255 else 0 := by
  have hall : ∀ i : Fin 256, replicateGood ⟨⟨i⟩⟩ = if (⟨⟨i⟩⟩ : UInt8) = 255 then 255
    else 0 := by decide +kernel
  exact hall good.toBitVec.toFin

variable {plaintext : Bytes} {p : UInt8}

/-- The octet compared in round i: they are looked at from the last one on. -/
def fromEnd (plaintext : Bytes) (i : Nat) : UInt8 := plaintext.getD (plaintext.length - 1 - i) 0

lemma paddingStep_full {i : Nat} (hi : i < 256) :
    paddingStep plaintext p good i = 255 ↔ good = 255 ∧
      (i ≤ p.toNat → fromEnd plaintext i = p) := by
  have hp := byte_lt p
  rw [paddingStep, and_eq_full, not_eq_full, xor_eq_none, signByte_sub (by omega) (by omega)]
  change good = 255 ∧ _ &&& p = _ &&& fromEnd plaintext i ↔ _
  by_cases hle : i ≤ p.toNat
  · rw [if_pos hle, full_and, full_and, forall_prop_of_true hle, @eq_comm _ p]
  · rw [if_neg hle, UInt8.zero_and, UInt8.zero_and]
    simp only [hle, false_implies]

lemma paddingSteps_full (is : List Nat) (his : ∀ i ∈ is, i < 256) :
    is.foldl (paddingStep plaintext p) good = 255 ↔
      good = 255 ∧ ∀ i ∈ is, i ≤ p.toNat → fromEnd plaintext i = p := by
  induction is generalizing good with
  | nil => simp
  | cons i is ih =>
    rw [List.foldl_cons, ih fun j hj => his j (List.mem_cons_of_mem i hj),
      paddingStep_full (his i List.mem_cons_self), List.forall_mem_cons, and_assoc]

lemma forall_mem_drop (hn : n ≤ plaintext.length) :
    (∀ b ∈ plaintext.drop (plaintext.length - n), b = p) ↔ ∀ i < n, fromEnd plaintext i = p := by
  have hoctet (i : Nat) (hi : i < n) : fromEnd plaintext i =
    plaintext[plaintext.length - 1 - i] := by
    rw [fromEnd, List.getD_eq_getElem?_getD, List.getElem?_eq_getElem (by omega), Option.getD_some]
  constructor
  · intro h i hi
    rw [hoctet i hi]
    apply h
    rw [List.mem_drop_iff_getElem]
    exact ⟨n - 1 - i, by omega, by congr 1; omega⟩
  · intro h b hb
    obtain ⟨j, hj, rfl⟩ := List.mem_drop_iff_getElem.mp hb
    rw [← h (n - 1 - j) (by omega), hoctet _ (by omega)]
    congr 1
    omega

/-- The last octet counts the ones in front of it, all equal to it. -/
def WellPadded (plaintext : Bytes) (p : UInt8) : Prop :=
  p.toNat + 1 ≤ plaintext.length ∧ ∀ b ∈ plaintext.drop (plaintext.length - (p.toNat + 1)), b = p

lemma extractPadding_spec (hlast : plaintext.getLast? = some p)
    (hlen : plaintext.length < 2147483648) :
    (WellPadded plaintext p → extractPadding plaintext = (p.toNat + 1, 255)) ∧
      (¬ WellPadded plaintext p → extractPadding plaintext = (1, 0)) := by
  have hp := byte_lt p
  have hpos : 0 < plaintext.length := by
    rw [List.length_pos_iff]
    rintro rfl
    cases hlast
  have hrounds : ∀ i ∈ List.range (min 256 plaintext.length), i < 256 :=
    fun i hi => Nat.lt_of_lt_of_le (List.mem_range.mp hi) (Nat.min_le_left _ _)
  have hverdict : (List.range (min 256 plaintext.length)).foldl (paddingStep plaintext p)
      (signByte (~~~(BitVec.ofNat 64 (plaintext.length - 1) - BitVec.ofNat 64 p.toNat))) = 255 ↔
      WellPadded plaintext p := by
    rw [paddingSteps_full _ hrounds, signByte_sub (by omega) (by omega), WellPadded]
    by_cases hfits : p.toNat ≤ plaintext.length - 1
    · rw [if_pos hfits, forall_mem_drop (by omega)]
      simp only [List.mem_range]
      constructor
      · rintro ⟨-, hoctets⟩
        exact ⟨by omega, fun i hi => hoctets i (by omega) (by omega)⟩
      · rintro ⟨-, hoctets⟩
        exact ⟨trivial, fun i _ hi => hoctets i (by omega)⟩
    · -- A count that reaches beyond the text clears the verdict before the loop.
      rw [if_neg hfits]
      exact iff_of_false (fun h => absurd h.1 (by decide)) fun h => hfits (by omega)
  rw [extractPadding, hlast]
  dsimp only
  rw [replicateGood_eq, ← hverdict]
  constructor
  · intro hgood
    rw [if_pos hgood, UInt8.and_comm, full_and]
  · intro hbad
    rw [if_neg hbad, UInt8.and_zero]
    rfl

/-- The padding check takes off the padding octets with their count if they are all there and all
alike, and otherwise the last octet only. -/
theorem extract_padding_exact (hlast : plaintext.getLast? = some p)
    (hlen : plaintext.length < 2 ^ 31) :
    ((p.toNat + 1 ≤ plaintext.length ∧ ∀ b ∈ plaintext.drop (plaintext.length - (p.toNat + 1)),
      b = p) → extractPadding plaintext = (p.toNat + 1, 255)) ∧
    (¬ (p.toNat + 1 ≤ plaintext.length ∧ ∀ b ∈ plaintext.drop (plaintext.length - (p.toNat + 1)),
      b = p) → extractPadding plaintext = (1, 0)) :=
  extractPadding_spec hlast hlen

/-- Three octets of padding, a count that reaches too far, and an octet that differs. -/
theorem extract_padding_exact_sample :
    extractPadding [9, 2, 2, 2] = (3, 255) ∧ extractPadding [2, 2] = (1, 0) ∧
      extractPadding [9, 3, 2, 2] = (1, 0) := by
  refine ⟨(extract_padding_exact (p := 2) rfl (by decide)).1 ⟨by decide, by simp⟩,
    (extract_padding_exact (p := 2) rfl (by decide)).2 ?_,
      (extract_padding_exact (p := 2) rfl (by decide)).2 ?_⟩
  · exact fun h => absurd h.1 (by decide)
  · exact fun h => absurd (h.2 3 (by decide)) (by decide)

lemma extractPadding_pos (h : plaintext ≠ []) : 1 ≤ (extractPadding plaintext).1 := by
  obtain ⟨x, hx⟩ : ∃ x, plaintext.getLast? = some x := ⟨_, List.getLast?_eq_some_getLast h⟩
  rw [extractPadding, hx]
  exact Nat.le_add_left 1 _

lemma extractPadding_le (plaintext : Bytes) : (extractPadding plaintext).1 ≤ 256 := by
  unfold extractPadding
  split
  · exact Nat.zero_le _
  · exact byte_lt _

lemma clampNegative_eq (hlow : -2147483648 ≤ n) (hhigh : n < 2147483648) :
    clampNegative n = if n < 0 then 0 else n := by
  have hint : (BitVec.ofInt 32 n).toInt = n := by
    rw [BitVec.toInt_ofInt]
    exact Int.bmod_eq_of_le hlow hhigh
  rw [clampNegative, BitVec.msb_eq_toInt, hint, if_congr decide_eq_true_iff rfl rfl]

lemma clampNegative_or (n : Int) : clampNegative n = 0 ∨ clampNegative n = n := by
  unfold clampNegative
  split
  · exact .inl rfl
  · exact .inr rfl

lemma payloadEnd_bounds (h : size < plain.length) :
    0 ≤ payloadEnd size plain ∧ payloadEnd size plain + size ≤ plain.length := by
  have hpadding := extractPadding_le plain
  unfold payloadEnd
  by_cases hneg : (plain.length : Int) - size - (extractPadding plain).1 < 0
  · rw [clampNegative_eq (by omega) (by omega), if_pos hneg]
    omega
  · rcases clampNegative_or ((plain.length : Int) - size - (extractPadding plain).1) with
      hzero | hsame
    · omega
    · omega

lemma payloadLength_le (plain : Bytes) :
    payloadLength plain ≤ plain.length - macSize - (extractPadding plain).1 := by
  unfold payloadLength payloadEnd
  rcases clampNegative_or ((plain.length : Int) - macSize - (extractPadding plain).1) with
    hzero | hsame
  · omega
  · omega

lemma payloadLength_eq (h : plain.length < 2147483648) :
    payloadLength plain = plain.length - macSize - (extractPadding plain).1 := by
  have hpadding := extractPadding_le plain
  have hmac : macSize = 32 := rfl
  rw [payloadLength, payloadEnd, clampNegative_eq (by omega) (by omega)]
  split <;> omega

end Pollux.Tlcp
