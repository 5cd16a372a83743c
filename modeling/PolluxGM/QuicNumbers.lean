import PolluxGM.Messages
import Mathlib.Tactic.IntervalCases
import Mathlib.Tactic.Ring

/-!
# QUIC variable-length integers and packet numbers

Embedding of `varint.go` and `packetnumber.go`. A packet number goes out truncated; the receiver
completes it around the number after the largest one it acknowledged, in the 64-bit arithmetic of
the code.
-/
namespace Pollux.Quicgm

open Tls

def maxVarint : Nat := 4611686018427387903
def maxVarint1 : Nat := 63
def maxVarint2 : Nat := 16383
def maxVarint4 : Nat := 1073741823

def varintLen (v : Nat) : Nat :=
  if v ≤ maxVarint1 then 1
  else if v ≤ maxVarint2 then 2
  else if v ≤ maxVarint4 then 4
  else 8

def appendVarint (b : Bytes) (v : Nat) : Except Err Bytes := do
  reject (maxVarint < v) (.text s!"quicgm: varint {v} exceeds maximum {maxVarint}")
  return b ++
    if v ≤ maxVarint1 then [UInt8.ofNat v]
    else if v ≤ maxVarint2 then [UInt8.ofNat (v / 2 ^ 8) ||| 0x40, UInt8.ofNat v]
    else if v ≤ maxVarint4 then
      [UInt8.ofNat (v / 2 ^ 24) ||| 0x80, UInt8.ofNat (v / 2 ^ 16), UInt8.ofNat (v / 2 ^ 8),
        UInt8.ofNat v]
    else
      [UInt8.ofNat (v / 2 ^ 56) ||| 0xc0, UInt8.ofNat (v / 2 ^ 48), UInt8.ofNat (v / 2 ^ 40),
        UInt8.ofNat (v / 2 ^ 32), UInt8.ofNat (v / 2 ^ 24), UInt8.ofNat (v / 2 ^ 16),
          UInt8.ofNat (v / 2 ^ 8),
        UInt8.ofNat v]

/-- The value and its length. An encoding longer than needed is refused. -/
def readVarint (b : Bytes) : Except Err (Nat × Nat) :=
  match b with
  | [] => .error (.text "quicgm: varint buffer is empty")
  | first :: rest => do
    let length := 2 ^ (first >>> 6).toNat
    reject (b.length < length)
      (.text s!"quicgm: varint needs {length} octets, buffer has {b.length}")
    let v := (rest.take (length - 1)).foldl (fun v o => v * 256 + o.toNat) (first &&& 0x3f).toNat
    let minLen := varintLen v
    reject (minLen < length)
      (.text s!"quicgm: non-minimal varint encoding (value {v} in {length} octets, minimal is {minLen})")
    return (v, length)

/-- Two bits of the first octet hold the length, the others start the value. -/
lemma varint_first (k : Fin 4) (x : Fin 64) :
    ((UInt8.ofNat x ||| UInt8.ofNat (64 * k)) >>> 6).toNat = k ∧
      ((UInt8.ofNat x ||| UInt8.ofNat (64 * k)) &&& 0x3f).toNat = x := by
  revert k x
  decide +kernel

lemma readVarint_octets (k : Fin 4) (x : Fin 64) (octets rest : Bytes) (v : Nat)
    (hlen : octets.length + 1 = 2 ^ k.val)
    (hv : octets.foldl (fun v o => v * 256 + o.toNat) x.val = v) (hmin : varintLen v = 2 ^ k.val) :
    readVarint ((UInt8.ofNat x ||| UInt8.ofNat (64 * k)) :: (octets ++ rest)) =
      .ok (v, octets.length + 1) := by
  obtain ⟨htag, hvalue⟩ := varint_first k x
  have htake : (octets ++ rest).take (2 ^ k.val - 1) = octets := List.take_left' (by omega)
  have hshort : ¬ ((UInt8.ofNat x ||| UInt8.ofNat (64 * k)) ::
    (octets ++ rest)).length < 2 ^ k.val := by
    simp only [List.length_cons, List.length_append]
    omega
  simp only [readVarint, htag, hvalue, htake, hv, hmin]
  rw [reject_neg hshort, reject_neg (lt_irrefl _), hlen]
  rfl

variable {b : Bytes} {v : Nat}

lemma readVarint_appendVarint (h : appendVarint b v = .ok b') :
    ∃ w, b' = b ++ w ∧ ∀ rest, readVarint (w ++ rest) = .ok (v, w.length) := by
  obtain ⟨_, hmax, h⟩ := bind_ok.mp h
  rw [reject_ok, maxVarint] at hmax
  cases h
  refine ⟨_, rfl, fun rest => ?_⟩
  have hmin := varintLen.eq_1 v
  unfold maxVarint1 maxVarint2 maxVarint4 at *
  by_cases h1 : v ≤ 63
  · rw [if_pos h1] at hmin ⊢
    simpa using readVarint_octets 0 ⟨v, by omega⟩ [] rest v rfl rfl hmin
  rw [if_neg h1] at hmin ⊢
  by_cases h2 : v ≤ 16383
  · rw [if_pos h2] at hmin ⊢
    exact readVarint_octets 1 ⟨v / 2 ^ 8, by omega⟩ [UInt8.ofNat v] rest v rfl (by simp; omega) hmin
  rw [if_neg h2] at hmin ⊢
  by_cases h4 : v ≤ 1073741823
  · rw [if_pos h4] at hmin ⊢
    exact readVarint_octets 2 ⟨v / 2 ^ 24, by omega⟩
      [UInt8.ofNat (v / 2 ^ 16), UInt8.ofNat (v / 2 ^ 8), UInt8.ofNat v] rest v rfl
        (by simp; omega) hmin
  · rw [if_neg h4] at hmin ⊢
    exact readVarint_octets 3 ⟨v / 2 ^ 56, by omega⟩
      [UInt8.ofNat (v / 2 ^ 48), UInt8.ofNat (v / 2 ^ 40), UInt8.ofNat (v / 2 ^ 32),
        UInt8.ofNat (v / 2 ^ 24),
        UInt8.ofNat (v / 2 ^ 16), UInt8.ofNat (v / 2 ^ 8), UInt8.ofNat v] rest v rfl
          (by simp; omega) hmin

variable {x : Nat}

lemma foldl_octets_inj {os os' : Bytes} {x' : Nat} (hlen : os.length = os'.length)
    (h : os.foldl (fun v o => v * 256 + o.toNat) x = os'.foldl (fun v o => v * 256 + o.toNat) x') :
    x = x' ∧ os = os' := by
  induction os generalizing os' x x' with
  | nil =>
    rw [List.eq_nil_of_length_eq_zero hlen.symm] at h ⊢
    exact ⟨h, rfl⟩
  | cons o os ih =>
    cases os' with
    | nil => cases hlen
    | cons o' os' =>
      have ho := byte_lt o
      have ho' := byte_lt o'
      obtain ⟨hx, rfl⟩ := ih (Nat.succ.inj hlen) h
      beta_reduce at hx
      have hsame : o = o' := UInt8.toNat_inj.mp (by omega)
      exact ⟨by omega, by rw [hsame]⟩

lemma foldl_octets_lt (os : Bytes) (hx : x < m) :
    os.foldl (fun v o => v * 256 + o.toNat) x < m * 256 ^ os.length := by
  induction os generalizing x m with
  | nil => simpa using hx
  | cons o os ih =>
    have ho := byte_lt o
    have hstep := ih (x := x * 256 + o.toNat) (m := m * 256) (by omega)
    rwa [Nat.mul_assoc, ← Nat.pow_succ'] at hstep

variable {n : Nat}

lemma readVarint_ok (h : readVarint b = .ok (v, n)) :
    ∃ first octets rest, b = first :: (octets ++ rest) ∧ octets.length + 1 = n ∧
      n = 2 ^ (first >>> 6).toNat ∧
      octets.foldl (fun v o => v * 256 + o.toNat) (first &&& 0x3f).toNat = v ∧ n ≤ varintLen v := by
  cases b with
  | nil => cases h
  | cons first rest =>
    simp only [readVarint, bind_ok, reject_ok, pure_inj, Prod.mk.injEq] at h
    obtain ⟨_, hshort, _, hmin, rfl, rfl⟩ := h
    rw [List.length_cons] at hshort
    have hpos := Nat.two_pow_pos (first >>> 6).toNat
    refine ⟨first, rest.take (2 ^ (first >>> 6).toNat - 1), rest.drop (2 ^ (first >>> 6).toNat - 1),
      ?_, ?_, rfl, rfl, Nat.le_of_not_lt hmin⟩
    · rw [List.take_append_drop]
    · rw [List.length_take]
      omega

lemma first_octet (f : UInt8) : (f >>> 6).toNat < 4 ∧ (f &&& 0x3f).toNat < 64 ∧
    f = UInt8.ofNat ((f &&& 0x3f).toNat + 64 * (f >>> 6).toNat) := by
  obtain ⟨⟨f⟩⟩ := f
  revert f
  decide +kernel

lemma readVarint_length (h : readVarint b = .ok (v, n)) : n = varintLen v ∧ v ≤ maxVarint := by
  obtain ⟨first, octets, rest, -, hlen, hn, hv, hmin⟩ := readVarint_ok h
  obtain ⟨htag, hsix, -⟩ := first_octet first
  have hbound := foldl_octets_lt octets hsix
  rw [hv] at hbound
  have hoctets : octets.length = 2 ^ (first >>> 6).toNat - 1 := by omega
  rw [hoctets] at hbound
  rw [hn] at hmin ⊢
  generalize (first >>> 6).toNat = k at htag hbound hmin
  unfold varintLen maxVarint1 maxVarint2 maxVarint4 at hmin ⊢
  unfold maxVarint
  -- the tag bounds the value from above, and the check for the shortest form from below
  interval_cases k <;> norm_num at hbound hmin ⊢ <;> split_ifs at hmin ⊢ <;> omega

lemma appendVarint_readVarint (h : readVarint b = .ok (v, n)) :
    n ≤ b.length ∧ appendVarint [] v = .ok (b.take n) := by
  obtain ⟨hn, hmax⟩ := readVarint_length h
  obtain ⟨w, hw⟩ : ∃ w, appendVarint [] v = .ok w := by
    rw [appendVarint, reject_neg (Nat.not_lt.mpr hmax)]
    exact ⟨_, rfl⟩
  obtain ⟨w', hw', hread⟩ := readVarint_appendVarint hw
  rw [List.nil_append] at hw'
  subst hw'
  have hback := hread []
  rw [List.append_nil] at hback
  obtain ⟨hlen, -⟩ := readVarint_length hback
  obtain ⟨first, octets, rest, rfl, hoctets, htag, hv, -⟩ := readVarint_ok h
  obtain ⟨first', octets', rest', hsplit, hoctets', htag', hv', -⟩ := readVarint_ok hback
  have hrest : rest' = [] := by
    have := congrArg List.length hsplit
    rw [List.length_cons, List.length_append] at this
    exact List.eq_nil_of_length_eq_zero (by omega)
  obtain ⟨hsix, rfl⟩ := foldl_octets_inj (by omega) (hv.trans hv'.symm)
  have hsame : (first >>> 6).toNat = (first' >>> 6).toNat :=
    Nat.pow_right_injective (Nat.le_refl 2) (by dsimp only; omega)
  have hfirst : first = first' := by
    rw [(first_octet first).2.2, (first_octet first').2.2, hsix, hsame]
  refine ⟨by rw [List.length_cons, List.length_append]; omega, ?_⟩
  rw [hw, hsplit, hrest, List.append_nil, ← hfirst, ← hoctets, List.take_succ_cons, List.take_left]

def choosePacketNumberLen (pn : UInt64) (largestAcked : Option UInt64) : Except Err Nat :=
  match largestAcked with
  | none => .ok 4
  | some la => do
    reject (pn ≤ la) (.text s!"quicgm: packet number {pn} must exceed largest acknowledged {la}")
    let gap := pn - la
    if gap < (1 : UInt64) <<< 7 then return 1
    else if gap < (1 : UInt64) <<< 15 then return 2
    else if gap < (1 : UInt64) <<< 23 then return 3
    else if gap < (1 : UInt64) <<< 31 then return 4
    else .error (.text s!"quicgm: packet number gap {gap} too large to encode; key update required")

def truncatePacketNumber (pn : UInt64) (n : Nat) : UInt64 :=
  if n < 1 ∨ 4 < n then 0 else pn &&& ((1 <<< UInt64.ofNat (8 * n)) - 1)

def decodePacketNumber (largestAcked truncatedPN : UInt64) (n : Nat) : UInt64 :=
  if n < 1 ∨ 4 < n then 0
  else
    let pnWin : UInt64 := 1 <<< UInt64.ofNat (8 * n)
    let pnHwin := pnWin >>> 1
    let pnMask := pnWin - 1
    let expected := largestAcked.toInt64 + 1
    let candidateU := (expected.toUInt64 &&& ~~~pnMask) ||| truncatedPN
    let candidate := candidateU.toInt64
    if candidate ≤ expected - pnHwin.toInt64 ∧
      candidateU + pnWin < (1 : UInt64) <<< 62 then candidateU + pnWin
    else if expected + pnHwin.toInt64 < candidate ∧
      pnWin.toInt64 ≤ candidate then candidateU - pnWin
    else candidateU

def numberOctets (t : UInt64) : Nat → Bytes
  | 0 => []
  | n + 1 => (t >>> UInt64.ofNat (8 * n)).toUInt8 :: numberOctets t n

def appendPacketNumber (b : Bytes) (pn : UInt64) (n : Nat) : Bytes :=
  if n < 1 ∨ 4 < n then b else b ++ numberOctets (truncatePacketNumber pn n) n

def decodePacketNumberBytes (pnBytes : Bytes) : UInt64 :=
  pnBytes.foldl (fun (pn : UInt64) b => (pn <<< 8) ||| b.toUInt64) 0

/-- The half window around the expected number, where a number truncated to `n` octets is told
from every other. Without feedback the number itself has to fit. -/
def InHalfWindow (largestAcked : Option UInt64) (pn : UInt64) (n : Nat) : Prop :=
  match largestAcked with
  | none => pn.toNat < 2 ^ (8 * n)
  | some acked =>
    acked.toNat + 1 < pn.toNat + 2 ^ (8 * n - 1) ∧ pn.toNat ≤ acked.toNat + 1 + 2 ^ (8 * n - 1)

variable (t : UInt64)

lemma numberOctets_length (n : Nat) : (numberOctets t n).length = n := by
  induction n with
  | zero => rfl
  | succ n ih => rw [numberOctets, List.length_cons, ih]

lemma pnWin_toNat (hn : n ≤ 4) : ((1 : UInt64) <<< UInt64.ofNat (8 * n)).toNat = 2 ^ (8 * n) := by
  interval_cases n <;> rfl

lemma truncatePacketNumber_toNat (pn : UInt64) (hpos : 1 ≤ n) (hmax : n ≤ 4) :
    (truncatePacketNumber pn n).toNat = pn.toNat % 2 ^ (8 * n) := by
  have hmask : (((1 : UInt64) <<< UInt64.ofNat (8 * n)) - 1).toNat = 2 ^ (8 * n) - 1 := by
    interval_cases n <;> rfl
  rw [truncatePacketNumber, if_neg (by omega), UInt64.toNat_and, hmask,
    Nat.and_two_pow_sub_one_eq_mod]

lemma shift_or_octet (acc : UInt64) (b : UInt8) (h : acc.toNat < 2 ^ 56) :
    ((acc <<< 8) ||| b.toUInt64).toNat = acc.toNat * 256 + b.toNat := by
  have hshift : (acc <<< 8).toNat = acc.toNat <<< 8 := by
    rw [UInt64.toNat_shiftLeft]
    exact Nat.mod_eq_of_lt (by rw [Nat.shiftLeft_eq]; change acc.toNat * 2 ^ 8 < _; omega)
  rw [UInt64.toNat_or, hshift, UInt8.toNat_toUInt64, ← Nat.shiftLeft_add_eq_or_of_lt b.toNat_lt,
    Nat.shiftLeft_eq]

lemma octet_toNat (hn : n < 8) :
    (t >>> UInt64.ofNat (8 * n)).toUInt8.toNat = t.toNat / 2 ^ (8 * n) % 256 := by
  rw [UInt64.toNat_toUInt8, UInt64.toNat_shiftRight, Nat.shiftRight_eq_div_pow]
  congr 3
  rw [UInt64.toNat_ofNat']
  omega

lemma octet_eq (hn : n < 8) :
    (t >>> UInt64.ofNat (8 * n)).toUInt8 = UInt8.ofNat (t.toNat / 2 ^ (8 * n)) := by
  apply UInt8.toNat_inj.mp
  rw [octet_toNat t hn, UInt8.toNat_ofNat']

lemma numberOctets_four : numberOctets t 4 = be32 t.toNat := by
  simp only [numberOctets, octet_eq t (show 3 < 8 by omega), octet_eq t (show 2 < 8 by omega),
    octet_eq t (show 1 < 8 by omega), octet_eq t (show 0 < 8 by omega), Nat.mul_zero, Nat.pow_zero,
      Nat.div_one]
  rfl

lemma foldl_numberOctets (n : Nat) (acc : UInt64) (hn : n ≤ 8)
    (hacc : (acc.toNat + 1) * 2 ^ (8 * n) ≤ 2 ^ 64) :
    ((numberOctets t n).foldl (fun (pn : UInt64) b => (pn <<< 8) ||| b.toUInt64) acc).toNat =
      acc.toNat * 2 ^ (8 * n) + t.toNat % 2 ^ (8 * n) := by
  induction n generalizing acc with
  | zero => simp [numberOctets, Nat.mod_one]
  | succ n ih =>
    have hpow : 2 ^ (8 * (n + 1)) = 256 * 2 ^ (8 * n) := by rw [Nat.mul_succ, Nat.pow_add]; omega
    have hsmall : acc.toNat < 2 ^ 56 := by
      have hunit : (acc.toNat + 1) * 256 ≤ (acc.toNat + 1) * 2 ^ (8 * (n + 1)) :=
        Nat.mul_le_mul_left _ (by rw [hpow]; exact Nat.le_mul_of_pos_right _ (Nat.two_pow_pos _))
      omega
    have hstep := shift_or_octet acc (t >>> UInt64.ofNat (8 * n)).toUInt8 hsmall
    rw [octet_toNat t (by omega)] at hstep
    have hroom : (acc.toNat * 256 + t.toNat / 2 ^ (8 * n) % 256 + 1) * 2 ^ (8 * n) ≤ 2 ^ 64 := by
      have hmono : (acc.toNat * 256 + t.toNat / 2 ^ (8 * n) % 256 + 1) * 2 ^ (8 * n) ≤
          ((acc.toNat + 1) * 256) * 2 ^ (8 * n) := Nat.mul_le_mul_right _ (by omega)
      rw [hpow, ← Nat.mul_assoc] at hacc
      exact hmono.trans hacc
    have hmod : t.toNat % (256 * 2 ^ (8 * n)) =
        t.toNat / 2 ^ (8 * n) % 256 * 2 ^ (8 * n) + t.toNat % 2 ^ (8 * n) := by
      rw [Nat.mul_comm 256, Nat.mod_mul, Nat.mul_comm (2 ^ (8 * n)), Nat.add_comm]
    rw [numberOctets, List.foldl_cons, ih _ (by omega) (by rw [hstep]; exact hroom), hstep, hpow,
      hmod]
    ring

lemma decodePacketNumberBytes_octets (hn : n ≤ 4) (ht : t.toNat < 2 ^ (8 * n)) :
    decodePacketNumberBytes (numberOctets t n) = t := by
  have hroom : ((0 : UInt64).toNat + 1) * 2 ^ (8 * n) ≤ 2 ^ 64 := by
    rw [UInt64.toNat_zero, Nat.zero_add, Nat.one_mul]
    exact Nat.pow_le_pow_right (by omega) (by omega)
  apply UInt64.toNat_inj.mp
  rw [decodePacketNumberBytes, foldl_numberOctets t n 0 (by omega) hroom, UInt64.toNat_zero,
    Nat.zero_mul, Nat.zero_add, Nat.mod_eq_of_lt ht]

lemma replace_low (x t mask : UInt64) (k : Nat) (hk : k ≤ 64) (hmask : mask.toNat = 2 ^ k - 1)
    (ht : t.toNat < 2 ^ k) :
    ((x &&& ~~~mask) ||| t).toNat = x.toNat / 2 ^ k * 2 ^ k + t.toNat := by
  have hclear : (x &&& ~~~mask).toNat = (x.toNat >>> k) <<< k := by
    apply Nat.eq_of_testBit_eq
    intro i
    have hnot : (~~~mask).toNat = 2 ^ 64 - (2 ^ k - 1 + 1) := by
      have hsize : UInt64.size = 2 ^ 64 := rfl
      rw [UInt64.toNat_not, hmask]
      omega
    have hle : 2 ^ k - 1 < 2 ^ 64 := by
      have := Nat.pow_le_pow_right (show 0 < 2 by omega) hk
      omega
    rw [UInt64.toNat_and, hnot, Nat.testBit_and, Nat.testBit_two_pow_sub_succ hle,
      Nat.testBit_two_pow_sub_one, Nat.testBit_shiftLeft, Nat.testBit_shiftRight]
    by_cases hi : i < k
    · simp [hi]
    · have hsum : k + (i - k) = i := by omega
      have hbig : ¬ i < 64 → x.toNat.testBit i = false := by
        intro h
        exact Nat.testBit_lt_two_pow
          (lt_of_lt_of_le x.toNat_lt (Nat.pow_le_pow_right (by omega) (by omega)))
      by_cases h64 : i < 64
      · simp [hi, h64, hsum]
        omega
      · simp [hi, hbig h64, hsum]
  rw [UInt64.toNat_or, hclear, ← Nat.shiftLeft_add_eq_or_of_lt ht, Nat.shiftLeft_eq,
    Nat.shiftRight_eq_div_pow]

lemma toInt_toInt64 (x : UInt64) (h : x.toNat < 2 ^ 63) : x.toInt64.toInt = x.toNat := by
  have hdouble : 2 * x.toBitVec.toNat < 2 ^ 64 := by
    change 2 * x.toNat < 2 ^ 64
    omega
  exact BitVec.toInt_eq_toNat_of_lt hdouble

lemma toInt_add_of_lt (a b : UInt64) (h : a.toNat + b.toNat < 2 ^ 63) :
    (a.toInt64 + b.toInt64).toInt = a.toNat + b.toNat := by
  rw [Int64.toInt_add, toInt_toInt64 a (by omega), toInt_toInt64 b (by omega)]
  exact Int.bmod_eq_of_le (by omega) (by omega)

lemma toInt_sub_of_lt (a b : UInt64) (ha : a.toNat < 2 ^ 63) (hb : b.toNat < 2 ^ 63) :
    (a.toInt64 - b.toInt64).toInt = a.toNat - b.toNat := by
  rw [Int64.toInt_sub, toInt_toInt64 a ha, toInt_toInt64 b hb]
  exact Int.bmod_eq_of_le (by omega) (by omega)

/-- Such a number is at most one window away from `e` with its low octets replaced. -/
lemma half_window (hpos : 1 ≤ n) (hmax : n ≤ 4) (hlow : e < pn + 2 ^ (8 * n - 1))
    (hhigh : pn ≤ e + 2 ^ (8 * n - 1)) (hc : c = e / 2 ^ (8 * n) * 2 ^ (8 * n) + pn % 2 ^ (8 * n)) :
    (c + 2 ^ (8 * n - 1) ≤ e ∧ pn = c + 2 ^ (8 * n)) ∨
      (e + 2 ^ (8 * n - 1) < c ∧ c = pn + 2 ^ (8 * n)) ∨
      (e < c + 2 ^ (8 * n - 1) ∧ c ≤ e + 2 ^ (8 * n - 1) ∧ pn = c) := by
  interval_cases n <;> simp only [Nat.reduceMul, Nat.reduceSub, Nat.reducePow] at * <;> omega

/-- The choice on machine integers is the one on numbers as long as nothing comes near the top. -/
lemma chosen_toNat {expected cand win : UInt64} {half : Nat} (hwin : win.toNat = 2 * half)
    (hhwin : (win >>> 1).toNat = half) (hhalf : half ≤ 2 ^ 31)
    (hexpected : expected.toNat < 2 ^ 62 + 2 ^ 32) (hcand : cand.toNat < 2 ^ 62 + 2 ^ 33) :
    (if cand.toInt64 ≤ expected.toInt64 - (win >>> 1).toInt64 ∧
      cand + win < (1 : UInt64) <<< 62 then cand + win
      else if expected.toInt64 + (win >>> 1).toInt64 < cand.toInt64 ∧
        win.toInt64 ≤ cand.toInt64 then cand - win
      else cand).toNat =
    if cand.toNat + half ≤ expected.toNat ∧
      cand.toNat + 2 * half < 2 ^ 62 then cand.toNat + 2 * half
    else if expected.toNat + half < cand.toNat ∧ 2 * half ≤ cand.toNat then cand.toNat - 2 * half
    else cand.toNat := by
  have hsum : (cand + win).toNat = cand.toNat + 2 * half := by
    rw [UInt64.toNat_add, hwin]
    omega
  have hbelow : cand.toInt64 ≤ expected.toInt64 - (win >>> 1).toInt64 ↔
    cand.toNat + half ≤ expected.toNat := by
    rw [Int64.le_iff_toInt_le, toInt_toInt64 cand (by omega),
      toInt_sub_of_lt _ _ (by omega) (by omega)]
    omega
  have habove : expected.toInt64 + (win >>> 1).toInt64 < cand.toInt64 ↔
    expected.toNat + half < cand.toNat := by
    rw [Int64.lt_iff_toInt_lt, toInt_toInt64 cand (by omega), toInt_add_of_lt _ _ (by omega)]
    omega
  have hwindow : win.toInt64 ≤ cand.toInt64 ↔ 2 * half ≤ cand.toNat := by
    rw [Int64.le_iff_toInt_le, toInt_toInt64 cand (by omega), toInt_toInt64 win (by omega)]
    omega
  have hroom : cand + win < (1 : UInt64) <<< 62 ↔ cand.toNat + 2 * half < 2 ^ 62 := by
    rw [UInt64.lt_iff_toNat_lt, hsum]
    rfl
  by_cases hdown : cand.toNat + half ≤ expected.toNat ∧ cand.toNat + 2 * half < 2 ^ 62
  · rw [if_pos hdown, if_pos ⟨hbelow.mpr hdown.1, hroom.mpr hdown.2⟩, hsum]
  · rw [if_neg hdown, if_neg fun h => hdown ⟨hbelow.mp h.1, hroom.mp h.2⟩]
    by_cases hup : expected.toNat + half < cand.toNat ∧ 2 * half ≤ cand.toNat
    · have hle : win ≤ cand := UInt64.le_iff_toNat_le.mpr (by omega)
      rw [if_pos hup, if_pos ⟨habove.mpr hup.1, hwindow.mpr hup.2⟩, UInt64.toNat_sub_of_le _ _ hle,
        hwin]
    · rw [if_neg hup, if_neg fun h => hup ⟨habove.mp h.1, hwindow.mp h.2⟩]

variable {pn : UInt64}

lemma decodePacketNumber_truncate {acked : UInt64} (hpos : 1 ≤ n) (hmax : n ≤ 4)
    (hpn : pn.toNat < 2 ^ 62) (hwin : InHalfWindow (some acked) pn n) :
    decodePacketNumber acked (truncatePacketNumber pn n) n = pn := by
  obtain ⟨hlow, hhigh⟩ := hwin
  have hhalf : 2 ^ (8 * n - 1) ≤ 2 ^ 31 := Nat.pow_le_pow_right (by omega) (by omega)
  have htrunc := truncatePacketNumber_toNat pn hpos hmax
  rw [decodePacketNumber, if_neg (by omega)]
  dsimp only
  generalize hw : (1 : UInt64) <<< UInt64.ofNat (8 * n) = win
  have hdouble : 2 ^ (8 * n) = 2 * 2 ^ (8 * n - 1) := by
    rw [← Nat.pow_succ']
    congr 1
    omega
  have hwide : win.toNat = 2 * 2 ^ (8 * n - 1) := by rw [← hw, pnWin_toNat hmax, hdouble]
  have hmask : (win - 1).toNat = 2 ^ (8 * n) - 1 := by
    rw [← hw]
    interval_cases n <;> rfl
  have hhwin : (win >>> 1).toNat = 2 ^ (8 * n - 1) := by
    rw [← hw]
    interval_cases n <;> rfl
  have hnext : (acked + 1).toNat = acked.toNat + 1 := by
    rw [UInt64.toNat_add]
    exact Nat.mod_eq_of_lt (by rw [UInt64.toNat_one]; omega)
  have hcandidate := replace_low (acked + 1) (truncatePacketNumber pn n) _ (8 * n) (by omega) hmask
    (by rw [htrunc]; exact Nat.mod_lt _ (Nat.two_pow_pos _))
  rw [hnext, htrunc] at hcandidate
  have hexpected : acked.toInt64 + 1 = (acked + 1).toInt64 := rfl
  rw [hexpected, UInt64.toUInt64_toInt64]
  generalize hc : ((acked + 1) &&& ~~~(win - 1)) ||| truncatePacketNumber pn n =
    cand at hcandidate ⊢
  have hcases := half_window hpos hmax hlow hhigh hcandidate
  apply UInt64.toNat_inj.mp
  rw [chosen_toNat hwide hhwin hhalf (by omega) (by omega), hnext]
  rcases hcases with ⟨hside, hvalue⟩ | ⟨hside, hvalue⟩ | ⟨hside, hside', hvalue⟩
  · rw [if_pos (by omega)]
    omega
  · rw [if_neg (by omega), if_pos (by omega)]
    omega
  · rw [if_neg (by omega), if_neg (by omega), hvalue]

lemma choosePacketNumberLen_ok (h : choosePacketNumberLen pn (some la) = .ok n) :
    la < pn ∧ 1 ≤ n ∧ n ≤ 4 ∧ pn.toNat < la.toNat + 2 ^ (8 * n - 1) := by
  simp only [choosePacketNumberLen, bind_ok, reject_ok, pure_ok] at h
  obtain ⟨_, hle, h⟩ := h
  have hlt : la < pn := UInt64.not_le.mp hle
  have hgap : (pn - la).toNat = pn.toNat - la.toNat :=
    UInt64.toNat_sub_of_le _ _ (UInt64.le_of_lt hlt)
  have hsmall (w : UInt64) :
    pn - la < w ↔ pn.toNat - la.toNat < w.toNat := by rw [UInt64.lt_iff_toNat_lt, hgap]
  simp only [hsmall] at h
  refine ⟨hlt, ?_⟩
  split_ifs at h with h1 h2 h3 h4 <;> cases h
  · exact ⟨by omega, by omega, by change _ < 128 at h1; change _ < _ + 128; omega⟩
  · exact ⟨by omega, by omega, by change _ < 32768 at h2; change _ < _ + 32768; omega⟩
  · exact ⟨by omega, by omega, by change _ < 8388608 at h3; change _ < _ + 8388608; omega⟩
  · exact ⟨by omega, by omega, by change _ < 2147483648 at h4; change _ < _ + 2147483648; omega⟩

/-- A receiver that knows at least what the sender saw acknowledged, and not half a window more
than the number itself, completes the number the sender truncated. -/
theorem chosen_width_decodable {pn la largest : UInt64} {n : Nat} (hpn : pn.toNat < 2 ^ 62)
    (h : choosePacketNumberLen pn (some la) = .ok n) (hknown : la ≤ largest)
    (hnear : largest.toNat < pn.toNat + 2 ^ (8 * n - 1) - 1) :
    decodePacketNumber largest (truncatePacketNumber pn n) n = pn := by
  obtain ⟨-, hpos, hmax, hgap⟩ := choosePacketNumberLen_ok h
  have hle : la.toNat ≤ largest.toNat := UInt64.le_iff_toNat_le.mp hknown
  apply decodePacketNumber_truncate hpos hmax hpn
  constructor <;> omega

/-- The widest gap of two octets, at either end of what is allowed. -/
theorem chosen_width_decodable_edges :
    choosePacketNumberLen 33000 (some 233) = .ok 2 ∧
      decodePacketNumber 233 (truncatePacketNumber 33000 2) 2 = 33000 ∧
      decodePacketNumber 65766 (truncatePacketNumber 33000 2) 2 = 33000 := by
  have hchosen : choosePacketNumberLen 33000 (some 233) = .ok 2 := rfl
  exact ⟨hchosen, chosen_width_decodable (by decide) hchosen (by decide) (by decide),
    chosen_width_decodable (by decide) hchosen (by decide) (by decide)⟩

end Pollux.Quicgm
