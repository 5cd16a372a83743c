import Mathlib.Data.List.TakeWhile
import PolluxGM.Text

/-!
# Base64

The standard alphabet, without padding (`RawStdEncoding`) and with it (`StdEncoding`). Line
ends are skipped, and the bits that a last incomplete octet would have are not looked at.
-/
namespace Pollux.Base64

def digit (v : Nat) : UInt8 :=
  if v < 26 then UInt8.ofNat (65 + v)
  else if v < 52 then UInt8.ofNat (71 + v)
  else if v < 62 then UInt8.ofNat (v - 4)
  else if v = 62 then 43
  else 47

def value (c : UInt8) : Option Nat :=
  let n := c.toNat
  if 65 ≤ n ∧ n ≤ 90 then some (n - 65)
  else if 97 ≤ n ∧ n ≤ 122 then some (n - 71)
  else if 48 ≤ n ∧ n ≤ 57 then some (n + 4)
  else if n = 43 then some 62
  else if n = 47 then some 63
  else none

def sextets : Bytes → List Nat
  | a :: b :: c :: rest =>
    a.toNat / 4 :: (a.toNat % 4 * 16 + b.toNat / 16) ::
      (b.toNat % 16 * 4 + c.toNat / 64) :: c.toNat % 64 :: sextets rest
  | [a, b] => [a.toNat / 4, a.toNat % 4 * 16 + b.toNat / 16, b.toNat % 16 * 4]
  | [a] => [a.toNat / 4, a.toNat % 4 * 16]
  | [] => []

def octets : List Nat → Option Bytes
  | a :: b :: c :: d :: rest => do
    let tail ← octets rest
    return UInt8.ofNat (a * 4 + b / 16) :: UInt8.ofNat (b % 16 * 16 + c / 4) ::
      UInt8.ofNat (c % 4 * 64 + d) :: tail
  | [a, b, c] => some [UInt8.ofNat (a * 4 + b / 16), UInt8.ofNat (b % 16 * 16 + c / 4)]
  | [a, b] => some [UInt8.ofNat (a * 4 + b / 16)]
  | [_] => none
  | [] => some []

def isLineEnd (c : UInt8) : Bool := c = 10 || c = 13

def encodeRaw (b : Bytes) : Bytes := (sextets b).map digit

def decodeRaw (s : Bytes) : Option Bytes := do
  let values ← (s.filter fun c => !isLineEnd c).mapM value
  octets values

/-- `StdEncoding.Decode`. Padding fills the last group of four. -/
def decodeStd (s : Bytes) : Option Bytes :=
  let s := s.filter fun c => !isLineEnd c
  let padding := s.reverse.takeWhile (· = 61)
  let body := (s.reverse.dropWhile (· = 61)).reverse
  if padding.length ≤ 2 ∧ s.length % 4 = 0 then decodeRaw body else none

lemma value_digit (hv : v < 64) : value (digit v) = some v := by
  have hall : ∀ v : Fin 64, value (digit v) = some v.1 := by decide
  exact hall ⟨v, hv⟩

lemma isLineEnd_digit (hv : v < 64) : isLineEnd (digit v) = false := by
  have hall : ∀ v : Fin 64, isLineEnd (digit v) = false := by decide
  exact hall ⟨v, hv⟩

lemma sextets_lt (b : Bytes) : ∀ v ∈ sextets b, v < 64 := by
  fun_induction sextets b with
  | case1 a b c rest ih =>
    have ha := byte_lt a
    have hb := byte_lt b
    have hc := byte_lt c
    simp only [List.forall_mem_cons]
    exact ⟨by omega, by omega, by omega, by omega, ih⟩
  | case2 a b =>
    have ha := byte_lt a
    have hb := byte_lt b
    simp only [List.forall_mem_cons]
    exact ⟨by omega, by omega, by omega, by simp⟩
  | case3 a =>
    have ha := byte_lt a
    simp only [List.forall_mem_cons]
    exact ⟨by omega, by omega, by simp⟩
  | case4 => simp

lemma octets_sextets (b : Bytes) : octets (sextets b) = some b := by
  fun_induction sextets b with
  | case1 a b c rest ih =>
    have ha := byte_lt a
    have hb := byte_lt b
    have hc := byte_lt c
    rw [octets, ih]
    simp only [Option.pure_def, Option.bind_eq_bind, Option.bind_some, Option.some.injEq]
    rw [byte_of_toNat a _ (by omega), byte_of_toNat b _ (by omega), byte_of_toNat c _ (by omega)]
  | case2 a b =>
    have ha := byte_lt a
    have hb := byte_lt b
    rw [octets, byte_of_toNat a _ (by omega), byte_of_toNat b _ (by omega)]
  | case3 a =>
    have ha := byte_lt a
    rw [octets, byte_of_toNat a _ (by omega)]
  | case4 => rfl

lemma mapM_value (vs : List Nat) (hvs : ∀ v ∈ vs, v < 64) :
    (vs.map digit).mapM value = some vs := by
  induction vs with
  | nil => rfl
  | cons v vs ih =>
    obtain ⟨hv, hvs⟩ := List.forall_mem_cons.mp hvs
    rw [List.map_cons, List.mapM_cons, value_digit hv, ih hvs]
    rfl

lemma decodeRaw_encodeRaw (b : Bytes) : decodeRaw (encodeRaw b) = some b := by
  have hclean : (encodeRaw b).filter (fun c => !isLineEnd c) = encodeRaw b := by
    apply List.filter_eq_self.mpr
    intro c hc
    obtain ⟨v, hv, rfl⟩ := List.mem_map.mp hc
    rw [isLineEnd_digit (sextets_lt b v hv)]
    rfl
  rw [decodeRaw, hclean, encodeRaw, mapM_value _ (sextets_lt b)]
  exact octets_sextets b

lemma not_mem_encodeRaw (hc : value c = none) : c ∉ encodeRaw b := by
  intro h
  obtain ⟨v, hv, rfl⟩ := List.mem_map.mp h
  rw [value_digit (sextets_lt b v hv)] at hc
  cases hc

lemma value_of_mapM {s : Bytes} {vs : List Nat} (h : s.mapM value = some vs) :
    ∀ c ∈ s, value c ≠ none := by
  induction s generalizing vs with
  | nil => simp
  | cons c s ih =>
    rw [List.mapM_cons] at h
    simp only [Option.bind_eq_bind, Option.bind_eq_some_iff] at h
    obtain ⟨v, hv, vs, hvs, -⟩ := h
    rw [List.forall_mem_cons]
    exact ⟨by rw [hv]; exact Option.some_ne_none v, ih hvs⟩

lemma value_of_decodeRaw {s b : Bytes} (h : decodeRaw s = some b) :
    ∀ c ∈ s, isLineEnd c = true ∨ value c ≠ none := by
  intro c hc
  cases hend : isLineEnd c with
  | true => exact .inl rfl
  | false =>
    simp only [decodeRaw, Option.bind_eq_bind, Option.bind_eq_some_iff] at h
    obtain ⟨vs, hvs, -⟩ := h
    exact .inr (value_of_mapM hvs c (List.mem_filter.mpr ⟨hc, by rw [hend]; rfl⟩))

lemma value_of_decodeStd (h : decodeStd s = some b) :
    ∀ c ∈ s, isLineEnd c = true ∨ value c ≠ none ∨ c = 61 := by
  intro c hc
  cases hend : isLineEnd c with
  | true => exact .inl rfl
  | false =>
    have hkept : c ∈ (s.filter fun c => !isLineEnd c).reverse :=
      List.mem_reverse.mpr (List.mem_filter.mpr ⟨hc, by rw [hend]; rfl⟩)
    have hsplit := List.takeWhile_append_dropWhile (p := fun c : UInt8 => decide (c = 61))
      (l := (s.filter fun c => !isLineEnd c).reverse)
    simp only [decodeStd, Option.ite_none_right_eq_some] at h
    rw [← hsplit, List.mem_append] at hkept
    rcases hkept with hpadding | hbody
    · have hpad := List.mem_takeWhile_imp hpadding
      exact .inr (.inr (of_decide_eq_true hpad))
    · rcases value_of_decodeRaw h.2 c (List.mem_reverse.mpr hbody) with hline | hvalue
      · rw [hend] at hline
        cases hline
      · exact .inr (.inl hvalue)

end Pollux.Base64
