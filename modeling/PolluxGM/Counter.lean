import Mathlib.Algebra.Group.Nat.Defs
import PolluxGM.Bytes

/-!
# Counters of a fixed number of octets

A counter is stored most significant octet first. Adding one stops at the octet that does not wrap;
when all of them wrap the step says so.
-/
namespace Pollux

def littleValue : Bytes → Nat
  | [] => 0
  | x :: rest => x.toNat + 256 * littleValue rest

/-- Add one. The flag says that the carry left the last octet. -/
def carry : Bytes → Bytes × Bool
  | [] => ([], true)
  | x :: rest => if x + 1 = 0 then (0 :: (carry rest).1, (carry rest).2)
    else ((x + 1) :: rest, false)

lemma carry_length (b : Bytes) : (carry b).1.length = b.length := by
  induction b with
  | nil => rfl
  | cons x rest ih =>
    unfold carry
    split
    · simpa using ih
    · rfl

lemma littleValue_lt (b : Bytes) : littleValue b < 256 ^ b.length := by
  induction b with
  | nil => simp [littleValue]
  | cons x rest ih =>
    have hx := byte_lt x
    simp only [littleValue, List.length_cons, Nat.pow_succ]
    omega

lemma littleValue_inj (hlen : a.length = b.length) (h : littleValue a = littleValue b) : a = b := by
  induction a generalizing b with
  | nil => exact (List.eq_nil_of_length_eq_zero hlen.symm).symm
  | cons x rest ih =>
    cases b with
    | nil => cases hlen
    | cons y rest' =>
      have hx := byte_lt x
      have hy := byte_lt y
      simp only [littleValue] at h
      have hrest : littleValue rest = littleValue rest' := by omega
      have hxy : x = y := UInt8.toNat_inj.mp (by omega)
      rw [hxy, ih (Nat.succ.inj hlen) hrest]

variable {x : UInt8}

lemma byte_succ (h : x + 1 ≠ 0) : (x + 1).toNat = x.toNat + 1 := by
  have hx := byte_lt x
  rw [UInt8.toNat_add]
  have hne : x.toNat ≠ 255 := by
    intro hmax
    exact h (UInt8.toNat_inj.mp (by rw [UInt8.toNat_add, hmax]; rfl))
  exact Nat.mod_eq_of_lt (by simp; omega)

lemma byte_wrap (h : x + 1 = 0) : x.toNat = 255 := by
  have hx := byte_lt x
  by_contra hne
  have hsucc : (x + 1).toNat = x.toNat + 1 := by
    rw [UInt8.toNat_add]
    exact Nat.mod_eq_of_lt (by simp; omega)
  rw [h] at hsucc
  simp at hsucc

/-- The value goes up by one, or was the last one and is now zero. -/
lemma carry_value (b : Bytes) :
    ((carry b).2 = false → littleValue (carry b).1 = littleValue b + 1) ∧
      ((carry b).2 = true → littleValue (carry b).1 = 0 ∧ littleValue b + 1 = 256 ^ b.length) := by
  induction b with
  | nil => simp [carry, littleValue]
  | cons x rest ih =>
    unfold carry
    split
    · rename_i hwrap
      have hx := byte_wrap hwrap
      have hzero : (0 : UInt8).toNat = 0 := rfl
      simp only [littleValue, List.length_cons, Nat.pow_succ, hzero]
      constructor
      · intro hflag
        have := ih.1 hflag
        omega
      · intro hflag
        have := ih.2 hflag
        omega
    · rename_i hstop
      have hx := byte_succ hstop
      simp only [littleValue, hx]
      exact ⟨fun _ => by omega, fun h => by cases h⟩

structure Counter (n : Nat) where
  bytes : Bytes
  length_eq : bytes.length = n
  deriving DecidableEq

variable {n : Nat}

def Counter.zero (n : Nat) : Counter n := ⟨zeros n, zeros_length n⟩

def Counter.value (c : Counter n) : Nat := littleValue c.bytes.reverse

def Counter.next (c : Counter n) : Counter n × Bool :=
  (⟨(carry c.bytes.reverse).1.reverse, by simp [carry_length, c.length_eq]⟩,
    (carry c.bytes.reverse).2)

variable {c d : Counter n}

lemma Counter.ext_bytes (h : c.bytes = d.bytes) : c = d := by
  obtain ⟨_, _⟩ := c
  obtain ⟨_, _⟩ := d
  cases h
  rfl

lemma Counter.value_inj (h : c.value = d.value) : c = d := by
  apply Counter.ext_bytes
  have hlen : c.bytes.reverse.length = d.bytes.reverse.length := by simp [c.length_eq, d.length_eq]
  exact List.reverse_inj.mp (littleValue_inj hlen h)

lemma Counter.value_lt (c : Counter n) : c.value < 256 ^ n := by
  have h := littleValue_lt c.bytes.reverse
  rwa [List.length_reverse, c.length_eq] at h

lemma Counter.next_value (h : c.next.2 = false) : c.next.1.value = c.value + 1 := by
  have hc := (carry_value c.bytes.reverse).1 h
  simpa [Counter.value, Counter.next] using hc

lemma Counter.next_overflow (h : c.next.2 = true) : c.next.1.value = 0 ∧ c.value + 1 = 256 ^ n := by
  have hc := (carry_value c.bytes.reverse).2 h
  simpa [Counter.value, Counter.next, c.length_eq] using hc

lemma Counter.overflow_moves {c : Counter (n + 1)} (h : c.next.2 = true) : c.next.1 ≠ c := by
  intro hsame
  have hover := Counter.next_overflow h
  have hbig : 1 < 256 ^ (n + 1) := Nat.one_lt_pow (Nat.succ_ne_zero n) (by omega)
  rw [hsame] at hover
  omega

lemma Counter.next_value_mod (c : Counter n) : c.next.1.value = (c.value + 1) % 256 ^ n := by
  have hlt := c.next.1.value_lt
  cases h : c.next.2 with
  | true => rw [(Counter.next_overflow h).1, (Counter.next_overflow h).2, Nat.mod_self]
  | false =>
    rw [Counter.next_value h] at hlt ⊢
    exact (Nat.mod_eq_of_lt hlt).symm

lemma Counter.next_of_lt (h : c.value + 1 < 256 ^ n) : c.next.2 = false := by
  cases hlast : c.next.2 with
  | true => exact absurd (Counter.next_overflow hlast).2 (Nat.ne_of_lt h)
  | false => rfl

lemma zeros_littleValue (n : Nat) : littleValue (zeros n) = 0 := by
  induction n with
  | zero => rfl
  | succ n ih =>
    have hcons : zeros (n + 1) = 0 :: zeros n := rfl
    have hzero : (0 : UInt8).toNat = 0 := rfl
    rw [hcons, littleValue, ih, hzero]

@[simp] lemma Counter.zero_value (n : Nat) : (Counter.zero n).value = 0 := by
  have hrev : (zeros n).reverse = zeros n := List.reverse_replicate
  rw [Counter.value, Counter.zero, hrev, zeros_littleValue]

end Pollux
