import Mathlib.Data.List.Forall2
import Mathlib.Tactic.Common

/-!
# Byte strings, big-endian fields and checked readers

A reader consumes a front of its input and returns what follows. Two facts describe it: it reads a
written field and leaves the rest alone, and what it accepts was the written form of what it
returned.
-/
namespace Pollux

abbrev Bytes := List UInt8

/-- Membership tests over byte strings all use this instance. -/
instance : LawfulBEq Bytes := List.instLawfulBEq

/-- The two low octets, most significant first. Higher bits are cut off. -/
def be16 (n : Nat) : Bytes := [UInt8.ofNat (n / 256), UInt8.ofNat n]

def be24 (n : Nat) : Bytes := [UInt8.ofNat (n / 65536), UInt8.ofNat (n / 256), UInt8.ofNat n]

def be32 (n : Nat) : Bytes :=
  [UInt8.ofNat (n / 16777216), UInt8.ofNat (n / 65536), UInt8.ofNat (n / 256), UInt8.ofNat n]

def zeros (n : Nat) : Bytes := List.replicate n 0

/-- A source of random octets fails or gives as many as asked for. -/
structure Reader (ε : Type) where
  read : Nat → Except ε Bytes
  full : ∀ {n b}, read n = .ok b → b.length = n

def u8 : Bytes → Option (Nat × Bytes)
  | a :: r => some (a.toNat, r)
  | [] => none

def u16 : Bytes → Option (Nat × Bytes)
  | a :: b :: r => some (a.toNat * 256 + b.toNat, r)
  | _ => none

def u24 : Bytes → Option (Nat × Bytes)
  | a :: b :: c :: r => some (a.toNat * 65536 + b.toNat * 256 + c.toNat, r)
  | _ => none

def u32 : Bytes → Option (Nat × Bytes)
  | a :: b :: c :: d :: r =>
    some (a.toNat * 16777216 + b.toNat * 65536 + c.toNat * 256 + d.toNat, r)
  | _ => none

def chunk (n : Nat) (b : Bytes) : Option (Bytes × Bytes) :=
  if n ≤ b.length then some (b.take n, b.drop n) else none

@[simp] lemma be16_length (n : Nat) : (be16 n).length = 2 := rfl
@[simp] lemma be24_length (n : Nat) : (be24 n).length = 3 := rfl
@[simp] lemma be32_length (n : Nat) : (be32 n).length = 4 := rfl
@[simp] lemma zeros_length (n : Nat) : (zeros n).length = n := by simp [zeros]

def zeroReader {ε : Type} : Reader ε where
  read n := .ok (zeros n)
  full h := by rw [← Except.ok.inj h, zeros_length]

lemma headD_append {x : Bytes} {n : Nat} (h : n + 1 ≤ x.length) (y : Bytes) :
    (x ++ y).headD 0 = x.headD 0 := by
  cases x with
  | nil => cases h
  | cons b x => rfl

lemma xor_xor_eq_iff (x a b : UInt8) : x ^^^ a ^^^ b = x ↔ a = b := by
  constructor
  · intro h
    have h0 : x ^^^ (a ^^^ b) = x ^^^ 0 := by rw [← UInt8.xor_assoc, h, UInt8.xor_zero]
    exact UInt8.xor_eq_zero_iff.mp (UInt8.xor_right_inj x |>.mp h0)
  · rintro rfl
    rw [UInt8.xor_assoc, UInt8.xor_self, UInt8.xor_zero]

lemma byte_lt (a : UInt8) : a.toNat < 256 := a.toNat_lt

lemma byte_of_toNat (a : UInt8) (n : Nat) (h : n % 256 = a.toNat) : UInt8.ofNat n = a := by
  apply UInt8.toNat_inj.mp
  rw [UInt8.toNat_ofNat']
  exact h

@[simp] lemma u8_cons (n : Nat) (h : n < 256) (r : Bytes) :
    u8 (UInt8.ofNat n :: r) = some (n, r) := by
  simp only [u8, UInt8.toNat_ofNat']
  rw [Nat.mod_eq_of_lt h]

@[simp] lemma u16_be16 (n : Nat) (h : n < 65536) (r : Bytes) :
    u16 (be16 n ++ r) = some (n, r) := by
  simp only [be16, List.cons_append, List.nil_append, u16, UInt8.toNat_ofNat']
  have hn : n / 256 % 2 ^ 8 * 256 + n % 2 ^ 8 = n := by omega
  rw [hn]

@[simp] lemma u24_be24 (n : Nat) (h : n < 16777216) (r : Bytes) :
    u24 (be24 n ++ r) = some (n, r) := by
  simp only [be24, List.cons_append, List.nil_append, u24, UInt8.toNat_ofNat']
  have hn : n / 65536 % 2 ^ 8 * 65536 + n / 256 % 2 ^ 8 * 256 + n % 2 ^ 8 = n := by omega
  rw [hn]

@[simp] lemma u32_be32 (n : Nat) (h : n < 4294967296) (r : Bytes) :
    u32 (be32 n ++ r) = some (n, r) := by
  simp only [be32, List.cons_append, List.nil_append, u32, UInt8.toNat_ofNat']
  have hn : n / 16777216 % 2 ^ 8 * 16777216 + n / 65536 % 2 ^ 8 * 65536 +
      n / 256 % 2 ^ 8 * 256 + n % 2 ^ 8 = n := by omega
  rw [hn]

variable {b r : Bytes} {n : Nat}

lemma u8_none (h : u8 b = none) : b = [] := by
  cases b with
  | nil => rfl
  | cons a t => simp [u8] at h

lemma u8_some (h : u8 b = some (n, r)) : b = UInt8.ofNat n :: r ∧ n < 256 := by
  cases b with
  | nil => simp [u8] at h
  | cons a t =>
    simp only [u8, Option.some.injEq, Prod.mk.injEq] at h
    obtain ⟨rfl, rfl⟩ := h
    exact ⟨by rw [UInt8.ofNat_toNat], byte_lt a⟩

lemma u16_some (h : u16 b = some (n, r)) : b = be16 n ++ r ∧ n < 65536 := by
  match b, h with
  | x :: y :: t, h =>
    simp only [u16, Option.some.injEq, Prod.mk.injEq] at h
    obtain ⟨rfl, rfl⟩ := h
    have hx := byte_lt x
    have hy := byte_lt y
    refine ⟨?_, by omega⟩
    simp only [be16, List.cons_append, List.nil_append]
    rw [byte_of_toNat x _ (by omega), byte_of_toNat y _ (by omega)]

lemma u24_some (h : u24 b = some (n, r)) : b = be24 n ++ r ∧ n < 16777216 := by
  match b, h with
  | x :: y :: z :: t, h =>
    simp only [u24, Option.some.injEq, Prod.mk.injEq] at h
    obtain ⟨rfl, rfl⟩ := h
    have hx := byte_lt x
    have hy := byte_lt y
    have hz := byte_lt z
    refine ⟨?_, by omega⟩
    simp only [be24, List.cons_append, List.nil_append]
    rw [byte_of_toNat x _ (by omega), byte_of_toNat y _ (by omega), byte_of_toNat z _ (by omega)]

lemma u32_some (h : u32 b = some (n, r)) : b = be32 n ++ r ∧ n < 4294967296 := by
  match b, h with
  | x :: y :: z :: w :: t, h =>
    simp only [u32, Option.some.injEq, Prod.mk.injEq] at h
    obtain ⟨rfl, rfl⟩ := h
    have hx := byte_lt x
    have hy := byte_lt y
    have hz := byte_lt z
    have hw := byte_lt w
    refine ⟨?_, by omega⟩
    simp only [be32, List.cons_append, List.nil_append]
    rw [byte_of_toNat x _ (by omega), byte_of_toNat y _ (by omega), byte_of_toNat z _ (by omega),
      byte_of_toNat w _ (by omega)]

lemma chunk_append (h : x.length = n) : chunk n (x ++ r) = some (x, r) := by
  subst h
  simp [chunk]

lemma chunk_some (h : chunk n b = some (x, r)) : b = x ++ r ∧ x.length = n := by
  unfold chunk at h
  split at h
  · simp only [Option.some.injEq, Prod.mk.injEq] at h
    obtain ⟨rfl, rfl⟩ := h
    exact ⟨(List.take_append_drop n b).symm, by simp; omega⟩
  · cases h

variable {m : Nat}

lemma be16_inj (hm : m < 65536) (hn : n < 65536) (h : be16 m = be16 n) : m = n := by
  have hm' := u16_be16 m hm []
  rw [h, u16_be16 n hn] at hm'
  simpa using hm'.symm

lemma be24_inj (hm : m < 16777216) (hn : n < 16777216) (h : be24 m = be24 n) : m = n := by
  have hm' := u24_be24 m hm []
  rw [h, u24_be24 n hn] at hm'
  simpa using hm'.symm

lemma be32_inj (hm : m < 4294967296) (hn : n < 4294967296) (h : be32 m = be32 n) : m = n := by
  have hm' := u32_be32 m hm []
  rw [h, u32_be32 n hn] at hm'
  simpa using hm'.symm

variable {ε α β : Type}

/-- Fail with `e` when the bad condition holds. -/
def reject (bad : Prop) [Decidable bad] (e : ε) : Except ε Unit := if bad then .error e else .ok ()

/-- Turn a failed read into an error. -/
def need (e : ε) : Option α → Except ε α
  | some a => .ok a
  | none => .error e

variable {x : Except ε α} {f : α → Except ε β}

lemma bind_ok {b : β} : (x >>= f) = .ok b ↔ ∃ a, x = .ok a ∧ f a = .ok b := by
  cases x with
  | ok a => simp [bind, Except.bind]
  | error e => simp [bind, Except.bind]

lemma bind_error : (x >>= f) = .error e ↔ x = .error e ∨ ∃ a, x = .ok a ∧ f a = .error e := by
  cases x with
  | ok a => simp [bind, Except.bind]
  | error e' => simp [bind, Except.bind]

@[simp] lemma ok_bind (a : α) (f : α → Except ε β) : (Except.ok a >>= f) = f a := rfl

@[simp] lemma error_bind (e : ε) (f : α → Except ε β) :
    (Except.error e >>= f) = Except.error e := rfl

@[simp] lemma pure_ok (a : α) : (pure a : Except ε α) = .ok a := rfl

variable {a : α}

lemma pure_inj {b : α} : (pure a : Except ε α) = .ok b ↔ a = b := by simp

@[simp] lemma reject_ok (bad : Prop) [Decidable bad] (e : ε) (u : Unit) :
    reject bad e = .ok u ↔ ¬ bad := by
  unfold reject
  split <;> simp_all

lemma reject_error (bad : Prop) [Decidable bad] (e e' : ε) :
    reject bad e = .error e' ↔ bad ∧ e = e' := by
  unfold reject
  split <;> simp_all

variable {bad : Prop}

@[simp] lemma reject_neg [Decidable bad] (h : ¬ bad) (e : ε) :
    reject bad e = .ok () := by simp [reject, h]

@[simp] lemma need_ok (e : ε) (o : Option α) (a : α) : need e o = .ok a ↔ o = some a := by
  cases o <;> simp [need]

@[simp] lemma mapError_ok (x : Except ε α) (f : ε → ε') (a : α) :
    x.mapError f = .ok a ↔ x = .ok a := by
  cases x <;> simp [Except.mapError]

@[simp] lemma mapError_of_ok (f : ε → ε') (a : α) : (Except.ok a : Except ε α).mapError f = .ok a :=
  rfl

@[simp] lemma need_some (e : ε) (a : α) : need e (some a) = .ok a := rfl

lemma reject_bind [Decidable bad] (h : ¬ bad) (e : ε) (f : Unit → Except ε β) :
    (reject bad e >>= f) = f () := by
  rw [reject_neg h, ok_bind]

variable {xs : List α}

lemma forall_mem_snoc {p : α → Prop} {x : α} : (∀ y ∈ xs ++ [x], p y) ↔ (∀ y ∈ xs, p y) ∧ p x := by
  rw [List.forall_mem_append, List.forall_mem_singleton]

lemma mapM_ok {ys : List β} (h : xs.mapM f = .ok ys) :
    List.Forall₂ (fun x y => f x = .ok y) xs ys := by
  induction xs generalizing ys with
  | nil =>
    cases h
    exact .nil
  | cons x xs ih =>
    simp only [List.mapM_cons, bind_ok, pure_inj] at h
    obtain ⟨y, hy, ys, hys, rfl⟩ := h
    exact .cons hy (ih hys)

lemma mapM_of_ok (h : ∀ x ∈ xs, f x = .ok (g x)) : xs.mapM f = .ok (xs.map g) := by
  induction xs with
  | nil => rfl
  | cons x xs ih =>
    obtain ⟨hx, hxs⟩ := List.forall_mem_cons.mp h
    rw [List.mapM_cons, hx, ok_bind, ih hxs, ok_bind]
    rfl

lemma toOption_eq_none : x.toOption = none ↔ ∃ e, x = .error e := by
  cases x <;> simp [Except.toOption]

lemma toOption_eq_some : x.toOption = some a ↔ x = .ok a := by
  cases x <;> simp [Except.toOption]

end Pollux
