import PolluxGM.Bytes

/-!
# Accesses that can panic

A function of the source ends with a result, an error value or a panic. `slice` and `index` are the
accesses of Go, whose bounds may be any integers.
-/
namespace Pollux.Access

inductive Fault (ε : Type) where
  | err (e : ε)
  | panicked (message : String)
  deriving DecidableEq

variable {ε α β : Type}

/-- The function comes back, with a result or with an error value. -/
def Returns (x : Except (Fault ε) α) : Prop := ∀ message, x ≠ .error (.panicked message)

def returned (x : Except ε α) : Except (Fault ε) α := x.mapError .err

@[simp] lemma returned_ok (a : α) : returned (.ok a : Except ε α) = .ok a := rfl

@[simp] lemma returned_error (e : ε) : returned (.error e : Except ε α) = .error (.err e) := rfl

lemma returned_bind (x : Except ε α) (f : α → Except ε β) :
    returned (x >>= f) = returned x >>= fun a => returned (f a) := by
  cases x <;> rfl

@[simp] lemma returned_reject (bad : Prop) [Decidable bad] (e : ε) :
    returned (reject bad e) = reject bad (.err e) := by
  unfold reject
  split <;> rfl

lemma Returns.of_returned (x : Except ε α) : Returns (returned x) := by
  cases x <;> exact fun _ h => by cases h

lemma Returns.of_reject (bad : Prop) [Decidable bad] (e : ε) : Returns (reject bad (.err e)) := by
  rw [← returned_reject]
  exact .of_returned _

lemma Returns.bind {x : Except (Fault ε) α} {f : α → Except (Fault ε) β} (hx : Returns x)
    (hf : ∀ a, x = .ok a → Returns (f a)) : Returns (x >>= f) := by
  cases x with
  | ok a => exact hf a rfl
  | error fault =>
    exact fun message h =>
      hx message (by rw [error_bind] at h; exact congrArg _ (Except.error.inj h))

variable {bad : Prop}

lemma reject_iff {bad' : Prop} [Decidable bad] [Decidable bad'] (h : bad ↔ bad') (e : ε) :
    reject bad e = reject bad' e := if_congr h rfl rfl

/-- What comes after a check may rely on it. -/
lemma reject_congr [Decidable bad] {e : ε} {f g : Unit → Except ε β} (h : ¬ bad → f () = g ()) :
    (reject bad e >>= f) = reject bad e >>= g := by
  by_cases hbad : bad
  · simp [reject, hbad]
  · rw [reject_bind hbad, reject_bind hbad, h hbad]

/-- Whatever error a call gives, fail with this one. A panic is not caught. -/
def failAs (e : ε) (x : Except (Fault ε) α) : Except (Fault ε) α :=
  x.mapError fun fault =>
    match fault with
    | .err _ => .err e
    | .panicked message => .panicked message

@[simp] lemma failAs_ok (e : ε) (a : α) : failAs e (.ok a) = .ok a := rfl

@[simp] lemma failAs_panicked (e : ε) (message : String) :
    failAs e (.error (.panicked message) : Except (Fault ε) α) = .error (.panicked message) := rfl

def slice (b : List α) (low high : Int) : Except (Fault ε) (List α) :=
  if 0 ≤ low ∧ low ≤ high ∧ high ≤ b.length then .ok ((b.take high.toNat).drop low.toNat)
  else .error (.panicked "slice bounds out of range")

def index (b : List α) (i : Int) : Except (Fault ε) α :=
  if i < 0 then .error (.panicked "index out of range")
    else need (.panicked "index out of range") b[i.toNat]?

variable {b : List α} {n : Int}

lemma slice_front (hpos : 0 ≤ n) (hn : n ≤ b.length) :
    (slice b 0 n : Except (Fault ε) (List α)) = .ok (b.take n.toNat) :=
  if_pos ⟨Int.le_refl 0, hpos, hn⟩

lemma slice_back (hpos : 0 ≤ n) (hn : n ≤ b.length) :
    (slice b n b.length : Except (Fault ε) (List α)) = .ok (b.drop n.toNat) := by
  rw [slice, if_pos ⟨hpos, hn, Int.le_refl _⟩, Int.toNat_natCast, List.take_length]

lemma slice_take {n : Nat} (h : n ≤ b.length) :
    (slice b 0 n : Except (Fault ε) (List α)) = .ok (b.take n) :=
  slice_front (Int.natCast_nonneg n) (Int.ofNat_le.mpr h)

lemma slice_drop {n : Nat} (h : n ≤ b.length) :
    (slice b n b.length : Except (Fault ε) (List α)) = .ok (b.drop n) :=
  slice_back (Int.natCast_nonneg n) (Int.ofNat_le.mpr h)

lemma slice_middle {m : Nat} (hpos : 0 ≤ n) (hn : n + m ≤ b.length) :
    (slice b n (n + m) : Except (Fault ε) (List α)) = .ok ((b.drop n.toNat).take m) := by
  rw [slice, if_pos ⟨hpos, by omega, hn⟩, List.drop_take]
  congr 2
  omega

lemma index_ok (hpos : 0 ≤ i) (h : b[i.toNat]? = some x) :
    (index b i : Except (Fault ε) α) = .ok x := by
  rw [index, if_neg (Int.not_lt.mpr hpos), h, need_some]

end Pollux.Access
