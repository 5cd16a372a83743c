import Mathlib.Algebra.Group.Nat.Defs
import PolluxGM.Bytes

/-!
# Length-prefixed fields

A builder puts the length of a field in front of it and fails when the length does not
fit; a reader takes the length and then that many octets.
-/
namespace Pollux

variable {ε α : Type}

def prefixed (tooLong : Nat → Nat → ε) (width : Nat) (lengthField : Nat → Bytes) (b : Bytes) :
    Except ε Bytes := do
  reject (256 ^ width ≤ b.length) (tooLong b.length width)
  return lengthField b.length ++ b

def vec8 (b : Bytes) : Option (Bytes × Bytes) := do
  let (n, rest) ← u8 b
  chunk n rest

def vec16 (b : Bytes) : Option (Bytes × Bytes) := do
  let (n, rest) ← u16 b
  chunk n rest

def vec24 (b : Bytes) : Option (Bytes × Bytes) := do
  let (n, rest) ← u24 b
  chunk n rest

/-- Read items for at most the given rounds until the input is used up. -/
def itemsFrom (item : Bytes → Option (α × Bytes)) : Nat → Bytes → Option (List α)
  | _, [] => some []
  | 0, _ :: _ => none
  | rounds + 1, b => do
    let (x, rest) ← item b
    let xs ← itemsFrom item rounds rest
    return x :: xs

/-- Every item takes an octet, so the loop ends. -/
def items (item : Bytes → Option (α × Bytes)) (b : Bytes) : Option (List α) :=
  itemsFrom item b.length b

def whole (read : Option (α × Bytes)) : Option α := do
  let (x, rest) ← read
  if rest = [] then some x else none

def nonEmpty (b : Bytes) : Option Bytes := if b = [] then none else some b

variable {b w : Bytes}

lemma prefixed_ok :
    prefixed tooLong width lengthField b = .ok w ↔ b.length < 256 ^ width ∧
      lengthField b.length ++ b = w := by
  simp [prefixed, bind_ok]

lemma vec8_append (h : b.length < 256) (rest : Bytes) :
    vec8 (UInt8.ofNat b.length :: (b ++ rest)) = some (b, rest) := by
  simp [vec8, h, chunk_append]

lemma vec16_append (h : b.length < 65536) (rest : Bytes) :
    vec16 (be16 b.length ++ (b ++ rest)) = some (b, rest) := by
  simp [vec16, h, chunk_append]

lemma vec24_append (h : b.length < 16777216) (rest : Bytes) :
    vec24 (be24 b.length ++ (b ++ rest)) = some (b, rest) := by
  simp [vec24, h, chunk_append]

variable {x : α}

lemma whole_some : whole (some (x, [])) = some x := rfl

lemma nonEmpty_some (h : b ≠ []) : nonEmpty b = some b := if_neg h

variable {xs : List α} {ws : List Bytes} {rounds : Nat}

section

variable {item : Bytes → Option (α × Bytes)}

/-- The octets `w` are read as `x`, whatever follows them. -/
structure Spells (item : Bytes → Option (α × Bytes)) (x : α) (w : Bytes) : Prop where
  octets : w ≠ []
  read : ∀ rest, item (w ++ rest) = some (x, rest)

lemma itemsFrom_spelled (h : List.Forall₂ (Spells item) xs ws)
    (hrounds : ws.flatten.length ≤ rounds) :
    itemsFrom item rounds ws.flatten = some xs := by
  induction h generalizing rounds with
  | nil => cases rounds <;> rfl
  | @cons x w xs ws hw _ ih =>
    have hread := hw.read ws.flatten
    obtain ⟨a, w, rfl⟩ := List.exists_cons_of_ne_nil hw.octets
    rw [List.flatten_cons] at hrounds ⊢
    cases rounds with
    | zero => cases hrounds
    | succ rounds =>
      have hrest : itemsFrom item rounds ws.flatten = some xs :=
        ih (by rw [List.length_append, List.length_cons] at hrounds; omega)
      have hstep : itemsFrom item (rounds + 1) (a :: w ++ ws.flatten) =
          (item (a :: w ++ ws.flatten)).bind fun p =>
            (itemsFrom item rounds p.2).bind fun xs => some (p.1 :: xs) := rfl
      rw [hstep, hread, Option.bind_some, hrest, Option.bind_some]

lemma items_spelled (h : List.Forall₂ (Spells item) xs ws) :
    items item ws.flatten = some xs := itemsFrom_spelled h (Nat.le_refl _)

lemma Spells.whole (h : Spells item x w) : whole (item w) = some x := by
  have hread := h.read []
  rw [List.append_nil] at hread
  rw [hread, whole_some]

/-- A read takes at least one octet from the front, and nothing from beyond. -/
def Bounded (item : Bytes → Option (α × Bytes)) : Prop :=
  ∀ b x rest, item b = some (x, rest) → ∃ used, used ≠ [] ∧ used ++ rest = b

/-- More rounds than octets change nothing: the loop ends by itself. -/
lemma Bounded.itemsFrom_eq (h : Bounded item) (hrounds : b.length ≤ rounds)
    (hrounds' : b.length ≤ rounds') :
    itemsFrom item rounds b = itemsFrom item rounds' b := by
  induction rounds generalizing b rounds' with
  | zero =>
    obtain rfl := List.eq_nil_of_length_eq_zero (Nat.le_zero.mp hrounds)
    cases rounds' <;> rfl
  | succ rounds ih =>
    cases b with
    | nil => cases rounds' <;> rfl
    | cons a t =>
      cases rounds' with
      | zero => cases hrounds'
      | succ rounds' =>
        simp only [itemsFrom]
        cases hread : item (a :: t) with
        | none => rfl
        | some p =>
          obtain ⟨used, hused, happ⟩ := h _ _ _ hread
          have hshort := congrArg List.length happ
          have hpos := List.length_pos_iff.mpr hused
          rw [List.length_append] at hshort
          have hrest := @ih p.2 rounds' (by omega) (by omega)
          simp [hrest]

/-- Each round takes a piece off the front, and the number of rounds is never what ends the loop. -/
def Terminates (item : Bytes → Option (α × Bytes)) : Prop :=
  Bounded item ∧ ∀ rounds b, b.length ≤ rounds → itemsFrom item rounds b = items item b

lemma Bounded.terminates (h : Bounded item) : Terminates item :=
  ⟨h, fun _ _ hrounds => h.itemsFrom_eq hrounds (Nat.le_refl _)⟩

end

variable {rest : Bytes}

section

variable {β : Type}

lemma u8_bounded : Bounded u8 := by
  intro b x rest h
  obtain ⟨rfl, _⟩ := u8_some h
  exact ⟨[UInt8.ofNat x], List.cons_ne_nil _ _, rfl⟩

lemma Bounded.andThen (h : Bounded item) (next : α → Bytes → Option (β × Bytes))
    (hnext : ∀ x b y rest, next x b = some (y, rest) → rest <:+ b) :
    Bounded fun b => item b >>= fun p => next p.1 p.2 := by
  intro b y rest hread
  obtain ⟨⟨x, b'⟩, hp, hy⟩ := Option.bind_eq_some_iff.mp hread
  obtain ⟨used, hused, rfl⟩ := h b x b' hp
  obtain ⟨more, rfl⟩ := hnext _ _ _ _ hy
  exact ⟨used ++ more, List.append_ne_nil_of_left_ne_nil hused _, List.append_assoc _ _ _⟩

lemma Bounded.suffix (h : Bounded item) (hread : item b = some (x, rest)) :
    rest <:+ b := by
  obtain ⟨used, _, happ⟩ := h b x rest hread
  exact ⟨used, happ⟩

lemma chunk_suffix {x : Bytes} (h : chunk n b = some (x, rest)) : rest <:+ b := by
  obtain ⟨rfl, _⟩ := chunk_some h
  exact List.suffix_append _ _

lemma u16_bounded : Bounded u16 := by
  intro b x rest h
  obtain ⟨rfl, _⟩ := u16_some h
  exact ⟨be16 x, List.cons_ne_nil _ _, rfl⟩

lemma u24_bounded : Bounded u24 := by
  intro b x rest h
  obtain ⟨rfl, _⟩ := u24_some h
  exact ⟨be24 x, List.cons_ne_nil _ _, rfl⟩

lemma vec8_bounded : Bounded vec8 := u8_bounded.andThen chunk fun _ _ _ _ h => chunk_suffix h

lemma vec16_bounded : Bounded vec16 := u16_bounded.andThen chunk fun _ _ _ _ h => chunk_suffix h

lemma vec24_bounded : Bounded vec24 := u24_bounded.andThen chunk fun _ _ _ _ h => chunk_suffix h

lemma Bounded.value (h : Bounded item) (f : α → Option β) :
    Bounded fun b => item b >>= fun p => f p.1 >>= fun y => some (y, p.2) := by
  refine h.andThen (fun x b => f x >>= fun y => some (y, b)) ?_
  intro x b y rest hread
  obtain ⟨_, _, hy⟩ := Option.bind_eq_some_iff.mp hread
  cases hy
  exact List.suffix_refl _

end

end Pollux
