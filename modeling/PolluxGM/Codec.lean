import PolluxGM.Bytes

/-!
# Codecs

A codec is a writer and a reader, and both may fail. `Exact` tells which values come
back from their written form, and which strings are the written form of what was read
from them.
-/
namespace Pollux

variable {ε α β : Type}

structure Exact (write : α → Except ε Bytes) (read : Bytes → Except ε α) (Readable : α → Prop)
    (Written : Bytes → Prop) : Prop where
  reads : ∀ {a b}, write a = .ok b → (read b = .ok a ↔ Readable a)
  writes : ∀ {a b}, read b = .ok a → (write a = .ok b ↔ Written b)

/-- A loop that reads items off its input; `Fit` tells which items can be written. -/
structure ReadsItems (loop : Nat → Bytes → Except ε (List α)) (encode : α → Bytes)
    (Fit : α → Prop) : Prop where
  octets : ∀ x, encode x ≠ []
  stop : ∀ fuel, loop fuel [] = .ok []
  round : ∀ {fuel x rest}, Fit x →
    loop (fuel + 1) (encode x ++ rest) = (loop fuel rest).map (x :: ·)
  taken : ∀ {fuel p xs}, p ≠ [] → loop (fuel + 1) p = .ok xs →
    ∃ x rest ys, Fit x ∧ p = encode x ++ rest ∧ loop fuel rest = .ok ys ∧ xs = x :: ys

section

variable {loop : Nat → Bytes → Except ε (List α)} {encode : α → Bytes} {Fit : α → Prop}
  {xs : List α} {p : Bytes}

lemma ReadsItems.written (h : ReadsItems loop encode Fit) (hxs : ∀ x ∈ xs, Fit x)
    (hfuel : (xs.flatMap encode).length ≤ fuel) : loop fuel (xs.flatMap encode) = .ok xs := by
  induction xs generalizing fuel with
  | nil => exact h.stop fuel
  | cons x xs ih =>
    have hpos := List.length_pos_iff.mpr (h.octets x)
    rw [List.flatMap_cons] at hfuel ⊢
    rw [List.length_append] at hfuel
    obtain ⟨fuel, rfl⟩ := Nat.exists_eq_add_of_lt (by omega : 0 < fuel)
    rw [Nat.zero_add, h.round (hxs x (by simp)), ih (fun y hy => hxs y (by simp [hy])) (by omega)]
    rfl

lemma ReadsItems.items (h : ReadsItems loop encode Fit) (hfuel : p.length ≤ fuel)
    (hread : loop fuel p = .ok xs) : (∀ x ∈ xs, Fit x) ∧ p = xs.flatMap encode := by
  induction fuel generalizing p xs with
  | zero =>
    obtain rfl := List.eq_nil_of_length_eq_zero (Nat.le_zero.mp hfuel)
    rw [h.stop] at hread
    cases hread
    simp
  | succ fuel ih =>
    by_cases hp : p = []
    · subst hp
      rw [h.stop] at hread
      cases hread
      simp
    obtain ⟨x, rest, ys, hx, rfl, hys, rfl⟩ := h.taken hp hread
    have hpos := List.length_pos_iff.mpr (h.octets x)
    rw [List.length_append] at hfuel
    obtain ⟨hfit, rfl⟩ := ih (by omega) hys
    exact ⟨List.forall_mem_cons.mpr ⟨hx, hfit⟩, rfl⟩

end

section

variable {write : α → Except ε Bytes} {read : Bytes → Except ε α} {Readable : α → Prop}

lemma Exact.of_inverse (hread : ∀ {a b}, Readable a → write a = .ok b → read b = .ok a)
    (hwrite : ∀ {a b}, read b = .ok a → write a = .ok b ∧ Readable a) :
    Exact write read Readable fun _ => True where
  reads h := ⟨fun hr => (hwrite hr).2, fun ha => hread ha h⟩
  writes h := ⟨fun _ => trivial, fun _ => (hwrite h).1⟩

lemma map_eq_ok {x : Except ε α} {b : β} : x.map f = .ok b ↔ ∃ a, x = .ok a ∧ f a = b := by
  cases x <;> simp [Except.map]

lemma Exact.reads_case (h : Exact write read Readable Written) {f : α → β}
    (hf : Function.Injective f) {a : α} {b : Bytes} (hb : write a = .ok b) :
    (read b).map f = .ok (f a) ↔ Readable a := by
  rw [← h.reads hb, map_eq_ok]
  constructor
  · rintro ⟨a', ha', hsame⟩
    rwa [hf hsame] at ha'
  · intro ha
    exact ⟨a, ha, rfl⟩

lemma Exact.writes_case (h : Exact write read Readable fun _ => True) {b : Bytes} {x : β}
    (hx : (read b).map f = .ok x) : ∃ a, x = f a ∧ write a = .ok b := by
  obtain ⟨a, ha, hsame⟩ := map_eq_ok.mp hx
  exact ⟨a, hsame.symm, (h.writes ha).mpr trivial⟩

end

end Pollux
