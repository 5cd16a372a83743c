import Mathlib.Data.List.Basic

/-!
# Words that show where they end

A set of words none of which is a front of another one. A string that is made of such
words is made of them in one way only.
-/
namespace Pollux

variable {β : Type}

structure SelfDelimiting (word : List β → Prop) : Prop where
  nonempty : ∀ x, word x → x ≠ []
  unique : ∀ x y r s, word x → word y → x ++ r = y ++ s → x = y

variable {word : List β → Prop}

lemma SelfDelimiting.initial (h : SelfDelimiting word) {xs ys : List (List β)} {r : List β}
    (hxs : ∀ x ∈ xs, word x) (hys : ∀ y ∈ ys, word y) (heq : xs.flatten ++ r = ys.flatten) :
    ∃ zs, ys = xs ++ zs ∧ r = zs.flatten := by
  induction xs generalizing ys with
  | nil => exact ⟨ys, rfl, heq⟩
  | cons x xs ih =>
    have hx := hxs x List.mem_cons_self
    cases ys with
    | nil =>
      simp only [List.flatten_cons, List.flatten_nil, List.append_assoc,
        List.append_eq_nil_iff] at heq
      exact absurd heq.1 (h.nonempty x hx)
    | cons y ys =>
      simp only [List.flatten_cons, List.append_assoc] at heq
      obtain rfl : x = y := h.unique x y _ _ hx (hys y List.mem_cons_self) heq
      obtain ⟨zs, rfl, hr⟩ := ih (fun z hz => hxs z (List.mem_cons_of_mem _ hz))
        (fun z hz => hys z (List.mem_cons_of_mem _ hz)) (List.append_cancel_left heq)
      exact ⟨zs, rfl, hr⟩

end Pollux
