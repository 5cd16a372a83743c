import Mathlib.Data.List.Basic

/-!
# Numbered logs

A sender numbers what it puts on a log one after another. A receiver that takes only
entries carrying the number it expects has taken an initial segment of the log, whatever
order they were offered in and however often.
-/
namespace Pollux.Channel

variable {α β : Type} {number : α → Nat} {start : Nat} {log : List α}

/-- The entries carry consecutive numbers from `start` on. -/
def Numbered (number : α → Nat) (start : Nat) (log : List α) : Prop :=
  ∀ i e, log[i]? = some e → number e = start + i

lemma Numbered.nil : Numbered number start [] := by
  intro i e h
  simp at h

lemma Numbered.append (h : Numbered number start log)
    (hmore : Numbered number (start + log.length) more) : Numbered number start (log ++ more) := by
  intro i e hi
  by_cases hlt : i < log.length
  · rw [List.getElem?_append_left hlt] at hi
    exact h i e hi
  · have hle : log.length ≤ i := Nat.le_of_not_lt hlt
    rw [List.getElem?_append_right hle] at hi
    have := hmore _ e hi
    omega

lemma Numbered.singleton (h : number e = start) : Numbered number start [e] := by
  intro i x hi
  obtain ⟨rfl, rfl⟩ : i = 0 ∧ e = x := by
    cases i with
    | zero => exact ⟨rfl, by simpa using hi⟩
    | succ i => simp at hi
  exact h

lemma Numbered.find (h : Numbered number start log) (he : e ∈ log)
    (hnumber : number e = start + i) : log[i]? = some e := by
  obtain ⟨j, hj⟩ := List.mem_iff_getElem?.mp he
  have hij : j = i := by
    have := h j e hj
    omega
  rw [← hij]
  exact hj

lemma flatMap_take_succ (f : α → List β) (h : log[i]? = some e) :
    (log.take (i + 1)).flatMap f = (log.take i).flatMap f ++ f e := by
  rw [List.take_add_one, h]
  simp

lemma flatMap_take_initial (f : α → List β) (log : List α) (i : Nat) :
    (log.take i).flatMap f <+: log.flatMap f := by
  conv_rhs => rw [← List.take_append_drop i log, List.flatMap_append]
  exact List.prefix_append _ _

end Pollux.Channel
