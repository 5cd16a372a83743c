import Mathlib.Tactic.Lemma
/-!
# Undoing loops

A step is undone by another one on the states of an invariant. What a loop has done is
undone by a loop of the undoing steps that runs in the other direction.
-/
namespace Pollux

variable {σ ι : Type} {I : σ → Prop}

/-- On the states of `I`, `g` takes back what `f` does. -/
structure Undone (I : σ → Prop) (f g : σ → σ) : Prop where
  keeps : ∀ {s}, I s → I (f s)
  undo : ∀ {s}, I s → g (f s) = s

def loop (f : ι → σ → σ) (indices : List ι) (s : σ) : σ := indices.foldl (fun s i => f i s) s

lemma loop_cons (f : ι → σ → σ) (i : ι) (indices : List ι) (s : σ) :
    loop f (i :: indices) s = loop f indices (f i s) := rfl

lemma loop_append (f : ι → σ → σ) (before after : List ι) (s : σ) :
    loop f (before ++ after) s = loop f after (loop f before s) := List.foldl_append

/-- The last round is taken back first. -/
lemma Undone.loop {f g : ι → σ → σ} {indices : List ι} (h : ∀ i ∈ indices, Undone I (f i) (g i)) :
    Undone I (loop f indices) (loop g indices.reverse) := by
  induction indices with
  | nil => exact ⟨id, fun _ => rfl⟩
  | cons i indices ih =>
    have hi := h i List.mem_cons_self
    have hrest := ih fun j hj => h j (List.mem_cons_of_mem i hj)
    constructor
    · intro s hs
      exact hrest.keeps (hi.keeps hs)
    · intro s hs
      rw [loop_cons, List.reverse_cons, loop_append, hrest.undo (hi.keeps hs)]
      exact hi.undo hs

lemma Undone.loop_reverse {f g : ι → σ → σ} {indices : List ι}
    (h : ∀ i ∈ indices, Undone I (g i) (f i)) :
    Undone I (Pollux.loop g indices.reverse) (Pollux.loop f indices) := by
  have hback := Undone.loop fun i hi => h i (List.mem_reverse.mp hi)
  rwa [List.reverse_reverse] at hback

end Pollux
