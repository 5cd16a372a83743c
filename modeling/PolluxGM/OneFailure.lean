import Mathlib.Tactic.Common

/-!
# Failures that do not depend on a secret

`OneFailure` says that all secrets for which a computation fails give the same error, of a given
kind.
-/
namespace Pollux.Failure

variable {ε ε' α β π : Type}

structure OneFailure (kind : ε → Prop) (m : π → Except ε α) : Prop where
  sound : ∀ p e, m p = .error e → kind e
  same : ∀ p q e e', m p = .error e → m q = .error e' → e = e'

variable {kind : ε → Prop} {kind' : ε' → Prop}

/-- The errors of a computation that does not get the secret. -/
def Sound (kind : ε → Prop) (x : Except ε α) : Prop := ∀ e, x = .error e → kind e

lemma Sound.ok (a : α) : Sound kind (.ok a : Except ε α) := by
  intro e h
  cases h

lemma Sound.error (h : kind e) : Sound kind (.error e : Except ε α) := by
  intro e' he
  cases he
  exact h

variable {x : Except ε α} {k : α → Except ε β}

lemma Sound.bind (hx : Sound kind x) (hk : ∀ a, x = .ok a → Sound kind (k a)) :
    Sound kind (x >>= k) := by
  cases x with
  | error e => exact Sound.error (hx e rfl)
  | ok a => exact hk a rfl

variable {f : ε → ε'}

lemma Sound.mapError (hx : Sound kind x) (hf : ∀ e, kind e → kind' (f e)) :
    Sound kind' (x.mapError f) := by
  cases x with
  | error e => exact Sound.error (hf e (hx e rfl))
  | ok a => exact Sound.ok a

lemma OneFailure.fixed (hx : Sound kind x) : OneFailure kind fun _ : π => x where
  sound := fun _ => hx
  same := by
    intro p q e e' he he'
    rw [he] at he'
    cases he'
    rfl

variable {m : π → Except ε α}

/-- Whatever goes wrong is this error. -/
lemma OneFailure.only (e : ε) (he : kind e) (h : ∀ p, Sound (· = e) (m p)) :
    OneFailure kind m where
  sound := by
    intro p e' he'
    rw [h p e' he']
    exact he
  same := by
    intro p q e₁ e₂ h₁ h₂
    rw [h p e₁ h₁, h q e₂ h₂]

lemma OneFailure.bind {k : π → α → Except ε β} (hx : Sound kind x)
    (hk : ∀ a, x = .ok a → OneFailure kind fun p => k p a) :
    OneFailure kind fun p => x >>= k p := by
  cases x with
  | error e => exact .fixed (Sound.error (hx e rfl))
  | ok a => exact hk a rfl

lemma OneFailure.after {x : Except ε Unit} {v : π → α} (hx : Sound kind x)
    (hk : OneFailure kind fun p => k (v p)) :
    OneFailure kind fun p => (x >>= fun _ => .ok (v p)) >>= k := by
  cases x with
  | error e => exact .fixed (Sound.error (hx e rfl))
  | ok => exact hk

lemma OneFailure.mapError (hm : OneFailure kind m) (hf : ∀ e, kind e → kind' (f e)) :
    OneFailure kind' fun p => (m p).mapError f where
  sound := fun p => Sound.mapError (hm.sound p) hf
  same := by
    intro p q e e' he he'
    cases hp : m p with
    | ok a =>
      rw [hp] at he
      cases he
    | error e₁ =>
      cases hq : m q with
      | ok a =>
        rw [hq] at he'
        cases he'
      | error e₂ =>
        rw [hp] at he
        rw [hq] at he'
        cases he
        cases he'
        rw [hm.same p q e₁ e₂ hp hq]

end Pollux.Failure
