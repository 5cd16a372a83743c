import PolluxGM.Run

/-!
# Commands

A command stops at the first error, and the state it has reached by then stays. `Triple m s Q E`:
from `s` a success meets `Q` and a failure `E`. `Keeps R m`: the states before and after are
related, whatever the result.
-/
namespace Pollux

variable {ε σ τ α β : Type}

def Cmd (ε σ α : Type) : Type := σ → Except ε α × σ

instance : Monad (Cmd ε σ) where
  pure a := fun s => (.ok a, s)
  bind m f := fun s => andThen (m s) f

namespace Cmd

def fail (e : ε) : Cmd ε σ α := fun s => (.error e, s)

def ask (f : σ → α) : Cmd ε σ α := fun s => (.ok (f s), s)

def update (f : σ → σ) : Cmd ε σ Unit := fun s => (.ok (), f s)

def lift (x : Except ε α) : Cmd ε σ α := fun s => (x, s)

def refuse (bad : Prop) [Decidable bad] (e : ε) : Cmd ε σ Unit :=
  fun s => (if bad then .error e else .ok (), s)

def on (get : σ → τ) (set : τ → σ → σ) (m : Cmd ε τ α) : Cmd ε σ α :=
  fun s => ((m (get s)).1, set (m (get s)).2 s)

def mapError (f : ε → ε) (m : Cmd ε σ α) : Cmd ε σ α := fun s =>
  match m s with
  | (.error e, s') => (.error (f e), s')
  | (.ok a, s') => (.ok a, s')

def onError (m : Cmd ε σ α) (cleanup : σ → σ) : Cmd ε σ α := fun s =>
  match m s with
  | (.error e, s') => (.error e, cleanup s')
  | (.ok a, s') => (.ok a, s')

end Cmd

variable {t : σ}

lemma bind_of_ok (h : m s = (.ok a, t)) (f : α → Cmd ε σ β) : (m >>= f) s = f a t := by
  change andThen (m s) f = f a t
  rw [h]
  rfl

variable {e : ε}

lemma bind_of_error (h : m s = (.error e, t)) (f : α → Cmd ε σ β) :
    (m >>= f) s = (.error e, t) := by
  change andThen (m s) f = (.error e, t)
  rw [h]
  rfl

lemma bind_eq_ok {f : α → Cmd ε σ β} {s s' : σ} {b : β} :
    (m >>= f) s = (.ok b, s') ↔ ∃ a t, m s = (.ok a, t) ∧ f a t = (.ok b, s') := andThen_eq_ok

lemma pure_apply (a : α) (s : σ) : (pure a : Cmd ε σ α) s = (.ok a, s) := rfl

lemma fail_apply (e : ε) (s : σ) : (Cmd.fail e : Cmd ε σ α) s = (.error e, s) := rfl

lemma ask_bind (g : σ → α) (f : α → Cmd ε σ β) (s : σ) : (Cmd.ask g >>= f) s = f (g s) s := rfl

lemma update_apply (f : σ → σ) (s : σ) : (Cmd.update f : Cmd ε σ Unit) s = (.ok (), f s) := rfl

lemma update_bind (g : σ → σ) (f : Unit → Cmd ε σ β) (s : σ) :
    (Cmd.update g >>= f) s = f () (g s) := rfl

lemma lift_bind (a : α) (f : α → Cmd ε σ β) (s : σ) : (Cmd.lift (.ok a) >>= f) s = f a s := rfl

lemma lift_apply (x : Except ε α) (s : σ) : (Cmd.lift x : Cmd ε σ α) s = (x, s) := rfl

variable {bad : Prop}

lemma refuse_pos [Decidable bad] (h : bad) (e : ε) (s : σ) :
    (Cmd.refuse bad e : Cmd ε σ Unit) s = (.error e, s) := by
  simp [Cmd.refuse, h]

lemma refuse_neg [Decidable bad] (h : ¬ bad) (e : ε) (s : σ) :
    (Cmd.refuse bad e : Cmd ε σ Unit) s = (.ok (), s) := by
  simp [Cmd.refuse, h]

variable {u : Unit} {x : Except ε α} {get : σ → τ} {set : τ → σ → σ} {cleanup : σ → σ}

section

variable {s s' : σ} {a : α}

@[simp] lemma pure_eq_ok : (pure b : Cmd ε σ α) s = (.ok a, s') ↔ b = a ∧ s = s' := by
  simp [pure]

@[simp] lemma fail_eq_ok : ¬ (Cmd.fail e : Cmd ε σ α) s = (.ok a, s') := by simp [Cmd.fail]

@[simp] lemma ask_eq_ok : (Cmd.ask f : Cmd ε σ α) s = (.ok a, s') ↔ f s = a ∧ s = s' := by
  simp [Cmd.ask]

@[simp] lemma update_eq_ok : (Cmd.update f : Cmd ε σ Unit) s = (.ok u, s') ↔ f s = s' := by
  simp [Cmd.update]

@[simp] lemma lift_eq_ok : (Cmd.lift x : Cmd ε σ α) s = (.ok a, s') ↔ x = .ok a ∧ s = s' := by
  simp [Cmd.lift]

@[simp] lemma refuse_eq_ok [Decidable bad] :
    (Cmd.refuse bad e : Cmd ε σ Unit) s = (.ok u, s') ↔ ¬ bad ∧ s = s' := by
  unfold Cmd.refuse
  split <;> simp_all

@[simp] lemma on_eq_ok :
    Cmd.on get set m s = (.ok a, s') ↔ ∃ t, m (get s) = (.ok a, t) ∧ set t s = s' := by
  simp [Cmd.on, Prod.ext_iff]

@[simp] lemma onError_eq_ok : Cmd.onError m cleanup s = (.ok a, s') ↔ m s = (.ok a, s') := by
  unfold Cmd.onError
  split <;> simp_all

end

def Triple (m : Cmd ε σ α) (s : σ) (Q : α → σ → Prop) (E : ε → σ → Prop) : Prop :=
  match m s with
  | (.ok a, s') => Q a s'
  | (.error e, s') => E e s'

section

variable {m : Cmd ε σ α} {f : α → Cmd ε σ β} {s : σ} {Q : α → σ → Prop} {E : ε → σ → Prop}

lemma Triple.ok (h : Triple m s Q E) (hm : m s = (.ok a, s')) : Q a s' := by
  simpa only [Triple, hm] using h

lemma Triple.error (h : Triple m s Q E) (hm : m s = (.error e, s')) : E e s' := by
  simpa only [Triple, hm] using h

lemma Triple.intro (hok : ∀ a s', m s = (.ok a, s') → Q a s')
    (herr : ∀ e s', m s = (.error e, s') → E e s') :
    Triple m s Q E := by
  unfold Triple
  split
  · exact hok _ _ ‹_›
  · exact herr _ _ ‹_›

lemma Triple.mono (h : Triple m s Q E) (hQ : ∀ a s', Q a s' → Q' a s')
    (hE : ∀ e s', E e s' → E' e s') : Triple m s Q' E' :=
  .intro (fun _ _ hm => hQ _ _ (h.ok hm)) fun _ _ hm => hE _ _ (h.error hm)

lemma Triple.pure (h : Q a s) : Triple (Pure.pure a : Cmd ε σ α) s Q E := h

lemma Triple.fail (h : E e s) : Triple (Cmd.fail e : Cmd ε σ α) s Q E := h

lemma Triple.bind (h : Triple m s Q E) (hf : ∀ a s', Q a s' → Triple (f a) s' R E) :
    Triple (m >>= f) s R E := by
  unfold Triple
  generalize hr : m s = r
  obtain ⟨_ | a, s'⟩ := r
  · rw [bind_of_error hr]
    exact h.error hr
  · rw [bind_of_ok hr]
    exact hf a s' (h.ok hr)

lemma Triple.ask (h : Q (g s) s) : Triple (Cmd.ask g) s Q E := h

lemma Triple.update (h : R () (g s)) : Triple (Cmd.update g) s R E := h

lemma Triple.lift (hok : ∀ a, x = .ok a → Q a s) (herr : ∀ e, x = .error e → E e s) :
    Triple (Cmd.lift x) s Q E :=
  .intro (fun _ _ hm => by cases hm; exact hok _ rfl) fun _ _ hm => by cases hm; exact herr _ rfl

lemma Triple.refuse [Decidable bad] (hok : ¬ bad → R () s) (herr : bad → E e s) :
    Triple (Cmd.refuse bad e) s R E := by
  unfold Triple Cmd.refuse
  by_cases hbad : bad
  · rw [if_pos hbad]
    exact herr hbad
  · rw [if_neg hbad]
    exact hok hbad

lemma Triple.onError (h : Triple m s Q E) (hE : ∀ e s', E e s' → F e (cleanup s')) :
    Triple (Cmd.onError m cleanup) s Q F := by
  unfold Triple Cmd.onError at *
  generalize m s = r at h ⊢
  obtain ⟨_ | _, _⟩ := r
  · exact hE _ _ h
  · exact h

end

def Keeps (R : σ → σ → Prop) (m : Cmd ε σ α) : Prop := ∀ s, R s (m s).2

section

variable {R : σ → σ → Prop} [IsPreorder σ R]

lemma Keeps.pure (a : α) : Keeps R (Pure.pure a : Cmd ε σ α) := fun s => refl_of R s

lemma Keeps.fail (e : ε) : Keeps R (Cmd.fail e : Cmd ε σ α) := fun s => refl_of R s

lemma Keeps.ask (f : σ → α) : Keeps R (Cmd.ask f : Cmd ε σ α) := fun s => refl_of R s

lemma Keeps.lift (x : Except ε α) : Keeps R (Cmd.lift x : Cmd ε σ α) := fun s => refl_of R s

lemma Keeps.refuse (bad : Prop) [Decidable bad] (e : ε) :
    Keeps R (Cmd.refuse bad e : Cmd ε σ Unit) :=
  fun s => refl_of R s

lemma Keeps.bind {m : Cmd ε σ α} {f : α → Cmd ε σ β} (hm : Keeps R m) (hf : ∀ a, Keeps R (f a)) :
    Keeps R (m >>= f) := by
  intro s
  exact andThen_state (I := R s) (hm s) fun a t _ ht => trans_of R ht (hf a t)

end

lemma Keeps.on (m : Cmd ε τ α) (h : ∀ t s, R s (set t s)) :
    Keeps R (Cmd.on get set m) := fun s => h _ s

lemma Keeps.mapError (f : ε → ε) (hm : Keeps R m) :
    Keeps R (Cmd.mapError f m) := by
  intro s
  have hs := hm s
  unfold Cmd.mapError
  generalize m s = r at hs ⊢
  obtain ⟨_ | _, s'⟩ := r
  · exact hs
  · exact hs

lemma Keeps.update (h : ∀ s, R s (f s)) : Keeps R (Cmd.update f : Cmd ε σ Unit) := h

lemma Keeps.step (h : Keeps R m) (hm : m s = (r, t)) : R s t := by
  have hs := h s
  rwa [hm] at hs

lemma Keeps.triple (h : Keeps R m) (s : σ) :
    Triple m s (fun _ => R s) fun _ => R s :=
  .intro (fun _ _ hm => h.step hm) fun _ _ hm => h.step hm

lemma Keeps.mono (h : Keeps R m) (hRS : ∀ s t, R s t → S s t) : Keeps S m :=
  fun s => hRS _ _ (h s)

/-- `m'` does what `m` does and has a result besides. -/
def Tells (m' : Cmd ε σ α) (m : Cmd ε σ Unit) : Prop :=
  ∀ s, m s = ((m' s).1.map fun _ => (), (m' s).2)

section

variable {m' : Cmd ε σ α} {m : Cmd ε σ Unit}

lemma Tells.ok (h : Tells m' m) (hm : m s = (.ok u, t)) : ∃ a, m' s = (.ok a, t) := by
  rw [h s] at hm
  generalize m' s = r at hm ⊢
  obtain ⟨_ | a, t'⟩ := r
  · cases hm
  · cases hm
    exact ⟨a, rfl⟩

lemma Tells.bind (h : Tells m' m) {f : α → Cmd ε σ β} {g : Unit → Cmd ε σ Unit}
    (hf : ∀ a u, Tells (f a) (g u)) :
    Tells (m' >>= f) (m >>= g) := by
  intro s
  have hs := h s
  generalize hr : m' s = r at hs
  obtain ⟨_ | a, t⟩ := r
  · rw [bind_of_error hr, bind_of_error hs]
    rfl
  · rw [bind_of_ok hr, bind_of_ok hs]
    exact hf a () t

lemma Tells.after (n : Cmd ε σ α) {f : α → Cmd ε σ β} {g : α → Cmd ε σ Unit}
    (hf : ∀ a, Tells (f a) (g a)) :
    Tells (n >>= f) (n >>= g) := by
  intro s
  generalize hr : n s = r
  obtain ⟨_ | a, t⟩ := r
  · rw [bind_of_error hr, bind_of_error hr]
    rfl
  · rw [bind_of_ok hr, bind_of_ok hr]
    exact hf a t

lemma Tells.pure (a : α) : Tells (Pure.pure a : Cmd ε σ α) (Pure.pure ()) := fun _ => rfl

lemma Tells.map (h : Tells m' m) (f : α → β) : Tells (m' >>= fun a => Pure.pure (f a)) m := by
  intro s
  rw [h s]
  generalize hr : m' s = r
  obtain ⟨_ | _, t⟩ := r
  · rw [bind_of_error hr]
    rfl
  · rw [bind_of_ok hr]
    rfl

lemma Tells.self (m : Cmd ε σ Unit) : Tells m m := by
  intro s
  generalize m s = r
  obtain ⟨_ | _, t⟩ := r
  · rfl
  · rfl

lemma Tells.onError (h : Tells m' m) (cleanup : σ → σ) :
    Tells (Cmd.onError m' cleanup) (Cmd.onError m cleanup) := by
  intro s
  have hs := h s
  unfold Cmd.onError
  generalize m' s = r at hs ⊢
  rw [hs]
  obtain ⟨_ | _, _⟩ := r
  · rfl
  · rfl

end

end Pollux
