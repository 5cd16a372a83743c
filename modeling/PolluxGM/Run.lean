import Mathlib.Tactic.Common

/-!
# Fallible steps and runs of a stateful interface

A fallible step returns a result and the state it leaves, also when the result is an error. A run
makes calls one after another; `allowed` says which calls the environment may make in which state.
The log keeps every call with its result, oldest first.
-/
namespace Pollux

variable {ε α β κ ρ σ : Type}

def andThen (r : Except ε α × σ) (next : α → σ → Except ε β × σ) : Except ε β × σ :=
  match r with
  | (.error e, s) => (.error e, s)
  | (.ok a, s) => next a s

@[simp] lemma andThen_ok (a : α) (s : σ) (next : α → σ → Except ε β × σ) :
    andThen (.ok a, s) next = next a s := rfl

@[simp] lemma andThen_error (e : ε) (s : σ) (next : α → σ → Except ε β × σ) :
    andThen (.error e, s) next = (.error e, s) := rfl

variable {r : Except ε α × σ} {next : α → σ → Except ε β × σ}

lemma andThen_eq_ok :
    andThen r next = (.ok b, s') ↔ ∃ a s, r = (.ok a, s) ∧ next a s = (.ok b, s') := by
  obtain ⟨_ | a, s⟩ := r
  · simp
  · simp [andThen]

variable {I : σ → Prop}

/-- What the first step leaves and the second keeps survives both. -/
lemma andThen_state (hr : I r.2) (hnext : ∀ a s, r = (.ok a, s) → I s → I (next a s).2) :
    I (andThen r next).2 := by
  obtain ⟨_ | a, s⟩ := r
  · exact hr
  · exact hnext a s rfl hr

def Succeeds (r : Except ε α × σ) : Prop := ∃ a s, r = (.ok a, s)

lemma Succeeds.after (hr : r = (.ok a, s)) (hnext : Succeeds (next a s)) :
    Succeeds (andThen r next) := by
  rw [hr]
  exact hnext

/-- Keep the state of a success and drop that of a failure. -/
def settle : Except ε α × σ → Except ε (α × σ)
  | (.ok a, s) => .ok (a, s)
  | (.error e, _) => .error e

@[simp] lemma settle_eq_ok : settle r = .ok x ↔ r = (.ok x.1, x.2) := by
  obtain ⟨_ | a, s⟩ := r
  · simp [settle]
  · simp [settle, Prod.ext_iff]

lemma eq_of_fst_ok (h : r.1 = .ok a) : r = (.ok a, r.2) := Prod.ext h rfl

def okValue (x : Except ε α) (h : x.toOption.isSome = true) : α := x.toOption.get h

lemma eq_okValue (x : Except ε α) (h : x.toOption.isSome = true) : x = .ok (okValue x h) := by
  cases x with
  | error e => cases h
  | ok a => rfl

inductive Run (step : κ → σ → ρ × σ) (allowed : κ → σ → Prop) (init : σ) :
    List (κ × ρ) → σ → Prop where
  | start : Run step allowed init [] init
  | call {log : List (κ × ρ)} {s : σ} (c : κ) (before : Run step allowed init log s)
      (ok : allowed c s) : Run step allowed init (log ++ [(c, (step c s).1)]) (step c s).2

variable {step : κ → σ → ρ × σ} {allowed : κ → σ → Prop} {init : σ}

variable {log : List (κ × ρ)} {s : σ}

/-- What holds at the start and is kept by every allowed call holds along the run. -/
lemma Run.invariant {I : List (κ × ρ) → σ → Prop} (hinit : I [] init)
    (hstep : ∀ log s c, I log s → allowed c s → I (log ++ [(c, (step c s).1)]) (step c s).2)
    (h : Run step allowed init log s) :
    I log s := by
  induction h with
  | start => exact hinit
  | call c _ ok ih => exact hstep _ _ c ih ok

lemma Run.stateInvariant (hinit : I init) (hstep : ∀ s c, I s → allowed c s → I (step c s).2)
    (h : Run step allowed init log s) : I s :=
  h.invariant (I := fun _ s => I s) hinit fun _ s c hs hc => hstep s c hs hc

def exec (step : κ → σ → ρ × σ) : List κ → σ → List (κ × ρ) × σ
  | [], s => ([], s)
  | c :: cs, s =>
    let rest := exec step cs (step c s).2
    ((c, (step c s).1) :: rest.1, rest.2)

variable {cs : List κ}

lemma mem_of_exec (h : entry ∈ (exec step cs s).1) : entry.1 ∈ cs := by
  induction cs generalizing s with
  | nil => cases h
  | cons c cs ih =>
    rcases List.mem_cons.mp h with rfl | hlater
    · exact List.mem_cons_self
    · exact List.mem_cons_of_mem c (ih hlater)

def AllAllowed (step : κ → σ → ρ × σ) (allowed : κ → σ → Prop) : List κ → σ → Prop
  | [], _ => True
  | c :: cs, s => allowed c s ∧ AllAllowed step allowed cs (step c s).2

instance AllAllowed.decidable [h : ∀ c s, Decidable (allowed c s)] :
    ∀ (cs : List κ) (s : σ), Decidable (AllAllowed step allowed cs s)
  | [], _ => isTrue trivial
  | c :: cs, s =>
    have := AllAllowed.decidable cs (step c s).2
    inferInstanceAs (Decidable (allowed c s ∧ AllAllowed step allowed cs (step c s).2))

lemma Run.append_exec (h : Run step allowed init log s) (hcs : AllAllowed step allowed cs s) :
    Run step allowed init (log ++ (exec step cs s).1) (exec step cs s).2 := by
  induction cs generalizing log s with
  | nil => simpa [exec] using h
  | cons c cs ih => simpa [exec] using ih (h.call c hcs.1) hcs.2

lemma exec_run (hcs : AllAllowed step allowed cs init) :
    Run step allowed init (exec step cs init).1 (exec step cs init).2 :=
  Run.start.append_exec hcs

lemma allAllowed_true (cs : List κ) (s : σ) : AllAllowed step (fun _ _ => True) cs s := by
  induction cs generalizing s with
  | nil => trivial
  | cons c cs ih => exact ⟨trivial, ih _⟩

variable {ω : Type}

/-- The step with a history; `note` sees the call, the state before, and the outcome. -/
def watched (step : κ → σ → ρ × σ) (note : κ → σ → ρ × σ → ω → ω) (c : κ) (x : σ × ω) :
    ρ × (σ × ω) :=
  ((step c x.1).1, (step c x.1).2, note c x.1 (step c x.1) x.2)

end Pollux
