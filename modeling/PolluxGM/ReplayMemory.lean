import PolluxGM.AntiReplay
import PolluxGM.Run

/-!
# The anti-replay memory along a sequence of checks

Calls of `Check` under a clock that does not go back. A digest that was admitted is remembered until
its expiry.
-/
namespace Pollux.ReplayMemory

open Tls

structure Attempt where
  digest : Bytes
  age : Int
  now : Int
  deriving DecidableEq

def step (a : Attempt) (c : MemoryAntiReplayCache) : Bool × MemoryAntiReplayCache :=
  c.check a.digest a.age a.now

/-- The clock does not go back, and no expiry wraps around. -/
def InOrder (window : Int) (attempts : List Attempt) : Prop :=
  attempts.Pairwise (fun a b => a.now ≤ b.now) ∧ ∀ a ∈ attempts, Representable a.now window

structure Sound (window maxAge cap : Int) (c : MemoryAntiReplayCache) : Prop where
  window_eq : c.window = window
  maxAge_eq : c.maxAge = maxAge
  cap_eq : c.maxEntries = cap
  size_le : c.entries.size ≤ cap
  listed : c.entries.Listed

variable {window maxAge cap : Int}

variable {c : MemoryAntiReplayCache}

lemma Sound.new (h : newAntiReplayCacheWithCap window maxAge cap = .memory c) :
    Sound window maxAge cap c := by
  unfold newAntiReplayCacheWithCap at h
  split at h
  · cases h
  · rename_i hpos
    cases h
    have hsize : ((ExpiryMap.empty : ExpiryMap Bytes).size : Int) ≤ cap := by
      show (0 : Int) ≤ cap
      omega
    exact ⟨rfl, rfl, rfl, hsize, ExpiryMap.empty_listed⟩

lemma Sound.window_pos (h : Sound window maxAge cap c) : 0 < window :=
  h.window_eq ▸ c.window_pos

variable {now : Int}

lemma unixNano_now (h : Representable now window) (hwindow : 0 < window) : unixNano now = now :=
  unixNano_eq h.1 (by have := h.2; omega)

lemma unixNano_expiry (h : Representable now window) (hwindow : 0 < window) :
    unixNano (now + window) = now + window :=
  unixNano_eq (by have := h.1; omega) h.2

variable {digest : Bytes}

lemma forgotten_of_not_live {m : ExpiryMap Bytes} (h : m.Listed)
    (hfresh : (m.evict now).live digest now = false) :
    (m.evict now).expiry digest = none := by
  cases hexpiry : (m.evict now).expiry digest with
  | none => rfl
  | some e =>
    rw [ExpiryMap.live_iff.mpr ⟨e, hexpiry, (h.evict_expiry.mp hexpiry).2⟩] at hfresh
    cases hfresh

lemma Sound.after_check (h : Sound window maxAge cap c) (a : Attempt) :
    Sound window maxAge cap (step a c).2 := by
  have hevicted := c.entries.evict_size (unixNano a.now)
  have hsize := h.size_le
  unfold step
  rcases c.check_cases a.digest a.age a.now with ⟨-, heq⟩ | heq | ⟨hfresh, hroom, heq⟩ <;> rw [heq]
  · exact h
  · exact ⟨h.window_eq, h.maxAge_eq, h.cap_eq, by dsimp only; omega, h.listed.evict _⟩
  · have hrecorded := ExpiryMap.record_size (c.entries.evict (unixNano a.now)) a.digest
      (unixNano (a.now + c.window))
    rw [h.cap_eq] at hroom
    refine ⟨h.window_eq, h.maxAge_eq, h.cap_eq, by dsimp only; omega, ?_⟩
    -- A digest that was expired is forgotten before it is recorded, so no old bucket lists it.
    exact (h.listed.evict _).record (forgotten_of_not_live h.listed hfresh) _

lemma Sound.after_checks (h : Sound window maxAge cap c) (attempts : List Attempt) :
    Sound window maxAge cap (exec step attempts c).2 := by
  induction attempts generalizing c with
  | nil => exact h
  | cons a attempts ih => exact ih (h.after_check a)

variable {a : Attempt} {e : Int}

lemma Sound.forgets (h : Sound window maxAge cap c) (hrep : Representable a.now window)
    (hconsidered : c.Considers a.digest a.age) (hkey : (step a c).2.entries.expiry key = some e) :
    a.now < e := by
  have hwindow := h.window_pos
  have hnow := unixNano_now hrep hwindow
  have hexpiry := unixNano_expiry hrep hwindow
  rw [← h.window_eq] at hexpiry hwindow
  unfold step at hkey
  rcases c.check_cases a.digest a.age a.now with ⟨hnot, -⟩ | heq | ⟨-, -, heq⟩
  · exact absurd hconsidered hnot
  · rw [heq, hnow] at hkey
    exact (h.listed.evict_expiry.mp hkey).2
  · rw [heq, hnow, hexpiry] at hkey
    by_cases hsame : key = a.digest
    · rw [hsame, ExpiryMap.record_same, Option.some.injEq] at hkey
      omega
    · rw [ExpiryMap.record_other hsame] at hkey
      exact (h.listed.evict_expiry.mp hkey).2

variable {attempts : List Attempt}

lemma InOrder.tail (h : InOrder window (a :: attempts)) :
    InOrder window attempts :=
  ⟨(List.pairwise_cons.mp h.1).2, fun b hb => h.2 b (List.mem_cons_of_mem a hb)⟩

/-- A remembered digest is not admitted before its expiry. -/
lemma Sound.refuses (h : Sound window maxAge cap c) (horder : InOrder window attempts)
    (hseen : c.entries.expiry digest = some e) :
    ∀ b ∈ (exec step attempts c).1, b.1.digest = digest → b.2 = true → e ≤ b.1.now := by
  induction attempts generalizing c with
  | nil => simp [exec]
  | cons a attempts ih =>
    have hnow := unixNano_now (horder.2 a List.mem_cons_self) h.window_pos
    intro b hb hdigest hadmitted
    rcases List.mem_cons.mp hb with rfl | hlater
    · subst hdigest
      have hexpired := (MemoryAntiReplayCache.check_admits hadmitted).1 e hseen
      rwa [hnow] at hexpired
    by_cases hlive : a.now < e
    · exact ih (h.after_check a) horder.tail
        (MemoryAntiReplayCache.check_keeps hseen (by rwa [hnow])) b hlater hdigest hadmitted
    · -- from here on the clock is past the expiry
      have hclock := (List.pairwise_cons.mp horder.1).1 b.1 (mem_of_exec hlater)
      omega

lemma Sound.apart (h : Sound window maxAge cap c) (horder : InOrder window attempts) :
    (exec step attempts c).1.Pairwise fun a b =>
      a.1.digest = b.1.digest → a.2 = true → b.2 = true → window ≤ b.1.now - a.1.now := by
  induction attempts generalizing c with
  | nil => exact .nil
  | cons a attempts ih =>
    refine .cons ?_ (ih (h.after_check a) horder.tail)
    intro b hb hdigest hfirst hsecond
    have hrecorded := (MemoryAntiReplayCache.check_admits hfirst).2
    rw [h.window_eq, unixNano_expiry (horder.2 a List.mem_cons_self) h.window_pos] at hrecorded
    have hexpired := (h.after_check a).refuses horder.tail hrecorded b hb hdigest.symm hsecond
    dsimp only
    omega

/-- After any checks: two that admitted one digest are a window apart, the memory is within its
bound, every digest is in the bucket of its expiry only, and a further check that gets past the
age and the digest forgets all that has expired. -/
theorem anti_replay_law {c : MemoryAntiReplayCache}
    (hnew : newAntiReplayCacheWithCap window maxAge cap = .memory c) {attempts : List Attempt}
    (horder : InOrder window attempts) :
    ((exec step attempts c).1.Pairwise fun a b =>
      a.1.digest = b.1.digest → a.2 = true → b.2 = true → window ≤ b.1.now - a.1.now) ∧
    (exec step attempts c).2.entries.size ≤ cap ∧
    (∀ key e, (exec step attempts c).2.entries.expiry key = some e →
      ∀ e', key ∈ (exec step attempts c).2.entries.bucket e' ↔ e' = e) ∧
    ∀ a : Attempt, Representable a.now window → 0 ≤ a.age → a.age < maxAge → a.digest ≠ [] →
      ∀ key e, (step a (exec step attempts c).2).2.entries.expiry key = some e → a.now < e := by
  have hsound := Sound.new hnew
  have hafter := hsound.after_checks attempts
  refine ⟨hsound.apart horder, hafter.size_le, ?_, ?_⟩
  · intro key e hkey e'
    rw [← hafter.listed key e', hkey, Option.some.injEq, eq_comm]
  · intro a hrep hage hmax hdigest key e hkey
    exact hafter.forgets hrep ⟨hage, by rwa [hafter.maxAge_eq], hdigest⟩ hkey

/-- The digest [1] is refused within its window, [3] for want of room. -/
theorem anti_replay_law_sample : ∃ c, newAntiReplayCacheWithCap 100 50 2 = .memory c ∧
    (exec step [⟨[1], 0, 10⟩, ⟨[1], 0, 60⟩, ⟨[2], 49, 60⟩, ⟨[3], 1, 70⟩, ⟨[1], 0, 110⟩] c).1.map
      Prod.snd = [true, false, true, false, true] ∧
    ((exec step [⟨[1], 0, 10⟩, ⟨[1], 0, 60⟩, ⟨[2], 49, 60⟩, ⟨[3], 1, 70⟩, ⟨[1], 0, 110⟩]
      c).1.Pairwise fun a b =>
      a.1.digest = b.1.digest → a.2 = true → b.2 = true → (100 : Int) ≤ b.1.now - a.1.now) ∧
    (exec step [⟨[1], 0, 10⟩, ⟨[1], 0, 60⟩, ⟨[2], 49, 60⟩, ⟨[3], 1, 70⟩, ⟨[1], 0, 110⟩]
      c).2.entries.size ≤ (2 : Int) := by
  have horder : InOrder 100 [⟨[1], 0, 10⟩, ⟨[1], 0, 60⟩, ⟨[2], 49, 60⟩, ⟨[3], 1, 70⟩,
    ⟨[1], 0, 110⟩] :=
    ⟨by decide, by decide⟩
  obtain ⟨c, hnew⟩ : ∃ c, newAntiReplayCacheWithCap 100 50 2 = .memory c := ⟨_, rfl⟩
  obtain ⟨hapart, hsize, -, -⟩ := anti_replay_law hnew horder
  refine ⟨c, hnew, ?_, hapart, hsize⟩
  cases hnew
  decide

end Pollux.ReplayMemory
