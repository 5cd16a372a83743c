import Mathlib.Algebra.Ring.Int.Defs
import Mathlib.Algebra.Ring.Nat
import PolluxGM.Protocol
import PolluxGM.Expiry

/-!
# The anti-replay cache

Embedding of `antireplay.go`. Times are in nanoseconds since the Unix epoch. Go visits the buckets
in any order; here they are visited in list order.
-/
namespace Pollux.Tls

/-- `time.Time.UnixNano`: a time outside the range of int64 wraps around. -/
def unixNano (t : Int) : Int := t.bmod (2 ^ 64)

/-- The times at which expiries are computed without a wrap. -/
def Representable (now window : Int) : Prop := -2 ^ 63 ≤ now ∧ now + window < 2 ^ 63

instance (now window : Int) : Decidable (Representable now window) :=
  inferInstanceAs (Decidable (_ ∧ _))

lemma unixNano_eq (hlow : -2 ^ 63 ≤ t) (hhigh : t < 2 ^ 63) : unixNano t = t :=
  Int.bmod_eq_of_le (by omega) (by omega)

structure MemoryAntiReplayCache where
  entries : ExpiryMap Bytes
  window : Int
  maxAge : Int
  maxEntries : Int
  window_pos : 0 < window
  maxAge_pos : 0 < maxAge
  maxEntries_pos : 0 < maxEntries

inductive AntiReplayCache where
  | rejecting
  | memory (c : MemoryAntiReplayCache)

def defaultAntiReplayMaxEntries : Int := 1048576

def newAntiReplayCacheWithCap (window maxAge maxEntries : Int) : AntiReplayCache :=
  if h : window ≤ 0 ∨ maxAge ≤ 0 ∨ maxEntries ≤ 0 then .rejecting
  else .memory ⟨.empty, window, maxAge, maxEntries, by omega, by omega, by omega⟩

def newAntiReplayCache (window maxAge : Int) : AntiReplayCache :=
  newAntiReplayCacheWithCap window maxAge defaultAntiReplayMaxEntries

def MemoryAntiReplayCache.check (c : MemoryAntiReplayCache) (digest : Bytes) (age now : Int) :
    Bool × MemoryAntiReplayCache :=
  if age < 0 ∨ c.maxAge ≤ age then (false, c)
  -- all empty digests would share one entry
  else if digest = [] then (false, c)
  else
    let evicted := c.entries.evict (unixNano now)
    if evicted.live digest (unixNano now) = true then (false, { c with entries := evicted })
    else if c.maxEntries ≤ evicted.size then (false, { c with entries := evicted })
    else (true, { c with entries := evicted.record digest (unixNano (now + c.window)) })

def AntiReplayCache.check (cache : AntiReplayCache) (digest : Bytes) (age now : Int) :
    Bool × AntiReplayCache :=
  match cache with
  | .rejecting => (false, .rejecting)
  | .memory c => ((c.check digest age now).1, .memory (c.check digest age now).2)

def AntiReplayCache.expiry (cache : AntiReplayCache) (digest : Bytes) : Option Int :=
  match cache with
  | .rejecting => none
  | .memory c => c.entries.expiry digest

def AntiReplayCache.window : AntiReplayCache → Int
  | .rejecting => 0
  | .memory c => c.window

def MemoryAntiReplayCache.Considers (c : MemoryAntiReplayCache) (digest : Bytes) (age : Int) :
    Prop :=
  0 ≤ age ∧ age < c.maxAge ∧ digest ≠ []

/-- A refused attempt leaves the entries or evicts; an admitted one was not there and is recorded.
-/
lemma MemoryAntiReplayCache.check_cases (c : MemoryAntiReplayCache) (digest : Bytes)
    (age now : Int) : let evicted := c.entries.evict (unixNano now)
    (¬ c.Considers digest age ∧ c.check digest age now = (false, c)) ∨
      c.check digest age now = (false, { c with entries := evicted }) ∨
      evicted.live digest (unixNano now) = false ∧ evicted.size < c.maxEntries ∧
        c.check digest age now =
          (true, { c with entries := evicted.record digest (unixNano (now + c.window)) }) := by
  intro evicted
  unfold check Considers
  split
  · exact .inl ⟨by omega, rfl⟩
  split
  · rename_i hempty
    exact .inl ⟨fun h => h.2.2 hempty, rfl⟩
  dsimp only
  split
  · exact .inr (.inl rfl)
  rename_i hlive
  split
  · exact .inr (.inl rfl)
  · rename_i hroom
    exact .inr (.inr ⟨by simpa using hlive, Int.not_le.mp hroom, rfl⟩)

@[simp] lemma AntiReplayCache.check_window (cache : AntiReplayCache) (digest : Bytes)
    (age now : Int) :
    (cache.check digest age now).2.window = cache.window := by
  cases cache with
  | rejecting => rfl
  | memory c =>
    show (c.check digest age now).2.window = c.window
    rcases c.check_cases digest age now with ⟨-, h⟩ | h | ⟨-, -, h⟩ <;> rw [h]

variable {c : MemoryAntiReplayCache} {digest key : Bytes} {age now e : Int}

lemma MemoryAntiReplayCache.check_keeps (h : c.entries.expiry key = some e)
    (hlive : unixNano now < e) :
    (c.check digest age now).2.entries.expiry key = some e := by
  have hevicted : (c.entries.evict (unixNano now)).expiry key = some e :=
    ExpiryMap.evict_live h hlive
  rcases c.check_cases digest age now with ⟨-, heq⟩ | heq | ⟨hfresh, -, heq⟩
  · rw [heq]
    exact h
  · rw [heq]
    exact hevicted
  · have hne : key ≠ digest := by
      intro hkey
      rw [← hkey, ExpiryMap.live_iff.mpr ⟨e, hevicted, hlive⟩] at hfresh
      cases hfresh
    rw [heq]
    exact (ExpiryMap.record_other hne _).trans hevicted

lemma MemoryAntiReplayCache.check_admits (h : (c.check digest age now).1 = true) :
    (∀ e, c.entries.expiry digest = some e → e ≤ unixNano now) ∧
      (c.check digest age now).2.entries.expiry digest = some (unixNano (now + c.window)) := by
  rcases c.check_cases digest age now with ⟨-, heq⟩ | heq | ⟨hfresh, -, heq⟩
  · simp [heq] at h
  · simp [heq] at h
  · constructor
    · intro e he
      by_contra hlive
      have hevicted := ExpiryMap.evict_live he (Int.not_le.mp hlive)
      rw [ExpiryMap.live_iff.mpr ⟨e, hevicted, Int.not_le.mp hlive⟩] at hfresh
      cases hfresh
    · rw [heq]
      exact ExpiryMap.record_same _ _ _

variable {cache : AntiReplayCache}

lemma AntiReplayCache.check_keeps (h : cache.expiry key = some e) (hlive : unixNano now < e) :
    (cache.check digest age now).2.expiry key = some e := by
  cases cache with
  | rejecting => cases h
  | memory c => exact MemoryAntiReplayCache.check_keeps h hlive

lemma AntiReplayCache.check_admits (h : (cache.check digest age now).1 = true) :
    (∀ e, cache.expiry digest = some e → e ≤ unixNano now) ∧
      (cache.check digest age now).2.expiry digest = some (unixNano (now + cache.window)) := by
  cases cache with
  | rejecting => cases h
  | memory c => exact MemoryAntiReplayCache.check_admits h

end Pollux.Tls
