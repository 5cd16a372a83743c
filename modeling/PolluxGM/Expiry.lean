import Mathlib.Data.List.AList

/-!
# A map whose entries expire

The keys are also listed in buckets by the time at which they expire. A key that was recorded again
stays listed in its old bucket; its current expiry decides whether it is dropped.
-/
namespace Pollux

variable {α : Type} [DecidableEq α]

structure ExpiryMap (α : Type) where
  seen : AList fun _ : α => Int
  byExpiry : AList fun _ : Int => List α

def ExpiryMap.empty : ExpiryMap α := ⟨∅, ∅⟩

def dropExpired (now : Int) (seen : AList fun _ : α => Int) (keys : List α) :
    AList fun _ : α => Int :=
  keys.foldl (fun seen k => if (seen.lookup k).getD 0 ≤ now then seen.erase k else seen) seen

variable (m : ExpiryMap α)

def ExpiryMap.evictBucket (now : Int) (m : ExpiryMap α) (bucket : Sigma fun _ : Int => List α) :
    ExpiryMap α :=
  if bucket.1 ≤ now then ⟨dropExpired now m.seen bucket.2, m.byExpiry.erase bucket.1⟩ else m

def ExpiryMap.evict (now : Int) : ExpiryMap α := m.byExpiry.entries.foldl (evictBucket now) m

def ExpiryMap.record (key : α) (expiry : Int) : ExpiryMap α :=
  ⟨m.seen.insert key expiry, m.byExpiry.insert expiry ((m.byExpiry.lookup expiry).getD [] ++ [key])⟩

def ExpiryMap.size : Nat := m.seen.entries.length

def ExpiryMap.expiry (key : α) : Option Int := m.seen.lookup key

def ExpiryMap.live (key : α) (now : Int) : Bool := (m.expiry key).any fun e => now < e

variable {m : ExpiryMap α} {key : α} {now : Int}

lemma ExpiryMap.live_iff : m.live key now = true ↔ ∃ e, m.expiry key = some e ∧ now < e := by
  simp only [live, Option.any_eq_true, decide_eq_true_eq]

variable {e : Int}

/-- A bucket may still list a key that was recorded again later; that key stays. -/
lemma dropExpired_lookup (keys : List α) :
    (dropExpired now seen keys).lookup key = some e ↔ seen.lookup key = some e ∧
      (key ∈ keys → now < e) := by
  induction keys generalizing seen with
  | nil => simp [dropExpired]
  | cons k keys ih =>
    unfold dropExpired at ih ⊢
    rw [List.foldl_cons, ih]
    by_cases hkey : key = k
    · subst hkey
      split
      · rename_i hdue
        simp only [AList.lookup_erase, reduceCtorEq, false_and, List.mem_cons_self, forall_const,
          false_iff, not_and]
        intro hseen
        rw [hseen, Option.getD_some] at hdue
        exact Int.not_lt.mpr hdue
      · rename_i hlive
        simp only [List.mem_cons_self, forall_const, and_congr_right_iff]
        intro hseen
        rw [hseen, Option.getD_some] at hlive
        exact ⟨fun _ => Int.not_le.mp hlive, fun h _ => h⟩
    · have hlookup : (if (seen.lookup k).getD 0 ≤ now then seen.erase k else seen).lookup key =
        seen.lookup key := by
        split
        · exact AList.lookup_erase_ne hkey
        · rfl
      rw [hlookup, List.mem_cons, or_iff_right hkey]

lemma evictBuckets_expiry (buckets : List (Sigma fun _ : Int => List α)) :
    (buckets.foldl (ExpiryMap.evictBucket now) m).expiry key = some e ↔
      m.expiry key = some e ∧ ∀ b ∈ buckets, b.1 ≤ now → key ∈ b.2 → now < e := by
  induction buckets generalizing m with
  | nil => simp
  | cons b buckets ih =>
    rw [List.foldl_cons, ih, List.forall_mem_cons, ← and_assoc, and_congr_left_iff]
    intro _
    unfold ExpiryMap.evictBucket
    split
    · rename_i hdue
      simp only [hdue, forall_const]
      exact dropExpired_lookup b.2
    · rename_i hlater
      exact ⟨fun h => ⟨h, fun hdue => absurd hdue hlater⟩, And.left⟩

lemma ExpiryMap.evict_live (h : m.expiry key = some e) (hlive : now < e) :
    (m.evict now).expiry key = some e :=
  (evictBuckets_expiry _).mpr ⟨h, fun _ _ _ _ => hlive⟩

@[simp] lemma ExpiryMap.record_same (m : ExpiryMap α) (key : α) (e : Int) :
    (m.record key e).expiry key = some e := AList.lookup_insert m.seen

lemma ExpiryMap.record_other (h : other ≠ key) (e : Int) :
    (m.record key e).expiry other = m.expiry other := AList.lookup_insert_ne h

def ExpiryMap.bucket (m : ExpiryMap α) (e : Int) : List α := (m.byExpiry.lookup e).getD []

/-- Every remembered key is listed, under its expiry only. -/
def ExpiryMap.Listed (m : ExpiryMap α) : Prop := ∀ key e, m.expiry key = some e ↔ key ∈ m.bucket e

lemma ExpiryMap.empty_listed : (empty : ExpiryMap α).Listed := by
  intro key e
  simp [expiry, bucket, empty]

lemma evictBuckets_byExpiry (buckets : List (Sigma fun _ : Int => List α)) :
    (buckets.foldl (ExpiryMap.evictBucket now) m).byExpiry.lookup e =
      if e ≤ now ∧ e ∈ buckets.map Sigma.fst then none else m.byExpiry.lookup e := by
  induction buckets generalizing m with
  | nil => simp
  | cons b buckets ih =>
    rw [List.foldl_cons, ih, List.map_cons]
    unfold ExpiryMap.evictBucket
    by_cases heq : e = b.1
    · subst heq
      by_cases hdue : b.1 ≤ now <;> simp [hdue]
    · have hlookup : (if b.1 ≤ now then ⟨dropExpired now m.seen b.2, m.byExpiry.erase b.1⟩
          else m : ExpiryMap α).byExpiry.lookup e = m.byExpiry.lookup e := by
        split
        · exact AList.lookup_erase_ne heq
        · rfl
      simp only [hlookup, List.mem_cons, heq, false_or]

lemma ExpiryMap.evict_bucket (m : ExpiryMap α) (now e : Int) :
    (m.evict now).bucket e = if e ≤ now then [] else m.bucket e := by
  unfold bucket evict
  rw [evictBuckets_byExpiry]
  by_cases hdue : e ≤ now
  · by_cases hmem : e ∈ m.byExpiry
    · rw [if_pos ⟨hdue, hmem⟩, if_pos hdue, Option.getD_none]
    · rw [if_neg fun h => hmem h.2, if_pos hdue, AList.lookup_eq_none.mpr hmem, Option.getD_none]
  · rw [if_neg fun h => hdue h.1, if_neg hdue]

/-- With all keys listed, an eviction drops exactly the expired ones. -/
lemma ExpiryMap.Listed.evict_expiry (h : m.Listed) :
    (m.evict now).expiry key = some e ↔ m.expiry key = some e ∧ now < e := by
  constructor
  · intro hkept
    obtain ⟨hseen, hrest⟩ := (evictBuckets_expiry _).mp hkept
    refine ⟨hseen, ?_⟩
    by_contra hdue
    -- The bucket that lists the key is due, so the loop has been through it.
    have hlisted := (h key e).mp hseen
    unfold bucket at hlisted
    cases hbucket : m.byExpiry.lookup e with
    | none => simp [hbucket] at hlisted
    | some keys =>
      rw [hbucket, Option.getD_some] at hlisted
      exact hdue (hrest ⟨e, keys⟩ (AList.mem_lookup_iff.mp hbucket) (Int.not_lt.mp hdue) hlisted)
  · rintro ⟨hseen, hlive⟩
    exact evict_live hseen hlive

lemma ExpiryMap.Listed.evict (h : m.Listed) (now : Int) : (m.evict now).Listed := by
  intro key e
  rw [h.evict_expiry, h key e, evict_bucket]
  split
  · rename_i hdue
    simp only [List.not_mem_nil, iff_false, not_and, Int.not_lt]
    exact fun _ => hdue
  · rename_i hlive
    simp only [Int.not_le.mp hlive, and_true]

lemma ExpiryMap.record_bucket (m : ExpiryMap α) (key : α) (e e' : Int) :
    (m.record key e).bucket e' = if e' = e then m.bucket e ++ [key] else m.bucket e' := by
  unfold bucket record
  split
  · rename_i heq
    rw [heq, AList.lookup_insert, Option.getD_some]
  · rename_i hne
    rw [AList.lookup_insert_ne hne]

lemma ExpiryMap.Listed.record (h : m.Listed) (hnew : m.expiry key = none) (e : Int) :
    (m.record key e).Listed := by
  intro other e'
  rw [record_bucket]
  by_cases hkey : other = key
  · subst hkey
    have hunlisted : other ∉ m.bucket e' := fun hmem => by simp [(h other e').mpr hmem] at hnew
    rw [record_same, Option.some.injEq]
    split
    · simp_all
    · rename_i hne
      exact iff_of_false (Ne.symm hne) hunlisted
  · rw [record_other hkey, h other e']
    split
    · simp_all
    · rfl

lemma dropExpired_size (now : Int) (keys : List α) (seen : AList fun _ : α => Int) :
    (dropExpired now seen keys).entries.length ≤ seen.entries.length := by
  induction keys generalizing seen with
  | nil => exact Nat.le_refl _
  | cons k keys ih =>
    refine Nat.le_trans (ih _) ?_
    beta_reduce
    split
    · exact (List.kerase_sublist k seen.entries).length_le
    · exact Nat.le_refl _

lemma ExpiryMap.evict_size (m : ExpiryMap α) (now : Int) : (m.evict now).size ≤ m.size := by
  unfold evict
  generalize m.byExpiry.entries = buckets
  induction buckets generalizing m with
  | nil => exact Nat.le_refl _
  | cons b buckets ih =>
    refine Nat.le_trans (ih _) ?_
    unfold evictBucket
    split
    · exact dropExpired_size now b.2 m.seen
    · exact Nat.le_refl _

lemma ExpiryMap.record_size (m : ExpiryMap α) (key : α) (e : Int) :
    (m.record key e).size ≤ m.size + 1 :=
  Nat.succ_le_succ (List.kerase_sublist key m.seen.entries).length_le

end Pollux
