import Mathlib.Data.List.Nodup
import Mathlib.Data.List.TakeDrop

/-!
# Recency lists

A bounded map from keys to references, most recently used first. Storing under a key replaces its
entry or drops the entries past the capacity.
-/
namespace Pollux.Recency

variable {κ ρ : Type} [DecidableEq κ]

def keys (entries : List (κ × ρ)) : List κ := entries.map Prod.fst

def find (k : κ) : List (κ × ρ) → Option ρ
  | [] => none
  | (k', r) :: rest => if k' = k then some r else find k rest

def without (k : κ) (entries : List (κ × ρ)) : List (κ × ρ) := entries.filter fun e => e.1 ≠ k

def front (k : κ) (r : ρ) (entries : List (κ × ρ)) : List (κ × ρ) := (k, r) :: without k entries

variable {k : κ} {r : ρ} {entries : List (κ × ρ)}

lemma find_mem (h : find k entries = some r) : (k, r) ∈ entries := by
  induction entries with
  | nil => cases h
  | cons e rest ih =>
    unfold find at h
    split at h
    · rename_i hk
      cases h
      rw [← hk]
      exact List.mem_cons_self
    · exact List.mem_cons_of_mem _ (ih h)

variable {e : κ × ρ}

lemma find_none (h : find k entries = none) (he : e ∈ entries) : e.1 ≠ k := by
  induction entries with
  | nil => cases he
  | cons e' rest ih =>
    unfold find at h
    split at h
    · cases h
    · rename_i hk
      rcases List.mem_cons.mp he with rfl | he
      · exact hk
      · exact ih h he

lemma mem_without : e ∈ without k entries ↔ e ∈ entries ∧ e.1 ≠ k := by
  simp [without]

lemma mem_front : e ∈ front k r entries ↔ e = (k, r) ∨ e ∈ entries ∧ e.1 ≠ k := by
  simp [front, mem_without]

lemma without_nodup (k : κ) (h : (keys entries).Nodup) : (keys (without k entries)).Nodup :=
  h.sublist (List.filter_sublist.map Prod.fst)

lemma front_nodup (k : κ) (r : ρ) (h : (keys entries).Nodup) :
    (keys (front k r entries)).Nodup := by
  refine List.nodup_cons.mpr ⟨?_, without_nodup k h⟩
  intro hmem
  obtain ⟨e, he, hk⟩ := List.mem_map.mp hmem
  exact (mem_without.mp he).2 hk

lemma without_of_none (h : find k entries = none) : without k entries = entries := by
  refine List.filter_eq_self.mpr fun e he => ?_
  simpa using find_none h he

lemma front_drop (h : find k entries = none) (hpos : 0 < cap) (hbound : entries.length ≤ cap) :
    (front k r entries).drop cap = if entries.length = cap then entries.getLast?.toList
      else [] := by
  obtain ⟨n, hn⟩ : ∃ n, cap = n + 1 := ⟨cap - 1, by omega⟩
  rw [front, without_of_none h, hn, List.drop_succ_cons]
  split
  · rename_i hfull
    have hne : entries ≠ [] := by
      intro hnil
      rw [hnil] at hfull
      cases hfull
    have hlast : n = entries.length - 1 := by omega
    rw [hlast, List.drop_length_sub_one hne, List.getLast?_eq_getLast_of_ne_nil hne]
    rfl
  · exact List.drop_eq_nil_of_le (by omega)

lemma without_length_le (k : κ) (entries : List (κ × ρ)) :
    (without k entries).length ≤ entries.length :=
  List.length_filter_le _ _

end Pollux.Recency
