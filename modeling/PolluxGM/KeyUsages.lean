import Mathlib.Data.Set.Basic
import PolluxGM.Templates

/-!
# Extended key usages of converted certificates

A certificate permits what it lists, and everything if it lists `ExtKeyUsageAny` or nothing at all.
`copyCertFields` drops the usages that the other package has no number for. `validateKeyUsages` of
`verify.go` is included.
-/
namespace Pollux.KeyUsages

open Smx509 Templates

/-- A usage with a number, or by its object identifier only. -/
inductive Usage where
  | known (n : Int)
  | unknown (oid : Value)

def extKeyUsageAny : Int := 0

def asInt : Value → Option Int
  | .int n => some n
  | _ => none

section

variable {Ty : Type} {L : Layout Ty}

variable (t : Object L)

def extKeyUsage : List Int := (t.get "ExtKeyUsage").items.filterMap asInt

def unknownExtKeyUsage : List Value := (t.get "UnknownExtKeyUsage").items

def Lists : Usage → Prop
  | .known n => n ∈ extKeyUsage t
  | .unknown oid => oid ∈ unknownExtKeyUsage t

def permitted : Set Usage :=
  {u | extKeyUsageAny ∈ extKeyUsage t ∨ extKeyUsage t = [] ∧ unknownExtKeyUsage t = [] ∨ Lists t u}

/-- The certificate lists numbers only, none of them shared. -/
def OnlyForeign : Prop :=
  extKeyUsage t ≠ [] ∧ unknownExtKeyUsage t = [] ∧ ∀ n ∈ extKeyUsage t,
    ¬ (0 ≤ n ∧ n ≤ maxSharedExtKeyUsage)

lemma OnlyForeign.restricted {t : Object L} (h : OnlyForeign t) :
    .unknown (.slice []) ∉ permitted t := by
  obtain ⟨hlists, hidentifiers, hforeign⟩ := h
  rintro (hany | ⟨hempty, -⟩ | hlisted)
  · exact hforeign _ hany (by decide)
  · exact hlists hempty
  · change Value.slice [] ∈ unknownExtKeyUsage t at hlisted
    rw [hidentifiers] at hlisted
    cases hlisted

end

def validateKeyUsages (extKeyUsage required : List Int) : Except Err Unit :=
  if extKeyUsage.length = 0 then .ok ()
  else if required.any fun req => req = extKeyUsageAny || extKeyUsage.any fun present =>
    present = req || present = extKeyUsageAny
  then .ok ()
  else .error (.text "cert: certificate does not have required ExtendedKeyUsage")

structure SharesUsages {Ty : Type} (R : Reflection Ty) (L M : Layout Ty) : Prop where
  numbers : ∃ f ∈ L.fields, f.name = "ExtKeyUsage" ∧ f.exported = true ∧
    ∃ g, M.fieldByName "ExtKeyUsage" = some g ∧ ∃ x y, R.kind f.type = .slice x ∧
      R.kind g.type = .slice y ∧ R.kind x = .int ∧ R.kind y = .int
  identifiers : ∃ f ∈ L.fields, f.name = "UnknownExtKeyUsage" ∧ f.exported = true ∧
    ∃ g, M.fieldByName "UnknownExtKeyUsage" = some g ∧ f.type = g.type

section

variable {Ty : Type} [DecidableEq Ty] {R : Reflection Ty} {L M : Layout Ty}

lemma copied_numbers (h : SharesUsages R L M) (src : Object L) (dst : Object M) :
    (copyCertFields R src dst).1.get "ExtKeyUsage" =
      .slice ((src.get "ExtKeyUsage").items.filter sharedItem) := by
  obtain ⟨f, hf, hname, hexported, g, hg, x, y, hx, hy, hxint, hyint⟩ := h.numbers
  rw [← hname] at hg ⊢
  refine copied_get L.nodup hf hexported hg ?_ _
  rw [hname]
  change (mapUsages R "ExtKeyUsage" f.type g.type (src.get "ExtKeyUsage")).1 = _
  simp only [mapUsages, hx, hy, hxint, hyint]

lemma copied_identifiers (h : SharesUsages R L M) (src : Object L) (dst : Object M) :
    (copyCertFields R src dst).1.get "UnknownExtKeyUsage" = src.get "UnknownExtKeyUsage" := by
  obtain ⟨f, hf, hname, hexported, g, hg, htype⟩ := h.identifiers
  rw [← hname] at hg ⊢
  refine copied_get L.nodup hf hexported hg ?_ _
  rw [hname, copyField_plain (by simp [isEnumField]), copyPlain, if_pos htype]

lemma extKeyUsage_copied (h : SharesUsages R L M) (src : Object L) (dst : Object M) :
    extKeyUsage (copyCertFields R src dst).1 = (extKeyUsage src).filter fun n =>
      0 ≤ n && n ≤ maxSharedExtKeyUsage := by
  rw [extKeyUsage, copied_numbers h, extKeyUsage, List.filter_filterMap]
  change ((src.get "ExtKeyUsage").items.filter sharedItem).filterMap asInt = _
  rw [List.filterMap_filter]
  congr 1
  funext v
  cases v with
  | int n =>
    by_cases hn : 0 ≤ n ∧ n ≤ maxSharedExtKeyUsage <;> simp [sharedItem, asInt, hn, Option.filter]
  | data bytes => rfl
  | slice items => rfl

lemma unknownExtKeyUsage_copied (h : SharesUsages R L M) (src : Object L) (dst : Object M) :
    unknownExtKeyUsage (copyCertFields R src dst).1 = unknownExtKeyUsage src := by
  rw [unknownExtKeyUsage, copied_identifiers h, unknownExtKeyUsage]

lemma mem_copied (h : SharesUsages R L M) {src : Object L} {dst : Object M} {n : Int} :
    n ∈ extKeyUsage (copyCertFields R src dst).1 ↔ n ∈ extKeyUsage src ∧ 0 ≤ n ∧
      n ≤ maxSharedExtKeyUsage := by
  rw [extKeyUsage_copied h, List.mem_filter, Bool.and_eq_true, decide_eq_true_eq, decide_eq_true_eq]

lemma copied_eq_nil (h : SharesUsages R L M) {src : Object L} {dst : Object M} :
    extKeyUsage (copyCertFields R src dst).1 = [] ↔ ∀ n ∈ extKeyUsage src,
      ¬ (0 ≤ n ∧ n ≤ maxSharedExtKeyUsage) := by
  rw [List.eq_nil_iff_forall_not_mem]
  simp only [mem_copied h, not_and]

/-- What was listed stays permitted; the one way to more is an empty list. -/
lemma permitted_copied (h : SharesUsages R L M) (src : Object L) (dst : Object M) :
    permitted (copyCertFields R src dst).1 ⊆ permitted src ↔ ¬ OnlyForeign src := by
  constructor
  · intro hsubset hforeign
    refine hforeign.restricted (hsubset (.inr (.inl ⟨(copied_eq_nil h).mpr hforeign.2.2, ?_⟩)))
    rw [unknownExtKeyUsage_copied h, hforeign.2.1]
  · rintro hforeign u (hany | ⟨hempty, hidentifiers⟩ | hlisted)
    · exact .inl ((mem_copied h).mp hany).1
    · rw [copied_eq_nil h] at hempty
      rw [unknownExtKeyUsage_copied h] at hidentifiers
      by_cases hlists : extKeyUsage src = []
      · exact .inr (.inl ⟨hlists, hidentifiers⟩)
      · exact absurd ⟨hlists, hidentifiers, hempty⟩ hforeign
    · refine .inr (.inr ?_)
      cases u with
      | known n => exact ((mem_copied h).mp hlisted).1
      | unknown oid =>
        change oid ∈ unknownExtKeyUsage _ at hlisted
        rwa [unknownExtKeyUsage_copied h] at hlisted

lemma validateKeyUsages_copied (h : SharesUsages R L M) {src : Object L}
    (hforeign : OnlyForeign src) (dst : Object M) (required : List Int) :
    validateKeyUsages (extKeyUsage (copyCertFields R src dst).1) required = .ok () := by
  rw [(copied_eq_nil h).mpr hforeign.2.2]
  rfl

end

/-- A conversion permits no more than its source, unless all that the source lists is dropped. -/
theorem conversion_narrows_iff {Ty : Type} [DecidableEq Ty] (R : Reflection Ty) (L M : Layout Ty)
    (h : SharesUsages R L M) (src : Object L) :
    permitted (copyCertFields R src (zeroObject R M)).1 ⊆ permitted src ↔
      ¬ (extKeyUsage src ≠ [] ∧ unknownExtKeyUsage src = [] ∧
        ∀ n ∈ extKeyUsage src, ¬ (0 ≤ n ∧ n ≤ maxSharedExtKeyUsage)) :=
  permitted_copied h src _

inductive SampleType where
  | number
  | numbers
  | smNumber
  | smNumbers
  | identifiers
  deriving DecidableEq

def sampleReflection : Reflection SampleType where
  kind
    | .number | .smNumber => .int
    | .numbers => .slice .number
    | .smNumbers => .slice .smNumber
    | .identifiers => .other
  convertibleTo a b := a = b
  convert _ v := v
  zero _ := .slice []
  typeName _ := ""

def sampleLayout (list : SampleType) : Layout SampleType where
  fields := [⟨"ExtKeyUsage", true, list⟩, ⟨"UnknownExtKeyUsage", true, .identifiers⟩]
  nodup := by simp

def sampleCertificate {L : Layout SampleType} (usages : List Int) : Object L :=
  ⟨fun name => if name = "ExtKeyUsage" then .slice (usages.map .int) else .slice []⟩

lemma sample_shares :
    SharesUsages sampleReflection (sampleLayout .numbers) (sampleLayout .smNumbers) where
  numbers := ⟨_, List.mem_cons_self, rfl, rfl, _, rfl, .number, .smNumber, rfl, rfl, rfl, rfl⟩
  identifiers := ⟨_, List.mem_cons_of_mem _ List.mem_cons_self, rfl, rfl, _, rfl, rfl⟩

theorem conversion_narrows_iff_sample :
    SharesUsages sampleReflection (sampleLayout .numbers) (sampleLayout .smNumbers) ∧
      permitted (copyCertFields sampleReflection
        (sampleCertificate [1, 14] : Object (sampleLayout .numbers))
        (zeroObject sampleReflection (sampleLayout .smNumbers))).1 ⊆
        permitted (sampleCertificate [1, 14] : Object (sampleLayout .numbers)) := by
  refine ⟨sample_shares, (conversion_narrows_iff _ _ _ sample_shares _).mpr ?_⟩
  rintro ⟨-, -, hforeign⟩
  exact hforeign 1 (by simp [extKeyUsage, sampleCertificate, Value.items, asInt]) (by decide)

/-- A certificate for usage 14 only is one for every usage after the conversion. -/
theorem foreign_usage_widens :
    Usage.known 1 ∉ permitted (sampleCertificate [14] : Object (sampleLayout .numbers)) ∧
      Usage.known 1 ∈ permitted
        (copyCertFields sampleReflection (sampleCertificate [14] : Object (sampleLayout .numbers))
        (zeroObject sampleReflection (sampleLayout .smNumbers))).1 := by
  constructor
  · simp [permitted, Lists, extKeyUsage, sampleCertificate, Value.items, asInt, extKeyUsageAny]
  · refine .inr (.inl ⟨?_, ?_⟩)
    · rw [copied_eq_nil sample_shares]
      simp [extKeyUsage, sampleCertificate, Value.items, asInt, maxSharedExtKeyUsage]
    · rw [unknownExtKeyUsage_copied sample_shares]
      rfl

end Pollux.KeyUsages
