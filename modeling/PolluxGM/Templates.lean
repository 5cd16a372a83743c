import PolluxGM.Smx509
import Mathlib.Logic.Function.Basic

/-!
# Templates for the SM2 backend

`CreateCertificate`, `CreateCertificateRequest` and `CreateRevocationList` of `cert.go` and
`crl.go`, as far as what they hand to the SM2 backend. A template is converted field by field with
reflection, or by parsing its encoding again when it has one. The hook that only hears of skipped
fields is left out.
-/
namespace Pollux.Templates

open Smx509

inductive Value where
  | int (n : Int)
  | data (bytes : Bytes)
  | slice (items : List Value)

def Value.items : Value → List Value
  | .slice items => items
  | _ => []

def Value.bytes : Value → Bytes
  | .data bytes => bytes
  | _ => []

/-- Arrays are slices, and integer sizes are not told apart. -/
inductive Kind (Ty : Type) where
  | int
  | slice (elem : Ty)
  | other

structure Reflection (Ty : Type) where
  kind : Ty → Kind Ty
  convertibleTo : Ty → Ty → Bool
  convert : Ty → Value → Value
  zero : Ty → Value
  typeName : Ty → String

structure Field (Ty : Type) where
  name : String
  exported : Bool
  type : Ty

structure Layout (Ty : Type) where
  fields : List (Field Ty)
  nodup : (fields.map Field.name).Nodup

def Layout.fieldByName {Ty : Type} (L : Layout Ty) (name : String) : Option (Field Ty) :=
  L.fields.find? (·.name = name)

structure Object {Ty : Type} (L : Layout Ty) where
  get : String → Value

variable {Ty : Type}

def Object.raw {L : Layout Ty} (t : Object L) : Bytes := (t.get "Raw").bytes

variable (R : Reflection Ty)

def zeroObject (L : Layout Ty) : Object L :=
  ⟨fun name => ((L.fieldByName name).map fun f => R.zero f.type).getD (.slice [])⟩

abbrev Outcome := Option Value × Option String

def mapEnum (name : String) (sharedMax : Int) (srcType dstType : Ty) (srcVal : Value) : Outcome :=
  match R.kind srcType, R.kind dstType, srcVal with
  | .int, .int, .int v =>
    if v < 0 ∨ sharedMax < v then
      (none, some s!"{name}={v} (outside shared range 0..{sharedMax}; downgraded to Unknown)")
    else (some (.int v), none)
  | _, _, _ => (none, some (name ++ " (enum kind drift; kept zero value)"))

def sharedItem : Value → Bool
  | .int v => 0 ≤ v && v ≤ maxSharedExtKeyUsage
  | _ => false

/-- The reason for each usage that is dropped. -/
def droppedUsage (name : String) : Value × Nat → String
  | (.int v, j) =>
    if v < 0 ∨ maxSharedExtKeyUsage <
      v then s!"{name}[{j}]={v} (outside shared range 0..{maxSharedExtKeyUsage}; dropped)"
    else ""
  | _ => ""

def mapUsages (name : String) (srcType dstType : Ty) (srcVal : Value) : Outcome :=
  match R.kind srcType, R.kind dstType with
  | .slice a, .slice b =>
    match R.kind a, R.kind b with
    | .int, .int =>
      let dropReason := String.join (srcVal.items.zipIdx.map (droppedUsage name))
      (some (.slice (srcVal.items.filter sharedItem)),
        if dropReason = "" then none else some dropReason)
    | _, _ => (none, some (name ++ " (enum slice kind drift; kept zero value)"))
  | _, _ => (none, some (name ++ " (enum slice kind drift; kept zero value)"))

/-- The numbers of an enumeration agree in both packages up to a maximum. -/
def mapEnumField (name : String) (srcType dstType : Ty) (srcVal : Value) : Option Outcome :=
  if name = "SignatureAlgorithm" then some (mapEnum R name 16 srcType dstType srcVal)
  else if name = "PublicKeyAlgorithm" then some (mapEnum R name 4 srcType dstType srcVal)
  else if name = "ExtKeyUsage" then some (mapUsages R name srcType dstType srcVal)
  else none

section

variable [DecidableEq Ty] (R : Reflection Ty)

def copyPlain (name : String) (srcType dstType : Ty) (srcVal : Value) : Outcome :=
  let skip : Outcome := (none,
    some s!"{name} ({R.typeName srcType} -> {R.typeName dstType} not convertible)")
  if srcType = dstType then (some srcVal, none)
  else if R.convertibleTo srcType dstType then (some (R.convert dstType srcVal), none)
  else
    match R.kind srcType, R.kind dstType with
    | .slice a, .slice b =>
      if R.convertibleTo a b then (some (.slice (srcVal.items.map (R.convert b))), none) else skip
    | _, _ => skip

def copyField (name : String) (srcType dstType : Ty) (srcVal : Value) : Outcome :=
  (mapEnumField R name srcType dstType srcVal).getD (copyPlain R name srcType dstType srcVal)

def copyStep {L M : Layout Ty} (src : Object L) (state : Object M × List String) (f : Field Ty) :
    Object M × List String :=
  if f.exported = false then state
  else
    match M.fieldByName f.name with
    | none => (state.1, state.2 ++ [f.name ++ " (absent on destination)"])
    | some g =>
      match copyField R f.name f.type g.type (src.get f.name) with
      | (none, reason) => (state.1, state.2 ++ reason.toList)
      | (some v, reason) => (⟨Function.update state.1.get f.name v⟩, state.2 ++ reason.toList)

def copyCertFields {L M : Layout Ty} (src : Object L) (dst : Object M) : Object M × List String :=
  L.fields.foldl (copyStep R src) (dst, [])

end

inductive Document where
  | certificate
  | request
  | revocationList
  deriving DecidableEq

structure Packages (Ty : Type) where
  R : Reflection Ty
  std : Document → Layout Ty
  sm : Document → Layout Ty
  stdParse : Bytes → Except Err (Object (std .certificate))
  smParse : (d : Document) → Bytes → Except Err (Object (sm d))

inductive PrivateKey where
  | sm2
  | ecdsa (sm2Curve : Bool)
  | other
  deriving DecidableEq

def isSM2Key : PrivateKey → Bool
  | .sm2 => true
  | .ecdsa sm2Curve => sm2Curve
  | .other => false

section

variable [DecidableEq Ty] (P : Packages Ty)

def converted (d : Document) (t : Object (P.std d)) : Object (P.sm d) :=
  (copyCertFields P.R t (zeroObject P.R (P.sm d))).1

/-- A certificate that gmsm does not parse is left to the standard library. -/
def reparse : (d : Document) → Bytes → Except Err (Object (P.sm d))
  | .certificate, raw =>
    match P.smParse .certificate raw, P.stdParse raw with
    | .ok smCert, _ => .ok smCert
    | .error _, .ok stdCert => .ok (converted P .certificate stdCert)
    | .error err, .error stdErr =>
      .error (.wrap "smx509: failed to parse certificate from Raw: " (.join err stdErr))
  | .request, raw => P.smParse .request raw
  | .revocationList, raw => P.smParse .revocationList raw

def toSMX509Certificate :
    Option (Object (P.std .certificate)) → Except Err (Option (Object (P.sm .certificate)))
  | none => return none
  | some cert => do
    if cert.raw ≠ [] then
      let smCert ← reparse P .certificate cert.raw
      return some smCert
    else return some (converted P .certificate cert)

def toSMX509CertificateRequest :
    Option (Object (P.std .request)) → Except Err (Option (Object (P.sm .request)))
  | none => return none
  | some csr => do
    if csr.raw ≠ [] then
      let smCsr ← reparse P .request csr.raw
      return some smCsr
    else return some (converted P .request csr)

def entries {L : Layout Ty} (list : Object L) : List Value :=
  (list.get "RevokedCertificateEntries").items

def toSMX509RevocationList :
    Option (Object (P.std .revocationList)) → Except Err (Option (Object (P.sm .revocationList)))
  | none => return none
  | some tpl => do
    if tpl.raw ≠ [] then
      let smList ← reparse P .revocationList tpl.raw
      return some smList
    else
      let smList := converted P .revocationList tpl
      reject ((entries smList).length ≠ (entries tpl).length)
        (.text "smx509: revocation entries lost in conversion — gmsm/x509 struct drift")
      return some smList

/-- The template and the parent that a backend is asked to sign with. -/
inductive Call (d : Document) where
  | std (template : Option (Object (P.std d))) (parent : Option (Object (P.std .certificate)))
  | sm (template : Option (Object (P.sm d))) (parent : Option (Object (P.sm .certificate)))

def certificateCall (template parent : Option (Object (P.std .certificate))) (priv : PrivateKey) :
    Except Err (Call P .certificate) := do
  if isSM2Key priv then
    let smTmpl ← toSMX509Certificate P template
    let smParent ← toSMX509Certificate P parent
    return .sm smTmpl smParent
  else return .std template parent

def requestCall (template : Option (Object (P.std .request))) (priv : PrivateKey) :
    Except Err (Call P .request) := do
  if isSM2Key priv then
    let smTmpl ← toSMX509CertificateRequest P template
    return .sm smTmpl none
  else return .std template none

/-- The signer is given by its public key. -/
def revocationListCall (template : Option (Object (P.std .revocationList)))
    (issuer : Option (Object (P.std .certificate))) (signer : Option PublicKey) :
    Except Err (Call P .revocationList) := do
  let template ← need (.text "smx509: nil CRL template") template
  let issuer ← need (.text "smx509: nil issuer certificate") issuer
  let signer ← need (.text "smx509: nil signer") signer
  if isSM2PublicKey signer then
    let smIssuer ← toSMX509Certificate P (some issuer)
    let smTemplate ← toSMX509RevocationList P (some template)
    return .sm smTemplate smIssuer
  else return .std (some template) (some issuer)

def createCertificate (sign : Call P .certificate → PublicKey → PrivateKey → Except Err Bytes)
    (template parent : Option (Object (P.std .certificate))) (pub : PublicKey) (priv : PrivateKey) :
    Except Err Bytes := do
  let call ← certificateCall P template parent priv
  sign call pub priv

def createCertificateRequest (sign : Call P .request → PrivateKey → Except Err Bytes)
    (template : Option (Object (P.std .request))) (priv : PrivateKey) : Except Err Bytes := do
  let call ← requestCall P template priv
  sign call priv

def createRevocationList (sign : Call P .revocationList → Option PublicKey → Except Err Bytes)
    (template : Option (Object (P.std .revocationList)))
    (issuer : Option (Object (P.std .certificate))) (signer : Option PublicKey) :
    Except Err Bytes := do
  let call ← revocationListCall P template issuer signer
  sign call signer

end

def isEnumField (name : String) : Prop :=
  name = "SignatureAlgorithm" ∨ name = "PublicKeyAlgorithm" ∨ name = "ExtKeyUsage"

/-- Types between which the value of a field can be copied. -/
inductive Carries (R : Reflection Ty) (name : String) (a b : Ty) : Prop where
  | enum (hname : name = "SignatureAlgorithm" ∨ name = "PublicKeyAlgorithm") (ha : R.kind a = .int)
    (hb : R.kind b = .int)
  | usages (hname : name = "ExtKeyUsage") {x y : Ty} (ha : R.kind a = .slice x)
      (hb : R.kind b = .slice y) (hx : R.kind x = .int) (hy : R.kind y = .int)
  | same (hname : ¬ isEnumField name) (hab : a = b)
  | convertible (hname : ¬ isEnumField name) (hab : R.convertibleTo a b = true)
    (hkeep : ∀ v, R.convert b v = v)
  | elementwise (hname : ¬ isEnumField name) (hab : R.convertibleTo a b = false) {x y : Ty}
    (ha : R.kind a = .slice x)
      (hb : R.kind b = .slice y) (hxy : R.convertibleTo x y = true) (hkeep : ∀ v, R.convert y v = v)

/-- A value of the type, with the numbers of enumerations in the shared ranges. -/
structure Admissible (name : String) (a : Ty) (v : Value) : Prop where
  signatureAlgorithm : name = "SignatureAlgorithm" → ∃ n, v = .int n ∧ 0 ≤ n ∧ n ≤ 16
  publicKeyAlgorithm : name = "PublicKeyAlgorithm" → ∃ n, v = .int n ∧ 0 ≤ n ∧ n ≤ 4
  extKeyUsage : name = "ExtKeyUsage" → ∀ item ∈ v.items, sharedItem item = true
  slice : ∀ x, R.kind a = .slice x → ∃ items, v = .slice items

lemma mapEnum_shared {R : Reflection Ty} {name : String} {a b : Ty} {sharedMax n : Int}
    (ha : R.kind a = .int) (hb : R.kind b = .int) (hn : 0 ≤ n ∧ n ≤ sharedMax) :
    (mapEnum R name sharedMax a b (.int n)).1 = some (.int n) := by
  have hin : ¬ (n < 0 ∨ sharedMax < n) := by omega
  simp [mapEnum, ha, hb, hin]

lemma map_convert {R : Reflection Ty} {y : Ty} (hkeep : ∀ v, R.convert y v = v)
    (items : List Value) : items.map (R.convert y) = items :=
  (List.map_congr_left fun v _ => hkeep v).trans (List.map_id _)

section

variable [DecidableEq Ty] {R : Reflection Ty} {name : String} {a b : Ty} {v : Value}

lemma copyField_plain (hname : ¬ isEnumField name) :
    copyField R name a b v = copyPlain R name a b v := by
  simp only [isEnumField, not_or] at hname
  obtain ⟨hsignature, hpublic, husage⟩ := hname
  rw [copyField, mapEnumField, if_neg hsignature, if_neg hpublic, if_neg husage, Option.getD_none]

lemma copyField_carries (h : Carries R name a b) (hv : Admissible R name a v) :
    (copyField R name a b v).1 = some v := by
  cases h with
  | enum hname ha hb =>
    rcases hname with rfl | rfl
    · obtain ⟨n, rfl, hn⟩ := hv.signatureAlgorithm rfl
      exact mapEnum_shared ha hb hn
    · obtain ⟨n, rfl, hn⟩ := hv.publicKeyAlgorithm rfl
      exact mapEnum_shared ha hb hn
  | usages hname ha hb hx hy =>
    subst hname
    obtain ⟨items, rfl⟩ := hv.slice _ ha
    have hshared : items.filter sharedItem = items := List.filter_eq_self.mpr (hv.extKeyUsage rfl)
    change (mapUsages R "ExtKeyUsage" a b (.slice items)).1 = some (.slice items)
    simp [mapUsages, ha, hb, hx, hy, Value.items, hshared]
  | same hname hab => simp [copyField_plain hname, copyPlain, hab]
  | convertible hname hab hkeep =>
    by_cases heq : a = b <;> simp [copyField_plain hname, copyPlain, heq, hab, hkeep]
  | elementwise hname hab ha hb hxy hkeep =>
    obtain ⟨items, rfl⟩ := hv.slice _ ha
    by_cases heq : a = b
    · simp [copyField_plain hname, copyPlain, heq]
    · simp [copyField_plain hname, copyPlain, heq, hab, ha, hb, hxy, Value.items, map_convert hkeep]

variable {L M : Layout Ty} {src : Object L}

lemma copyStep_other {state : Object M × List String} {f : Field Ty} (h : f.name ≠ name) :
    (copyStep R src state f).1.get name = state.1.get name := by
  unfold copyStep
  split
  · rfl
  · split
    · rfl
    · split
      · rfl
      · exact Function.update_of_ne h.symm _ _

lemma copyStep_get {state : Object M × List String} {f g : Field Ty} (hexported : f.exported = true)
    (hfield : M.fieldByName f.name = some g)
    (hv : (copyField R f.name f.type g.type (src.get f.name)).1 = some v) :
    (copyStep R src state f).1.get f.name = v := by
  generalize hcopy : copyField R f.name f.type g.type (src.get f.name) = outcome at hv
  obtain ⟨_, reason⟩ := outcome
  cases hv
  simp [copyStep, hexported, hfield, hcopy]

lemma copied_other {fields : List (Field Ty)} (h : ∀ f ∈ fields, f.name ≠ name)
    (state : Object M × List String) :
    (fields.foldl (copyStep R src) state).1.get name = state.1.get name := by
  induction fields generalizing state with
  | nil => rfl
  | cons f fields ih =>
    rw [List.foldl_cons, ih fun f' hf' => h f' (List.mem_cons_of_mem f hf')]
    exact copyStep_other (h f List.mem_cons_self)

/-- After the loop a shared field has the value that its own turn gave it. -/
lemma copied_get {fields : List (Field Ty)} (hnodup : (fields.map Field.name).Nodup)
    {f g : Field Ty} (hf : f ∈ fields) (hexported : f.exported = true)
    (hfield : M.fieldByName f.name = some g)
    (hv : (copyField R f.name f.type g.type (src.get f.name)).1 = some v)
    (state : Object M × List String) :
    (fields.foldl (copyStep R src) state).1.get f.name = v := by
  induction fields generalizing state with
  | nil => cases hf
  | cons first fields ih =>
    rw [List.map_cons, List.nodup_cons] at hnodup
    rw [List.foldl_cons]
    rcases List.mem_cons.mp hf with rfl | hrest
    · rw [copied_other fun f' hf' hname => hnodup.1 (List.mem_map.mpr ⟨f', hf', hname⟩)]
      exact copyStep_get hexported hfield hv
    · exact ih hnodup.2 hrest _

end

/-- The same types for their shared fields, up to conversions. -/
def Packages.Compatible (P : Packages Ty) : Prop :=
  ∀ d, ∀ f ∈ (P.std d).fields, f.exported = true → ∀ g,
    (P.sm d).fieldByName f.name = some g → Carries P.R f.name f.type g.type

section

variable [DecidableEq Ty] {P : Packages Ty} {d : Document}

def Agrees (t : Object (P.std d)) (sm : Object (P.sm d)) : Prop :=
  ∀ f ∈ (P.std d).fields, f.exported = true → ∀ g,
    (P.sm d).fieldByName f.name = some g → sm.get f.name = t.get f.name

def Object.Admissible (t : Object (P.std d)) : Prop :=
  ∀ f ∈ (P.std d).fields, Templates.Admissible P.R f.name f.type (t.get f.name)

inductive HandedOver (P : Packages Ty) :
    (d : Document) → Object (P.std d) → Object (P.sm d) → Prop where
  | certificate {t : Object (P.std .certificate)} {sm : Object (P.sm .certificate)}
    {parent priv smParent}
      (h : certificateCall P (some t) parent priv = .ok (.sm (some sm) smParent)) :
        HandedOver P .certificate t sm
  | request {t : Object (P.std .request)} {sm : Object (P.sm .request)} {priv}
      (h : requestCall P (some t) priv = .ok (.sm (some sm) none)) : HandedOver P .request t sm
  | revocationList {t : Object (P.std .revocationList)} {sm : Object (P.sm .revocationList)}
    {issuer signer smIssuer}
      (h : revocationListCall P (some t) issuer signer = .ok (.sm (some sm) smIssuer)) :
        HandedOver P .revocationList t sm

/-- The encoding that the template came with still says what its fields say. -/
def Unedited (t : Object (P.std d)) : Prop := ∀ sm, reparse P d t.raw = .ok sm → Agrees t sm

lemma converted_agrees (hP : P.Compatible) {t : Object (P.std d)} (ht : t.Admissible) :
    Agrees t (converted P d t) := by
  intro f hf hexported g hg
  exact copied_get (P.std d).nodup hf hexported hg
    (copyField_carries (hP d f hf hexported g hg) (ht f hf)) _

/-- A template is parsed again if it has an encoding, and copied if not. -/
def Converts (t : Object (P.std d)) (sm : Object (P.sm d)) : Prop :=
  t.raw ≠ [] ∧ reparse P d t.raw = .ok sm ∨ t.raw = [] ∧ converted P d t = sm

lemma toSMX509Certificate_ok {t : Object (P.std .certificate)} {sm : Object (P.sm .certificate)} :
    toSMX509Certificate P (some t) = .ok (some sm) ↔ Converts t sm := by
  by_cases hraw : t.raw = [] <;> simp [toSMX509Certificate, Converts, hraw, bind_ok]

lemma toSMX509CertificateRequest_ok {t : Object (P.std .request)} {sm : Object (P.sm .request)} :
    toSMX509CertificateRequest P (some t) = .ok (some sm) ↔ Converts t sm := by
  by_cases hraw : t.raw = [] <;> simp [toSMX509CertificateRequest, Converts, hraw, bind_ok]

lemma toSMX509RevocationList_ok {t : Object (P.std .revocationList)}
    {sm : Object (P.sm .revocationList)} :
    toSMX509RevocationList P (some t) = .ok (some sm) ↔
      Converts t sm ∧ (t.raw = [] → (entries sm).length = (entries t).length) := by
  by_cases hraw : t.raw = []
  · simp only [toSMX509RevocationList, hraw, ne_eq, not_true_eq_false, if_false, bind_ok, reject_ok,
      pure_inj, Option.some.injEq, Converts, false_and, true_and, false_or, Decidable.not_not,
        forall_const]
    constructor
    · rintro ⟨_, hlength, rfl⟩
      exact ⟨rfl, hlength⟩
    · rintro ⟨rfl, hlength⟩
      exact ⟨(), hlength, rfl⟩
  · simp [toSMX509RevocationList, Converts, hraw, bind_ok]

lemma handedOver_converts {t : Object (P.std d)} {sm : Object (P.sm d)} (h : HandedOver P d t sm) :
    Converts t sm := by
  cases h with
  | certificate h =>
    unfold certificateCall at h
    split at h
    · simp only [bind_ok, pure_inj] at h
      obtain ⟨smTmpl, htmpl, smParent, _, hcall⟩ := h
      cases hcall
      exact toSMX509Certificate_ok.mp htmpl
    · cases h
  | request h =>
    unfold requestCall at h
    split at h
    · simp only [bind_ok, pure_inj] at h
      obtain ⟨smTmpl, htmpl, hcall⟩ := h
      cases hcall
      exact toSMX509CertificateRequest_ok.mp htmpl
    · cases h
  | revocationList h =>
    simp only [revocationListCall, need_some, ok_bind, bind_ok, need_ok] at h
    obtain ⟨issuer, _, signer, _, h⟩ := h
    split at h
    · simp only [bind_ok, pure_inj] at h
      obtain ⟨smIssuer, _, smTmpl, htmpl, hcall⟩ := h
      cases hcall
      exact (toSMX509RevocationList_ok.mp htmpl).1
    · cases h

lemma handedOver_reparse {t : Object (P.std d)} {sm : Object (P.sm d)} (hraw : t.raw ≠ [])
    (h : reparse P d t.raw = .ok sm) : HandedOver P d t sm := by
  have hconverts : Converts t sm := .inl ⟨hraw, h⟩
  cases d with
  | certificate =>
    have hparent : toSMX509Certificate P none = .ok none := rfl
    have hcall : certificateCall P (some t) none .sm2 = .ok (.sm (some sm) none) := by
      simp [certificateCall, isSM2Key, toSMX509Certificate_ok.mpr hconverts, hparent]
    exact .certificate hcall
  | request =>
    have hcall : requestCall P (some t) .sm2 = .ok (.sm (some sm) none) := by
      simp [requestCall, isSM2Key, toSMX509CertificateRequest_ok.mpr hconverts]
    exact .request hcall
  | revocationList =>
    have htmpl := toSMX509RevocationList_ok.mpr ⟨hconverts, fun hnone => (hraw hnone).elim⟩
    have hissuer : toSMX509Certificate P (some ⟨fun _ => .slice []⟩) =
        .ok (some (converted P .certificate ⟨fun _ => .slice []⟩)) := rfl
    have hcall : revocationListCall P (some t) (some ⟨fun _ => .slice []⟩) (some (.ecdsa true [])) =
        .ok (.sm (some sm) (some (converted P .certificate ⟨fun _ => .slice []⟩))) := by
      simp only [revocationListCall, need_some, ok_bind, isSM2PublicKey, if_true, hissuer, htmpl,
        pure_ok]
    exact .revocationList hcall

/-- The SM2 backend is asked to sign what the template says if the template has no encoding, or
one that it was not edited away from. -/
theorem handed_over_agrees_iff (hP : P.Compatible) (t : Object (P.std d)) (ht : t.Admissible) :
    (∀ sm, HandedOver P d t sm → Agrees t sm) ↔ t.raw = [] ∨ Unedited t := by
  constructor
  · intro hall
    by_cases hraw : t.raw = []
    · exact .inl hraw
    · exact .inr fun sm hsm => hall sm (handedOver_reparse hraw hsm)
  · intro h sm hsm
    rcases handedOver_converts hsm with ⟨hraw, hparsed⟩ | ⟨_, rfl⟩
    · exact (h.resolve_left hraw) sm hparsed
    · exact converted_agrees hP ht

end

inductive SampleType where
  | bytes
  | entry
  | entries
  | smEntry
  | smEntries
  deriving DecidableEq

def sampleReflection : Reflection SampleType where
  kind
    | .entries => .slice .entry
    | .smEntries => .slice .smEntry
    | _ => .other
  convertibleTo a b := a = b || (a = .entry && b = .smEntry)
  convert _ v := v
  zero
    | .bytes => .data []
    | _ => .slice []
  typeName _ := ""

def sampleLayout (list : SampleType) : Layout SampleType where
  fields := [⟨"Raw", true, .bytes⟩, ⟨"RevokedCertificateEntries", true, list⟩]
  nodup := by simp

def sampleList {L : Layout SampleType} (raw : Bytes) (serials : List Int) : Object L :=
  ⟨fun name => if name = "Raw" then .data raw else .slice (serials.map .int)⟩

/-- Two packages with entry types of their own. Every encoding is of a list that revokes the
certificate 7. -/
def samplePackages : Packages SampleType where
  R := sampleReflection
  std _ := sampleLayout .entries
  sm _ := sampleLayout .smEntries
  stdParse raw := .ok (sampleList raw [7])
  smParse _ raw := .ok (sampleList raw [7])

lemma samplePackages_compatible : samplePackages.Compatible := by
  intro d f hf _ g hg
  change f ∈ [_, _] at hf
  rcases List.mem_pair.mp hf with rfl | rfl
  · cases hg
    exact .same (by simp [isEnumField]) rfl
  · cases hg
    exact .elementwise (by simp [isEnumField]) rfl rfl rfl rfl fun _ => rfl

lemma sampleList_admissible (raw : Bytes) (serials : List Int) :
    (sampleList raw serials : Object (samplePackages.std .revocationList)).Admissible := by
  intro f hf
  change f ∈ [_, _] at hf
  rcases List.mem_pair.mp hf with rfl | rfl
  · constructor <;> simp [samplePackages, sampleReflection]
  · constructor <;> simp [sampleList]

theorem handed_over_agrees_iff_sample :
    (∃ sm, HandedOver samplePackages .revocationList (sampleList [] [7, 8]) sm) ∧
      ∀ sm, HandedOver samplePackages .revocationList (sampleList [] [7, 8]) sm →
        Agrees (sampleList [] [7, 8]) sm := by
  have hiff := handed_over_agrees_iff samplePackages_compatible _ (sampleList_admissible [] [7, 8])
  have hcall : revocationListCall samplePackages (some (sampleList [] [7, 8]))
    (some ⟨fun _ => .slice []⟩)
      (some (.ecdsa true [])) =
        .ok (.sm (some (converted samplePackages .revocationList (sampleList [] [7, 8])))
        (some (converted samplePackages .certificate ⟨fun _ => .slice []⟩))) := rfl
  exact ⟨⟨_, .revocationList hcall⟩, hiff.mpr (.inl rfl)⟩

/-- A parsed list to which the certificate 8 was added is signed without it. -/
theorem edited_list_signed_stale :
    HandedOver samplePackages .revocationList (sampleList [1] [7, 8]) (sampleList [1] [7]) ∧
      ¬ Agrees (sampleList [1] [7, 8] : Object (samplePackages.std .revocationList))
        (sampleList [1] [7]) := by
  constructor
  · exact handedOver_reparse (by simp [Object.raw, sampleList, Value.bytes]) rfl
  · intro h
    have hentries := h ⟨"RevokedCertificateEntries", true, .entries⟩
      (List.mem_cons_of_mem _ List.mem_cons_self) rfl
      ⟨"RevokedCertificateEntries", true, .smEntries⟩ rfl
    simp [sampleList] at hentries

end Pollux.Templates
