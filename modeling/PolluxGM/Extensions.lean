import PolluxGM.Codec
import PolluxGM.Protocol

/-!
# Extension vectors and extension payloads

Embedding of `message_extensions.go`, `message_keyshare.go` and the extension half of
`message_psk.go`. A nil slice is an empty list: a parsed extension without data carries a nil slice
as well. Loops take the number of remaining octets as fuel, which never runs out.
-/
namespace Pollux.Tls

structure Extension where
  typ : UInt16
  data : Bytes
  deriving DecidableEq

variable (e : Extension) (exts : List Extension)

def Extension.encode : Bytes := be16 e.typ.toNat ++ be16 e.data.length ++ e.data

def encodeExtensions : Bytes := exts.flatMap Extension.encode

def Fits : Prop := ∀ e ∈ exts, e.data.length ≤ 0xFFFF

def marshalExtensionBody : List Extension → Except Err Bytes
  | [] => .ok []
  | e :: es => do
    reject (0xFFFF < e.data.length)
      (.text s!"tls13gm: extension {e.typ} data length {e.data.length} exceeds 16 bits")
    let rest ← marshalExtensionBody es
    return e.encode ++ rest

def marshalExtensions : Except Err Bytes := do
  let body ← marshalExtensionBody exts
  reject (0xFFFF < body.length)
    (.text s!"tls13gm: extensions vector length {body.length} exceeds 16 bits")
  return be16 body.length ++ body

def tagLength (p : Bytes) : Option (Nat × Nat × Bytes) :=
  match u16 p with
  | none => none
  | some (t, r) =>
    match u16 r with
    | none => none
    | some (n, r) => some (t, n, r)

def parseExtensionList : Nat → Bytes → Except Err (List Extension)
  | 0, p => do
    reject (p ≠ []) (.text s!"tls13gm: {p.length} trailing bytes inside extensions vector")
    return []
  | fuel + 1, p =>
    match tagLength p with
    | none => do
      reject (p ≠ []) (.text s!"tls13gm: {p.length} trailing bytes inside extensions vector")
      return []
    | some (typ, n, r) => do
      reject (r.length < n)
        (.text s!"tls13gm: truncated extension {typ} data (declared {n}, have {r.length})")
      let es ← parseExtensionList fuel (r.drop n)
      return ⟨UInt16.ofNat typ, r.take n⟩ :: es

def parseExtensions (b : Bytes) : Except Err (List Extension × Nat) := do
  let (vecLen, r) ← need (.text s!"tls13gm: truncated extensions length (have {b.length} bytes)")
    (u16 b)
  reject (r.length < vecLen)
    (.text s!"tls13gm: truncated extensions vector (declared {vecLen}, have {r.length})")
  let exts ← parseExtensionList vecLen (r.take vecLen)
  return (exts, 2 + vecLen)

def findExtension : List Extension → UInt16 → Bytes
  | [], _ => []
  | e :: es, typ => if e.typ = typ then e.data else findExtension es typ

def hasExtension (typ : UInt16) : Bool := exts.any fun e => e.typ = typ

@[simp] lemma encode_length : e.encode.length = 4 + e.data.length := by
  simp only [Extension.encode, List.length_append, be16_length]

@[simp] lemma encodeExtensions_nil : encodeExtensions [] = [] := rfl

@[simp] lemma encodeExtensions_cons (es : List Extension) :
    encodeExtensions (e :: es) = e.encode ++ encodeExtensions es := rfl

@[simp] lemma encodeExtensions_append (xs ys : List Extension) :
    encodeExtensions (xs ++ ys) = encodeExtensions xs ++ encodeExtensions ys := by
  simp [encodeExtensions]

lemma tagLength_encode (h : e.data.length ≤ 0xFFFF) (r : Bytes) :
    tagLength (e.encode ++ r) = some (e.typ.toNat, e.data.length, e.data ++ r) := by
  simp only [tagLength, Extension.encode, List.append_assoc]
  rw [u16_be16 _ (toNat_lt16 e.typ)]
  simp only
  rw [u16_be16 _ (by omega)]

variable {p : Bytes} {n : Nat}

lemma tagLength_some (h : tagLength p = some (t, n, r)) :
    p = be16 t ++ be16 n ++ r ∧ t < 65536 ∧ n < 65536 := by
  unfold tagLength at h
  split at h
  · cases h
  · rename_i t' q hq
    split at h
    · cases h
    · rename_i n' q' hq'
      cases h
      obtain ⟨rfl, ht⟩ := u16_some hq
      obtain ⟨rfl, hn⟩ := u16_some hq'
      exact ⟨by simp, ht, hn⟩

lemma tagLength_nil : tagLength [] = none := rfl

variable {exts : List Extension} {b : Bytes}

lemma marshalExtensionBody_ok :
    marshalExtensionBody exts = .ok b ↔ Fits exts ∧ b = encodeExtensions exts := by
  induction exts generalizing b with
  | nil => simp [marshalExtensionBody, Fits, eq_comm]
  | cons e es ih =>
    simp only [marshalExtensionBody, bind_ok, reject_ok, pure_inj]
    constructor
    · rintro ⟨_, he, rest, hrest, rfl⟩
      obtain ⟨hfit, rfl⟩ := ih.mp hrest
      refine ⟨?_, rfl⟩
      intro x hx
      rcases List.mem_cons.mp hx with rfl | hx
      · omega
      · exact hfit x hx
    · rintro ⟨hfit, rfl⟩
      have he := hfit e (by simp)
      exact ⟨(), by omega, _, ih.mpr ⟨fun x hx => hfit x (by simp [hx]), rfl⟩, rfl⟩

lemma marshalExtensions_ok :
    marshalExtensions exts = .ok b ↔
      Fits exts ∧ (encodeExtensions exts).length ≤ 0xFFFF ∧
        b = be16 (encodeExtensions exts).length ++ encodeExtensions exts := by
  simp only [marshalExtensions, bind_ok, reject_ok, pure_inj,
    marshalExtensionBody_ok]
  constructor
  · rintro ⟨_, ⟨hfit, rfl⟩, _, hlen, rfl⟩
    exact ⟨hfit, by omega, rfl⟩
  · rintro ⟨hfit, hlen, rfl⟩
    exact ⟨_, ⟨hfit, rfl⟩, (), by omega, rfl⟩

lemma parseExtensionList_items :
    ReadsItems parseExtensionList Extension.encode (·.data.length ≤ 0xFFFF) where
  octets e := List.length_pos_iff.mp (by rw [encode_length]; omega)
  stop fuel := by cases fuel <;> rfl
  round he := by
    simp only [parseExtensionList, tagLength_encode _ he, List.length_append, List.drop_left',
      List.take_left', UInt16.ofNat_toNat]
    rw [reject_neg (by omega)]
    rfl
  taken hp h := by
    simp only [parseExtensionList] at h
    split at h
    · simp [bind_ok, hp] at h
    · rename_i t n r htag
      simp only [bind_ok, reject_ok, pure_inj] at h
      obtain ⟨_, hr, es, hes, rfl⟩ := h
      obtain ⟨rfl, ht, hn⟩ := tagLength_some htag
      have hlen : (r.take n).length = n := by simp; omega
      refine ⟨_, r.drop n, es, ?_, ?_, hes, rfl⟩
      · simp only [hlen]; omega
      · simp only [Extension.encode, hlen, toNat_ofNat16 t ht]
        simp

lemma parseExtensions_marshal (h : marshalExtensions exts = .ok b) (r : Bytes) :
    parseExtensions (b ++ r) = .ok (exts, b.length) := by
  obtain ⟨hfit, hlen, rfl⟩ := marshalExtensions_ok.mp h
  simp only [parseExtensions, List.append_assoc]
  rw [u16_be16 _ (by omega)]
  simp only [need_some, ok_bind, List.length_append]
  rw [reject_neg (by omega)]
  simp only [ok_bind, List.take_left']
  rw [encodeExtensions, parseExtensionList_items.written hfit (Nat.le_refl _)]
  simp

lemma parseExtensions_ok (h : parseExtensions b = .ok (exts, n)) :
    ∃ v, marshalExtensions exts = .ok v ∧ n = v.length ∧ b = v ++ b.drop n := by
  simp only [parseExtensions, bind_ok, need_ok, reject_ok, pure_inj,
    Prod.mk.injEq] at h
  obtain ⟨⟨vecLen, r⟩, hu, _, hr, es, hes, rfl, rfl⟩ := h
  dsimp only at hr hes
  obtain ⟨rfl, hv⟩ := u16_some hu
  obtain ⟨hfit, htake⟩ := parseExtensionList_items.items (List.length_take_le _ _) hes
  rw [← encodeExtensions] at htake
  have hlen : (encodeExtensions es).length = vecLen := by
    rw [← htake]; simp; omega
  refine ⟨_, marshalExtensions_ok.mpr ⟨hfit, by omega, rfl⟩, by simp [hlen], ?_⟩
  rw [hlen, ← htake]
  simp only [be16, List.cons_append, List.nil_append, List.drop_succ_cons, Nat.add_comm 2 vecLen]
  simp

end Pollux.Tls
