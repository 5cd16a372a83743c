import PolluxGM.Pem
import PolluxGM.Smx509

/-!
# Loading certificate chains

`LoadKeyPairPEM` of `load.go`. The blocks are collected with `pem.Decode`, which skips what
it cannot decode in front of a block; only what is left behind the last block is searched
for another BEGIN line.
-/
namespace Pollux.CertLoad

open Text Pem Smx509

def pemTypeCertificate : Bytes := ascii "CERTIFICATE"

def marker : Line := beginLine pemTypeCertificate

def errInvalidPEM : Err := .text "cert: failed to decode PEM block"

/-- The key parser and the certificate parsers of the two backends. A key is its public key; none
is nil. -/
structure Parsers where
  parsePrivateKeyFromPEM : Bytes → Except Err PublicKey
  smParse : Bytes → Except Err Certificate
  stdParse : Bytes → Except Err Certificate
  typeName : PublicKey → String

structure KeyPair where
  chain : List Bytes
  key : PublicKey

def trimBlanks (line : Bytes) : Bytes := (line.reverse.dropWhile fun c => c = 32 || c = 9).reverse

def dropReturn (line : Bytes) : Bytes := if line.getLast? = some 13 then line.dropLast else line

/-- A carriage return belongs to the line end behind it. -/
def linesOf (text : Bytes) : List Line :=
  let parts := text.splitOn 10
  parts.dropLast.map (trimBlanks ∘ dropReturn) ++ parts.getLast?.toList.map trimBlanks

/-- `bytes.Contains`: the marker lies within a line. -/
def containsMarker (lines : List Line) : Bool :=
  lines.any fun line => line.tails.any marker.isPrefixOf

def collect (D : Decoder) : Nat → List Bytes → Bool → List Line → List Bytes × Bool × List Line
  | 0, chain, anyPEMBlock, rest => (chain, anyPEMBlock, rest)
  | k + 1, chain, anyPEMBlock, rest =>
    match D.decode rest with
    | (none, rest) => (chain, anyPEMBlock, rest)
    | (some block, rest) =>
      if block.type ≠ pemTypeCertificate then collect D k chain true rest
      else collect D k (chain ++ [block.bytes]) true rest

def validatePrivateKeyMatchesLeaf (P : Parsers) (key : PublicKey) (leaf : Certificate) :
    Except Err Unit :=
  match leaf.publicKey with
  | .ecdsa sm2 point =>
    reject (.ecdsa sm2 point ≠ key)
      (.text "cert: private key does not match leaf certificate's public key")
  | key =>
    let name := P.typeName key
    .error (.text s!"cert: leaf certificate public key is {name}, not ECDSA (SM2)")

def loadKeyPairPEM (D : Decoder) (P : Parsers) (certPEM keyPEM : Bytes) : Except Err KeyPair :=
  let lines := linesOf certPEM
  match collect D lines.length [] false lines with
  | ([], anyPEMBlock, _) =>
    if anyPEMBlock then
      .error (.text "cert: PEM input contains no CERTIFICATE-typed block (got non-CERTIFICATE PEM blocks only)")
    else .error errInvalidPEM
  | (leafDER :: others, _, rest) => do
    reject (containsMarker rest = true)
      (.text "cert: malformed CERTIFICATE PEM block remains after chain (truncated END line or corrupt base64)")
    let key ← (P.parsePrivateKeyFromPEM keyPEM).mapError (.wrap "cert: parse private key: ")
    let leaf ← (parseCertificate P.smParse P.stdParse leafDER).mapError
      (.wrap "cert: parse leaf certificate for key match check: ")
    validatePrivateKeyMatchesLeaf P key leaf
    return ⟨leafDER :: others, key⟩

def entry (f : Found) : Option Bytes :=
  if f.block.type = pemTypeCertificate then some f.block.bytes else none

/-- For each BEGIN line up to the end of a block, the contents it opens. -/
def beginsUpTo (f : Found) : List (Option Bytes) :=
  List.replicate (f.skipped.count marker) none ++ (entry f).toList.map some

/-- For each certificate BEGIN line, in order, the contents it opens. -/
def begins (D : Decoder) (lines : List Line) : List (Option Bytes) :=
  (D.found lines).flatMap beginsUpTo ++ List.replicate ((D.remainder lines).count marker) none

variable {D : Decoder}

lemma count_own
    (h : ∃ tail, f.own = beginLine f.block.type :: tail ∧ ∀ type, colon ∉ type →
      beginLine type ∉ tail) : f.own.count marker = (entry f).toList.length := by
  obtain ⟨tail, hown, htail⟩ := h
  have hnone : tail.count marker = 0 :=
    List.count_eq_zero.mpr (htail pemTypeCertificate (by decide))
  rw [hown, List.count_cons, hnone, entry]
  by_cases htype : f.block.type = pemTypeCertificate
  · rw [if_pos htype, htype]
    simp [marker]
  · have hne : ¬ beginLine f.block.type = marker := fun h => htype (beginLine_inj.mp h)
    simp [htype, hne]

lemma begins_length (lines : List Line) : (begins D lines).length = lines.count marker := by
  have hupTo : ∀ f ∈ D.found lines, (beginsUpTo f).length = (f.skipped ++ f.own).count marker := by
    intro f hf
    rw [beginsUpTo, List.length_append, List.length_replicate, List.length_map, List.count_append,
      count_own (D.scan_opens _ _ f hf)]
  conv_rhs => rw [← D.found_split lines]
  rw [begins, List.length_append, List.length_replicate, List.count_append, List.length_flatMap,
    List.count_flatMap, List.map_congr_left hupTo]
  rfl

lemma collect_eq (k : Nat) (chain : List Bytes) (anyPEMBlock : Bool) (lines : List Line) :
    collect D k chain anyPEMBlock lines =
      (chain ++ (D.scan k lines).1.filterMap entry, anyPEMBlock || !(D.scan k lines).1.isEmpty,
        (D.scan k lines).2) := by
  induction k generalizing chain anyPEMBlock lines with
  | zero => simp [collect, Decoder.scan]
  | succ k ih =>
    cases hf : D.find lines with
    | none => simp [collect, Decoder.decode, hf, D.scan_none hf]
    | some f =>
      by_cases htype : f.block.type = pemTypeCertificate
      · simp [collect, Decoder.decode, hf, D.scan_some hf, htype, ih, entry]
      · simp [collect, Decoder.decode, hf, D.scan_some hf, htype, ih, entry]

/-- A loaded chain is the certificate blocks in order, and no certificate begins behind them. -/
lemma loadKeyPairPEM_ok
    (h : loadKeyPairPEM D P certPEM keyPEM = .ok pair) :
    pair.chain = (D.found (linesOf certPEM)).filterMap entry ∧
      marker ∉ D.remainder (linesOf certPEM) := by
  unfold loadKeyPairPEM at h
  dsimp only at h
  rw [collect_eq, List.nil_append] at h
  split at h
  · split at h <;> cases h
  next leafDER others _ rest hcollect =>
    obtain ⟨hchain, -, hrest⟩ : _ ∧ _ ∧ _ := by simpa only [Prod.mk.injEq] using hcollect
    simp only [bind_ok, reject_ok, pure_inj] at h
    obtain ⟨-, hmarker, -, -, -, -, -, -, rfl⟩ := h
    refine ⟨hchain.symm, ?_⟩
    intro hmem
    apply hmarker
    rw [← hrest, containsMarker, List.any_eq_true]
    exact ⟨marker, hmem, by decide⟩

lemma flatMap_entry (found : List Found) :
    found.flatMap (fun f => (entry f).toList.map some) = (found.filterMap entry).map some := by
  induction found with
  | nil => rfl
  | cons f found ih => cases h : entry f <;> simp [h, ih]

lemma begins_eq_iff (hremainder : marker ∉ D.remainder lines) :
    begins D lines = ((D.found lines).filterMap entry).map some ↔ ∀ f ∈ D.found lines,
      marker ∉ f.skipped := by
  have hbegins : begins D lines = (D.found lines).flatMap beginsUpTo := by
    rw [begins, List.count_eq_zero.mpr hremainder, List.replicate_zero, List.append_nil]
  constructor
  · intro heq f hf hskipped
    -- a skipped line would be an item that opens nothing
    have hnone : none ∈ begins D lines := by
      rw [hbegins, List.mem_flatMap]
      have hpos : f.skipped.count marker ≠ 0 := fun h => List.count_eq_zero.mp h hskipped
      exact ⟨f, hf, List.mem_append_left _ (List.mem_replicate.mpr ⟨hpos, rfl⟩)⟩
    rw [heq] at hnone
    simp at hnone
  · intro hskipped
    have hupTo : ∀ f ∈ D.found lines, beginsUpTo f = (entry f).toList.map some := by
      intro f hf
      rw [beginsUpTo, List.count_eq_zero.mpr (hskipped f hf), List.replicate_zero, List.nil_append]
    rw [hbegins, List.flatMap_congr hupTo, flatMap_entry]

/-- A loaded chain has one entry, in order, for each line that begins a certificate exactly if no
such line was skipped in front of a block. -/
theorem loaded_chain_complete_iff (D : Decoder) (P : Parsers) (certPEM keyPEM : Bytes)
    (pair : KeyPair) (h : loadKeyPairPEM D P certPEM keyPEM = .ok pair) :
    (begins D (linesOf certPEM) = pair.chain.map some ↔ ∀ f ∈ D.found (linesOf certPEM),
      marker ∉ f.skipped) ∧
      (begins D (linesOf certPEM)).length = (linesOf certPEM).count marker := by
  obtain ⟨hchain, hremainder⟩ := loadKeyPairPEM_ok h
  rw [hchain]
  exact ⟨begins_eq_iff hremainder, begins_length _⟩

def sampleParsers : Parsers where
  parsePrivateKeyFromPEM _ := .ok (.ecdsa true [1])
  smParse der := .ok ⟨der, 1, [], [], [], [], .ecdsa true [1], [], 0, 0, [], []⟩
  stdParse _ := .error (.text "")
  typeName _ := ""

def pemBlock (label data : String) : Bytes :=
  ascii s!"-----BEGIN {label}-----\n{data}\n-----END {label}-----\n"

/-- Two certificates with another block between them. -/
def chainPEM : Bytes :=
  pemBlock "CERTIFICATE" "AAAA" ++ pemBlock "EC PARAMETERS" "AAAA" ++ pemBlock "CERTIFICATE" "BBBB"

def corruptPEM : Bytes := pemBlock "CERTIFICATE" "A!AA" ++ pemBlock "CERTIFICATE" "AAAA"

theorem loaded_chain_complete_iff_sample :
    begins decoder (linesOf chainPEM) = [some [0, 0, 0], some [4, 16, 65]] :=
  (loaded_chain_complete_iff decoder sampleParsers chainPEM [] ⟨[[0, 0, 0], [4, 16, 65]],
    .ecdsa true [1]⟩ (by rfl)).1.mpr (by decide +kernel)

/-- The first of two certificates is dropped. -/
theorem corrupt_block_dropped :
    (loadKeyPairPEM decoder sampleParsers corruptPEM []).map KeyPair.chain = .ok [[0, 0, 0]] ∧
      (linesOf corruptPEM).count marker = 2 := by
  decide +kernel

end Pollux.CertLoad
