import PolluxGM.Base64

/-!
# PEM

`Decode` of `encoding/pem` on the lines of a text, without line ends and blanks in front of them.
`Decoder` says what is relied on: the input is cut into what was skipped, the lines of one block and
the rest.
-/
namespace Pollux.Pem

open Text Base64

abbrev Line := Bytes

structure Block where
  type : Bytes
  bytes : Bytes

structure Found where
  skipped : List Line
  own : List Line
  block : Block
  rest : List Line

def pemStart : Bytes := ascii "-----BEGIN "
def pemEnd : Bytes := ascii "-----END "
def pemEndOfLine : Bytes := ascii "-----"

def beginLine (type : Bytes) : Line := pemStart ++ (type ++ pemEndOfLine)

def endLine (type : Bytes) : Line := pemEnd ++ (type ++ pemEndOfLine)

def colon : UInt8 := 58

structure Decoder where
  find : List Line → Option Found
  split : ∀ {lines f}, find lines = some f → lines = f.skipped ++ (f.own ++ f.rest)
  opens : ∀ {lines f}, find lines = some f → ∃ tail, f.own = beginLine f.block.type :: tail ∧
    ∀ type, colon ∉ type → beginLine type ∉ tail

/-- `Decode`: the next block, or nil and the input. -/
def Decoder.decode (D : Decoder) (lines : List Line) : Option Block × List Line :=
  match D.find lines with
  | some f => (some f.block, f.rest)
  | none => (none, lines)

def Decoder.scan (D : Decoder) : Nat → List Line → List Found × List Line
  | 0, lines => ([], lines)
  | k + 1, lines =>
    match D.find lines with
    | none => ([], lines)
    | some f => (f :: (D.scan k f.rest).1, (D.scan k f.rest).2)

/-- No text has more blocks than lines. -/
def Decoder.found (D : Decoder) (lines : List Line) : List Found := (D.scan lines.length lines).1

def Decoder.remainder (D : Decoder) (lines : List Line) : List Line := (D.scan lines.length lines).2

variable {lines : List Line} {f : Found} {k : Nat}

section

variable {D : Decoder}

lemma Decoder.scan_none (h : D.find lines = none) (k : Nat) : D.scan k lines = ([], lines) := by
  cases k with
  | zero => rfl
  | succ k => rw [Decoder.scan, h]

lemma Decoder.scan_some (h : D.find lines = some f) (k : Nat) :
    D.scan (k + 1) lines = (f :: (D.scan k f.rest).1, (D.scan k f.rest).2) := by
  rw [Decoder.scan, h]

lemma Decoder.scan_split (k : Nat) (lines : List Line) :
    ((D.scan k lines).1.flatMap fun f => f.skipped ++ f.own) ++ (D.scan k lines).2 = lines := by
  induction k generalizing lines with
  | zero => rfl
  | succ k ih =>
    cases hf : D.find lines with
    | none => rw [D.scan_none hf, List.flatMap_nil, List.nil_append]
    | some f =>
      rw [D.scan_some hf, List.flatMap_cons, List.append_assoc, ih f.rest, List.append_assoc]
      exact (D.split hf).symm

/-- The text is what was skipped, the lines of the blocks, and the rest. -/
lemma Decoder.found_split (lines : List Line) :
    ((D.found lines).flatMap fun f => f.skipped ++ f.own) ++ D.remainder lines = lines :=
  D.scan_split _ _

lemma Decoder.scan_opens (k : Nat) (lines : List Line) : ∀ f ∈ (D.scan k lines).1,
    ∃ tail, f.own = beginLine f.block.type :: tail ∧ ∀ type, colon ∉ type →
      beginLine type ∉ tail := by
  induction k generalizing lines with
  | zero => simp [Decoder.scan]
  | succ k ih =>
    cases hf : D.find lines with
    | none => simp [D.scan_none hf]
    | some f =>
      rw [D.scan_some hf, List.forall_mem_cons]
      exact ⟨D.opens hf, ih f.rest⟩

end

variable {type : Bytes}

lemma beginLine_inj : beginLine type = beginLine type' ↔ type = type' := by
  rw [beginLine, beginLine, List.append_cancel_left_eq, List.append_cancel_right_eq]

def typeOf (line : Line) : Option Bytes :=
  if pemStart.isPrefixOf line && pemEndOfLine.isSuffixOf (line.drop pemStart.length) then
    some ((line.drop pemStart.length).take
      ((line.drop pemStart.length).length - pemEndOfLine.length))
  else none

def isHeader (line : Line) : Bool := line.contains colon

def isEnd (line : Line) : Bool := pemEnd.isPrefixOf line

/-- The lines before the first END line, that line, and the rest. -/
def cutAtEnd (headers : Bool) (lines : List Line) : List Line × List Line :=
  match headers, lines with
  | true, line :: lines =>
    (line :: lines.takeWhile fun l => !isEnd l, lines.dropWhile fun l => !isEnd l)
  | _, lines => (lines.takeWhile fun l => !isEnd l, lines.dropWhile fun l => !isEnd l)

def removeSpacesAndTabs (b : Bytes) : Bytes := b.filter fun c => !(c = 32 || c = 9)

/-- A block behind its headers: its lines, its contents and the rest. -/
def readBody (type : Bytes) (headers : Bool) (lines : List Line) :
    Option (List Line × Bytes × List Line) :=
  match cutAtEnd headers lines with
  | (body, last :: rest) =>
    if last = endLine type then (decodeStd (removeSpacesAndTabs body.flatten)).map fun bytes =>
      (body ++ [last], bytes, rest)
    else none
  | (_, []) => none

def Found.skip (front : List Line) (f : Found) : Found := { f with skipped := front ++ f.skipped }

def findBlock : Nat → List Line → Option Found
  | 0, _ => none
  | _, [] => none
  | k + 1, line :: lines =>
    match typeOf line with
    | none => (findBlock k lines).map (Found.skip [line])
    | some type =>
      let headers := lines.takeWhile isHeader
      let behind := lines.dropWhile isHeader
      match readBody type (headers ≠ []) behind with
      | some (own, bytes, rest) => some ⟨[], line :: (headers ++ own), ⟨type, bytes⟩, rest⟩
      | none => (findBlock k behind).map (Found.skip (line :: headers))

variable {line : Line}

lemma isHeader_iff : isHeader line = true ↔ colon ∈ line := List.contains_iff_mem

lemma typeOf_some (h : typeOf line = some type) : line = beginLine type := by
  simp only [typeOf, Bool.and_eq_true, Option.ite_none_right_eq_some, Option.some.injEq] at h
  obtain ⟨⟨hstart, hend⟩, rfl⟩ := h
  obtain ⟨t, rfl⟩ := List.isPrefixOf_iff_prefix.mp hstart
  rw [List.drop_left] at hend ⊢
  obtain ⟨type, rfl⟩ := List.isSuffixOf_iff_suffix.mp hend
  rw [List.length_append, Nat.add_sub_cancel, List.take_left, beginLine]

lemma cutAtEnd_append (headers : Bool) (lines : List Line) :
    (cutAtEnd headers lines).1 ++ (cutAtEnd headers lines).2 = lines := by
  unfold cutAtEnd
  split
  · rw [List.cons_append, List.takeWhile_append_dropWhile]
  · rw [List.takeWhile_append_dropWhile]

variable {bytes : Bytes}

lemma readBody_some (h : readBody type headers lines = some (own, bytes, rest)) :
    lines = own ++ rest ∧ ∃ body, own = body ++ [endLine type] ∧
      decodeStd (removeSpacesAndTabs body.flatten) = some bytes := by
  have happend := cutAtEnd_append headers lines
  unfold readBody at h
  split at h
  next body last after hcut =>
    rw [hcut] at happend
    simp only [Option.ite_none_right_eq_some, Option.map_eq_some_iff, Prod.mk.injEq] at h
    obtain ⟨rfl, bytes', hdecode, rfl, rfl, rfl⟩ := h
    refine ⟨?_, body, rfl, hdecode⟩
    rw [← happend, List.append_assoc, List.singleton_append]
  next => cases h

/-- The octets of base64 have no dash, so a body has no BEGIN line. -/
lemma beginLine_not_mem_body {body : List Line}
    (h : decodeStd (removeSpacesAndTabs body.flatten) = some bytes) (type : Bytes) :
    beginLine type ∉ body := by
  intro hmem
  have hdash : (45 : UInt8) ∈ removeSpacesAndTabs body.flatten :=
    List.mem_filter.mpr ⟨List.mem_flatten.mpr ⟨_, hmem, List.mem_cons_self⟩, rfl⟩
  exact absurd (value_of_decodeStd h 45 hdash) (by decide)

lemma beginLine_ne_endLine (type type' : Bytes) : beginLine type ≠ endLine type' := by
  intro h
  have hsixth : (66 : UInt8) = 69 := congrArg (fun line : Line => line.getD 5 0) h
  exact absurd hsixth (by decide)

lemma colon_not_mem_beginLine (h : colon ∉ type) : colon ∉ beginLine type := by
  rw [beginLine, List.mem_append, List.mem_append, not_or, not_or]
  exact ⟨by decide, h, by decide⟩

lemma findBlock_split (h : findBlock k lines = some f) :
    lines = f.skipped ++ (f.own ++ f.rest) := by
  induction k generalizing lines f with
  | zero => cases h
  | succ k ih =>
    cases lines with
    | nil => cases h
    | cons line lines =>
      rw [findBlock] at h
      split at h
      · obtain ⟨g, hg, rfl⟩ := Option.map_eq_some_iff.mp h
        rw [ih hg]
        rfl
      next type htype =>
        have hheaders := List.takeWhile_append_dropWhile (p := isHeader) (l := lines)
        dsimp only at h
        split at h
        next own bytes rest hbody =>
          obtain rfl := Option.some.inj h
          obtain ⟨hsplit, -⟩ := readBody_some hbody
          rw [List.nil_append, List.cons_append, List.append_assoc, ← hsplit, hheaders]
        next =>
          obtain ⟨g, hg, rfl⟩ := Option.map_eq_some_iff.mp h
          have hrest := ih hg
          rw [Found.skip, List.append_assoc, ← hrest, List.cons_append, hheaders]

lemma findBlock_opens (h : findBlock k lines = some f) :
    ∃ tail, f.own = beginLine f.block.type :: tail ∧ ∀ type, colon ∉ type →
      beginLine type ∉ tail := by
  induction k generalizing lines f with
  | zero => cases h
  | succ k ih =>
    cases lines with
    | nil => cases h
    | cons line lines =>
      rw [findBlock] at h
      split at h
      · obtain ⟨g, hg, rfl⟩ := Option.map_eq_some_iff.mp h
        obtain ⟨tail, hown, hother⟩ := ih hg
        exact ⟨tail, hown, hother⟩
      next type htype =>
        dsimp only at h
        split at h
        next own bytes rest hbody =>
          obtain rfl := Option.some.inj h
          obtain ⟨-, body, rfl, hdecode⟩ := readBody_some hbody
          refine ⟨lines.takeWhile isHeader ++ (body ++ [endLine type]),
            by rw [typeOf_some htype], ?_⟩
          intro other hcolon
          rw [List.mem_append, List.mem_append, List.mem_singleton]
          rintro (hheader | hbegin | hend)
          · exact colon_not_mem_beginLine hcolon (isHeader_iff.mp (List.mem_takeWhile_imp hheader))
          · exact beginLine_not_mem_body hdecode other hbegin
          · exact beginLine_ne_endLine other type hend
        next =>
          obtain ⟨g, hg, rfl⟩ := Option.map_eq_some_iff.mp h
          obtain ⟨tail, hown, hother⟩ := ih hg
          exact ⟨tail, hown, hother⟩

def decoder : Decoder where
  find lines := findBlock lines.length lines
  split := findBlock_split
  opens := findBlock_opens

end Pollux.Pem
