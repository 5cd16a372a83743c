import Mathlib.Data.Nat.Digits.Defs
import PolluxGM.Bytes

/-!
# Texts as octets

Decimal numbers and separators, as the printers and the parsers of Go's standard library treat
them. A text is the string of its octets.
-/
namespace Pollux.Text

def ascii (s : String) : Bytes := s.toList.map fun c => UInt8.ofNat c.toNat

def decimalDigit (d : Nat) : UInt8 := UInt8.ofNat (48 + d)

def decimal (n : Nat) : Bytes :=
  if n = 0 then [decimalDigit 0] else (Nat.digits 10 n).reverse.map decimalDigit

def decimalInt : Int → Bytes
  | .ofNat n => decimal n
  | .negSucc n => 45 :: decimal (n + 1)

def isDigit (c : UInt8) : Bool := 48 ≤ c.toNat && c.toNat ≤ 57

def digitsValue (s : Bytes) : Nat := s.foldl (fun n c => n * 10 + (c.toNat - 48)) 0

def parseUint (bits : Nat) (s : Bytes) : Option Nat :=
  if s = [] ∨ s.all isDigit = false ∨ 2 ^ bits ≤ digitsValue s then none else some (digitsValue s)

/-- `strconv.Atoi`: a sign may stand in front. -/
def atoi (s : Bytes) : Option Int :=
  match s with
  | 43 :: s => (parseUint 63 s).map Int.ofNat
  | 45 :: s => (if s = [] ∨ s.all isDigit = false ∨
    2 ^ 63 < digitsValue s then none else some (-(digitsValue s : Int)))
  | s => (parseUint 63 s).map Int.ofNat

lemma decimalDigit_toNat (hd : d < 10) : (decimalDigit d).toNat = 48 + d := by
  rw [decimalDigit, UInt8.toNat_ofNat']
  exact Nat.mod_eq_of_lt (by omega)

lemma isDigit_decimalDigit (hd : d < 10) : isDigit (decimalDigit d) = true := by
  rw [isDigit, decimalDigit_toNat hd, Bool.and_eq_true, decide_eq_true_eq, decide_eq_true_eq]
  omega

lemma decimal_ne_nil (n : Nat) : decimal n ≠ [] := by
  unfold decimal
  split
  · exact List.cons_ne_nil _ _
  next h => simpa using Nat.digits_ne_nil_iff_ne_zero.mpr h

lemma isDigit_of_mem_decimal (hc : c ∈ decimal n) : isDigit c = true := by
  unfold decimal at hc
  split at hc
  · rw [List.mem_singleton.mp hc]
    rfl
  · obtain ⟨d, hd, rfl⟩ := List.mem_map.mp hc
    exact isDigit_decimalDigit (Nat.digits_lt_base (by decide) (List.mem_reverse.mp hd))

lemma not_mem_decimal (hc : isDigit c = false) : c ∉ decimal n :=
  fun h => Bool.false_ne_true (hc.symm.trans (isDigit_of_mem_decimal h))

lemma foldl_digits (ds : List Nat) (hds : ∀ d ∈ ds, d < 10) (acc : Nat) :
    (ds.map decimalDigit).foldl (fun n c => n * 10 + (c.toNat - 48)) acc =
      ds.foldl (fun n d => n * 10 + d) acc := by
  induction ds generalizing acc with
  | nil => rfl
  | cons d ds ih =>
    obtain ⟨hd, hds⟩ := List.forall_mem_cons.mp hds
    rw [List.map_cons, List.foldl_cons, List.foldl_cons, decimalDigit_toNat hd,
      Nat.add_sub_cancel_left, ih hds]

lemma digitsValue_decimal (n : Nat) : digitsValue (decimal n) = n := by
  unfold decimal
  split
  next h => rw [h]; rfl
  next h =>
    have hlt : ∀ d ∈ (Nat.digits 10 n).reverse, d < 10 := fun d hd =>
      Nat.digits_lt_base (by decide) (List.mem_reverse.mp hd)
    rw [digitsValue, foldl_digits _ hlt, List.foldl_reverse]
    calc (Nat.digits 10 n).foldr (fun d n => n * 10 + d) 0
        = Nat.ofDigits 10 (Nat.digits 10 n) := by
          rw [Nat.ofDigits_eq_foldr]
          congr 1
          funext d n
          simp [Nat.mul_comm, Nat.add_comm]
      _ = n := Nat.ofDigits_digits 10 n

lemma all_isDigit_decimal (n : Nat) : (decimal n).all isDigit = true :=
  List.all_eq_true.mpr fun _ hc => isDigit_of_mem_decimal hc

lemma parseUint_decimal (hn : n < 2 ^ bits) : parseUint bits (decimal n) = some n := by
  rw [parseUint, digitsValue_decimal, if_neg]
  rintro (h | h | h)
  · exact decimal_ne_nil n h
  · rw [all_isDigit_decimal] at h
    cases h
  · exact Nat.not_le_of_lt hn h

lemma atoi_decimal (hn : n < 2 ^ 63) : atoi (decimal n) = some (n : Int) := by
  have hparse := parseUint_decimal hn
  have hplus : (43 : UInt8) ∉ decimal n := not_mem_decimal rfl
  have hminus : (45 : UInt8) ∉ decimal n := not_mem_decimal rfl
  unfold atoi
  split
  next heq => exact absurd (heq ▸ List.mem_cons_self) hplus
  next heq => exact absurd (heq ▸ List.mem_cons_self) hminus
  next => rw [hparse]; rfl

/-- What follows a given text: `strings.HasPrefix` and `strings.TrimPrefix`. -/
def after (lead s : Bytes) : Option Bytes :=
  if lead.isPrefixOf s then some (s.drop lead.length) else none

/-- What stands before and behind the first separator. -/
def cutByte (sep : UInt8) (s : Bytes) : Option (Bytes × Bytes) :=
  match s.dropWhile (· ≠ sep) with
  | [] => none
  | _ :: behind => some (s.takeWhile (· ≠ sep), behind)

lemma not_mem_append {s t : Bytes} (hs : c ∉ s) (ht : c ∉ t) : c ∉ s ++ t := fun h =>
  (List.mem_append.mp h).elim hs ht

lemma not_mem_intercalate (hsep : c ≠ sep) {parts : List Bytes}
    (hparts : ∀ part ∈ parts, c ∉ part) : c ∉ [sep].intercalate parts := by
  induction parts with
  | nil => exact List.not_mem_nil
  | cons part parts ih =>
    obtain ⟨hpart, hparts⟩ := List.forall_mem_cons.mp hparts
    cases parts with
    | nil => simpa [List.intercalate] using hpart
    | cons part' parts =>
      rw [List.intercalate_cons_cons]
      exact not_mem_append (not_mem_append hpart (by simpa using hsep)) (ih hparts)

lemma after_append (lead s : Bytes) : after lead (lead ++ s) = some s := by
  have hlead : lead.isPrefixOf (lead ++ s) = true :=
    List.isPrefixOf_iff_prefix.mpr (List.prefix_append lead s)
  rw [after, if_pos hlead, List.drop_left]

lemma cutByte_append (hbefore : sep ∉ before) (behind : Bytes) :
    cutByte sep (before ++ sep :: behind) = some (before, behind) := by
  have hkeep : ∀ c ∈ before, decide (c ≠ sep) = true := fun c hc =>
    decide_eq_true fun hsame => hbefore (hsame ▸ hc)
  have hstop : decide (sep ≠ sep) = false := decide_eq_false fun h => h rfl
  have hdrop : (before ++ sep :: behind).dropWhile (· ≠ sep) = sep :: behind := by
    rw [List.dropWhile_append_of_pos hkeep, List.dropWhile_cons, hstop]
    rfl
  have htake : (before ++ sep :: behind).takeWhile (· ≠ sep) = before := by
    rw [List.takeWhile_append_of_pos hkeep, List.takeWhile_cons, hstop]
    exact List.append_nil before
  rw [cutByte, hdrop, htake]

end Pollux.Text
