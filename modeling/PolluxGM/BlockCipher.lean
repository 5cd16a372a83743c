import Mathlib.Data.FinEnum
import Mathlib.Data.Fintype.Vector
import Mathlib.Data.Fintype.EquivFin
import PolluxGM.Counter

/-!
# Block ciphers and their modes

A mode cuts a text into pieces and carries a register from piece to piece. `Inverts` says that the
decrypting step gives a piece back and moves the register like the encrypting step.
-/
namespace Pollux.Modes

structure BlockCipher (n : Nat) where
  encrypt : Bytes → Bytes
  decrypt : Bytes → Bytes
  encrypt_length : ∀ {b}, b.length = n → (encrypt b).length = n
  decrypt_length : ∀ {b}, b.length = n → (decrypt b).length = n
  decrypt_encrypt : ∀ {b}, b.length = n → decrypt (encrypt b) = b

variable {n : Nat} (c : BlockCipher n)

abbrev Block (n : Nat) := List.Vector UInt8 n

def BlockCipher.encryptBlock (b : Block n) : Block n := ⟨c.encrypt b.1, c.encrypt_length b.2⟩

lemma BlockCipher.encryptBlock_injective : Function.Injective c.encryptBlock := by
  intro a b h
  have hval : c.encrypt a.1 = c.encrypt b.1 := congrArg Subtype.val h
  apply Subtype.ext
  rw [← c.decrypt_encrypt a.2, hval, c.decrypt_encrypt b.2]

variable {b : Bytes}

lemma BlockCipher.encrypt_decrypt (hb : b.length = n) : c.encrypt (c.decrypt b) = b := by
  obtain ⟨a, ha⟩ := Finite.surjective_of_injective c.encryptBlock_injective ⟨b, hb⟩
  have hval : c.encrypt a.1 = b := congrArg Subtype.val ha
  rw [← hval, c.decrypt_encrypt a.2]

def pieces (n : Nat) : Nat → Bytes → List Bytes
  | 0, _ => []
  | k + 1, b => b.take n :: pieces n k (b.drop n)

def rounds (n len : Nat) : Nat := (len + n - 1) / n

def cut (n : Nat) (b : Bytes) : List Bytes := pieces n (rounds n b.length) b

lemma rounds_zero (hn : 0 < n) : rounds n 0 = 0 := Nat.div_eq_of_lt (by omega)

lemma rounds_pos (hn : 0 < n) (hlen : 0 < len) : rounds n len = rounds n (len - n) + 1 := by
  unfold rounds
  by_cases h : n ≤ len
  · have heq : len + n - 1 = (len - n + n - 1) + n := by omega
    rw [heq, Nat.add_div_right _ hn]
  · have hzero : len - n = 0 := by omega
    rw [hzero, Nat.zero_add, Nat.div_eq_of_lt (show n - 1 < n by omega)]
    exact Nat.div_eq_of_lt_le (by omega) (by omega)

lemma cut_nil (hn : 0 < n) : cut n [] = [] := by
  rw [cut, List.length_nil, rounds_zero hn, pieces]

lemma cut_step (hn : 0 < n) (hb : b ≠ []) : cut n b = b.take n :: cut n (b.drop n) := by
  rw [cut, rounds_pos hn (List.length_pos_iff.mpr hb), pieces, cut, List.length_drop]

lemma cut_induction (hn : 0 < n) {motive : Bytes → Prop} (nil : motive [])
    (step : ∀ b, b ≠ [] → motive (b.drop n) → motive b) (b : Bytes) : motive b := by
  generalize hlen : b.length = len
  induction len using Nat.strong_induction_on generalizing b with
  | _ len ih =>
    by_cases hb : b = []
    · rw [hb]
      exact nil
    · have hpos := List.length_pos_iff.mpr hb
      exact step b hb (ih _ (by rw [List.length_drop]; omega) _ rfl)

lemma flatten_cut (hn : 0 < n) (b : Bytes) : (cut n b).flatten = b := by
  induction b using cut_induction hn with
  | nil => rw [cut_nil hn, List.flatten_nil]
  | step b hb ih => rw [cut_step hn hb, List.flatten_cons, ih, List.take_append_drop]

lemma length_le_of_mem_cut (hn : 0 < n) (b : Bytes) : ∀ p ∈ cut n b, p.length ≤ n := by
  induction b using cut_induction hn with
  | nil => simp [cut_nil hn]
  | step b hb ih =>
    rw [cut_step hn hb, List.forall_mem_cons]
    exact ⟨List.length_take_le n b, ih⟩

lemma length_of_mem_cut (hn : 0 < n) (b : Bytes) (hb : b.length % n = 0) :
    ∀ p ∈ cut n b, p.length = n := by
  induction b using cut_induction hn with
  | nil => simp [cut_nil hn]
  | step b hne ih =>
    have hlen := Nat.le_of_dvd (List.length_pos_iff.mpr hne) (Nat.dvd_of_mod_eq_zero hb)
    rw [cut_step hn hne, List.forall_mem_cons]
    refine ⟨by rw [List.length_take, Nat.min_eq_left hlen], ih ?_⟩
    rw [List.length_drop, ← Nat.mod_eq_sub_mod hlen, hb]

variable {ps : List Bytes}

lemma cut_flatten (hn : 0 < n) (b : Bytes) (h : ps.map List.length = (cut n b).map List.length) :
    cut n ps.flatten = ps := by
  induction b using cut_induction hn generalizing ps with
  | nil =>
    rw [cut_nil hn, List.map_nil, List.map_eq_nil_iff] at h
    rw [h, List.flatten_nil, cut_nil hn]
  | step b hb ih =>
    rw [cut_step hn hb] at h
    cases ps with
    | nil => cases h
    | cons p ps =>
      obtain ⟨hp, hps⟩ := List.cons.inj h
      rw [List.length_take] at hp
      have hpos := List.length_pos_iff.mpr hb
      have hne : (p :: ps).flatten ≠ [] := by
        rw [List.flatten_cons, ← List.length_pos_iff, List.length_append]
        omega
      have hrest : ps.flatten.length = b.length - n := by
        rw [List.length_flatten, hps, ← List.length_flatten, flatten_cut hn, List.length_drop]
      rw [cut_step hn hne, List.flatten_cons]
      -- a piece shorter than a block has nothing behind it
      by_cases hfull : p.length = n
      · rw [List.take_left' hfull, List.drop_left' hfull, ih hps]
      · have hempty : ps.flatten = [] := List.eq_nil_of_length_eq_zero (by omega)
        have hps' := ih hps
        rw [hempty] at hps' ⊢
        rw [List.append_nil, List.take_of_length_le (by omega), List.drop_of_length_le (by omega),
          hps']

lemma cut_blocks (hn : 0 < n) (h : ∀ p ∈ ps, p.length = n) : cut n ps.flatten = ps := by
  induction ps with
  | nil => rw [List.flatten_nil, cut_nil hn]
  | cons p ps ih =>
    obtain ⟨hp, hps⟩ := List.forall_mem_cons.mp h
    have hne : p ++ ps.flatten ≠ [] := by
      rw [← List.length_pos_iff, List.length_append]
      omega
    rw [List.flatten_cons, cut_step hn hne, List.take_left' hp, List.drop_left' hp, ih hps]

lemma cut_eq_range (hn : 0 < n) (b : Bytes) :
    cut n b = (List.range (rounds n b.length)).map fun k => (b.drop (n * k)).take n := by
  induction b using cut_induction hn with
  | nil => rw [cut_nil hn, List.length_nil, rounds_zero hn, List.range_zero, List.map_nil]
  | step b hb ih =>
    rw [cut_step hn hb, ih, rounds_pos hn (List.length_pos_iff.mpr hb), List.range_succ_eq_map,
      List.map_cons, List.map_map, List.length_drop]
    simp [Function.comp_def, Nat.mul_succ, Nat.add_comm]

section

variable {σ : Type}

def chain (f : σ → Bytes → Bytes × σ) : σ → List Bytes → List Bytes
  | _, [] => []
  | s, p :: ps => (f s p).1 :: chain f (f s p).2 ps

def run (n : Nat) (f : σ → Bytes → Bytes × σ) (s : σ) (b : Bytes) : Bytes :=
  (chain f s (cut n b)).flatten

structure Inverts (I : σ → Prop) (Piece : Bytes → Prop) (f g : σ → Bytes → Bytes × σ) : Prop where
  length : ∀ {s p}, I s → Piece p → (f s p).1.length = p.length
  keeps : ∀ {s p}, I s → Piece p → I (f s p).2
  undo : ∀ {s p}, I s → Piece p → g s (f s p).1 = (p, (f s p).2)

variable {I : σ → Prop} {Piece : Bytes → Prop} {f g : σ → Bytes → Bytes × σ}

lemma Inverts.chain_lengths (h : Inverts I Piece f g) (hs : I s) (hps : ∀ p ∈ ps, Piece p) :
    (chain f s ps).map List.length = ps.map List.length := by
  induction ps generalizing s with
  | nil => rfl
  | cons p ps ih =>
    obtain ⟨hp, hps⟩ := List.forall_mem_cons.mp hps
    rw [chain, List.map_cons, List.map_cons, h.length hs hp, ih (h.keeps hs hp) hps]

lemma Inverts.chain_undo (h : Inverts I Piece f g) (hs : I s) (hps : ∀ p ∈ ps, Piece p) :
    chain g s (chain f s ps) = ps := by
  induction ps generalizing s with
  | nil => rfl
  | cons p ps ih =>
    obtain ⟨hp, hps⟩ := List.forall_mem_cons.mp hps
    rw [chain, chain, h.undo hs hp, ih (h.keeps hs hp) hps]

lemma Inverts.run_undo (h : Inverts I Piece f g) (hn : 0 < n) (hs : I s)
    (hb : ∀ p ∈ cut n b, Piece p) :
    run n g s (run n f s b) = b := by
  rw [run, run, cut_flatten hn b (h.chain_lengths hs hb), h.chain_undo hs hb, flatten_cut hn]

lemma Inverts.run_length (h : Inverts I Piece f g) (hn : 0 < n) (hs : I s)
    (hb : ∀ p ∈ cut n b, Piece p) :
    (run n f s b).length = b.length := by
  rw [run, List.length_flatten, h.chain_lengths hs hb, ← List.length_flatten, flatten_cut hn]

end

def xor (a b : Bytes) : Bytes := List.zipWith (· ^^^ ·) a b

lemma xor_length (a b : Bytes) : (xor a b).length = min a.length b.length := List.length_zipWith

variable {a : Bytes}

/-- What is left of a longer keystream is not used. -/
lemma xor_xor (h : a.length ≤ b.length) : xor (xor a b) b = a := by
  induction a generalizing b with
  | nil => rfl
  | cons x a ih =>
    cases b with
    | nil => cases h
    | cons y b =>
      change (x ^^^ y ^^^ y) :: xor (xor a b) b = x :: a
      rw [ih (Nat.le_of_succ_le_succ h), (xor_xor_eq_iff x y y).mpr rfl]

lemma xor_block (ha : a.length = n) (hb : b.length = n) : (xor a b).length = n := by
  rw [xor_length, ha, hb, Nat.min_self]

def ecbStep (f : Bytes → Bytes) (_ : Unit) (p : Bytes) : Bytes × Unit := (f p, ())

def cbcEncryptStep (register p : Bytes) : Bytes × Bytes :=
  let x := c.encrypt (xor p register)
  (x, x)

def cbcDecryptStep (register p : Bytes) : Bytes × Bytes := (xor (c.decrypt p) register, p)

/-- The counter is one number of a whole block, and it wraps. -/
def ctrStep (counter p : Bytes) : Bytes × Bytes :=
  (xor p (c.encrypt counter), (Pollux.carry counter.reverse).1.reverse)

/-- A shorter piece is shifted in from the front. -/
def cfbEncryptStep (register p : Bytes) : Bytes × Bytes :=
  let x := xor p (c.encrypt register)
  (x, x ++ register.drop x.length)

def cfbDecryptStep (register p : Bytes) : Bytes × Bytes :=
  (xor p (c.encrypt register), p ++ register.drop p.length)

lemma ecb_inverts :
    Inverts (fun _ => True) (·.length = n) (ecbStep c.encrypt) (ecbStep c.decrypt) where
  length _ hp := by rw [ecbStep, c.encrypt_length hp, hp]
  keeps _ _ := trivial
  undo _ hp := by rw [ecbStep, ecbStep, c.decrypt_encrypt hp]

lemma cbc_inverts :
    Inverts (·.length = n) (·.length = n) (cbcEncryptStep c) (cbcDecryptStep c) where
  length hs hp := by rw [cbcEncryptStep, c.encrypt_length (xor_block hp hs), hp]
  keeps hs hp := by rw [cbcEncryptStep, c.encrypt_length (xor_block hp hs)]
  undo hs hp := by
    rw [cbcEncryptStep, cbcDecryptStep, c.decrypt_encrypt (xor_block hp hs),
      xor_xor (Nat.le_of_eq (hp.trans hs.symm))]

lemma ctr_inverts : Inverts (·.length = n) (·.length ≤ n) (ctrStep c) (ctrStep c) where
  length hs hp := by rw [ctrStep, xor_length, c.encrypt_length hs, Nat.min_eq_left hp]
  keeps hs _ := by
    rw [ctrStep, List.length_reverse, Pollux.carry_length, List.length_reverse, hs]
  undo hs hp := by rw [ctrStep, ctrStep, xor_xor (by rw [c.encrypt_length hs]; exact hp)]

lemma cfb_inverts :
    Inverts (·.length = n) (·.length ≤ n) (cfbEncryptStep c) (cfbDecryptStep c) where
  length hs hp := by rw [cfbEncryptStep, xor_length, c.encrypt_length hs, Nat.min_eq_left hp]
  keeps hs hp := by
    rw [cfbEncryptStep, List.length_append, List.length_drop, xor_length, c.encrypt_length hs,
      Nat.min_eq_left hp]
    omega
  undo hs hp := by
    rw [cfbEncryptStep, cfbDecryptStep, xor_xor (by rw [c.encrypt_length hs]; exact hp)]

end Pollux.Modes
