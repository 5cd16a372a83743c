import PolluxGM.TlcpRecord

/-!
# Sequence numbers and nonces

One direction of a connection over any calls; the caller may go on after an error. Each sealed
record is noted with its activation and the sequence number it used.
-/
namespace Pollux.TlcpNonce

open Tlcp

structure Header where
  bytes : Bytes
  length_eq : bytes.length = recordHeaderLen

inductive Call where
  | prepare (version : UInt16) (spec : CipherSpec)
  | change
  | encrypt (header : Header) (payload : Bytes)

inductive Answer where
  | prepared
  | changed (r : Except Err Unit)
  | encrypted (r : Except Err Bytes)

/-- The state is the half-connection with the random source beside it. -/
def Call.step (P : RecordPrims) : Call → HalfConn × Bytes → Answer × (HalfConn × Bytes)
  | .prepare version spec, s => (.prepared, s.1.prepareCipherSpec version spec, s.2)
  | .change, s =>
    let r := HalfConn.changeCipherSpec s.1
    (.changed r.1, r.2, s.2)
  | .encrypt header payload, s =>
    let r := HalfConn.encrypt P header.bytes payload s
    (.encrypted r.1, r.2)

structure Use where
  activation : Nat
  spec : CipherSpec
  seq : Counter 8
  record : Bytes

/-- `overflowed`: `incSeq` has reported an overflow since the last activation; `late`: a record
was sealed after that. -/
structure History where
  activation : Nat
  overflowed : Bool
  late : Bool
  uses : List Use

def History.start : History := ⟨0, false, false, []⟩

def History.activated (h : History) : History :=
  { h with activation := h.activation + 1, overflowed := false }

def History.used (h : History) (spec : CipherSpec) (seq : Counter 8) (record : Bytes) : History :=
  { h with late := h.late || h.overflowed, uses := h.uses ++ [⟨h.activation, spec, seq, record⟩] }

/-- An `encrypt` that fails with the counter moved has overflowed. -/
def note : Call → HalfConn × Bytes → Answer × (HalfConn × Bytes) → History → History
  | .change, _, (.changed (.ok _), _), h => h.activated
  | .encrypt _ _, before, (.encrypted (.ok record), _), h =>
    match before.1.current with
    | none => h
    | some spec => h.used spec before.1.seq record
  | .encrypt _ _, before, (.encrypted (.error _), after), h =>
    { h with overflowed := h.overflowed || after.1.seq != before.1.seq }
  | _, _, _, h => h

def explicitNonce (record : Bytes) : Bytes :=
  (record.drop recordHeaderLen).take (aeadNonceLength - noncePrefixLength)

def Use.gcm (u : Use) : Bool :=
  match u.spec with
  | .aead _ _ => true
  | .cbc _ _ => false

def Distinct (uses : List Use) : Prop :=
  uses.Pairwise fun u v => u.activation = v.activation → u.seq ≠ v.seq

/-- No two GCM records of one activation share an explicit nonce. -/
def DistinctNonces (uses : List Use) : Prop :=
  uses.Pairwise fun u v => u.activation = v.activation → u.gcm = true → v.gcm = true →
    explicitNonce u.record ≠ explicitNonce v.record

variable {P : RecordPrims} {seq : Counter 8}

lemma seal_nonce {header : Header}
    (h : (CipherSpec.aead key implicitPrefix).seal P seq.bytes iv header.bytes payload = .ok full) :
    explicitNonce full = seq.bytes := by
  cases h
  have hhead (n : Nat) : (withLength header.bytes n).length = recordHeaderLen := by
    simp [withLength, header.length_eq, recordHeaderLen]
  have hseq : aeadNonceLength - noncePrefixLength = seq.bytes.length := seq.length_eq.symm
  rw [explicitNonce, List.append_assoc, List.drop_left' (hhead _), hseq, List.take_left]

/-- The numbers of the current activation, in terms of the counter. -/
structure Numbered (seq : Counter 8) (h : History) : Prop where
  past : ∀ u ∈ h.uses, u.activation ≤ h.activation
  below : h.overflowed = false → ∀ u ∈ h.uses, u.activation = h.activation → u.seq.value < seq.value
  all : ∀ n, n < (if h.overflowed then 256 ^ 8 - 1 else seq.value) →
    ∃ u ∈ h.uses, u.activation = h.activation ∧ u.seq.value = n
  nonces : ∀ u ∈ h.uses, u.gcm = true → explicitNonce u.record = u.seq.bytes
  late : h.late = false ↔ Distinct h.uses

lemma numbered_start : Numbered (Counter.zero 8) History.start where
  past := by intro u hu; cases hu
  below := by intro _ u hu; cases hu
  all := by
    intro n hn
    simp [History.start] at hn
  nonces := by intro u hu; cases hu
  late := by simp [History.start, Distinct]

variable {h : History}

lemma Numbered.activated (hn : Numbered seq h) :
    Numbered (Counter.zero 8) h.activated where
  past := by
    intro u hu
    have := hn.past u hu
    simp only [History.activated]
    omega
  below := by
    intro _ u hu hact
    have := hn.past u hu
    simp only [History.activated] at hact
    omega
  all := by
    intro n hlt
    simp [History.activated] at hlt
  nonces := hn.nonces
  late := hn.late

lemma distinct_append :
    Distinct (uses ++ [u]) ↔ Distinct uses ∧ ∀ v ∈ uses, v.activation = u.activation →
      v.seq ≠ u.seq := by
  simp [Distinct, List.pairwise_append]

/-- A sealed record repeats a number exactly if an overflow was reported before it. -/
lemma Numbered.used (hn : Numbered seq h) (hlast : seq.next.2 = false)
    (hnonce : ∀ key iv, spec = .aead key iv → explicitNonce record = seq.bytes) :
    Numbered seq.next.1 (h.used spec seq record) := by
  have hnext := Counter.next_value hlast
  have hmax := seq.next.1.value_lt
  refine ⟨?_, ?_, ?_, ?_, ?_⟩
  · intro u hu
    rcases List.mem_append.mp hu with hu | hu
    · exact hn.past u hu
    · obtain rfl := List.mem_singleton.mp hu
      exact Nat.le_refl _
  · intro hover u hu hact
    rcases List.mem_append.mp hu with hu | hu
    · have := hn.below hover u hu hact
      omega
    · obtain rfl := List.mem_singleton.mp hu
      change seq.value < _
      omega
  · intro n hlt
    by_cases hnew : n < if h.overflowed then 256 ^ 8 - 1 else seq.value
    · obtain ⟨u, hu, hact, hval⟩ := hn.all n hnew
      exact ⟨u, List.mem_append_left _ hu, hact, hval⟩
    · refine ⟨_, List.mem_append_right _ (List.mem_singleton_self _), rfl, ?_⟩
      simp only [History.used] at hlt
      change seq.value = n
      cases hover : h.overflowed <;>
        simp only [hover, if_true, if_false, Bool.false_eq_true] at hlt hnew <;> omega
  · intro u hu hgcm
    rcases List.mem_append.mp hu with hu | hu
    · exact hn.nonces u hu hgcm
    · obtain rfl := List.mem_singleton.mp hu
      cases spec with
      | aead key implicitPrefix => exact hnonce key implicitPrefix rfl
      | cbc key macKey => cases hgcm
  · change (h.late || h.overflowed) = false ↔ Distinct (h.uses ++ [_])
    rw [distinct_append, Bool.or_eq_false_iff, hn.late]
    apply and_congr_right
    intro _
    constructor
    · intro hover v hv hact hseq
      have := hn.below hover v hv hact
      rw [hseq] at this
      exact Nat.lt_irrefl _ this
    · intro hfresh
      by_contra hover
      rw [Bool.not_eq_false] at hover
      obtain ⟨v, hv, hact, hval⟩ := hn.all seq.value (by rw [hover, if_pos rfl]; omega)
      exact hfresh v hv hact (Counter.value_inj hval)

lemma Numbered.overflow (hn : Numbered seq h) (hlast : seq.next.2 = true) :
    Numbered seq.next.1 { h with overflowed := true } where
  past := hn.past
  below := by intro hover; cases hover
  all := by
    intro n hlt
    apply hn.all n
    have hmax := (Counter.next_overflow hlast).2
    cases hover : h.overflowed
    · simp only [if_true, if_false, Bool.false_eq_true] at hlt ⊢
      omega
    · exact hlt
  nonces := hn.nonces
  late := hn.late

variable {s : HalfConn × Bytes}

lemma Numbered.encrypt (hn : Numbered s.1.seq h) (header : Header) (payload : Bytes) :
    Numbered (Call.step P (.encrypt header payload) s).2.1.seq
      (note (.encrypt header payload) s (Call.step P (.encrypt header payload) s) h) := by
  have hpaths := encrypt_spec P header.bytes payload s
  rw [Call.step]
  generalize HalfConn.encrypt P header.bytes payload s = r at hpaths
  cases hpaths with
  | plain hcur => simpa [note, hcur] using hn
  | failed hcur => simpa [note] using hn
  | @overflow spec rand hcur hlast =>
    have hmoved := bne_iff_ne.mpr (Counter.overflow_moves hlast)
    simpa [note, hmoved] using hn.overflow hlast
  | @sealed spec iv full rand hcur hseal hlast =>
    simp only [note, hcur]
    apply hn.used hlast
    rintro key implicitPrefix rfl
    exact seal_nonce hseal

lemma Numbered.step (hn : Numbered s.1.seq h) (c : Call) :
    Numbered (Call.step P c s).2.1.seq (note c s (Call.step P c s) h) := by
  cases c with
  | prepare version spec => exact ⟨hn.past, hn.below, hn.all, hn.nonces, hn.late⟩
  | encrypt header payload => exact hn.encrypt header payload
  | change =>
    rw [Call.step]
    cases hnext : s.1.next with
    | none =>
      rw [changeCipherSpec_none hnext]
      exact hn
    | some spec =>
      have hchange : HalfConn.changeCipherSpec s.1 = (.ok (), _) :=
        changeCipherSpec_eq_ok.mpr ⟨spec, hnext, rfl⟩
      rw [hchange]
      exact hn.activated

lemma Numbered.distinctNonces (hn : Numbered seq h) (hd : Distinct h.uses) :
    DistinctNonces h.uses := by
  refine List.Pairwise.imp_of_mem ?_ hd
  intro u v hu hv huv hact hgu hgv hsame
  rw [hn.nonces u hu hgu, hn.nonces v hv hgv] at hsame
  exact huv hact (Counter.ext_bytes hsame)

variable {allowed : Call → (HalfConn × Bytes) × History → Prop} {rand : Bytes}
  {log : List (Call × Answer)} {x : (HalfConn × Bytes) × History}

lemma run_numbered
    (h : Run (watched (Call.step P) note) allowed ((HalfConn.fresh, rand), History.start) log x) :
    Numbered x.1.1.seq x.2 :=
  h.stateInvariant (I := fun x => Numbered x.1.1.seq x.2) numbered_start fun _ c hn _ => hn.step c

lemma distinct_iff_not_late
    (h : Run (watched (Call.step P) note) allowed ((HalfConn.fresh, rand), History.start) log x) :
    Distinct x.2.uses ↔ x.2.late = false :=
  (run_numbered h).late.symm

/-- After an overflow nothing more is sealed until another spec is activated. -/
def Stops : Call → (HalfConn × Bytes) × History → Prop
  | .encrypt _ _, x => x.2.overflowed = false
  | _, _ => True

instance Stops.decidable : ∀ (c : Call) (x : (HalfConn × Bytes) × History), Decidable (Stops c x)
  | .prepare _ _, _ => isTrue trivial
  | .change, _ => isTrue trivial
  | .encrypt _ _, x => inferInstanceAs (Decidable (x.2.overflowed = false))

lemma note_late (hstop : Stops c x) : (note c x.1 (Call.step P c x.1) x.2).late = x.2.late := by
  cases c with
  | prepare version spec => rfl
  | change =>
    simp only [Call.step]
    cases (HalfConn.changeCipherSpec x.1.1).1 <;> rfl
  | encrypt header payload =>
    simp only [Call.step]
    have hover : x.2.overflowed = false := hstop
    cases (HalfConn.encrypt P header.bytes payload x.1).1 with
    | error e => rfl
    | ok record =>
      simp only [note]
      cases x.1.1.current with
      | none => rfl
      | some spec => simp [History.used, hover]

/-- In a run that stops at each overflow no sequence number, and so no explicit nonce, serves two
records of one activation. -/
theorem sequence_numbers_distinct (P : RecordPrims) {rand : Bytes} {log : List (Call × Answer)}
    {x : (HalfConn × Bytes) × History}
    (h : Run (watched (Call.step P) note) Stops ((HalfConn.fresh, rand), History.start) log x) :
    Distinct x.2.uses ∧ DistinctNonces x.2.uses := by
  have hlate : x.2.late = false := by
    apply h.stateInvariant (I := fun x => x.2.late = false) rfl
    intro x c hx hstop
    exact (note_late hstop).trans hx
  have hdistinct := (distinct_iff_not_late h).mpr hlate
  exact ⟨hdistinct, (run_numbered h).distinctNonces hdistinct⟩

def sampleHeader : Header := ⟨[23, 1, 1, 0, 1], rfl⟩

theorem sequence_numbers_distinct_sample :
    let calls := [Call.prepare 0 sampleSpec, .change, .encrypt sampleHeader [1],
      .encrypt sampleHeader [2]]
    let x := (exec (watched (Call.step toyRecordPrims) note) calls ((HalfConn.fresh, []),
      History.start)).2
    x.2.uses.map (fun u => u.seq.value) = [0, 1] ∧ Distinct x.2.uses ∧ DistinctNonces x.2.uses := by
  intro calls x
  have hstops : AllAllowed (watched (Call.step toyRecordPrims) note) Stops calls
      ((HalfConn.fresh, []), History.start) := by decide +kernel
  exact ⟨by decide +kernel, sequence_numbers_distinct toyRecordPrims (exec_run hstops)⟩

/-- Each number is used in turn, and the report of the overflow changes nothing about that. -/
lemma sealing_run (n : Nat) : ∃ log x,
    Run (watched (Call.step toyRecordPrims) note) (fun _ _ => True)
      ((HalfConn.fresh, []), History.start) log x ∧
      x.1.1.current = some sampleSpec ∧ x.1.1.seq.value = n % 256 ^ 8 ∧
        (256 ^ 8 ≤ n → x.2.overflowed = true) := by
  induction n with
  | zero =>
    have hallowed : AllAllowed (watched (Call.step toyRecordPrims) note) (fun _ _ => True)
        [Call.prepare 0 sampleSpec, .change] ((HalfConn.fresh, []), History.start) :=
          allAllowed_true _ _
    refine ⟨_, _, exec_run hallowed, rfl, Counter.zero_value 8, ?_⟩
    omega
  | succ n ih =>
    obtain ⟨log, x, hrun, hcur, hseq, hover⟩ := ih
    have hpaths := encrypt_spec toyRecordPrims sampleHeader.bytes [1] x.1
    have hvalue : x.1.1.seq.next.1.value = (n + 1) % 256 ^ 8 := by
      rw [Counter.next_value_mod, hseq]
      omega
    refine ⟨_, _, hrun.call (Call.encrypt sampleHeader [1]) trivial, ?_⟩
    simp only [watched, Call.step]
    generalize HalfConn.encrypt toyRecordPrims sampleHeader.bytes [1] x.1 = r at hpaths
    cases hpaths with
    | plain hnone => cases hnone.symm.trans hcur
    | failed hcbc => cases hcbc.symm.trans hcur
    | overflow hspec hlast =>
      refine ⟨hcur, hvalue, fun _ => ?_⟩
      have hmoved := bne_iff_ne.mpr (Counter.overflow_moves hlast)
      simp [note, hmoved]
    | sealed hspec hseal hlast =>
      refine ⟨hcur, hvalue, fun hn => ?_⟩
      have hnext := Counter.next_value hlast
      have hovered := hover (by omega)
      simp [note, hcur, History.used, hovered]

/-- After the overflow the next record is sealed under a nonce that has been used. -/
theorem sequence_number_reused : ∃ log x,
    Run (watched (Call.step toyRecordPrims) note) (fun _ _ => True)
      ((HalfConn.fresh, []), History.start) log x ∧ ¬ Distinct x.2.uses := by
  obtain ⟨log, x, hrun, hcur, hseq, hover⟩ := sealing_run (256 ^ 8)
  have hpaths := encrypt_spec toyRecordPrims sampleHeader.bytes [2] x.1
  have hnext := hrun.call (Call.encrypt sampleHeader [2]) trivial
  refine ⟨_, _, hnext, ?_⟩
  rw [distinct_iff_not_late hnext, Bool.not_eq_false]
  have hroom : x.1.1.seq.next.2 = false := Counter.next_of_lt (by rw [hseq]; omega)
  simp only [watched, Call.step]
  generalize HalfConn.encrypt toyRecordPrims sampleHeader.bytes [2] x.1 = r at hpaths
  cases hpaths with
  | plain hnone => cases hnone.symm.trans hcur
  | failed hcbc => cases hcbc.symm.trans hcur
  | overflow hspec hlast => cases hroom.symm.trans hlast
  | sealed hspec hseal hlast => simp [note, hcur, History.used, hover (Nat.le_refl _)]

end Pollux.TlcpNonce
