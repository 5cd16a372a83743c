import PolluxGM.TlcpConn

/-!
# Reading TLCP records

`readRecord` from any state, and when `Read` reports the end of the stream. A ChangeCipherSpec uses
the staged spec up, so at most one is passed over, and the first record after it decides.
-/
namespace Pollux.Tlcp

variable {P : RecordPrims}

variable {raw : RawRecord} {c c' : Conn} {e : Err} {a rest : List Arrival} {size : Nat}

namespace Conn

/-- Where reading stands once a ChangeCipherSpec that is due has been applied. -/
def pastCCS (c : Conn) : Conn :=
  match onTransport readRawRecord c with
  | (.ok raw, c') =>
    if raw.typ = .changeCipherSpec then
      match applyCCS raw c' with
      | (.ok (), c'') => c''
      | (.error _, _) => c
    else c
  | (.error _, _) => c

lemma applyCCS_ok (h : applyCCS raw c = (.ok u, c')) :
    raw.body = [1] ∧ ∃ spec, c.inHalf.next = some spec ∧
      c' = { c with inHalf := { c.inHalf with
        current := some spec, next := none, seq := Counter.zero 8 },
                    reads := c.reads ++ [.changed spec] } := by
  simp only [applyCCS, onIn, bind_eq_ok, refuse_eq_ok, on_eq_ok, changeCipherSpec_eq_ok, ask_eq_ok,
    update_eq_ok, Classical.not_not] at h
  obtain ⟨_, _, ⟨hbody, rfl⟩, _, _, ⟨_, ⟨spec, hspec, rfl⟩, rfl⟩, _, _, ⟨rfl, rfl⟩, rfl⟩ := h
  exact ⟨hbody, spec, hspec, rfl⟩

lemma applyCCS_unstaged (raw : RawRecord) (h : c.inHalf.next = none) :
    ∃ message, applyCCS raw c = (.error (.text message), c) := by
  unfold applyCCS
  by_cases hbody : raw.body ≠ [1]
  · exact ⟨_, bind_of_error (refuse_pos hbody _ c) _⟩
  · rw [bind_of_ok (refuse_neg hbody _ c)]
    have hchange : onIn HalfConn.changeCipherSpec c =
        (.error (.text "tlcp: changeCipherSpec without prepareCipherSpec"), c) := by
      unfold onIn Cmd.on
      rw [changeCipherSpec_none h]
    exact ⟨_, bind_of_error hchange _⟩

lemma applyCCS_error (h : applyCCS raw c = (.error e, c')) :
    c' = c ∧ ∃ message, e = .text message := by
  by_cases hbody : raw.body ≠ [1]
  · rw [applyCCS, bind_of_error (refuse_pos hbody _ c)] at h
    cases h
    exact ⟨rfl, _, rfl⟩
  · cases hnext : c.inHalf.next with
    | none =>
      obtain ⟨message, hun⟩ := applyCCS_unstaged raw hnext
      rw [hun] at h
      cases h
      exact ⟨rfl, _, rfl⟩
    | some spec =>
      rw [applyCCS, bind_of_ok (refuse_neg hbody _ c)] at h
      have hchange : onIn HalfConn.changeCipherSpec c = (.ok (), { c with inHalf :=
          { c.inHalf with current := some spec, next := none, seq := Counter.zero 8 } }) := by
        simp only [onIn, on_eq_ok, changeCipherSpec_eq_ok]
        exact ⟨_, ⟨spec, hnext, rfl⟩, rfl⟩
      rw [bind_of_ok hchange] at h
      cases congrArg Prod.fst h

/-- Only the staged spec is activated and the transport moved. -/
lemma pastCCS_cases (c : Conn) : c.pastCCS = c ∨ ∃ raw rest spec,
    readRawRecord c.incoming = (.ok raw, rest) ∧ raw.typ = .changeCipherSpec ∧ raw.body = [1] ∧
      c.inHalf.next = some spec ∧
      c.pastCCS = { c with incoming := rest,
                           inHalf := { c.inHalf with
                             current := some spec, next := none, seq := Counter.zero 8 },
                           reads := c.reads ++ [.changed spec] } := by
  unfold pastCCS
  split
  · rename_i raw c' hraw
    simp only [onTransport, on_eq_ok] at hraw
    obtain ⟨rest, hraw, rfl⟩ := hraw
    split
    · rename_i htyp
      split
      · rename_i c'' happly
        obtain ⟨hbody, spec, hspec, rfl⟩ := applyCCS_ok happly
        exact .inr ⟨raw, rest, spec, hraw, htyp, hbody, hspec, rfl⟩
      · exact .inl rfl
    · exact .inl rfl
  · exact .inl rfl

lemma pastCCS_refuses (h : onTransport readRawRecord c.pastCCS = (.ok raw, c'))
    (htyp : raw.typ = .changeCipherSpec) :
    ∃ message, applyCCS raw c' = (.error (.text message), c') := by
  rcases pastCCS_cases c with heq | ⟨_, _, _, _, _, _, _, heq⟩
  · rw [heq] at h
    unfold pastCCS at heq
    rw [h] at heq
    dsimp only at heq
    rw [if_pos htyp] at heq
    generalize happly : applyCCS raw c' = r at heq ⊢
    obtain ⟨e | _, c''⟩ := r
    · obtain ⟨rfl, message, rfl⟩ := applyCCS_error happly
      exact ⟨message, rfl⟩
    · -- An applied ChangeCipherSpec is in the history, so the state has moved.
      obtain ⟨_, spec, _, rfl⟩ := applyCCS_ok happly
      simp only [onTransport, on_eq_ok] at h
      obtain ⟨rest, _, rfl⟩ := h
      have hreads := congrArg Conn.reads heq
      simp at hreads
  · rw [heq] at h
    simp only [onTransport, on_eq_ok] at h
    obtain ⟨rest, _, rfl⟩ := h
    exact applyCCS_unstaged raw rfl

lemma readRecord_eq (P : RecordPrims) (c : Conn) : readRecord P c = readRecords P 1 c.pastCCS := by
  have hone : ∀ d c' : Conn, ∀ raw n, onTransport readRawRecord d = (.ok raw, c') →
      readRecords P (n + 1) d = (if raw.typ = .changeCipherSpec then
        (applyCCS raw >>= fun _ => readRecords P n) else openRecord P raw) c' := by
    intro d c' raw n hraw
    rw [readRecords, bind_of_ok hraw]
  unfold readRecord
  generalize hraw : onTransport readRawRecord c = r
  obtain ⟨e | raw, c'⟩ := r
  · have hpast : c.pastCCS = c := by rw [pastCCS, hraw]
    rw [hpast, readRecords, readRecords, bind_of_error hraw, bind_of_error hraw]
  rw [hone c c' raw 1 hraw]
  by_cases htyp : raw.typ = .changeCipherSpec
  · rw [if_pos htyp]
    generalize happly : applyCCS raw c' = r
    obtain ⟨e | _, c''⟩ := r
    · have hpast : c.pastCCS = c := by
        rw [pastCCS, hraw]
        dsimp only
        rw [if_pos htyp, happly]
      rw [hpast, hone c c' raw 0 hraw, if_pos htyp, bind_of_error happly, bind_of_error happly]
    · have hpast : c.pastCCS = c'' := by
        rw [pastCCS, hraw]
        dsimp only
        rw [if_pos htyp, happly]
      rw [hpast, bind_of_ok happly]
  · have hpast : c.pastCCS = c := by
      rw [pastCCS, hraw]
      dsimp only
      rw [if_neg htyp]
    rw [hpast, hone c c' raw 0 hraw, if_neg htyp, if_neg htyp]

/-- The paths of `readRecord` past a ChangeCipherSpec that was due. -/
inductive RecordRead (P : RecordPrims) (d : Conn) :
    Except Err (Bytes × RecordType) × Conn → Prop where
  | transport {e : Err} {rest : List Arrival} (hraw : readRawRecord d.incoming = (.error e, rest)) :
      RecordRead P d (.error e, { d with incoming := rest })
  | refused {raw : RawRecord} {rest : List Arrival} {message : String}
    (hraw : readRawRecord d.incoming = (.ok raw, rest))
      (htyp : raw.typ = .changeCipherSpec) :
        RecordRead P d (.error (.text message), { d with incoming := rest })
  | undecryptable {raw : RawRecord} {rest : List Arrival} {message : String} {hc : HalfConn}
      (hraw : readRawRecord d.incoming = (.ok raw, rest)) (htyp : raw.typ ≠ .changeCipherSpec)
      (hopen : HalfConn.decrypt P (raw.header ++ raw.body) d.inHalf =
        (.error (.text message), hc)) :
      RecordRead P d (.error (.text message), { d with incoming := rest, inHalf := hc })
  | alert {raw : RawRecord} {rest : List Arrival} {payload : Bytes} {code : UInt8} {hc : HalfConn}
      (hraw : readRawRecord d.incoming = (.ok raw, rest)) (htyp : raw.typ = .alert)
      (hopen : HalfConn.decrypt P (raw.header ++ raw.body) d.inHalf = (.ok (payload, code), hc)) :
      RecordRead P d (.error (alertOf payload), { d with incoming := rest, inHalf := hc,
                                                         reads := d.reads ++
                                                           [.record .alert payload d.inHalf.current]
                                                             })
  | record {raw : RawRecord} {rest : List Arrival} {payload : Bytes} {code : UInt8} {hc : HalfConn}
      (hraw : readRawRecord d.incoming = (.ok raw, rest)) (hccs : raw.typ ≠ .changeCipherSpec)
        (halert : raw.typ ≠ .alert)
      (hopen : HalfConn.decrypt P (raw.header ++ raw.body) d.inHalf = (.ok (payload, code), hc)) :
      RecordRead P d (.ok (payload, raw.typ), { d with incoming := rest, inHalf := hc,
                                                       reads := d.reads ++
                                                         [.record raw.typ payload d.inHalf.current]
                                                           })

lemma decrypt_error (h : HalfConn.decrypt P record hc = (.error e, hc')) :
    ∃ message, e = .text message := by
  have hspec := decrypt_spec P record hc
  rw [h] at hspec
  cases hspec <;> exact ⟨_, rfl⟩

lemma readRecord_spec (P : RecordPrims) (c : Conn) : RecordRead P c.pastCCS (readRecord P c) := by
  rw [readRecord_eq]
  have hrefuses := fun raw c' => @pastCCS_refuses raw c c'
  generalize c.pastCCS = d at hrefuses ⊢
  generalize hraw : readRawRecord d.incoming = r
  have htransport : onTransport readRawRecord d = (r.1, { d with incoming := r.2 }) := by
    rw [← hraw]
    rfl
  obtain ⟨e | raw, rest⟩ := r
  · rw [readRecords, bind_of_error htransport]
    exact .transport hraw
  rw [readRecords, bind_of_ok htransport]
  by_cases htyp : raw.typ = .changeCipherSpec
  · obtain ⟨message, happly⟩ := hrefuses _ _ htransport htyp
    rw [if_pos htyp, bind_of_error happly]
    exact .refused hraw htyp
  rw [if_neg htyp]
  unfold openRecord
  rw [ask_bind]
  generalize hopen : HalfConn.decrypt P (raw.header ++ raw.body) d.inHalf = q
  have hin : onIn (HalfConn.decrypt P (raw.header ++ raw.body)) { d with incoming := rest } =
      (q.1, { d with incoming := rest, inHalf := q.2 }) := by
    rw [← hopen]
    rfl
  obtain ⟨e | ⟨payload, code⟩, hc⟩ := q
  · obtain ⟨message, rfl⟩ := decrypt_error hopen
    rw [bind_of_error hin]
    exact .undecryptable hraw htyp hopen
  rw [bind_of_ok hin, noteRead, update_bind]
  by_cases halert : raw.typ = .alert
  · rw [if_pos halert, fail_apply, halert]
    exact .alert hraw halert hopen
  · rw [if_neg halert, pure_apply]
    exact .record hraw htyp halert hopen

/-- What the next record can end the stream with. -/
inductive Ending where
  | transport
  | emptyData
  | notify (under : Option CipherSpec)
  deriving DecidableEq

def isCloseNotify : Bytes → Bool
  | [_, desc] => desc = alertCloseNotify
  | _ => false

def ending (P : RecordPrims) (d : Conn) : Option Ending :=
  match readRawRecord d.incoming with
  | (.error e, _) => if e = .eof then some .transport else none
  | (.ok raw, _) =>
    match raw.typ, (HalfConn.decrypt P (raw.header ++ raw.body) d.inHalf).1 with
    | .applicationData, .ok (payload, _) => if payload = [] then some .emptyData else none
    | .alert, .ok (payload, _) => if isCloseNotify payload then some (.notify d.inHalf.current)
      else none
    | _, _ => none

/-- A close_notify alert that was decrypted under a cipher spec. -/
def closesStream : ReadEvent → Bool
  | .record .alert payload (some _) => isCloseNotify payload
  | _ => false

def Notified (c : Conn) : Prop := ∃ e ∈ c.reads, closesStream e = true

instance (c : Conn) : Decidable (Notified c) :=
  inferInstanceAs (Decidable (∃ e ∈ c.reads, closesStream e = true))

lemma shortRead_asAlert (got : Bytes) (e : NetErr) : (shortRead got e).asAlert = none := by
  cases e with
  | eof => by_cases hgot : got = [] <;> simp [shortRead, hgot, Err.asAlert]
  | other text => rfl

lemma readFullFrom_error (h : readFullFrom n got a = (.error e, rest)) :
    ∃ got' f, e = shortRead got' f := by
  induction a generalizing got with
  | nil =>
    unfold readFullFrom at h
    split at h
    · cases h
    · cases h
      exact ⟨_, _, rfl⟩
  | cons arrival a ih =>
    cases arrival with
    | bytes b =>
      unfold readFullFrom at h
      split at h
      · cases h
      · exact ih h
    | fault f =>
      unfold readFullFrom at h
      split at h
      · cases h
      · cases h
        exact ⟨_, _, rfl⟩

lemma readRawRecord_error (h : readRawRecord a = (.error e, rest)) : e.asAlert = none := by
  suffices htriple : Triple readRawRecord a (fun _ _ => True) fun e _ =>
    e.asAlert = none from htriple.error h
  have hread : ∀ n a, Triple (readFull n) a (fun _ _ => True) fun e _ => e.asAlert = none := by
    intro n a
    refine .intro (fun _ _ _ => trivial) fun e rest h => ?_
    obtain ⟨got, f, rfl⟩ := readFullFrom_error h
    exact shortRead_asAlert got f
  unfold readRawRecord
  refine (hread _ _).bind fun header a _ => ?_
  dsimp only
  cases RecordType.ofCode (header.headD 0) with
  | none => exact Triple.fail rfl
  | some typ =>
    refine Triple.bind (Triple.refuse (R := fun _ _ => True) (fun _ => trivial) fun _ =>
      rfl) fun _ a _ => ?_
    refine Triple.bind (Triple.refuse (R := fun _ _ => True) (fun _ => trivial) fun _ =>
      rfl) fun _ a _ => ?_
    exact (hread _ _).bind fun _ _ _ => Triple.pure trivial

lemma readError_of_none (h : e.asAlert = none) : readError e = e := by
  rw [readError, h]

lemma readError_alertOf (payload : Bytes) :
    readError (alertOf payload) = .eof ↔ isCloseNotify payload = true := by
  unfold alertOf isCloseNotify
  split
  · simp only [readError, Err.asAlert, decide_eq_true_eq]
    split <;> simp_all
  · simp [readError, Err.asAlert]

lemma readData_eq (hinput : c.input = []) (size : Nat) :
    readData P size c = match readRecord P c with
      | (.error e, c') => (.error (readError e), c')
      | (.ok (payload, typ), c') =>
        if typ = .applicationData then readInput size { c' with input := c'.input ++ payload }
        else (.error (.text s!"tlcp: unexpected record type {typ.code.toNat} after handshake"),
          c') := by
  rw [readData, ask_bind, if_neg (fun h => h hinput)]
  generalize hr : readRecord P c = r
  obtain ⟨e | ⟨payload, typ⟩, c'⟩ := r
  · have hmap : Cmd.mapError readError (readRecord P) c = (.error (readError e), c') := by
      rw [Cmd.mapError, hr]
    rw [bind_of_error hmap]
  · have hmap : Cmd.mapError readError (readRecord P) c = (.ok (payload, typ), c') := by
      rw [Cmd.mapError, hr]
    rw [bind_of_ok hmap]
    dsimp only
    by_cases htyp : typ = .applicationData
    · rw [if_pos htyp, if_pos htyp, update_bind]
    · rw [if_neg htyp, if_neg htyp, fail_apply]

lemma readInput_snd (size : Nat) (c : Conn) : (readInput size c).2.reads = c.reads := rfl

lemma readInput_eof (hsize : 0 < size) (c : Conn) :
    (readInput size c).1 = .error .eof ↔ c.input = [] := by
  unfold readInput Cmd.on bufferRead
  by_cases h : c.input = []
  · simp [h, Nat.ne_of_gt hsize]
  · simp [h]

lemma pastCCS_input (c : Conn) : c.pastCCS.input = c.input := by
  rcases pastCCS_cases c with h | ⟨_, _, _, _, _, _, _, h⟩
  · rw [h]
  · rw [h]

lemma notified_append {e : ReadEvent} (h : c.reads = d.reads ++ [e]) :
    Notified c ↔ Notified d ∨ closesStream e = true := by
  simp [Notified, h, or_and_right, exists_or]

lemma pastCCS_notified (c : Conn) : Notified c.pastCCS ↔ Notified c := by
  rcases pastCCS_cases c with h | ⟨_, _, _, _, _, _, _, h⟩
  · rw [h]
  · rw [h, notified_append rfl]
    simp [closesStream]

/-- With nothing buffered, `Read` reports the end exactly when the next record is one of the
endings. -/
lemma readData_ending (hinput : c.input = []) (hsize : 0 < size) :
    ((readData P size c).1 = .error .eof ↔ (ending P c.pastCCS).isSome = true) ∧
      (Notified (readData P size c).2 ↔
        Notified c ∨ ∃ spec, ending P c.pastCCS = some (.notify (some spec))) := by
  have hspec := readRecord_spec P c
  have hd : c.pastCCS.input = [] := (pastCCS_input c).trans hinput
  rw [readData_eq hinput, ← pastCCS_notified c]
  generalize c.pastCCS = d at hspec hd ⊢
  generalize readRecord P c = r at hspec ⊢
  cases hspec with
  | @transport e rest hraw =>
    have halert := readRawRecord_error hraw
    simp only [readError_of_none halert, ending, hraw]
    refine ⟨?_, ?_⟩
    · by_cases heof : e = .eof <;> simp [heof]
    · by_cases heof : e = .eof <;> simp [heof, Notified]
  | refused hraw htyp => simp [readError, Err.asAlert, ending, hraw, htyp, Notified]
  | undecryptable hraw htyp hopen =>
    rename_i raw rest message hc
    cases htyp' : raw.typ <;> simp [readError, Err.asAlert, ending, hraw, htyp', hopen, Notified]
  | @alert raw rest payload code hc hraw htyp hopen =>
    refine ⟨?_, ?_⟩
    · dsimp only
      rw [Except.error.injEq, readError_alertOf]
      by_cases hclose : isCloseNotify payload = true <;> simp [ending, hraw, htyp, hopen, hclose]
    · rw [notified_append rfl]
      cases hunder : d.inHalf.current <;>
        by_cases hclose : isCloseNotify payload = true <;>
          simp [ending, closesStream, hraw, htyp, hopen, hclose, hunder]
  | @record raw rest payload code hc hraw hccs halert hopen =>
    by_cases htyp : raw.typ = .applicationData
    · dsimp only
      rw [if_pos htyp, readInput_eof hsize]
      refine ⟨?_, ?_⟩
      · by_cases hempty : payload = [] <;> simp [ending, hraw, htyp, hopen, hempty, hd]
      · rw [notified_append (readInput_snd _ _), htyp]
        by_cases hempty : payload = [] <;> simp [ending, closesStream, hraw, htyp, hopen, hempty]
    · have hhand : raw.typ = .handshake := by
        cases hcase : raw.typ <;> simp_all
      dsimp only
      rw [if_neg htyp]
      refine ⟨by simp [ending, hraw, hhand], ?_⟩
      rw [notified_append rfl, hhand]
      simp [ending, closesStream, hraw, hhand]

/-- `Read` reports the end of the stream for an authenticated close_notify only, unless the next
record is one of the other endings: the transport stops where a record or its body would begin, an
application data record is empty, or a close_notify comes in plaintext. -/
theorem eof_only_on_close_notify (P : RecordPrims) (handshake : Cmd Err Conn Unit) {c : Conn}
    (hdone : c.handshakeStatus = true) {size : Nat} (hsize : 0 < size) :
    ((read P handshake size c).1 = .error .eof → Notified (read P handshake size c).2) ↔
      Notified c ∨ c.input ≠ [] ∨ ending P c.pastCCS = none ∨
        ∃ spec, ending P c.pastCCS = some (.notify (some spec)) := by
  have hread : read P handshake size c = readData P size c := by
    rw [read, ask_bind, if_pos hdone]
  rw [hread]
  by_cases hinput : c.input = []
  · obtain ⟨heof, hnotified⟩ := readData_ending (P := P) hinput hsize
    rw [heof, hnotified]
    cases hending : ending P c.pastCCS with
    | none => simp
    | some how => simp [hinput]
  · have hdata : readData P size c = readInput size c := by
      rw [readData, ask_bind, if_pos hinput]
    rw [hdata, readInput_eof hsize]
    simp [hinput]

def established (incoming : List Arrival) : Conn :=
  { newTLCPConn true incoming [] [] with
    handshakeStatus := true
    vers := versionTLCP
    haveVers := true
    inHalf := ⟨versionTLCP, some sampleSpec, none, Counter.zero 8⟩
    outHalf := ⟨versionTLCP, some sampleSpec, none, Counter.zero 8⟩ }

def firstRecord (typ : RecordType) (payload : Bytes) : List Arrival :=
  match (sealRecord toyRecordPrims typ payload (established [])).1 with
  | .ok record => [.bytes record]
  | .error _ => []

theorem eof_only_on_close_notify_sample :
    let c := established (firstRecord .alert [alertLevelWarning, alertCloseNotify])
    (read toyRecordPrims (Cmd.fail .eof) 8 c).1 = .error .eof ∧
      Notified (read toyRecordPrims (Cmd.fail .eof) 8 c).2 := by
  intro c
  have heof : (read toyRecordPrims (Cmd.fail .eof) 8 c).1 = .error .eof := by decide +kernel
  have hending : ending toyRecordPrims c.pastCCS = some (.notify (some sampleSpec)) := by
    decide +kernel
  exact ⟨heof, (eof_only_on_close_notify toyRecordPrims (Cmd.fail .eof) rfl (by decide)).mpr
    (.inr (.inr (.inr ⟨sampleSpec, hending⟩))) heof⟩

/-- A closed transport and an empty application data record both read as the end of the stream. -/
theorem truncation_reads_as_eof :
    let cut := established []
    let empty := established (firstRecord .applicationData [])
    ((read toyRecordPrims (Cmd.fail .eof) 8 cut).1 = .error .eof ∧
      ¬ Notified (read toyRecordPrims (Cmd.fail .eof) 8 cut).2) ∧
    ((read toyRecordPrims (Cmd.fail .eof) 8 empty).1 = .error .eof ∧
      ¬ Notified (read toyRecordPrims (Cmd.fail .eof) 8 empty).2) := by
  decide +kernel

end Conn

end Pollux.Tlcp
