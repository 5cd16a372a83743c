import PolluxGM.TlcpSides

/-!
# Handshakes and the protection of Finished

Both drivers, full and resumed, read messages in plaintext, stage the keys once, and
read one message more: the Finished of the peer. So the verdict on that message is the
verdict on the handshake.
-/
namespace Pollux.Tlcp

open TlcpSession
open TlcpStream (Answer)

variable {P : Prims} {config : EngineConfig} {env : Surroundings}

/-- A connection that is up stays up, and takes no record in plaintext. -/
def Guarded (c c' : Conn) : Prop := c.handshakeStatus = true → c.inHalf.current ≠ none →
  c'.handshakeStatus = true ∧ c'.inHalf.current ≠ none ∧
    ∃ more, c'.reads = c.reads ++ more ∧ ∀ typ payload, .record typ payload none ∉ more

lemma Guarded.same (hstatus : c'.handshakeStatus = c.handshakeStatus)
    (hcur : c.inHalf.current ≠ none → c'.inHalf.current ≠ none) (hreads : c'.reads = c.reads) :
    Guarded c c' :=
  fun hup hactive => ⟨hstatus.trans hup, hcur hactive,
    [], by simpa using hreads, fun _ _ => List.not_mem_nil⟩

instance : IsPreorder Conn Guarded where
  refl _ := .same rfl id rfl
  trans a b c h h' := by
    intro hup hactive
    obtain ⟨hup, hactive, more, hmore, hplain⟩ := h hup hactive
    obtain ⟨hup, hactive, more', hmore', hplain'⟩ := h' hup hactive
    refine ⟨hup, hactive, more ++ more', by rw [hmore', hmore, List.append_assoc], ?_⟩
    exact fun typ payload hmem =>
      (List.mem_append.mp hmem).elim (hplain typ payload) (hplain' typ payload)

lemma wrote_guarded (h : Wrote c c') : Guarded c c' :=
  .same (congrArg Outcome.handshakeStatus h.outcome)
    (fun hactive => by
      rwa [show c'.inHalf = c.inHalf from congrArg ReadSide.inHalf h.readSide])
    (congrArg ReadSide.reads h.readSide)

lemma changeCipherSpec_active (hc : HalfConn) :
    hc.current ≠ none → (HalfConn.changeCipherSpec hc).2.current ≠ none := by
  intro h
  unfold HalfConn.changeCipherSpec
  split
  · exact h
  · simp

lemma applyCCS_guarded (raw : RawRecord) : Keeps Guarded (Conn.applyCCS raw) := by
  refine (Keeps.refuse _ _).bind fun _ => Keeps.bind ?_ fun _ => (Keeps.ask _).bind fun spec => ?_
  · intro c
    exact .same rfl (changeCipherSpec_active c.inHalf) rfl
  · refine Keeps.update fun c hup hactive => ⟨hup, hactive, _, rfl, ?_⟩
    intro typ payload hmem
    obtain ⟨_, _, heq⟩ := List.mem_map.mp hmem
    cases heq

lemma decrypt_current (P : RecordPrims) (record : Bytes) (hc : HalfConn) :
    (HalfConn.decrypt P record hc).2.current = hc.current := by
  have hpaths := decrypt_spec P record hc
  generalize HalfConn.decrypt P record hc = r at hpaths ⊢
  cases hpaths <;> rfl

lemma openRecord_guarded (P : RecordPrims) (raw : RawRecord) :
    Keeps Guarded (Conn.openRecord P raw) := by
  intro c hup hactive
  -- What is decrypted here is noted under the spec in force.
  have hrest : Keeps Guarded
    (Conn.onIn (HalfConn.decrypt P (raw.header ++ raw.body)) >>= fun plaintext =>
      Conn.noteRead (.record raw.typ plaintext.1 c.inHalf.current) >>= fun _ =>
      if raw.typ = .alert then Cmd.fail (Conn.alertOf plaintext.1)
        else pure (plaintext.1, raw.typ)) := by
    refine Keeps.bind ?_ fun plaintext => Keeps.bind ?_ fun _ => ?_
    · intro d
      refine .same rfl (fun h => ?_) rfl
      exact (decrypt_current P (raw.header ++ raw.body) d.inHalf).symm ▸ h
    · refine Keeps.update fun d hup' hactive' => ⟨hup', hactive', _, rfl, ?_⟩
      intro typ payload hmem
      have hunder := (ReadEvent.record.inj (List.mem_singleton.mp hmem)).2.2
      exact hactive hunder.symm
    · split
      · exact Keeps.fail _
      · exact Keeps.pure _
  unfold Conn.openRecord
  rw [ask_bind]
  exact hrest c hup hactive

lemma readRecords_guarded (P : RecordPrims) (rounds : Nat) :
    Keeps Guarded (Conn.readRecords P rounds) := by
  induction rounds with
  | zero => exact Keeps.fail _
  | succ rounds ih =>
    refine (Keeps.on _ fun _ _ => .same rfl id rfl).bind fun raw => ?_
    split
    · exact (applyCCS_guarded raw).bind fun _ => ih
    · exact openRecord_guarded P raw

lemma readData_guarded (P : RecordPrims) (size : Nat) : Keeps Guarded (Conn.readData P size) := by
  have hinput : Keeps Guarded (Conn.readInput size) := Keeps.on _ fun _ _ => .same rfl id rfl
  refine (Keeps.ask _).bind fun input => ?_
  split
  · exact hinput
  · refine ((readRecords_guarded P 2).mapError _).bind fun x => ?_
    dsimp only
    split
    · exact (Keeps.update fun _ => .same rfl id rfl).bind fun _ => hinput
    · exact Keeps.fail _

lemma writeData_wrote (P : RecordPrims) (rounds : Nat) (b : Bytes) (total : Nat) (c : Conn) :
    Wrote c (Conn.writeData P rounds b total c).2 := by
  induction rounds generalizing b total c with
  | zero => exact refl c
  | succ rounds ih =>
    have hrecord := writeRecord_wrote P .applicationData (b.take maxPlaintext) c
    unfold Conn.writeData
    split
    · exact refl c
    · split
      · rename_i hwrite
        rw [hwrite] at hrecord
        exact hrecord
      · rename_i hwrite
        rw [hwrite] at hrecord
        exact IsTrans.trans _ _ _ hrecord (ih _ _ _)

def use (P : RecordPrims) (handshake : Cmd Err Conn Unit) :
    TlcpStream.Call → Conn → Answer × Conn
  | .write b, c => (.wrote (Conn.write P handshake b c).1.1 (Conn.write P handshake b c).1.2,
    (Conn.write P handshake b c).2)
  | .deliver arrivals, c => (.delivered, { c with incoming := c.incoming ++ arrivals })
  | .read size, c => (.got (Conn.read P handshake size c).1, (Conn.read P handshake size c).2)

lemma use_guarded {P : RecordPrims} {handshake : Cmd Err Conn Unit} (call : TlcpStream.Call)
    (c : Conn) :
    Guarded c (use P handshake call c).2 := by
  intro hup hactive
  cases call with
  | write b =>
    have hwrite : Conn.write P handshake b c = Conn.writeData P b.length b 0 c := by
      rw [Conn.write, if_pos hup]
    dsimp only [use]
    rw [hwrite]
    exact wrote_guarded (writeData_wrote P _ b 0 c) hup hactive
  | deliver arrivals => exact Guarded.same rfl id rfl hup hactive
  | read size =>
    have hread : Conn.read P handshake size c = Conn.readData P size c := by
      rw [Conn.read, ask_bind, if_pos hup]
    dsimp only [use]
    rw [hread]
    exact readData_guarded P size c hup hactive

/-- Whatever comes in and whatever is called, no record is taken in plaintext. -/
def RefusesPlaintext (P : RecordPrims) (c : Conn) : Prop := ∀ handshake log d,
  Run (use P handshake) (fun _ _ => True) c log d →
    ∃ more, d.reads = c.reads ++ more ∧ ∀ typ payload, .record typ payload none ∉ more

lemma refusesPlaintext (P : RecordPrims) {c : Conn} (hup : c.handshakeStatus = true)
    (hactive : c.inHalf.current ≠ none) :
    RefusesPlaintext P c := by
  intro handshake log d hrun
  have hguarded : Guarded c d := hrun.stateInvariant (refl c) fun s call hs _ =>
    IsTrans.trans _ _ _ hs (use_guarded call s)
  exact (hguarded hup hactive).2.2

lemma handshake_settled
    (h : handshake P config env (newTLCPConn isClient incoming writeResults rand) = (.ok (), c)) :
    Settled incoming (readSide c) ∧ c.outHalf.current ≠ none := by
  have hsides : ∃ spec, Settled incoming (readSide c) ∧ c.outHalf.current = some spec := by
    cases isClient with
    | true =>
      obtain ⟨a, m, _, hside, hsettled⟩ := client_handshake h
      obtain ⟨spec, _, hcurrent⟩ := hside.held.keyed
      exact ⟨spec, hsettled, hcurrent⟩
    | false =>
      obtain ⟨a, m, _, hside, hsettled⟩ := server_handshake h
      obtain ⟨spec, _, hcurrent⟩ := hside.held.keyed
      exact ⟨spec, hsettled, hcurrent⟩
  obtain ⟨spec, hsettled, hcurrent⟩ := hsides
  exact ⟨hsettled, by simp [hcurrent]⟩

/-- A handshake that succeeds has protected the Finished of the peer, and left both directions
with a cipher, exactly if the peer sent whole messages before its ChangeCipherSpec and the
Finished after it. -/
theorem finished_protected {isClient : Bool} {incoming : List Arrival}
    {writeResults : List (Option NetErr)} {rand : Bytes} {c : Conn}
    (h : handshake P config env (newTLCPConn isClient incoming writeResults rand) = (.ok (), c)) :
    (FinishedProtected c.reads ∧ c.inHalf.current ≠ none ∧ c.outHalf.current ≠ none ∧
      RefusesPlaintext P.toRecordPrims c) ↔ WholeBeforeChange incoming := by
  obtain ⟨hsettled, hout⟩ := handshake_settled h
  have hup : c.handshakeStatus = true := by
    obtain ⟨e, _, rfl⟩ := handshake_driver rfl rfl h
    rfl
  constructor
  · rintro ⟨hfinished, hin, _, _⟩
    exact hsettled.mp ⟨hfinished, hin⟩
  · intro hwhole
    obtain ⟨hfinished, hin⟩ := hsettled.mpr hwhole
    exact ⟨hfinished, hin, hout, refusesPlaintext _ hup hin⟩

def resuming : Party := ⟨sampleConfig, sampleEnv (some offeredSession)⟩

def resumedFlight : List Arrival := (exchanged resuming resuming 1).1

theorem finished_protected_resumed :
    let r := handshake toyTlcpPrims resuming.config resuming.env (Party.conn true resumedFlight)
    r.1 = .ok () ∧ r.2.didResume = true ∧ FinishedProtected r.2.reads ∧ r.2.inHalf.current ≠ none ∧
      r.2.outHalf.current ≠ none := by
  intro r
  have hok : r = (.ok (), r.2) := eq_of_fst_ok (by decide +kernel)
  have hhello := eq_okValue (readRawRecord resumedFlight).1 (by decide +kernel)
  have hchange := eq_okValue (readRawRecord (readRawRecord resumedFlight).2).1 (by decide +kernel)
  have hwhole : WholeBeforeChange resumedFlight := by
    refine ⟨[_], _, _, _, .more (eq_of_fst_ok hhello) (by decide +kernel) (.none _), ?_,
      eq_of_fst_ok hchange, by decide +kernel⟩
    intro m hm
    rw [List.mem_singleton.mp hm]
    exact ⟨⟨by decide +kernel, by decide +kernel⟩, by decide +kernel⟩
  obtain ⟨hfinished, hin, hout, _⟩ := (finished_protected hok).mpr hwhole
  exact ⟨by decide +kernel, by decide +kernel, hfinished, hin, hout⟩

lemma protected_change (h : FinishedProtected reads) : reads.any isChange = true := by
  obtain ⟨before, between, after, spec, fin, rfl, _⟩ := h
  simp [isChange]

/-- The same flight without its ChangeCipherSpec, and its Finished in plaintext. -/
def bareFlight : List Arrival :=
  let server := resuming.after false (exchanged resuming resuming 1).2
  (server.outgoing.take 1 ++ server.sealed.map fun e => e.header ++ e.payload).map .bytes

/-- The handshake succeeds without a cipher for reading, and data in plaintext is taken. -/
theorem finished_in_plaintext :
    let r := handshake toyTlcpPrims resuming.config resuming.env (Party.conn true bareFlight)
    let plain := Arrival.bytes (recordHeader .applicationData versionTLCP [104, 105] ++ [104, 105])
    r.1 = .ok () ∧ r.2.inHalf.current = none ∧ ¬ FinishedProtected r.2.reads ∧
      (Conn.read toyRecordPrims (Cmd.fail .eof) 8 { r.2 with incoming := [plain] }).1 =
        .ok [104, 105] := by
  intro r plain
  refine ⟨by decide +kernel, by decide +kernel, fun h => ?_, by decide +kernel⟩
  have hnone : r.2.reads.any isChange = false := by decide +kernel
  rw [protected_change h] at hnone
  cases hnone

end Pollux.Tlcp
