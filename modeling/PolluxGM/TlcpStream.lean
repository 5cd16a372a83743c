import PolluxGM.TlcpRead
import PolluxGM.Channel

/-!
# The stream of application data

One direction of an established connection: a sender that writes, a receiver that reads, and between
them a network that hands the receiver whatever it likes.
-/
namespace Pollux.TlcpStream

open Channel Tlcp

variable {P : RecordPrims} {handshake : Cmd Err Conn Unit}

structure Link where
  sender : Conn
  receiver : Conn
  deriving DecidableEq

inductive Call where
  | write (b : Bytes)
  | deliver (arrivals : List Arrival)
  | read (size : Nat)
  deriving DecidableEq

inductive Answer where
  | wrote (n : Nat) (err : Option Err)
  | delivered
  | got (r : Except Err Bytes)

def Call.step (P : RecordPrims) (handshake : Cmd Err Conn Unit) : Call → Link → Answer × Link
  | .write b, l =>
    let r := Conn.write P handshake b l.sender
    (.wrote r.1.1 r.1.2, { l with sender := r.2 })
  | .deliver arrivals, l =>
    (.delivered, { l with
      receiver := { l.receiver with incoming := l.receiver.incoming ++ arrivals } })
  | .read size, l =>
    let r := Conn.read P handshake size l.receiver
    (.got r.1, { l with receiver := r.2 })

def appData (e : Sealed) : Bytes := if e.typ = .applicationData then e.payload else []

def sealedData (c : Conn) : Bytes := c.sealed.flatMap appData

structure Stream where
  written : Bytes
  returned : Bytes
  deriving DecidableEq

/-- What went into records counts as written; a `Write` without an error has written all. -/
def noteStream : Call → Link → Answer × Link → Stream → Stream
  | .write b, before, after, s =>
    let n := (sealedData after.2.sender).length - (sealedData before.sender).length
    { s with written := s.written ++ b.take n }
  | .read _, _, (.got (.ok b), _), s => { s with returned := s.returned ++ b }
  | _, _, _, s => s

/-- What passes the AEAD or the MAC was sealed by the sender under the same keys, nonce and
additional data. -/
def Authentic (P : RecordPrims) (sealed : List Sealed) (spec : CipherSpec) (seq record : Bytes) :
    Prop :=
  match spec with
  | .aead key implicitPrefix =>
    let payload := record.drop recordHeaderLen
    let nonce := implicitPrefix ++ payload.take (aeadNonceLength - noncePrefixLength)
    let ct := payload.drop (aeadNonceLength - noncePrefixLength)
    let aad := aeadAdditionalData seq record (ct.length - gcmOverhead)
    ∀ plaintext ∈ P.gcmOpen key nonce ct aad, ∃ e ∈ sealed, e.spec = .aead key implicitPrefix ∧
      nonce = implicitPrefix ++ e.seq.bytes ∧
        aad = aeadAdditionalData e.seq.bytes e.header e.payload.length ∧
      plaintext = e.payload
  | .cbc key macKey =>
    let payload := record.drop recordHeaderLen
    let plain := P.cbcDecrypt key (payload.take blockSize) (payload.drop blockSize)
    let n := payloadLength plain
    recordMAC P macKey seq (withLength record n) (plain.take n) = (plain.drop n).take macSize →
      ∃ e ∈ sealed, e.spec = .cbc key macKey ∧
        seq ++ withLength record n ++ plain.take n = e.seq.bytes ++ e.header ++ e.payload

instance (P : RecordPrims) (sealed : List Sealed) (spec : CipherSpec) (seq record : Bytes) :
    Decidable (Authentic P sealed spec seq record) :=
  match spec with
  | .aead _ _ => by unfold Authentic; infer_instance
  | .cbc _ _ => by unfold Authentic; infer_instance

/-- The next record the receiver will check is no forgery. -/
def Unforged (P : RecordPrims) (l : Link) : Prop :=
  ∀ raw ∈ (readRawRecord l.receiver.incoming).1.toOption, ∀ spec ∈ l.receiver.inHalf.current,
    Authentic P l.sender.sealed spec l.receiver.inHalf.seq.bytes (raw.header ++ raw.body)

instance (P : RecordPrims) (l : Link) : Decidable (Unforged P l) := by
  unfold Unforged
  infer_instance

def recordCount (b : Bytes) : Nat := (b.length + maxPlaintext - 1) / maxPlaintext

/-- The sender has a sequence number left for every record of the slice. -/
def Fits (b : Bytes) (c : Conn) : Prop := c.outHalf.seq.value + recordCount b < 2 ^ 64

def Permitted (P : RecordPrims) : Call → Link × Stream → Prop
  | .write b, x => Fits b x.1.sender
  | .deliver _, _ => True
  | .read _, x => Unforged P x.1

instance (P : RecordPrims) : ∀ (c : Call) (x : Link × Stream), Decidable (Permitted P c x)
  | .write b, x => inferInstanceAs
    (Decidable (x.1.sender.outHalf.seq.value + recordCount b < 2 ^ 64))
  | .deliver _, _ => isTrue trivial
  | .read _, x => inferInstanceAs (Decidable (Unforged P x.1))

lemma header_length (typ : RecordType) (version : UInt16) (payload : Bytes) :
    (recordHeader typ version payload).length = 5 := rfl

variable {record : Bytes}

lemma withLength_length (h : recordHeaderLen ≤ record.length) (n : Nat) :
    (withLength record n).length = 5 := by
  have hlen : 5 ≤ record.length := h
  simp only [withLength, List.length_append, List.length_take]
  have hbe : (be16 n).length = 2 := rfl
  omega

lemma withLength_headD (h : recordHeaderLen ≤ record.length) (n : Nat) :
    (withLength record n).headD 0 = record.headD 0 := by
  cases record with
  | nil => cases h
  | cons x rest => rfl

variable {sealed : List Sealed} {plaintext : Bytes}

/-- A record that opens was sealed with the same number and type. -/
lemma Authentic.opened (h : Authentic P sealed spec seq.bytes record)
    (hlen : recordHeaderLen ≤ record.length)
    (hopen : spec.open P seq.bytes record = .ok plaintext) :
    ∃ e ∈ sealed, e.spec = spec ∧ e.seq = seq ∧ e.typ.code = record.headD 0 ∧
      e.payload = plaintext := by
  cases spec with
  | aead key implicitPrefix =>
    simp only [CipherSpec.open, openAEAD, bind_ok, reject_ok, need_ok] at hopen
    obtain ⟨_, _, _, _, hgcm⟩ := hopen
    obtain ⟨e, he, hspec, _, haad, hpayload⟩ := h plaintext hgcm
    have hsplit := List.append_inj haad (seq.length_eq.trans e.seq.length_eq.symm)
    refine ⟨e, he, hspec, (Counter.ext_bytes hsplit.1).symm, ?_, hpayload.symm⟩
    have hhead := congrArg (fun b => List.headD b 0) hsplit.2
    rw [withLength_headD hlen] at hhead
    exact hhead.symm
  | cbc key macKey =>
    simp only [CipherSpec.open, openCBC, bind_ok, reject_ok, pure_inj] at hopen
    obtain ⟨_, _, _, _, _, hgood, rfl⟩ := hopen
    obtain ⟨e, he, hspec, hinput⟩ := h (Classical.not_not.mp hgood).1
    rw [List.append_assoc, List.append_assoc] at hinput
    have hseq := List.append_inj hinput (seq.length_eq.trans e.seq.length_eq.symm)
    have hheader := List.append_inj hseq.2 (withLength_length hlen _)
    refine ⟨e, he, hspec, (Counter.ext_bytes hseq.1).symm, ?_, hheader.2.symm⟩
    have hhead := congrArg (fun b => List.headD b 0) hheader.1
    rw [withLength_headD hlen] at hhead
    exact hhead.symm

/-- The paths of `writeRecord` under a cipher spec. -/
inductive RecordWritten (typ : RecordType) (payload : Bytes) (spec : CipherSpec) (c : Conn) :
    Except Err Unit × Conn → Prop where
  | failed {key macKey rand : Bytes} {e : Err} (hspec : spec = .cbc key macKey) :
      RecordWritten typ payload spec c (.error e, { c with rand := rand })
  | overflow {rand : Bytes} {e : Err} (hlast : c.outHalf.seq.next.2 = true) :
      RecordWritten typ payload spec c
        (.error e, { c with
          rand := rand, outHalf := { c.outHalf with seq := c.outHalf.seq.next.1 } })
  | sealed {r : Except Err Unit} {rand sendBuf : Bytes} {outgoing : List Bytes}
      {writeResults : List (Option NetErr)} (hlast : c.outHalf.seq.next.2 = false) :
      RecordWritten typ payload spec c
        (r, { c with rand := rand, sendBuf := sendBuf, outgoing := outgoing
                     writeResults := writeResults,
                     outHalf := { c.outHalf with seq := c.outHalf.seq.next.1 },
                     sealed := c.sealed ++ [⟨spec, c.outHalf.seq, typ, c.recordVersion, payload⟩] })

lemma sealRecord_eq (P : RecordPrims) (typ : RecordType) (payload : Bytes) (c : Conn) :
    Conn.sealRecord P typ payload c =
      match HalfConn.encrypt P (recordHeader typ c.recordVersion payload) payload
        (c.outHalf, c.rand) with
      | (.error e, hc, rand) => (.error e, { c with outHalf := hc, rand := rand })
      | (.ok record, hc, rand) =>
        (.ok record, { c with outHalf := hc, rand := rand,
                              sealed := c.sealed ++ c.outHalf.current.toList.map fun spec =>
                                ⟨spec, c.outHalf.seq, typ, c.recordVersion, payload⟩ }) := by
  generalize hencrypt : HalfConn.encrypt P (recordHeader typ c.recordVersion payload) payload
    (c.outHalf, c.rand) = r
  have hon : Cmd.on (fun c : Conn => (c.outHalf, c.rand)) (fun s c =>
    { c with outHalf := s.1, rand := s.2 })
      (HalfConn.encrypt P (recordHeader typ c.recordVersion payload) payload) c =
      (r.1, { c with outHalf := r.2.1, rand := r.2.2 }) := by
    rw [← hencrypt]
    rfl
  rw [Conn.sealRecord, ask_bind, id]
  obtain ⟨e | record, hc, rand⟩ := r
  · rw [bind_of_error hon]
  · rw [bind_of_ok hon, update_bind]
    rfl

variable {c : Conn}

lemma writeRecord_spec (P : RecordPrims) (htyp : typ ≠ .changeCipherSpec) (payload : Bytes)
    (hspec : c.outHalf.current = some spec) :
    RecordWritten typ payload spec c (Conn.writeRecord P typ payload c) := by
  have hpaths := encrypt_spec P (recordHeader typ c.recordVersion payload) payload
    (c.outHalf, c.rand)
  have hseal := sealRecord_eq P typ payload c
  generalize HalfConn.encrypt P (recordHeader typ c.recordVersion payload) payload
    (c.outHalf, c.rand) = r at hpaths hseal
  unfold Conn.writeRecord
  cases hpaths with
  | plain h => cases hspec.symm.trans h
  | failed h =>
    rw [bind_of_error hseal]
    cases hspec.symm.trans h
    exact .failed rfl
  | overflow h hlast =>
    rw [bind_of_error hseal]
    exact .overflow hlast
  | sealed h _ hlast =>
    have hevent : (c.outHalf.current.toList.map fun spec =>
        (⟨spec, c.outHalf.seq, typ, c.recordVersion, payload⟩ : Sealed)) =
        [⟨spec, c.outHalf.seq, typ, c.recordVersion, payload⟩] := by
      rw [hspec]
      rfl
    rw [bind_of_ok hseal, if_neg htyp]
    dsimp only
    rw [ask_bind, hevent]
    split
    · rw [update_apply]
      exact .sealed hlast
    · unfold Conn.send
      dsimp only
      split
      · exact .sealed hlast
      · exact .sealed hlast

/-- `c'` comes after `c` by sealing the records `fresh`. -/
structure Sealing (spec : CipherSpec) (c c' : Conn) (fresh : List Sealed) : Prop where
  status : c'.handshakeStatus = c.handshakeStatus
  current : c'.outHalf.current = some spec
  sealed : c'.sealed = c.sealed ++ fresh
  numbered : Numbered (fun e => e.seq.value) c.outHalf.seq.value fresh
  seq : c'.outHalf.seq.value = c.outHalf.seq.value + fresh.length

lemma Sealing.none (h : c.outHalf.current = some spec) : Sealing spec c c [] :=
  ⟨rfl, h, (List.append_nil _).symm, Numbered.nil, rfl⟩

variable {d : Conn} {more : List Sealed}

lemma Sealing.trans (h : Sealing spec c d fresh)
    (hmore : Sealing spec d e more) : Sealing spec c e (fresh ++ more) where
  status := hmore.status.trans h.status
  current := hmore.current
  sealed := by rw [hmore.sealed, h.sealed, List.append_assoc]
  numbered := h.numbered.append (h.seq ▸ hmore.numbered)
  seq := by rw [hmore.seq, h.seq, List.length_append, Nat.add_assoc]

lemma writeRecord_sealing (P : RecordPrims) (payload : Bytes)
    (hspec : c.outHalf.current = some spec) (hroom : c.outHalf.seq.value + 1 < 2 ^ 64) :
    ∃ fresh, Sealing spec c (Conn.writeRecord P .applicationData payload c).2 fresh ∧
      fresh.length ≤ 1 ∧ (fresh.flatMap appData = payload ∨
        fresh = [] ∧ ∃ e, (Conn.writeRecord P .applicationData payload c).1 = .error e) := by
  have hnext : c.outHalf.seq.next.2 = false := Counter.next_of_lt (by omega)
  have happ : RecordType.applicationData ≠ .changeCipherSpec := by decide
  have hpaths := writeRecord_spec P happ payload hspec
  generalize Conn.writeRecord P .applicationData payload c = r at hpaths ⊢
  cases hpaths with
  | failed =>
    exact ⟨[], ⟨rfl, hspec, (List.append_nil _).symm, Numbered.nil, rfl⟩, Nat.zero_le 1,
      .inr ⟨rfl, _, rfl⟩⟩
  | overflow hlast => cases hnext.symm.trans hlast
  | sealed hlast =>
    refine ⟨[⟨spec, c.outHalf.seq, .applicationData, c.recordVersion, payload⟩],
      ⟨rfl, hspec, rfl, ?_, ?_⟩, Nat.le_refl 1, .inl ?_⟩
    · exact Numbered.singleton rfl
    · exact Counter.next_value hlast
    · simp [appData]

variable {b : Bytes}

lemma recordCount_cut (h : b ≠ []) : recordCount b = recordCount (b.drop maxPlaintext) + 1 := by
  have hpos := List.length_pos_iff.mpr h
  simp only [recordCount, List.length_drop, maxPlaintext]
  omega

lemma writeData_sealing (P : RecordPrims) (rounds : Nat) (total : Nat) (hrounds : b.length ≤ rounds)
    (hspec : c.outHalf.current = some spec) (hfits : Fits b c) :
    ∃ fresh, Sealing spec c (Conn.writeData P rounds b total c).2 fresh ∧
      fresh.flatMap appData <+: b ∧
      ((Conn.writeData P rounds b total c).1.2 = none → fresh.flatMap appData = b) := by
  induction rounds generalizing b total c with
  | zero =>
    have hb : b = [] := List.eq_nil_of_length_eq_zero (Nat.le_zero.mp hrounds)
    exact ⟨[], Sealing.none hspec, List.nil_prefix, fun _ => hb.symm⟩
  | succ rounds ih =>
    unfold Conn.writeData
    by_cases hb : b = []
    · rw [if_pos hb]
      exact ⟨[], Sealing.none hspec, List.nil_prefix, fun _ => hb.symm⟩
    rw [if_neg hb]
    have hcount := recordCount_cut hb
    have hroom : c.outHalf.seq.value + 1 < 2 ^ 64 := by
      unfold Fits at hfits
      omega
    obtain ⟨fresh, hsealing, hlen, hdata⟩ := writeRecord_sealing P (b.take maxPlaintext) hspec hroom
    generalize Conn.writeRecord P .applicationData (b.take maxPlaintext) c = r at hsealing hdata
    obtain ⟨e | _, d⟩ := r
    · refine ⟨fresh, hsealing, ?_, fun h => by cases h⟩
      rcases hdata with hdata | ⟨rfl, _⟩
      · rw [hdata]
        exact List.take_prefix _ _
      · exact List.nil_prefix
    · have hfirst : fresh.flatMap appData = b.take maxPlaintext := by
        rcases hdata with hdata | ⟨_, _, herr⟩
        · exact hdata
        · cases herr
      have hrest : (b.drop maxPlaintext).length ≤ rounds := by
        have hpos := List.length_pos_iff.mpr hb
        simp only [List.length_drop, maxPlaintext]
        omega
      have hfitsRest : Fits (b.drop maxPlaintext) d := by
        have hseq : d.outHalf.seq.value = c.outHalf.seq.value + fresh.length := hsealing.seq
        unfold Fits at hfits ⊢
        omega
      obtain ⟨more, hmore, hinitial, hall⟩ :=
        ih (total + min b.length maxPlaintext) hrest hsealing.current hfitsRest
      refine ⟨fresh ++ more, hsealing.trans hmore, ?_, fun hnone => ?_⟩
      · rw [List.flatMap_append, hfirst]
        conv_rhs => rw [← List.take_append_drop maxPlaintext b]
        exact (List.prefix_append_right_inj _).mpr hinitial
      · rw [List.flatMap_append, hfirst, hall hnone, List.take_append_drop]

variable {n : Nat} {a rest : List Arrival}

lemma readFullFrom_length (hgot : got.length ≤ n) (h : readFullFrom n got a = (.ok b, rest)) :
    b.length = n := by
  induction a generalizing got with
  | nil =>
    unfold readFullFrom at h
    split at h
    · cases h
      omega
    · cases h
  | cons arrival a ih =>
    unfold readFullFrom at h
    cases arrival with
    | bytes x =>
      dsimp only at h
      split at h
      · cases h
        simp
        omega
      · exact ih (by simp; omega) h
    | fault f =>
      dsimp only at h
      split at h
      · cases h
        omega
      · cases h

variable {raw : RawRecord}

lemma readRawRecord_ok (h : readRawRecord a = (.ok raw, rest)) :
    raw.header.length = recordHeaderLen ∧ raw.typ.code = raw.header.headD 0 := by
  unfold readRawRecord at h
  obtain ⟨header, a₁, hheader, h⟩ := bind_eq_ok.mp h
  have hlen : header.length = recordHeaderLen := readFullFrom_length (Nat.zero_le _) hheader
  dsimp only at h
  cases htyp : RecordType.ofCode (header.headD 0) with
  | none =>
    rw [htyp] at h
    exact absurd h fail_eq_ok
  | some typ =>
    rw [htyp] at h
    simp only [bind_eq_ok, refuse_eq_ok, pure_eq_ok] at h
    obtain ⟨_, _, _, _, _, _, _, _, _, rfl, _⟩ := h
    exact ⟨hlen, RecordType.ofCode_some htyp⟩

lemma RecordType.code_inj {s t : RecordType} (h : s.code = t.code) : s = t := by
  cases s <;> cases t <;> first | rfl | cases h

/-- `fresh` were sealed and the first `taken` of them accepted. -/
structure Aligned (spec : CipherSpec) (old : List Sealed) (start : Nat) (l : Link) (s : Stream)
    (fresh : List Sealed) (taken : Nat) : Prop where
  senderDone : l.sender.handshakeStatus = true
  receiverDone : l.receiver.handshakeStatus = true
  senderSpec : l.sender.outHalf.current = some spec
  receiverSpec : l.receiver.inHalf.current = some spec
  unstaged : l.receiver.inHalf.next = none
  sealed : l.sender.sealed = old ++ fresh
  oldBelow : ∀ e ∈ old, e.spec = spec → e.seq.value < start
  numbered : Numbered (fun e => e.seq.value) start fresh
  senderSeq : l.sender.outHalf.seq.value = start + fresh.length
  receiverSeq : l.receiver.inHalf.seq.value = start + taken
  taken_le : taken ≤ fresh.length
  written : s.written = fresh.flatMap appData
  returned : s.returned ++ l.receiver.input = (fresh.take taken).flatMap appData

/-- Both ends have the same spec and number, and nothing was sealed with it yet. -/
structure Matching (spec : CipherSpec) (l : Link) : Prop where
  senderDone : l.sender.handshakeStatus = true
  receiverDone : l.receiver.handshakeStatus = true
  senderSpec : l.sender.outHalf.current = some spec
  receiverSpec : l.receiver.inHalf.current = some spec
  unstaged : l.receiver.inHalf.next = none
  sameSeq : l.receiver.inHalf.seq = l.sender.outHalf.seq
  oldBelow : ∀ e ∈ l.sender.sealed, e.spec = spec → e.seq.value < l.sender.outHalf.seq.value
  nothingRead : l.receiver.input = []

lemma Matching.aligned (h : Matching spec l) :
    Aligned spec l.sender.sealed l.sender.outHalf.seq.value l ⟨[], []⟩ [] 0 where
  senderDone := h.senderDone
  receiverDone := h.receiverDone
  senderSpec := h.senderSpec
  receiverSpec := h.receiverSpec
  unstaged := h.unstaged
  sealed := (List.append_nil _).symm
  oldBelow := h.oldBelow
  numbered := Numbered.nil
  senderSeq := rfl
  receiverSeq := by rw [h.sameSeq]; rfl
  taken_le := Nat.le_refl 0
  written := rfl
  returned := by rw [h.nothingRead]; rfl

variable {hc : HalfConn}

section

variable {spec : CipherSpec} {old fresh : List Sealed} {start taken : Nat} {l : Link} {s : Stream}

lemma Aligned.returned_initial (h : Aligned spec old start l s fresh taken) :
    s.returned <+: s.written := by
  have hreturned : s.returned <+: (fresh.take taken).flatMap appData :=
    h.returned ▸ List.prefix_append _ _
  rw [h.written]
  exact hreturned.trans (flatMap_take_initial _ _ _)

lemma Aligned.opened (h : Aligned spec old start l s fresh taken)
    (hraw : readRawRecord l.receiver.incoming = (.ok raw, rest)) (hunforged : Unforged P l)
    (hopen : spec.open P l.receiver.inHalf.seq.bytes (raw.header ++ raw.body) = .ok plaintext) :
    ∃ e, fresh[taken]? = some e ∧ e.typ = raw.typ ∧ e.payload = plaintext := by
  obtain ⟨hlen, hcode⟩ := readRawRecord_ok hraw
  have hauthentic := hunforged raw (by rw [hraw]; rfl) spec h.receiverSpec
  have hlong : recordHeaderLen ≤ (raw.header ++ raw.body).length := by
    rw [List.length_append, hlen]
    exact Nat.le_add_right _ _
  have hhead : (raw.header ++ raw.body).headD 0 = raw.header.headD 0 := by
    cases hheader : raw.header with
    | nil => simp [hheader, recordHeaderLen] at hlen
    | cons x xs => rfl
  obtain ⟨e, he, hspec, hseq, htyp, hpayload⟩ := hauthentic.opened hlong hopen
  have hvalue : e.seq.value = start + taken := by rw [hseq, h.receiverSeq]
  -- An older record under the same spec has a smaller number.
  have hfresh : e ∈ fresh := by
    rw [h.sealed, List.mem_append] at he
    rcases he with hold | hfresh
    · have := h.oldBelow e hold hspec
      omega
    · exact hfresh
  refine ⟨e, h.numbered.find hfresh hvalue, RecordType.code_inj ?_, hpayload⟩
  rw [htyp, hhead, hcode]

lemma Aligned.decrypted (h : Aligned spec old start l s fresh taken)
    (hraw : readRawRecord l.receiver.incoming = (.ok raw, rest)) (hunforged : Unforged P l)
    (hdecrypt : HalfConn.decrypt P (raw.header ++ raw.body) l.receiver.inHalf =
      (.ok (payload, code), hc))
    : ∃ e, fresh[taken]? = some e ∧ e.typ = raw.typ ∧ e.payload = payload ∧
      hc.current = some spec ∧ hc.next = none ∧ hc.seq.value = start + (taken + 1) := by
  have hpaths := decrypt_spec P (raw.header ++ raw.body) l.receiver.inHalf
  rw [hdecrypt] at hpaths
  cases hpaths with
  | plain hcur => cases h.receiverSpec.symm.trans hcur
  | opened hcur hopen hlast =>
    cases h.receiverSpec.symm.trans hcur
    obtain ⟨e, he, htyp, hpayload⟩ := h.opened hraw hunforged hopen
    refine ⟨e, he, htyp, hpayload, h.receiverSpec, h.unstaged, ?_⟩
    rw [Counter.next_value hlast, h.receiverSeq, Nat.add_assoc]

/-- A record that is not accepted does not move the receiver. -/
lemma Aligned.undecrypted (h : Aligned spec old start l s fresh taken)
    (hraw : readRawRecord l.receiver.incoming = (.ok raw, rest)) (hunforged : Unforged P l)
    (hdecrypt : HalfConn.decrypt P (raw.header ++ raw.body) l.receiver.inHalf = (.error e, hc)) :
    hc = l.receiver.inHalf := by
  have hpaths := decrypt_spec P (raw.header ++ raw.body) l.receiver.inHalf
  rw [hdecrypt] at hpaths
  cases hpaths with
  | short => rfl
  | refused => rfl
  | overflow hcur hopen hlast =>
    cases h.receiverSpec.symm.trans hcur
    obtain ⟨e, he, _⟩ := h.opened hraw hunforged hopen
    have hlt : taken < fresh.length := (List.getElem?_eq_some_iff.mp he).1
    have hmax := (Counter.next_overflow hlast).2
    have hsender := l.sender.outHalf.seq.value_lt
    rw [h.receiverSeq] at hmax
    rw [h.senderSeq] at hsender
    omega

def gained : Except Err Bytes → Bytes
  | .ok b => b
  | .error _ => []

lemma noteStream_read (size : Nat) (before after : Link) (r : Except Err Bytes) (s : Stream) :
    noteStream (.read size) before (.got r, after) s =
      { s with returned := s.returned ++ gained r } := by
  cases r with
  | ok b => rfl
  | error e => simp [noteStream, gained]

lemma Aligned.received (h : Aligned spec old start l s fresh taken) {more news : Bytes}
    {taken' : Nat} (hdone : d.handshakeStatus = true) (hspec : d.inHalf.current = some spec)
    (hnext : d.inHalf.next = none) (hseq : d.inHalf.seq.value = start + taken')
    (hle : taken' ≤ fresh.length)
    (hnews : (fresh.take taken').flatMap appData = (fresh.take taken).flatMap appData ++ news)
    (hbytes : more ++ d.input = l.receiver.input ++ news) :
    Aligned spec old start { l with receiver := d }
      { s with returned := s.returned ++ more } fresh taken' := by
  refine { h with receiverDone := hdone, receiverSpec := hspec, unstaged := hnext
                  receiverSeq := hseq, taken_le := hle, returned := ?_ }
  rw [hnews, ← h.returned, List.append_assoc, List.append_assoc, hbytes]

lemma Aligned.idle (h : Aligned spec old start l s fresh taken) {more : Bytes}
    (hdone : d.handshakeStatus = l.receiver.handshakeStatus) (hhalf : d.inHalf = l.receiver.inHalf)
    (hbytes : more ++ d.input = l.receiver.input) :
    Aligned spec old start { l with receiver := d }
      { s with returned := s.returned ++ more } fresh taken :=
  h.received (hdone.trans h.receiverDone) (hhalf ▸ h.receiverSpec) (hhalf ▸ h.unstaged)
    (hhalf ▸ h.receiverSeq) h.taken_le
    (List.append_nil _).symm (hbytes.trans (List.append_nil _).symm)

lemma Aligned.takes (h : Aligned spec old start l s fresh taken) (he : fresh[taken]? = some e)
    {more : Bytes} (hdone : d.handshakeStatus = l.receiver.handshakeStatus)
    (hcur : d.inHalf.current = some spec) (hnext : d.inHalf.next = none)
    (hseq : d.inHalf.seq.value = start + (taken + 1))
    (hbytes : more ++ d.input = l.receiver.input ++ appData e) :
    Aligned spec old start { l with receiver := d } { s with returned := s.returned ++ more } fresh
      (taken + 1) :=
  h.received (hdone.trans h.receiverDone) hcur hnext hseq (List.getElem?_eq_some_iff.mp he).1
    (flatMap_take_succ _ he) hbytes

lemma readInput_conserves (size : Nat) (c : Conn) :
    ∃ rest, (Conn.readInput size c).2 = { c with input := rest } ∧
      gained (Conn.readInput size c).1 ++ rest = c.input := by
  unfold Conn.readInput Cmd.on Conn.bufferRead
  by_cases hempty : c.input = []
  · refine ⟨[], ?_, ?_⟩
    · simp [hempty]
    · by_cases hsize : size = 0 <;> simp [hempty, hsize, gained]
  · exact ⟨c.input.drop size, by simp [hempty], by simp [hempty, gained]⟩

/-- One `Read` returns what is buffered, takes the next record, or does not move. -/
lemma Aligned.readData (h : Aligned spec old start l s fresh taken) (hunforged : Unforged P l)
    (size : Nat) :
    ∃ taken', Aligned spec old start { l with receiver := (Conn.readData P size l.receiver).2 }
      { s with returned := s.returned ++ gained (Conn.readData P size l.receiver).1 } fresh
        taken' := by
  by_cases hinput : l.receiver.input = []
  · have hpaths := Conn.readRecord_spec P l.receiver
    have hpast : l.receiver.pastCCS = l.receiver := by
      rcases Conn.pastCCS_cases l.receiver with heq | ⟨_, _, _, _, _, _, hnext, _⟩
      · exact heq
      · cases h.unstaged.symm.trans hnext
    rw [hpast] at hpaths
    rw [Conn.readData_eq hinput]
    generalize Conn.readRecord P l.receiver = r at hpaths ⊢
    cases hpaths with
    | transport => exact ⟨taken, h.idle rfl rfl rfl⟩
    | refused => exact ⟨taken, h.idle rfl rfl rfl⟩
    | undecryptable hraw _ hdecrypt =>
      exact ⟨taken, h.idle rfl (h.undecrypted hraw hunforged hdecrypt) rfl⟩
    | alert hraw htyp hdecrypt =>
      obtain ⟨e, he, hsame, _, hcur, hnext, hseq⟩ := h.decrypted hraw hunforged hdecrypt
      have hdata : appData e = [] := by simp [appData, hsame, htyp]
      exact ⟨taken + 1, h.takes he rfl hcur hnext hseq (by rw [hdata, List.append_nil]; rfl)⟩
    | @record raw rest payload code hc hraw hccs halert hdecrypt =>
      obtain ⟨e, he, hsame, hpayload, hcur, hnext, hseq⟩ := h.decrypted hraw hunforged hdecrypt
      dsimp only
      by_cases htyp : raw.typ = .applicationData
      · rw [if_pos htyp]
        have hdata : appData e = payload := by simp [appData, hsame, htyp, hpayload]
        obtain ⟨left, hstate, hbytes⟩ := readInput_conserves size { l.receiver with
          incoming := rest
          inHalf := hc
          reads := l.receiver.reads ++ [.record raw.typ payload l.receiver.inHalf.current]
          input := l.receiver.input ++ payload }
        rw [hstate]
        exact ⟨taken + 1, h.takes he rfl hcur hnext hseq (by rw [hdata]; exact hbytes)⟩
      · rw [if_neg htyp]
        have hdata : appData e = [] := by simp [appData, hsame, htyp]
        exact ⟨taken + 1, h.takes he rfl hcur hnext hseq (by rw [hdata, List.append_nil]; rfl)⟩
  · have hdata : Conn.readData P size l.receiver = Conn.readInput size l.receiver := by
      rw [Conn.readData, ask_bind, if_pos hinput]
    obtain ⟨rest, hstate, hbytes⟩ := readInput_conserves size l.receiver
    rw [hdata, hstate]
    exact ⟨taken, h.idle rfl rfl hbytes⟩

end

lemma write_sealing (P : RecordPrims) (handshake : Cmd Err Conn Unit)
    (hdone : c.handshakeStatus = true) (hspec : c.outHalf.current = some spec) (hfits : Fits b c) :
    ∃ fresh, Sealing spec c (Conn.write P handshake b c).2 fresh ∧ fresh.flatMap appData <+: b ∧
      ((Conn.write P handshake b c).1.2 = none → fresh.flatMap appData = b) := by
  rw [Conn.write, if_pos hdone]
  exact writeData_sealing P b.length 0 (Nat.le_refl _) hspec hfits

def writeFailed : Call × Answer → Bool
  | (.write _, .wrote _ (some _)) => true
  | _ => false

def slices : List (Call × Answer) → Bytes
  | [] => []
  | (.write b, _) :: log => b ++ slices log
  | _ :: log => slices log

lemma slices_append (log more : List (Call × Answer)) :
    slices (log ++ more) = slices log ++ slices more := by
  induction log with
  | nil => rfl
  | cons entry log ih =>
    obtain ⟨call, answer⟩ := entry
    cases call <;> simp [slices, ih]

variable {call : Call}

section

variable {spec : CipherSpec} {old fresh : List Sealed} {start taken : Nat} {l : Link} {s : Stream}

lemma Aligned.written_take (hsealed : c.sealed = l.sender.sealed ++ more)
    (hinitial : more.flatMap appData <+: b) :
    b.take ((sealedData c).length - (sealedData l.sender).length) = more.flatMap appData := by
  have hlen : (sealedData c).length - (sealedData l.sender).length =
    (more.flatMap appData).length := by
    rw [sealedData, sealedData, hsealed, List.flatMap_append, List.length_append,
      Nat.add_sub_cancel_left]
  rw [hlen]
  exact (List.prefix_iff_eq_take.mp hinitial).symm

lemma Aligned.step (h : Aligned spec old start l s fresh taken)
    (hallowed : Permitted P call (l, s)) :
    ∃ fresh' taken', Aligned spec old start (call.step P handshake l).2
      (noteStream call l (call.step P handshake l) s) fresh' taken' := by
  cases call with
  | write b =>
    obtain ⟨more, hsealing, hinitial, _⟩ :=
      write_sealing P handshake h.senderDone h.senderSpec hallowed
    refine ⟨fresh ++ more, taken, { h with
      senderDone := hsealing.status.trans h.senderDone
      senderSpec := hsealing.current
      sealed := by rw [Call.step, hsealing.sealed, h.sealed, List.append_assoc]
      numbered := h.numbered.append (h.senderSeq ▸ hsealing.numbered)
      senderSeq := by rw [Call.step, hsealing.seq, h.senderSeq, List.length_append, Nat.add_assoc]
      taken_le := ?_
      written := ?_
      returned := ?_ }⟩
    · rw [List.length_append]
      exact Nat.le_trans h.taken_le (Nat.le_add_right _ _)
    · rw [List.flatMap_append, ← h.written]
      exact congrArg (s.written ++ ·) (Aligned.written_take hsealing.sealed hinitial)
    · rw [List.take_append_of_le_length h.taken_le]
      exact h.returned
  | deliver arrivals => exact ⟨fresh, taken, { h with }⟩
  | read size =>
    have hread : Conn.read P handshake size l.receiver = Conn.readData P size l.receiver := by
      rw [Conn.read, ask_bind, if_pos h.receiverDone]
    obtain ⟨taken', haligned⟩ := h.readData hallowed size
    refine ⟨fresh, taken', ?_⟩
    rw [Call.step, hread, noteStream_read]
    exact haligned

lemma Aligned.written_step (h : Aligned spec old start l s fresh taken)
    (handshake : Cmd Err Conn Unit) (hallowed : Permitted P call (l, s))
    (hok : writeFailed (call, (call.step P handshake l).1) = false) :
    (noteStream call l (call.step P handshake l) s).written =
      s.written ++ slices [(call, (call.step P handshake l).1)] := by
  cases call with
  | write b =>
    obtain ⟨more, hsealing, hinitial, hall⟩ :=
      write_sealing P handshake h.senderDone h.senderSpec hallowed
    have hnone : (Conn.write P handshake b l.sender).1.2 = none := by
      cases herr : (Conn.write P handshake b l.sender).1.2 with
      | none => rfl
      | some e => simp [Call.step, writeFailed, herr] at hok
    have hwritten := Aligned.written_take (l := l) hsealing.sealed hinitial
    rw [hall hnone] at hwritten
    rw [slices, slices, List.append_nil]
    exact congrArg (s.written ++ ·) hwritten
  | deliver arrivals => simp [noteStream, slices]
  | read size =>
    rw [Call.step, noteStream_read]
    simp [slices]

end

/-- As long as the sender has sequence numbers for what it writes, what the receiver has returned
is an initial part of what was written, and that is all the slices in order if no `Write` reported
an error. -/
theorem reads_initial_in_writes (P : RecordPrims) (handshake : Cmd Err Conn Unit)
    {spec : CipherSpec} {l : Link} (hmatch : Matching spec l) {log : List (Call × Answer)}
    {x : Link × Stream}
    (hrun : Run (watched (Call.step P handshake) noteStream) (Permitted P) (l, ⟨[], []⟩) log x) :
    x.2.returned <+: x.2.written ∧
      ((∀ entry ∈ log, writeFailed entry = false) → x.2.written = slices log) := by
  have hinvariant : (∃ fresh taken,
    Aligned spec l.sender.sealed l.sender.outHalf.seq.value x.1 x.2 fresh taken) ∧
      ((∀ entry ∈ log, writeFailed entry = false) → x.2.written = slices log) := by
    refine hrun.invariant (I := fun log x =>
      (∃ fresh taken, Aligned spec l.sender.sealed l.sender.outHalf.seq.value x.1 x.2 fresh taken) ∧
        ((∀ entry ∈ log, writeFailed entry = false) → x.2.written = slices log)) ?_ ?_
    · exact ⟨⟨[], 0, hmatch.aligned⟩, fun _ => rfl⟩
    · intro log x call ⟨⟨fresh, taken, haligned⟩, hwritten⟩ hallowed
      refine ⟨haligned.step hallowed, fun hok => ?_⟩
      have hlast := haligned.written_step handshake hallowed (hok _ (by simp [watched]))
      rw [slices_append, ← hwritten fun entry hentry => hok entry (List.mem_append_left _ hentry)]
      exact hlast
  obtain ⟨⟨fresh, taken, haligned⟩, hwritten⟩ := hinvariant
  exact ⟨haligned.returned_initial, hwritten⟩

def sampleLink : Link := ⟨Conn.established [], Conn.established []⟩

lemma sampleLink_matching : Matching sampleSpec sampleLink where
  senderDone := rfl
  receiverDone := rfl
  senderSpec := rfl
  receiverSpec := rfl
  unstaged := rfl
  sameSeq := rfl
  oldBelow := fun _ he => by cases he
  nothingRead := rfl

theorem reads_initial_in_writes_sample :
    let calls := [Call.write [1, 2, 3], .deliver (Conn.firstRecord .applicationData [1, 2, 3]),
      .deliver (Conn.firstRecord .applicationData [1, 2, 3]), .read 2, .read 8, .read 8]
    let x := (exec (watched (Call.step toyRecordPrims (Cmd.fail .eof)) noteStream) calls
      (sampleLink, ⟨[], []⟩)).2
    x.2.returned = [1, 2, 3] ∧ x.2.returned <+: x.2.written := by
  intro calls x
  have hallowed : AllAllowed (watched (Call.step toyRecordPrims (Cmd.fail .eof)) noteStream)
      (Permitted toyRecordPrims) calls (sampleLink, ⟨[], []⟩) := by decide +kernel
  exact ⟨by decide +kernel,
    (reads_initial_in_writes toyRecordPrims (Cmd.fail .eof) sampleLink_matching
      (exec_run hallowed)).1⟩

/-- Any writes, with the same trust in the authentication. -/
def Trusted (P : RecordPrims) : Call → Link × Stream → Prop
  | .read _, x => Unforged P x.1
  | _, _ => True

lemma Authentic.mono (hsub : sealed ⊆ more) (h : Authentic P sealed spec seq record) :
    Authentic P more spec seq record := by
  cases spec with
  | aead key implicitPrefix =>
    intro plaintext hopen
    obtain ⟨e, he, hsame⟩ := h plaintext hopen
    exact ⟨e, hsub he, hsame⟩
  | cbc key macKey =>
    intro hmac
    obtain ⟨e, he, hsame⟩ := h hmac
    exact ⟨e, hsub he, hsame⟩

/-- A sender under the sample spec whose writes were accepted so far. -/
structure Writing (c : Conn) (n : Nat) : Prop where
  done : c.handshakeStatus = true
  current : c.outHalf.current = some sampleSpec
  version : c.recordVersion = versionTLCP
  seq : c.outHalf.seq.value = n % 2 ^ 64

lemma Writing.write (h : Writing c n) (P : RecordPrims) (handshake : Cmd Err Conn Unit)
    (x : UInt8) : Writing (Conn.write P handshake [x] c).2 (n + 1) ∧
      (c.outHalf.seq.next.2 = true ∧ (Conn.write P handshake [x] c).2.sealed = c.sealed ∨
        (Conn.write P handshake [x] c).2.sealed =
          c.sealed ++ [⟨sampleSpec, c.outHalf.seq, .applicationData, versionTLCP, [x]⟩]) := by
  have hseq : c.outHalf.seq.next.1.value = (n + 1) % 2 ^ 64 := by
    rw [Counter.next_value_mod, h.seq]
    omega
  have happ : RecordType.applicationData ≠ .changeCipherSpec := by decide
  have hpaths := writeRecord_spec P happ [x] h.current
  have hwrite : (Conn.write P handshake [x] c).2 =
    (Conn.writeRecord P .applicationData [x] c).2 := by
    rw [Conn.write, if_pos h.done]
    have htake : [x].take maxPlaintext = [x] := rfl
    have hdrop : [x].drop maxPlaintext = [] := rfl
    change (Conn.writeData P 1 [x] 0 c).2 = _
    rw [Conn.writeData, if_neg (List.cons_ne_nil x []), htake, hdrop]
    split
    · rename_i heq
      rw [heq]
    · rename_i heq
      rw [heq]
      rfl
  rw [hwrite]
  generalize Conn.writeRecord P .applicationData [x] c = r at hpaths ⊢
  cases hpaths with
  | failed hspec => cases hspec
  | overflow hlast => exact ⟨⟨h.done, h.current, h.version, hseq⟩, .inl ⟨hlast, rfl⟩⟩
  | sealed hlast =>
    refine ⟨⟨h.done, h.current, h.version, hseq⟩, .inr ?_⟩
    rw [h.version]

lemma Writing.noted (h : Writing l.sender n) (P : RecordPrims) (handshake : Cmd Err Conn Unit)
    (s : Stream) (x : UInt8) :
    let after := Call.step P handshake (.write [x]) l
    (noteStream (.write [x]) l after s).written = s.written ∧ l.sender.outHalf.seq.next.2 = true ∨
      (noteStream (.write [x]) l after s).written = s.written ++ [x] := by
  intro after
  rcases (h.write P handshake x).2 with ⟨hlast, hsealed⟩ | hsealed
  · refine .inl ⟨?_, hlast⟩
    have hsame : sealedData after.2.sender = sealedData l.sender :=
      congrArg (List.flatMap appData) hsealed
    simp [noteStream, hsame]
  · refine .inr ?_
    have hmore := Aligned.written_take (l := l) (b := [x]) hsealed (by simp [appData])
    exact congrArg (s.written ++ ·) hmore

lemma writes_run (P : RecordPrims) (handshake : Cmd Err Conn Unit) (n : Nat) :
    ∃ log x, Run (watched (Call.step P handshake) noteStream) (Trusted P)
      (sampleLink, ⟨[], []⟩) log x ∧
      Writing x.1.sender n ∧ x.1.receiver = sampleLink.receiver ∧ x.2.returned = [] ∧
      (n = 0 ∧ x.2.written = [] ∨ [1] <+: x.2.written) := by
  induction n with
  | zero =>
    exact ⟨[], (sampleLink, ⟨[], []⟩), .start, ⟨rfl, rfl, rfl, rfl⟩, rfl, rfl, .inl ⟨rfl, rfl⟩⟩
  | succ n ih =>
    obtain ⟨log, x, hrun, hwriting, hreceiver, hreturned, hwritten⟩ := ih
    have hnext := hrun.call (Call.write [1]) trivial
    refine ⟨_, _, hnext, (hwriting.write P handshake 1).1, hreceiver, hreturned, .inr ?_⟩
    change [1] <+: (noteStream (.write [1]) x.1 _ x.2).written
    rcases hwriting.noted P handshake x.2 1 with ⟨hsame, hlast⟩ | hmore
    · rw [hsame]
      rcases hwritten with ⟨rfl, _⟩ | hwritten
      · have hmax := (Counter.next_overflow hlast).2
        rw [hwriting.seq] at hmax
        omega
      · exact hwritten
    · rw [hmore]
      rcases hwritten with ⟨_, hnil⟩ | hwritten
      · rw [hnil]
        exact List.prefix_rfl
      · exact hwritten.trans (List.prefix_append _ _)

/-- The record of the sequence number zero that is sealed a second time. -/
def secondFirst : Sealed := ⟨sampleSpec, Counter.zero 8, .applicationData, versionTLCP, [2]⟩

lemma secondFirst_unforged (h : secondFirst ∈ sender.sealed) :
    Unforged toyRecordPrims ⟨sender, Conn.established (Conn.firstRecord .applicationData [2])⟩ := by
  have hsingle : Unforged toyRecordPrims ⟨{ Conn.established [] with sealed := [secondFirst] },
      Conn.established (Conn.firstRecord .applicationData [2])⟩ := by decide +kernel
  intro raw hraw spec hspec
  exact (hsingle raw hraw spec hspec).mono (List.cons_subset.mpr ⟨h, List.nil_subset _⟩)

/-- The network holds 2 ^ 64 records back and delivers the second one numbered zero. -/
lemma restart_run : ∃ log x,
    Run (watched (Call.step toyRecordPrims (Cmd.fail .eof)) noteStream) (Trusted toyRecordPrims)
      (sampleLink, ⟨[], []⟩)
      log x ∧ x.1.receiver = Conn.established (Conn.firstRecord .applicationData [2]) ∧
      secondFirst ∈ x.1.sender.sealed ∧ x.2.returned = [] ∧ [1] <+: x.2.written := by
  obtain ⟨log, x, hrun, hwriting, hreceiver, hreturned, hwritten⟩ :=
    writes_run toyRecordPrims (Cmd.fail .eof) (2 ^ 64)
  have hzero : x.1.sender.outHalf.seq = Counter.zero 8 :=
    Counter.value_inj (by rw [hwriting.seq, Counter.zero_value, Nat.mod_self])
  have hroom : x.1.sender.outHalf.seq.next.2 = false := by
    rw [hzero]
    decide
  have hsealed : secondFirst ∈
    (Conn.write toyRecordPrims (Cmd.fail .eof) [2] x.1.sender).2.sealed := by
    rcases (hwriting.write toyRecordPrims (Cmd.fail .eof) 2).2 with ⟨hlast, _⟩ | hsealed
    · cases hroom.symm.trans hlast
    · rw [hsealed, secondFirst, hzero]
      exact List.mem_append_right _ (List.mem_singleton_self _)
  have hfirst : [1] <+: x.2.written := by
    rcases hwritten with ⟨h, _⟩ | hwritten
    · cases h
    · exact hwritten
  have hwrote := hrun.call (Call.write [2]) trivial
  refine ⟨_, _, hwrote.call (Call.deliver (Conn.firstRecord .applicationData [2])) trivial, ?_,
    hsealed, hreturned, ?_⟩
  · change { x.1.receiver with
      incoming := x.1.receiver.incoming ++ Conn.firstRecord .applicationData [2] } = _
    rw [hreceiver]
    rfl
  · exact hfirst.trans (List.prefix_append _ _)

/-- After 2 ^ 64 records the numbers begin again, and the receiver takes a record of the second
round for the first. -/
theorem stream_restarts : ∃ log x,
    Run (watched (Call.step toyRecordPrims (Cmd.fail .eof)) noteStream) (Trusted toyRecordPrims)
      (sampleLink, ⟨[], []⟩) log x ∧ x.2.returned = [2] ∧ ¬ x.2.returned <+: x.2.written := by
  obtain ⟨log, ⟨⟨sender, receiver⟩, s⟩, hrun, hreceiver, hsealed, hreturned, hwritten⟩ :=
    restart_run
  obtain rfl : receiver = Conn.established (Conn.firstRecord .applicationData [2]) := hreceiver
  have hread : (Conn.read toyRecordPrims (Cmd.fail .eof) 8
      (Conn.established (Conn.firstRecord .applicationData [2]))).1 = .ok [2] := by decide +kernel
  have hback : (watched (Call.step toyRecordPrims (Cmd.fail .eof)) noteStream (Call.read 8)
      (⟨sender, Conn.established (Conn.firstRecord .applicationData [2])⟩, s)).2.2 =
        { s with returned := [2] } := by
    rw [watched, Call.step, noteStream_read, hread, hreturned]
    rfl
  refine ⟨_, _, hrun.call (Call.read 8) (secondFirst_unforged hsealed), ?_⟩
  rw [hback]
  refine ⟨rfl, fun hinitial => ?_⟩
  obtain ⟨more, hmore⟩ := hwritten
  obtain ⟨rest, hrest⟩ := hinitial
  have hclash : 1 :: more = 2 :: rest := hmore.trans hrest.symm
  cases hclash

end Pollux.TlcpStream
