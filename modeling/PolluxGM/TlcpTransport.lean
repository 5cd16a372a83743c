import PolluxGM.TlcpFinished
import PolluxGM.TlcpWire

/-!
# The transport of handshake messages

A sender that writes with `writeHandshakeRecord`, a receiver that reads with `readHandshake`, and a
channel that loses nothing. The sender puts each message into one record.
-/
namespace Pollux.Tlcp

open TlcpStream

/-- A handshake message that the receiver does not refuse for its size. -/
structure Sendable (m : Bytes) : Prop where
  message : IsMessage m
  capped : be24At m 1 ≤ Conn.messageLimit (m.headD 0)

/-- The record of a message is not refused for its size. -/
def RecordFits (spec : Option CipherSpec) (m : Bytes) : Prop :=
  bodyLength spec m.length ≤ maxPlaintext + 2048

lemma Sendable.length_le {m : Bytes} (h : Sendable m) : m.length ≤ 131076 := by
  have hlimit : Conn.messageLimit (m.headD 0) ≤ 131072 := by
    unfold Conn.messageLimit
    split <;> decide
  have hlen := h.message.2
  have hcapped := h.capped
  omega

/-- What the receiver decrypts with is what the sender encrypts with. -/
structure InSync (receiving sending : HalfConn) : Prop where
  current : receiving.current = sending.current
  seq : sending.current ≠ none → receiving.seq = sending.seq

variable (hc : HalfConn)

/-- There are sequence numbers and random octets for `n` more records. -/
structure Stocked (rand : Bytes) (n : Nat) : Prop where
  numbers : hc.current ≠ none → hc.seq.value + n < 256 ^ 8
  random : ∀ key macKey, hc.current = some (.cbc key macKey) → key.length = 16 ∧
    blockSize * n ≤ rand.length

variable {typ : RecordType} {version : UInt16} {hc' : HalfConn} {header body : Bytes}

section

variable {P : RecordPrims} {hc : HalfConn} {rand record payload : Bytes} {spec : CipherSpec}

lemma encrypt_none (hcur : hc.current = none) :
    HalfConn.encrypt P record payload (hc, rand) = (.ok (record ++ payload), hc, rand) := by
  rw [HalfConn.encrypt, ask_bind]
  dsimp only
  rw [hcur]
  rfl

lemma decrypt_none (hlen : recordHeaderLen ≤ record.length) (hcur : hc.current = none) :
    HalfConn.decrypt P record hc = (.ok (record.drop recordHeaderLen, record.headD 0), hc) := by
  rw [HalfConn.decrypt, bind_of_ok (refuse_neg (Nat.not_lt.mpr hlen) _ hc), ask_bind, id, hcur]
  rfl

lemma encrypt_some {iv full rand' : Bytes} (hcur : hc.current = some spec)
    (hdraw : spec.drawIV rand = (.ok iv, rand'))
    (hseal : spec.seal P hc.seq.bytes iv record payload = .ok full)
    (hroom : hc.seq.next.2 = false) : HalfConn.encrypt P record payload (hc, rand) =
      (.ok full, { hc with seq := hc.seq.next.1 }, rand') := by
  have hon : Cmd.on Prod.snd (fun rand s => (s.1, rand)) spec.drawIV (hc, rand) =
    (.ok iv, hc, rand') := by
    unfold Cmd.on
    rw [hdraw]
  have hinc : Cmd.on Prod.fst (fun hc s => (hc, s.2)) HalfConn.incSeq (hc, rand') =
      (.ok (), { hc with seq := hc.seq.next.1 }, rand') := by
    unfold Cmd.on
    rw [incSeq_next hroom]
  rw [HalfConn.encrypt, ask_bind]
  dsimp only
  cases hc with
  | mk version current next seq =>
    dsimp only at hcur ⊢
    subst hcur
    dsimp only
    rw [bind_of_ok hon, hseal, lift_bind, bind_of_ok hinc]
    rfl

lemma decrypt_some {plaintext : Bytes} (hlen : recordHeaderLen ≤ record.length)
    (hcur : hc.current = some spec) (hopen : spec.open P hc.seq.bytes record = .ok plaintext)
    (hroom : hc.seq.next.2 = false) :
    HalfConn.decrypt P record hc =
      (.ok (plaintext, record.headD 0), { hc with seq := hc.seq.next.1 }) := by
  have hpaths := decrypt_spec P record hc
  generalize HalfConn.decrypt P record hc = r at hpaths ⊢
  cases hpaths with
  | short h => exact absurd h (Nat.not_lt.mpr hlen)
  | plain h => cases hcur.symm.trans h
  | refused h hrefused =>
    cases hcur.symm.trans h
    cases hopen.symm.trans hrefused
  | overflow h _ hlast => cases hroom.symm.trans hlast
  | opened h hopened =>
    cases hcur.symm.trans h
    cases hopen.symm.trans hopened
    rfl

lemma seal_succeeds (P : RecordPrims) (spec : CipherSpec) (rand seq record payload : Bytes)
    (hrandom : ∀ key macKey, spec = .cbc key macKey → key.length = 16 ∧ blockSize ≤ rand.length) :
    ∃ iv full rand', spec.drawIV rand = (.ok iv, rand') ∧
      spec.seal P seq iv record payload = .ok full ∧
      ∀ key macKey, spec = .cbc key macKey → rand'.length + blockSize = rand.length := by
  cases spec with
  | aead key implicitPrefix =>
    refine ⟨[], _, rand, rfl, rfl, ?_⟩
    intro key macKey h
    cases h
  | cbc key macKey =>
    obtain ⟨hkey, hrand⟩ := hrandom key macKey rfl
    have hdraw : drawRand blockSize rand = (.ok (rand.take blockSize), rand.drop blockSize) :=
      if_pos hrand
    have hiv : (rand.take blockSize).length = 16 := List.length_take_of_le hrand
    have hcbc : newCBC key (rand.take blockSize) = .ok () := by
      rw [newCBC, reject_bind (fun h => h hkey), reject_neg (fun h => h hiv)]
    have hseal : ∃ full,
      CipherSpec.seal P (.cbc key macKey) seq (rand.take blockSize) record payload = .ok full := by
      simp only [CipherSpec.seal, hcbc, ok_bind]
      exact ⟨_, rfl⟩
    obtain ⟨full, hseal⟩ := hseal
    refine ⟨_, full, _, hdraw, hseal, ?_⟩
    intro _ _ _
    rw [List.length_drop]
    exact Nat.sub_add_cancel hrand

/-- The record of a payload: how it looks and what it is decrypted to. -/
structure Encloses (P : RecordPrims) (typ : RecordType) (version : UInt16) (payload : Bytes)
    (hc hc' : HalfConn) (header body : Bytes) : Prop where
  header_eq : header = withLength (recordHeader typ version payload) body.length
  length_eq : body.length = bodyLength hc.current payload.length
  current_eq : hc'.current = hc.current
  opens : ∀ r, InSync r hc → payload.length < 2147480000 → ∃ code r',
    HalfConn.decrypt P (header ++ body) r = (.ok (payload, code), r') ∧ InSync r' hc'

lemma Encloses.header_length (h : Encloses P typ version payload hc hc' header body) :
    header.length = recordHeaderLen := by
  rw [h.header_eq]
  rfl

lemma encrypt_succeeds (hP : Lawful P) (typ : RecordType) (version : UInt16) (payload : Bytes)
    {n : Nat} (h : Stocked hc rand (n + 1)) :
    ∃ header body hc' rand',
      HalfConn.encrypt P (recordHeader typ version payload) payload (hc, rand) =
        (.ok (header ++ body), hc', rand') ∧
      Encloses P typ version payload hc hc' header body ∧ Stocked hc' rand' n := by
  cases hcur : hc.current with
  | none =>
    refine ⟨_, payload, hc, rand, encrypt_none hcur,
      ⟨(withLength_recordHeader _ _ _).symm, by rw [hcur]; rfl, rfl, ?_⟩, ?_⟩
    · intro r hr _
      exact ⟨typ.code, r, decrypt_none (Nat.le_add_left 5 _) (hr.current.trans hcur), hr⟩
    · refine ⟨fun hsome => absurd hcur hsome, ?_⟩
      intro key macKey hcbc
      rw [hcur] at hcbc
      cases hcbc
  | some spec =>
    have hsome : hc.current ≠ none := by
      rw [hcur]
      exact Option.some_ne_none spec
    have hroom := h.numbers hsome
    have hnext : hc.seq.next.2 = false := Counter.next_of_lt (by omega)
    have hrandom : ∀ key macKey, spec = .cbc key macKey → key.length = 16 ∧
      blockSize ≤ rand.length := by
      intro key macKey hcbc
      obtain ⟨hkey, henough⟩ := h.random key macKey (by rw [hcur, hcbc])
      exact ⟨hkey, Nat.le_trans (Nat.le_mul_of_pos_right _ (Nat.succ_pos n)) henough⟩
    obtain ⟨iv, full, rand', hdraw, hseal, hless⟩ :=
      seal_succeeds P spec rand hc.seq.bytes (recordHeader typ version payload) payload hrandom
    obtain ⟨body, rfl, hlength⟩ := seal_shape hP hseal
    refine ⟨_, body, _, rand', encrypt_some hcur hdraw hseal hnext,
      ⟨rfl, by rw [hlength, hcur], rfl, ?_⟩, ?_⟩
    · intro r hr hsmall
      have hseq : r.seq = hc.seq := hr.seq hsome
      have hopen := open_sealed hP (header_length _ _ _)
        (withLength_recordHeader _ _ _) hsmall hseal
      rw [← hseq] at hopen hnext
      exact ⟨_, _, decrypt_some (Nat.le_add_left 5 _) (hr.current.trans hcur) hopen hnext,
        ⟨hr.current, fun _ => by rw [hseq]⟩⟩
    · refine ⟨fun _ => ?_, ?_⟩
      · rw [Counter.next_value hnext]
        omega
      · intro key macKey hcbc
        obtain ⟨hkey, henough⟩ := h.random key macKey hcbc
        have hspec : spec = .cbc key macKey := Option.some.inj (hcur.symm.trans hcbc)
        have hlen := hless key macKey hspec
        refine ⟨hkey, ?_⟩
        simp only [blockSize] at henough hlen ⊢
        omega

end

/-- Write messages in turn, and flush them. -/
def sendFlight (P : Prims) : List Bytes → Cmd Err Conn Unit
  | [] => Conn.flush
  | m :: ms => do
    let _ ← writeHandshakeRecord P (.ok m) []
    sendFlight P ms

/-- The sender can send `n` more records over a working transport. -/
structure Sends (c : Conn) (n : Nat) : Prop where
  writable : ∀ r ∈ c.writeResults, r = none
  direct : c.buffering = false → c.sendBuf = []
  version : VersionAccepted c.recordVersion.toNat
  stocked : Stocked c.outHalf c.rand n

/-- The octets `b` were put on the wire or behind what was buffered. -/
def Puts (c c' : Conn) (b : Bytes) : Prop := ∃ new,
  c'.outgoing = c.outgoing ++ new ∧ c.sendBuf ++ b = new.flatten ++ c'.sendBuf

variable {e : Conn} {b : Bytes}

lemma Puts.trans {c d : Conn} {a : Bytes} (h : Puts c d a) (h' : Puts d e b) :
    Puts c e (a ++ b) := by
  obtain ⟨new, hout, hbuf⟩ := h
  obtain ⟨new', hout', hbuf'⟩ := h'
  refine ⟨new ++ new', by rw [hout', hout, List.append_assoc], ?_⟩
  rw [← List.append_assoc, hbuf, List.append_assoc, hbuf', List.flatten_append, List.append_assoc]

/-- The records of a flight, from one state of the write side to another. -/
inductive Flight (P : RecordPrims) : HalfConn → List Bytes → Bytes → HalfConn → Prop where
  | nil (hc : HalfConn) : Flight P hc [] [] hc
  | cons {version : UInt16} {m header body b : Bytes} {ms : List Bytes} {hc hc₁ hc₂ : HalfConn}
      (hrecord : Encloses P .handshake version m hc hc₁ header body)
        (hversion : VersionAccepted version.toNat)
      (h : Flight P hc₁ ms b hc₂) : Flight P hc (m :: ms) (header ++ (body ++ b)) hc₂

lemma Flight.current {P : RecordPrims} {hc : HalfConn} {ms : List Bytes}
    (h : Flight P hc ms b hc') : hc'.current = hc.current := by
  induction h with
  | nil => rfl
  | cons hrecord _ _ ih => rw [ih, hrecord.current_eq]

section

variable {P : Prims} {c : Conn} {n : Nat}

lemma send_ok (b : Bytes) (h : ∀ r ∈ c.writeResults, r = none) : Conn.send b c =
    (.ok (), { c with outgoing := c.outgoing ++ [b], writeResults := c.writeResults.tail }) := by
  unfold Conn.send
  cases hresults : c.writeResults with
  | nil => rfl
  | cons r rest =>
    have hr : r = none := h r (by rw [hresults]; exact List.mem_cons_self)
    rw [hr]
    rfl

lemma writeRecord_ok {P : RecordPrims} {payload record rand : Bytes} {hc : HalfConn}
    (hencrypt : HalfConn.encrypt P
      (recordHeader .handshake c.recordVersion payload) payload (c.outHalf, c.rand) =
        (.ok record, hc, rand))
    (h : Sends c n) :
    ∃ c', Conn.writeRecord P .handshake payload c = (.ok (), c') ∧ Puts c c' record ∧
      c'.outHalf = hc ∧ c'.rand = rand ∧
      c'.recordVersion = c.recordVersion ∧ (∀ r ∈ c'.writeResults, r = none) ∧
        (c'.buffering = false → c'.sendBuf = []) := by
  have hseal := sealRecord_eq P .handshake payload c
  rw [hencrypt] at hseal
  have hccs : RecordType.handshake ≠ .changeCipherSpec := by decide
  unfold Conn.writeRecord
  rw [bind_of_ok hseal, if_neg hccs]
  dsimp only
  rw [ask_bind]
  dsimp only
  cases hbuffering : c.buffering with
  | true =>
    rw [if_pos rfl, update_apply]
    refine ⟨_, rfl, ⟨[], (List.append_nil _).symm, rfl⟩, rfl, rfl, rfl, h.writable, ?_⟩
    intro hoff
    cases hoff
  | false =>
    have hempty := h.direct hbuffering
    rw [if_neg Bool.false_ne_true, send_ok _ (by exact h.writable)]
    refine ⟨_, rfl, ⟨[record], rfl, ?_⟩, rfl, rfl, rfl, fun r hr =>
      h.writable r (List.mem_of_mem_tail hr), fun _ => hempty⟩
    dsimp only
    rw [hempty]
    simp

lemma writeHandshakeRecord_ok (hP : Lawful P.toRecordPrims) (m transcript : Bytes)
    (h : Sends c (n + 1)) :
    ∃ header body c', writeHandshakeRecord P (.ok m) transcript c = (.ok (transcript ++ m), c') ∧
      Encloses P.toRecordPrims .handshake c.recordVersion m c.outHalf c'.outHalf header body ∧
      Puts c c' (header ++ body) ∧ Sends c' n := by
  obtain ⟨header, body, hc, rand, hencrypt, hrecord, hstocked⟩ :=
    encrypt_succeeds hP .handshake c.recordVersion m h.stocked
  obtain ⟨c', hwrite, hputs, rfl, rfl, hversion, hwritable, hdirect⟩ := writeRecord_ok hencrypt h
  refine ⟨header, body, c', ?_, hrecord, hputs, hwritable, hdirect,
    by rw [hversion]; exact h.version, hstocked⟩
  rw [writeHandshakeRecord, lift_bind, bind_of_ok hwrite]
  rfl

lemma flush_ok (h : Sends c n) :
    ∃ c', Conn.flush c = (.ok (), c') ∧ Puts c c' [] ∧ c'.outHalf = c.outHalf ∧
    c'.sendBuf = [] ∧ Sends c' n := by
  unfold Conn.flush
  rw [ask_bind]
  by_cases hempty : c.sendBuf = []
  · rw [if_pos hempty]
    refine ⟨c, rfl, ⟨[], (List.append_nil _).symm, by simp⟩, rfl, hempty, h⟩
  · rw [if_neg hempty, update_bind, send_ok _ (by exact h.writable)]
    refine ⟨_, rfl, ⟨[c.sendBuf], rfl, by simp⟩, rfl, rfl, ?_, fun _ => rfl, h.version, h.stocked⟩
    intro r hr
    exact h.writable r (List.mem_of_mem_tail hr)

lemma sendFlight_ok (hP : Lawful P.toRecordPrims) (ms : List Bytes) (h : Sends c (ms.length + n)) :
    ∃ b c', sendFlight P ms c = (.ok (), c') ∧ Flight P.toRecordPrims c.outHalf ms b c'.outHalf ∧
      Puts c c' b ∧ c'.sendBuf = [] ∧ Sends c' n := by
  induction ms generalizing c with
  | nil =>
    rw [List.length_nil, Nat.zero_add] at h
    obtain ⟨c', hflush, hputs, houtHalf, hempty, hsends⟩ := flush_ok h
    refine ⟨[], c', hflush, ?_, hputs, hempty, hsends⟩
    rw [houtHalf]
    exact .nil _
  | cons m ms ih =>
    rw [List.length_cons, Nat.add_right_comm] at h
    obtain ⟨header, body, c₁, hwrite, hrecord, hputs, hsends⟩ := writeHandshakeRecord_ok hP m [] h
    obtain ⟨b, c', hflight, hrest, hputs', hempty, hsends'⟩ := ih hsends
    refine ⟨_, c', ?_, .cons hrecord h.version hrest, ?_, hempty, hsends'⟩
    · rw [sendFlight, bind_of_ok hwrite, hflight]
    · rw [← List.append_assoc]
      exact hputs.trans hputs'

end

/-- Handshake records decrypted to the fragments `fs`; then the read side is at `hc'` and the
transport at `rest`. -/
inductive Delivers (P : RecordPrims) :
    HalfConn → List Arrival → List Bytes → HalfConn → List Arrival → Prop where
  | nil (hc : HalfConn) (a : List Arrival) : Delivers P hc a [] hc a
  | cons {hc hc₁ hc₂ : HalfConn} {a a₁ a₂ : List Arrival} {raw : RawRecord} {f : Bytes}
    {code : UInt8} {fs : List Bytes}
      (hraw : readRawRecord a = (.ok raw, a₁)) (htyp : raw.typ = .handshake)
      (hopen : HalfConn.decrypt P (raw.header ++ raw.body) hc = (.ok (f, code), hc₁))
        (h : Delivers P hc₁ a₁ fs hc₂ a₂) :
      Delivers P hc a (f :: fs) hc₂ a₂

section

variable {P : RecordPrims} {hc hc₁ hc₂ : HalfConn} {a a₁ a₂ : List Arrival} {fs gs : List Bytes}

lemma Delivers.trans (h : Delivers P hc a fs hc₁ a₁) (h' : Delivers P hc₁ a₁ gs hc₂ a₂) :
    Delivers P hc a (fs ++ gs) hc₂ a₂ := by
  induction h with
  | nil => exact h'
  | cons hraw htyp hopen _ ih => exact .cons hraw htyp hopen (ih h')

lemma Delivers.later (h : Delivers P hc a fs hc₁ a₁) (later : List Arrival) :
    Delivers P hc (a ++ later) fs hc₁ (a₁ ++ later) := by
  induction h with
  | nil hc a => exact .nil hc (a ++ later)
  | cons hraw htyp hopen _ ih => exact .cons (readRawRecord_later hraw later) htyp hopen ih

lemma be16_value (n : Nat) :
    (UInt8.ofNat (n / 256)).toNat * 256 + (UInt8.ofNat n).toNat = n % 65536 := by
  simp only [UInt8.toNat_ofNat']
  omega

lemma Encloses.length_field {m : Bytes} (h : Encloses P typ version m hc hc₁ header body) :
    be16At header 3 = body.length % 65536 := by
  rw [h.header_eq]
  exact be16_value body.length

lemma Encloses.version_field {m : Bytes} (h : Encloses P typ version m hc hc₁ header body) :
    be16At header 1 = version.toNat := by
  rw [h.header_eq]
  exact (be16_value version.toNat).trans (Nat.mod_eq_of_lt version.toNat_lt)

lemma Encloses.announces {m : Bytes} (h : Encloses P .handshake version m hc hc₁ header body)
    (hversion : VersionAccepted version.toNat) (hfits : RecordFits hc.current m) :
    Announces header .handshake body.length where
  size := h.header_length
  code := by
    rw [h.header_eq]
    rfl
  version := by
    rw [h.version_field]
    exact hversion
  length := by
    have hsmall := h.length_eq
    simp only [RecordFits, maxPlaintext] at hfits
    rw [h.length_field, Nat.mod_eq_of_lt (by omega)]
  small := by
    rw [h.length_eq]
    exact hfits

lemma Flight.delivers {ms : List Bytes} (h : Flight P hc ms b hc₁) {r : HalfConn} (hr : InSync r hc)
    (ha : Intact a) (hb : octets a = b) (hms : ∀ m ∈ ms, Sendable m)
    (hfits : ∀ m ∈ ms, RecordFits hc.current m) :
    ∃ r' rest, Delivers P r a ms r' rest ∧ InSync r' hc₁ ∧ Intact rest ∧ octets rest = [] := by
  induction h generalizing r a with
  | nil hc => exact ⟨r, a, .nil r a, hr, ha, hb⟩
  | cons hrecord hversion _ ih =>
    obtain ⟨rest, hraw, hrest, hoctets⟩ :=
      readRawRecord_octets ha (hrecord.announces hversion (hfits _ List.mem_cons_self)) hb
    have hsmall := (hms _ List.mem_cons_self).length_le
    obtain ⟨code, r₁, hopen, hr₁⟩ := hrecord.opens r hr (by omega)
    obtain ⟨r', rest', hdelivers, hsync, hquiet⟩ :=
      ih hr₁ hrest hoctets (fun m hm => hms m (List.mem_cons_of_mem _ hm))
      (by rw [hrecord.current_eq]; exact fun m hm => hfits m (List.mem_cons_of_mem _ hm))
    exact ⟨r', rest', .cons hraw rfl hopen hdelivers, hsync, hquiet⟩

end

/-- The octets `b` are buffered or on the way, in what is left of the fragments `fs`. -/
def Brings (P : RecordPrims) (fs : List Bytes) (c : Conn) (b : Bytes) (hc : HalfConn)
    (rest : List Arrival) : Prop :=
  ∃ gs, gs <:+ fs ∧ Delivers P c.inHalf c.incoming gs hc rest ∧ c.hand ++ gs.flatten = b

def readMessages (P : RecordPrims) : Nat → Cmd Err Conn (List Bytes)
  | 0 => pure []
  | n + 1 => do
    let m ← Conn.readHandshake P
    let ms ← readMessages P n
    return m :: ms

variable {raw : RawRecord} {code : UInt8} {want rounds : Nat}

section

variable {P : RecordPrims} {fs : List Bytes} {c : Conn} {hc : HalfConn} {rest : List Arrival}

lemma readRecord_delivered {a : List Arrival} {f : Bytes} {hc : HalfConn}
    (hraw : readRawRecord c.incoming = (.ok raw, a)) (htyp : raw.typ = .handshake)
    (hopen : HalfConn.decrypt P (raw.header ++ raw.body) c.inHalf = (.ok (f, code), hc)) :
    Conn.readRecord P c = (.ok (f, .handshake), { c with incoming := a, inHalf := hc,
                                                         reads := c.reads ++
                                                           [.record .handshake f c.inHalf.current]
                                                             }) := by
  have htransport : Conn.onTransport readRawRecord c = (.ok raw, { c with incoming := a }) := by
    unfold Conn.onTransport Cmd.on
    rw [hraw]
  have hin : Conn.onIn (HalfConn.decrypt P (raw.header ++ raw.body)) { c with incoming := a } =
      (.ok (f, code), { c with incoming := a, inHalf := hc }) := by
    unfold Conn.onIn Cmd.on
    rw [hopen]
  rw [Conn.readRecord, Conn.readRecords, bind_of_ok htransport, htyp, if_neg (by decide),
    Conn.openRecord, ask_bind, bind_of_ok hin, Conn.noteRead, update_bind, htyp]
  rfl

lemma fillHand_brings (hrounds : Conn.weight c.incoming < rounds) (h : Brings P fs c b hc rest)
    (hwant : want ≤ b.length) :
    ∃ c', Conn.fillHand P want rounds c = (.ok (), c') ∧ Brings P fs c' b hc rest ∧
      want ≤ c'.hand.length := by
  induction rounds generalizing c with
  | zero => exact absurd hrounds (Nat.not_lt_zero _)
  | succ rounds ih =>
    unfold Conn.fillHand
    rw [ask_bind]
    by_cases henough : want ≤ c.hand.length
    · rw [if_pos henough]
      exact ⟨c, rfl, h, henough⟩
    · rw [if_neg henough]
      obtain ⟨gs, hsuffix, hdelivers, hb⟩ := h
      cases hdelivers with
      | nil =>
        rw [List.flatten_nil, List.append_nil] at hb
        rw [hb] at henough
        exact absurd hwant henough
      | cons hraw htyp hopen hmore =>
        rw [bind_of_ok (readRecord_delivered hraw htyp hopen)]
        dsimp only
        rw [bind_of_ok (refuse_neg (fun hbad => hbad rfl) _ _), update_bind]
        have hless := readRawRecord_weight hraw
        refine ih (Nat.lt_of_lt_of_le hless (Nat.le_of_lt_succ hrounds)) ⟨_, ?_, hmore, ?_⟩
        · exact (List.suffix_cons _ _).trans hsuffix
        · rw [← hb, List.flatten_cons, List.append_assoc]

lemma fill_brings (h : Brings P fs c b hc rest) (hwant : want ≤ b.length) :
    ∃ c', Conn.fill P want c = (.ok (), c') ∧ Brings P fs c' b hc rest ∧ want ≤ c'.hand.length := by
  rw [Conn.fill, ask_bind]
  exact fillHand_brings (Nat.lt_succ_self _) h hwant

lemma readHandshake_brings {m more : Bytes} (hm : Sendable m)
    (h : Brings P fs c (m ++ more) hc rest) :
    ∃ c', Conn.readHandshake P c = (.ok m, c') ∧ Brings P fs c' more hc rest := by
  have hfour : 4 ≤ m.length := hm.message.1
  obtain ⟨c₁, hfill₁, h₁, hlen₁⟩ := fill_brings h (Nat.le_trans hfour (by simp))
  -- The header has come in with the first four octets.
  obtain ⟨fs₁, hsuffix₁, hdelivers₁, hb₁⟩ := h₁
  have hlength : be24At c₁.hand 1 = be24At m 1 := by
    rw [← be24At_append hlen₁ fs₁.flatten, hb₁, be24At_append hfour]
  have hhead : c₁.hand.headD 0 = m.headD 0 := by
    rw [← headD_append hlen₁ fs₁.flatten, hb₁, headD_append hfour]
  have htotal : 4 + be24At m 1 = m.length := hm.message.2.symm
  have hwant : m.length ≤ (m ++ more).length := by simp
  obtain ⟨c₂, hfill₂, ⟨fs₂, hsuffix₂, hdelivers₂, hb₂⟩, hlen₂⟩ :=
    fill_brings ⟨fs₁, hsuffix₁, hdelivers₁, hb₁⟩ hwant
  have htake : c₂.hand.take m.length = m := by
    have htake := @List.take_left _ m more
    rwa [← hb₂, List.take_append_of_le_length hlen₂] at htake
  have hdrop : c₂.hand.drop m.length ++ fs₂.flatten = more := by
    rw [← List.drop_append_of_le_length hlen₂, hb₂, List.drop_left]
  have hlimit : ¬ Conn.messageLimit (m.headD 0) < be24At m 1 := Nat.not_lt.mpr hm.capped
  refine ⟨{ c₂ with hand := c₂.hand.drop m.length, reads := c₂.reads ++ [.message m] }, ?_, fs₂,
    hsuffix₂, hdelivers₂, hdrop⟩
  unfold Conn.readHandshake
  rw [bind_of_ok hfill₁, ask_bind]
  dsimp only
  rw [hlength, hhead, bind_of_ok (refuse_neg hlimit _ _), htotal, bind_of_ok hfill₂, ask_bind,
    update_bind, htake, Conn.noteRead, update_bind]
  rfl

lemma readMessages_brings {ms : List Bytes} (hms : ∀ m ∈ ms, Sendable m)
    (h : Brings P fs c ms.flatten hc rest) :
    ∃ c', readMessages P ms.length c = (.ok ms, c') := by
  induction ms generalizing c with
  | nil => exact ⟨c, rfl⟩
  | cons m ms ih =>
    obtain ⟨c₁, hread, h₁⟩ := readHandshake_brings (hms m List.mem_cons_self) h
    obtain ⟨c', hrest⟩ := ih (fun m' hm' => hms m' (List.mem_cons_of_mem m hm')) h₁
    refine ⟨c', ?_⟩
    rw [List.length_cons, readMessages, bind_of_ok hread, bind_of_ok hrest]
    rfl

end

/-- The octets that a record has beyond its payload, at least. -/
def toll : Nat := if hc.current = none then 5 else 29

lemma toll_le : toll hc ≤ 29 := by
  unfold toll
  split <;> decide

lemma toll_some {hc : HalfConn} {spec : CipherSpec} (h : hc.current = some spec) :
    toll hc = 29 := by
  rw [toll, h]
  rfl

lemma toll_congr {hc : HalfConn} (h : hc'.current = hc.current) : toll hc' = toll hc := by
  rw [toll, toll, h]

lemma toll_overhead : toll hc ≤ 5 + overhead hc.current := by
  cases hcur : hc.current with
  | none => simp [toll, hcur, overhead]
  | some spec => cases spec <;> simp [toll, hcur, overhead]

lemma bodyLength_lt (n : Nat) : bodyLength hc.current n < n + toll hc + overhead hc.current := by
  obtain ⟨_, hpadding, _⟩ := cbcPadding_pos n
  cases hcur : hc.current with
  | none => simp [toll, hcur, bodyLength, overhead]
  | some spec =>
    cases spec with
    | aead key implicitPrefix => simp [toll, hcur, bodyLength, overhead, gcmOverhead]; omega
    | cbc key macKey => simp [toll, hcur, bodyLength, overhead, macSize, blockSize]; omega

def due (c : Conn) : Nat := (octets c.incoming).length

/-- Handshake octets are buffered at the price of their records. -/
structure Paid (c d : Conn) : Prop where
  intact : Intact d.incoming
  toll_le : toll c.inHalf ≤ toll d.inHalf
  total_le : d.hand.length + due d ≤ c.hand.length + due c
  grown : c.hand.length < d.hand.length →
    d.hand.length + due d + toll c.inHalf ≤ c.hand.length + due c

lemma Paid.trans {c d : Conn} (h : Paid c d) (h' : Paid d e) : Paid c e where
  intact := h'.intact
  toll_le := Nat.le_trans h.toll_le h'.toll_le
  total_le := Nat.le_trans h'.total_le h.total_le
  grown := by
    intro hgrown
    have htotal := h.total_le
    have htotal' := h'.total_le
    have htoll := h.toll_le
    by_cases hfirst : c.hand.length < d.hand.length
    · have := h.grown hfirst
      omega
    · have := h'.grown (by omega)
      omega

variable {u : Unit}

section

variable {P : RecordPrims} {c d : Conn} {payload : Bytes}

lemma decrypt_cost (hP : Lawful P) {hc : HalfConn} (hheader : raw.header.length = recordHeaderLen)
    (h : HalfConn.decrypt P (raw.header ++ raw.body) hc = (.ok (payload, code), hc')) :
    payload.length + overhead hc.current ≤ raw.body.length := by
  have hpaths := decrypt_spec P (raw.header ++ raw.body) hc
  rw [h] at hpaths
  cases hpaths with
  | plain hcur =>
    rw [hcur, List.drop_left' hheader]
    exact Nat.le_refl _
  | opened hcur hopen =>
    rw [hcur]
    exact open_cost hP hheader hopen

lemma readRawRecord_cost (hP : Lawful P) {a rest : List Arrival} {hc : HalfConn} (ha : Intact a)
    (hraw : readRawRecord a = (.ok raw, rest))
    (hopen : HalfConn.decrypt P (raw.header ++ raw.body) hc = (.ok (payload, code), hc')) :
    Intact rest ∧ payload.length + toll hc + (octets rest).length ≤ (octets a).length := by
  obtain ⟨hrest, hoctets, _⟩ := readRawRecord_took ha hraw
  have hheader := (readRawRecord_ok hraw).1
  have hcost := decrypt_cost hP hheader hopen
  have htoll := toll_overhead hc
  refine ⟨hrest, ?_⟩
  simp only [hoctets, List.length_append, hheader, recordHeaderLen]
  omega

lemma readRecord_cost (hP : Lawful P) (hc : Intact c.incoming)
    (h : Conn.readRecord P c = (.ok (payload, .handshake), d)) :
    Intact d.incoming ∧ toll c.inHalf ≤ toll d.inHalf ∧ d.hand = c.hand ∧
      payload.length + toll c.inHalf + due d ≤ due c := by
  obtain ⟨raw, rest, code, hc', hraw, _, hopen, rfl⟩ := readRecord_handshake h
  have htoll : toll hc' = toll c.pastCCS.inHalf := toll_congr (decrypt_specs hopen).1
  dsimp only [due]
  rcases Conn.pastCCS_cases c with hpast | ⟨raw', rest', spec, hraw', _, _, _, hpast⟩
  · rw [hpast] at hraw hopen htoll ⊢
    obtain ⟨hrest, hcost⟩ := readRawRecord_cost hP hc hraw hopen
    exact ⟨hrest, Nat.le_of_eq htoll.symm, rfl, hcost⟩
  · -- The ChangeCipherSpec before it is paid for as well.
    obtain ⟨hrest', hoctets', _⟩ := readRawRecord_took hc hraw'
    have hcurrent : c.pastCCS.inHalf.current = some spec := by rw [hpast]
    have hnew : toll c.pastCCS.inHalf = 29 := toll_some hcurrent
    have hincoming : c.pastCCS.incoming = rest' := by rw [hpast]
    rw [hincoming] at hraw
    obtain ⟨hrest, hcost⟩ := readRawRecord_cost hP hrest' hraw hopen
    have hmax : toll c.inHalf ≤ 29 := toll_le _
    rw [hnew] at htoll hcost
    have hhand : c.pastCCS.hand = c.hand := by rw [hpast]
    refine ⟨hrest, by rw [htoll]; exact hmax, hhand, ?_⟩
    simp only [hoctets', List.length_append]
    omega

lemma fillHand_paid (hP : Lawful P) (hc : Intact c.incoming)
    (h : Conn.fillHand P want rounds c = (.ok u, d)) :
    Paid c d ∧ want ≤ d.hand.length := by
  induction rounds generalizing c with
  | zero => exact absurd h fail_eq_ok
  | succ rounds ih =>
    unfold Conn.fillHand at h
    rw [ask_bind] at h
    split at h
    · rename_i henough
      cases h
      exact ⟨⟨hc, Nat.le_refl _, Nat.le_refl _, fun hgrown => absurd hgrown (Nat.lt_irrefl _)⟩,
        henough⟩
    · obtain ⟨⟨payload, typ⟩, c₁, hread, h⟩ := bind_eq_ok.mp h
      simp only [bind_eq_ok, refuse_eq_ok, update_eq_ok, Classical.not_not] at h
      obtain ⟨_, _, ⟨rfl, rfl⟩, _, _, rfl, hrest⟩ := h
      obtain ⟨hc₁, htoll, hhand, hcost⟩ := readRecord_cost hP hc hread
      have hstep : Paid c { c₁ with hand := c₁.hand ++ payload } := by
        refine ⟨hc₁, htoll, ?_, fun _ => ?_⟩
        · simp only [hhand, List.length_append, due] at hcost ⊢
          omega
        · simp only [hhand, List.length_append, due] at hcost ⊢
          omega
      obtain ⟨hpaid, henough⟩ := ih hstep.intact hrest
      exact ⟨hstep.trans hpaid, henough⟩

lemma fill_paid (hP : Lawful P) (hc : Intact c.incoming) (h : Conn.fill P want c = (.ok u, d)) :
    Paid c d ∧ want ≤ d.hand.length := by
  rw [Conn.fill, ask_bind] at h
  exact fillHand_paid hP hc h

lemma fill_first (hP : Lawful P) (hwant : 0 < want) (hhand : c.hand = []) (hc : Intact c.incoming)
    (h : Conn.fill P want c = (.ok u, d)) :
    ∃ payload c₁, Conn.readRecord P c = (.ok (payload, .handshake), c₁) ∧
      Paid { c₁ with hand := payload } d := by
  rw [Conn.fill, ask_bind] at h
  unfold Conn.fillHand at h
  rw [ask_bind, if_neg (by rw [hhand]; exact Nat.not_le.mpr hwant)] at h
  obtain ⟨⟨payload, typ⟩, c₁, hread, h⟩ := bind_eq_ok.mp h
  simp only [bind_eq_ok, refuse_eq_ok, update_eq_ok, Classical.not_not] at h
  obtain ⟨_, _, ⟨rfl, rfl⟩, _, _, rfl, hrest⟩ := h
  obtain ⟨hc₁, _, hsame, _⟩ := readRecord_cost hP hc hread
  rw [hsame, hhand, List.nil_append] at hrest
  exact ⟨payload, c₁, hread, (fillHand_paid (c := { c₁ with hand := payload }) hP hc₁ hrest).1⟩

/-- A message that is read from its own record alone came in a record that fits. -/
lemma read_fits (hP : Lawful P) {m : Bytes} {hc hc₁ : HalfConn} (hm : Sendable m)
    (hrecord : Encloses P .handshake version m hc hc₁ header body) (hsync : InSync c.inHalf hc)
    (hhand : c.hand = []) (hintact : Intact c.incoming)
    (hoctets : octets c.incoming = header ++ body) (h : Conn.readHandshake P c = (.ok m, d)) :
    RecordFits hc.current m := by
  obtain ⟨c₁, c₂, total, hfill₁, hfill₂, _, hhand₂, _⟩ := readHandshake_parts h
  have hlong : m.length ≤ c₂.hand.length := by
    rw [hhand₂, List.length_append]
    exact Nat.le_add_right _ _
  obtain ⟨payload, e, hread, hpaid₁⟩ := fill_first hP (by decide) hhand hintact hfill₁
  have hpaid := hpaid₁.trans (fill_paid hP hpaid₁.intact hfill₂).1
  obtain ⟨raw, rest, code, hc', hraw, _, hopen, rfl⟩ := readRecord_handshake hread
  -- The first record has the header that was written, so it is no ChangeCipherSpec.
  have hsame {raw : RawRecord} {rest : List Arrival} (hraw : readRawRecord c.incoming =
      (.ok raw, rest)) : raw.header = header ∧ body = raw.body ++ octets rest := by
    obtain ⟨_, htook, _⟩ := readRawRecord_took hintact hraw
    obtain ⟨hheader, hbody⟩ := List.append_inj (hoctets.symm.trans htook)
      (hrecord.header_length.trans (readRawRecord_ok hraw).1.symm)
    exact ⟨hheader.symm, hbody⟩
  have hpast : c.pastCCS = c := by
    rcases Conn.pastCCS_cases c with heq | ⟨raw', rest', _, hraw', htyp', _⟩
    · exact heq
    · have hcode := (readRawRecord_eq_ok.mp hraw').1
      rw [(hsame hraw').1, hrecord.header_eq, htyp'] at hcode
      cases hcode
  rw [hpast] at hraw hopen hpaid
  obtain ⟨hheader, hbody⟩ := hsame hraw
  obtain ⟨_, _, hfield, hsmall⟩ := readRawRecord_took hintact hraw
  have hcost := decrypt_cost hP (readRawRecord_ok hraw).1 hopen
  have hmod : raw.body.length = body.length % 65536 := by
    rw [← hfield, hheader, hrecord.length_field]
  have hlength := hrecord.length_eq
  have htotal : body.length = raw.body.length + (octets rest).length := by
    rw [hbody, List.length_append]
  have hbound := bodyLength_lt hc m.length
  have htoll : toll hc' = toll hc := toll_congr ((decrypt_specs hopen).1.trans hsync.current)
  have hcap := hm.length_le
  rw [hsync.current] at hcost
  by_cases hgrown : payload.length < c₂.hand.length
  · -- More records than one would have to be paid for out of one body.
    have hpaid := hpaid.grown hgrown
    dsimp only [due] at hpaid
    omega
  · -- Otherwise the first record holds the message, and its length field did not wrap.
    have hmax := toll_le hc
    unfold RecordFits
    simp only [maxPlaintext] at hsmall ⊢
    omega

end

/-- A way to cut what is sent into the reads of the receiver. -/
structure Cutting where
  pieces : Bytes → List Bytes
  whole : ∀ b, (pieces b).flatten = b

def Cutting.arrivals (cut : Cutting) (b : Bytes) : List Arrival := (cut.pieces b).map .bytes

/-- The sender sends the next `n` messages, cut into pieces, or the receiver reads one. -/
inductive Turn where
  | send (n : Nat) (cut : Cutting)
  | read

def arrive (a : List Arrival) (c : Conn) : Conn := { c with incoming := c.incoming ++ a }

def sentBetween (c c' : Conn) : Bytes := (c'.outgoing.drop c.outgoing.length).flatten

/-- Every flight is sent, and every message is read as the one sent in its place. -/
def play (P : Prims) : List Turn → List Bytes → List Bytes → Link → Prop
  | [], _, _, _ => True
  | .send n cut :: turns, toSend, unread, l => ∃ sender, sendFlight P (toSend.take n) l.sender =
    (.ok (), sender) ∧ play P turns (toSend.drop n) (unread ++ toSend.take n)
      ⟨sender, arrive (cut.arrivals (sentBetween l.sender sender)) l.receiver⟩
  | .read :: turns, toSend, [], l => play P turns toSend [] l
  | .read :: turns, toSend, m :: unread, l => ∃ receiver,
    Conn.readHandshake P.toRecordPrims l.receiver = (.ok m, receiver) ∧
      play P turns toSend unread { l with receiver := receiver }

def Transported (P : Prims) (l : Link) (ms : List Bytes) : Prop := ∀ turns, play P turns ms [] l

/-- Nothing is between the ends, and the sender can send `n` records. -/
structure Linked (l : Link) (n : Nat) : Prop where
  sends : Sends l.sender n
  flushed : l.sender.sendBuf = []
  sync : InSync l.receiver.inHalf l.sender.outHalf
  unbuffered : l.receiver.hand = []
  intact : Intact l.receiver.incoming
  quiet : octets l.receiver.incoming = []

/-- The messages `unread` are on their way, and `n` records can still be sent. -/
structure InFlight (P : RecordPrims) (n : Nat) (unread : List Bytes) (l : Link) : Prop where
  sends : Sends l.sender n
  flushed : l.sender.sendBuf = []
  brings : ∃ fs hc rest, (∀ f ∈ fs, f ≠ []) ∧ Brings P fs l.receiver unread.flatten hc rest ∧
    InSync hc l.sender.outHalf ∧ Intact rest ∧ octets rest = []

lemma Cutting.arrivals_intact (cut : Cutting) (b : Bytes) : Intact (cut.arrivals b) := by
  intro x hx
  obtain ⟨piece, _, rfl⟩ := List.mem_map.mp hx
  exact ⟨piece, rfl⟩

lemma Cutting.arrivals_octets (cut : Cutting) (b : Bytes) : octets (cut.arrivals b) = b := by
  have hmap : ∀ pieces : List Bytes, octets (pieces.map .bytes) = pieces.flatten := by
    intro pieces
    induction pieces with
    | nil => rfl
    | cons piece pieces ih => simp [octets, ih]
  rw [Cutting.arrivals, hmap, cut.whole]

lemma Puts.sentBetween {c c' : Conn} (h : Puts c c' b) (hbefore : c.sendBuf = [])
    (hafter : c'.sendBuf = []) :
    sentBetween c c' = b := by
  obtain ⟨new, hout, hbuf⟩ := h
  rw [Tlcp.sentBetween, hout, List.drop_left]
  simpa [hbefore, hafter] using hbuf.symm

section

variable {P : Prims} {l : Link} {n : Nat} {unread ms : List Bytes} {m : Bytes}

lemma Linked.inFlight (h : Linked l n) : InFlight P.toRecordPrims n [] l where
  sends := h.sends
  flushed := h.flushed
  brings := ⟨[], _, _, nofun,
    ⟨[], List.suffix_rfl, .nil _ _, by rw [h.unbuffered]; rfl⟩, h.sync, h.intact, h.quiet⟩

lemma InFlight.linked (h : InFlight P.toRecordPrims n [] l) : Linked l n := by
  obtain ⟨fs, hc, rest, hfs, ⟨gs, hsuffix, hdelivers, hb⟩, hsync, hintact, hquiet⟩ := h.brings
  obtain ⟨hhand, hflat⟩ := List.append_eq_nil_iff.mp hb
  -- A fragment that is left would not be empty.
  have hgs : gs = [] := by
    cases gs with
    | nil => rfl
    | cons f gs =>
      have hf : f = [] := List.flatten_eq_nil_iff.mp hflat f List.mem_cons_self
      exact absurd hf (hfs f (hsuffix.subset List.mem_cons_self))
  subst hgs
  cases hdelivers
  exact ⟨h.sends, h.flushed, hsync, hhand, hintact, hquiet⟩

lemma InFlight.send (hP : Lawful P.toRecordPrims) (cut : Cutting)
    (h : InFlight P.toRecordPrims (ms.length + n) unread l) (hms : ∀ m ∈ ms, Sendable m)
    (hfits : ∀ m ∈ ms, RecordFits l.sender.outHalf.current m) :
    ∃ sender, sendFlight P ms l.sender = (.ok (), sender) ∧
      sender.outHalf.current = l.sender.outHalf.current ∧
      InFlight P.toRecordPrims n
        (unread ++ ms) ⟨sender,
          arrive (cut.arrivals (sentBetween l.sender sender)) l.receiver⟩ := by
  obtain ⟨b, sender, hsend, hflight, hputs, hflushed, hsends⟩ := sendFlight_ok hP ms h.sends
  refine ⟨sender, hsend, hflight.current, hsends, hflushed, ?_⟩
  rw [hputs.sentBetween h.flushed hflushed]
  obtain ⟨fs, hc, rest, hfs, ⟨gs, hsuffix, hdelivers, hb⟩, hsync, hintact, hquiet⟩ := h.brings
  have hoctets : octets (rest ++ cut.arrivals b) = b := by
    rw [octets_append, hquiet, cut.arrivals_octets, List.nil_append]
  obtain ⟨hc', rest', hnew, hsync', hquiet'⟩ :=
    hflight.delivers hsync (hintact.append (cut.arrivals_intact b)) hoctets hms hfits
  refine ⟨gs ++ ms, hc', rest', ?_, ⟨gs ++ ms, List.suffix_rfl, (hdelivers.later _).trans hnew, ?_⟩,
    hsync', hquiet'⟩
  · intro f hf
    rcases List.mem_append.mp hf with hf | hf
    · exact hfs f (hsuffix.subset hf)
    · exact messages_selfDelimiting.nonempty f (hms f hf).message
  · rw [List.flatten_append, List.flatten_append, ← List.append_assoc]
    exact congrArg (· ++ ms.flatten) hb

lemma InFlight.read (h : InFlight P.toRecordPrims n (m :: unread) l) (hm : Sendable m) :
    ∃ receiver, Conn.readHandshake P.toRecordPrims l.receiver = (.ok m, receiver) ∧
      InFlight P.toRecordPrims n unread { l with receiver := receiver } := by
  obtain ⟨fs, hc, rest, hfs, hbrings, hquiet⟩ := h.brings
  obtain ⟨receiver, hread, hbrings'⟩ := readHandshake_brings hm hbrings
  exact ⟨receiver, hread, h.sends, h.flushed, fs, hc, rest, hfs, hbrings', hquiet⟩

lemma InFlight.plays (hP : Lawful P.toRecordPrims) (turns : List Turn) {toSend : List Bytes}
    (h : InFlight P.toRecordPrims toSend.length unread l) (hsend : ∀ m ∈ toSend, Sendable m)
    (hunread : ∀ m ∈ unread, Sendable m)
    (hfits : ∀ m ∈ toSend, RecordFits l.sender.outHalf.current m) :
    play P turns toSend unread l := by
  induction turns generalizing toSend unread l with
  | nil => trivial
  | cons turn turns ih =>
    cases turn with
    | send n cut =>
      have hcount : (toSend.take n).length + (toSend.drop n).length = toSend.length := by
        rw [← List.length_append, List.take_append_drop]
      rw [← hcount] at h
      have hfirst : ∀ m ∈ toSend.take n, Sendable m := fun m hm => hsend m (List.mem_of_mem_take hm)
      obtain ⟨sender, hsent, hcurrent, hnext⟩ :=
        h.send hP cut hfirst fun m hm => hfits m (List.mem_of_mem_take hm)
      refine ⟨sender, hsent, ih hnext (fun m hm => hsend m (List.mem_of_mem_drop hm)) ?_ ?_⟩
      · intro m hm
        rcases List.mem_append.mp hm with hm | hm
        · exact hunread m hm
        · exact hfirst m hm
      · intro m hm
        dsimp only
        rw [hcurrent]
        exact hfits m (List.mem_of_mem_drop hm)
    | read =>
      cases unread with
      | nil => exact ih h hsend hunread hfits
      | cons m unread =>
        obtain ⟨receiver, hread, hnext⟩ := h.read (hunread m List.mem_cons_self)
        exact ⟨receiver, hread,
          ih hnext hsend (fun m' hm' => hunread m' (List.mem_cons_of_mem m hm')) hfits⟩

def uncut : Cutting := ⟨fun b => [b], fun b => List.append_nil b⟩

lemma Linked.fits (hP : Lawful P.toRecordPrims) (h : Linked l (n + 1)) (hm : Sendable m)
    (hplay : play P [.send 1 uncut, .read] (m :: ms) [] l) :
    RecordFits l.sender.outHalf.current m := by
  obtain ⟨sender, hsent, receiver, hread, _⟩ := hplay
  obtain ⟨b, sender', hsend, hflight, hputs, hflushed, _⟩ :=
    sendFlight_ok hP [m] (n := n) (by rw [List.length_singleton, Nat.add_comm]; exact h.sends)
  cases hsend.symm.trans hsent
  rw [hputs.sentBetween h.flushed hflushed] at hread
  cases hflight with
  | @cons version _ header body _ _ _ _ _ hrecord _ hnone =>
    cases hnone
    rw [List.append_nil] at hread
    have hoctets : octets (l.receiver.incoming ++ uncut.arrivals (header ++ body)) = header ++
      body := by
      rw [octets_append, h.quiet, uncut.arrivals_octets, List.nil_append]
    have hintact := h.intact.append (uncut.arrivals_intact (header ++ body))
    exact read_fits (c := arrive (uncut.arrivals (header ++ body)) l.receiver) hP hm hrecord h.sync
      h.unbuffered hintact hoctets hread

lemma Linked.all_fit (hP : Lawful P.toRecordPrims) (h : Linked l ms.length)
    (hms : ∀ m ∈ ms, Sendable m) (ht : Transported P l ms) :
    ∀ m ∈ ms, RecordFits l.sender.outHalf.current m := by
  induction ms generalizing l with
  | nil => exact nofun
  | cons m ms ih =>
    have hm : Sendable m := hms m List.mem_cons_self
    have hone : ∀ m' ∈ [m], Sendable m' := by simpa using hm
    have hfirst := h.fits hP hm (ht _)
    -- Once the first message is through, the link is as it was before.
    have hcount : [m].length + ms.length = (m :: ms).length := Nat.add_comm _ _
    have hflight : InFlight P.toRecordPrims ([m].length + ms.length) [] l := by
      rw [hcount]
      exact h.inFlight
    obtain ⟨sender, hsent, hcurrent, hnext⟩ := hflight.send hP uncut hone (by simpa using hfirst)
    obtain ⟨receiver, hread, hnext⟩ := hnext.read hm
    have hrest : Transported P ⟨sender, receiver⟩ ms := by
      intro turns
      obtain ⟨sender', hsent', receiver', hread', hplay⟩ := ht (.send 1 uncut :: .read :: turns)
      cases hsent.symm.trans hsent'
      cases hread.symm.trans hread'
      exact hplay
    have htail := ih hnext.linked (fun m' hm' => hms m' (List.mem_cons_of_mem m hm')) hrest
    intro m' hm'
    rcases List.mem_cons.mp hm' with rfl | hm'
    · exact hfirst
    · rw [← hcurrent]
      exact htail m' hm'

end

/-- Handshake messages come through every run exactly if the record of each of them fits, and the
receiver puts them together from whatever records they come in. -/
theorem transported_iff_records_fit (P : Prims) (hP : Lawful P.toRecordPrims) (l : Link)
    (ms : List Bytes) (hl : Linked l ms.length) (hms : ∀ m ∈ ms, Sendable m) :
    (Transported P l ms ↔ ∀ m ∈ ms, RecordFits l.sender.outHalf.current m) ∧
      ∀ c fs hc rest, Delivers P.toRecordPrims c.inHalf c.incoming fs hc rest → c.hand = [] →
        fs.flatten = ms.flatten →
        ∃ c', readMessages P.toRecordPrims ms.length c = (.ok ms, c') := by
  refine ⟨⟨hl.all_fit hP hms, fun hfits turns => ?_⟩, ?_⟩
  · exact hl.inFlight.plays hP turns hms (nofun) hfits
  · intro c fs hc rest hdelivers hhand hflat
    refine readMessages_brings hms ⟨fs, List.suffix_rfl, hdelivers, ?_⟩
    rw [hhand, List.nil_append, hflat]

lemma toyTag_length {n : Nat} (h : 4 ≤ n) (b : Bytes) : (toyTag n b).length = n := by
  rw [toyTag, List.length_append, be32_length, zeros_length]
  omega

lemma toyRecordPrims_lawful : Lawful toyRecordPrims where
  hmac_length _ _ := toyTag_length (by decide) _
  gcm_opens key nonce plaintext ad := by
    have hlen : (plaintext ++ toyTag 16 (key ++ nonce ++ plaintext ++ ad)).length - 16 =
      plaintext.length := by
      rw [List.length_append, toyTag_length (by decide), Nat.add_sub_cancel]
    simp only [toyRecordPrims, hlen, List.take_left, List.drop_left]
    rfl
  gcm_length _ _ _ _ := by
    simp only [toyRecordPrims, List.length_append,
      toyTag_length (Nat.le_of_ble_eq_true rfl : 4 ≤ 16), gcmOverhead]
  gcm_opened key nonce ct ad plaintext h := by
    simp only [toyRecordPrims] at h
    split at h
    · rename_i htag
      cases h
      have hlen := congrArg List.length htag
      rw [List.length_drop, toyTag_length (by decide)] at hlen
      rw [List.length_take, gcmOverhead]
      omega
    · cases h
  cbc_decrypts _ _ _ _ _ _ := rfl
  cbc_length _ _ _ := rfl
  cbc_decrypted _ _ _ := rfl

lemma linked_of_same {l : Link} {n : Nat} (hwritable : l.sender.writeResults = [])
    (hflushed : l.sender.sendBuf = []) (hversion : VersionAccepted l.sender.recordVersion.toNat)
    (hstocked : Stocked l.sender.outHalf l.sender.rand n)
    (hsync : l.receiver.inHalf = l.sender.outHalf) (hhand : l.receiver.hand = [])
    (hincoming : l.receiver.incoming = []) :
    Linked l n where
  sends := ⟨by simp [hwritable], fun _ => hflushed, hversion, hstocked⟩
  flushed := hflushed
  sync := ⟨by rw [hsync], fun _ => by rw [hsync]⟩
  unbuffered := hhand
  intact := by
    rw [hincoming]
    exact nofun
  quiet := by
    rw [hincoming]
    rfl

def sampleMessages : List Bytes := [[14, 0, 0, 0], [20, 0, 0, 1, 7]]

theorem transported_iff_records_fit_sample :
    Transported toyTlcpPrims sampleLink sampleMessages := by
  have hstocked : Stocked (Conn.established []).outHalf [] 2 := by
    refine ⟨fun _ => ?_, ?_⟩
    · have hzero : (Conn.established []).outHalf.seq.value = 0 := Counter.zero_value 8
      rw [hzero]
      decide
    · intro key macKey h
      cases h
  have hlinked : Linked sampleLink sampleMessages.length :=
    linked_of_same rfl rfl (fun h => h.1 rfl) hstocked rfl rfl rfl
  have hms : ∀ m ∈ sampleMessages, Sendable m := by
    intro m hm
    simp only [sampleMessages, List.mem_cons, List.not_mem_nil, or_false] at hm
    rcases hm with rfl | rfl
    · exact ⟨⟨by decide, by decide⟩, by decide⟩
    · exact ⟨⟨by decide, by decide⟩, by decide⟩
  refine (transported_iff_records_fit toyTlcpPrims toyRecordPrims_lawful sampleLink sampleMessages
    hlinked hms).1.mpr ?_
  intro m hm
  simp only [sampleMessages, List.mem_cons, List.not_mem_nil, or_false] at hm
  unfold RecordFits
  rcases hm with rfl | rfl <;> decide

def freshLink : Link := ⟨newTLCPConn false [] [] [], newTLCPConn true [] [] []⟩

def longCertificate : Bytes := [11, 0, 0x48, 0] ++ zeros 18432

lemma longCertificate_length : longCertificate.length = 18436 := by
  rw [longCertificate, List.length_append, zeros_length]
  rfl

/-- The message is well within the limit of the receiver, but its record is too large. -/
theorem long_certificate_lost :
    Linked freshLink 1 ∧ Sendable longCertificate ∧
      ¬ Transported toyTlcpPrims freshLink [longCertificate] := by
  have hstocked : Stocked HalfConn.fresh [] 1 := by
    refine ⟨fun h => absurd rfl h, ?_⟩
    intro key macKey h
    cases h
  have hlinked : Linked freshLink 1 :=
    linked_of_same rfl rfl (fun h => h.1 rfl) hstocked rfl rfl rfl
  have hfour : 4 ≤ longCertificate.length := by
    rw [longCertificate_length]
    decide
  have hsize : be24At longCertificate 1 = 18432 := rfl
  have hsendable : Sendable longCertificate := by
    refine ⟨⟨hfour, by rw [hsize, longCertificate_length]⟩, ?_⟩
    rw [hsize]
    decide
  refine ⟨hlinked, hsendable, fun htransported => ?_⟩
  have hfits := hlinked.all_fit (P := toyTlcpPrims) toyRecordPrims_lawful
    (by simpa using hsendable) htransported longCertificate List.mem_cons_self
  have hlong : bodyLength freshLink.sender.outHalf.current longCertificate.length = 18436 :=
    longCertificate_length
  rw [RecordFits, hlong] at hfits
  exact absurd hfits (by decide)

end Pollux.Tlcp
