import PolluxGM.Framing
import PolluxGM.TlcpFrames
import PolluxGM.TlcpStream

/-!
# The protection of Finished

The ChangeCipherSpec of the peer is applied inside `readRecord`, while a driver only asks for the
next handshake message. The order of the two is derived from what comes in.
-/
namespace Pollux.Tlcp

open TlcpStream

variable {P : Prims}

def payloadOf : ReadEvent → Bytes
  | .record .handshake payload _ => payload
  | _ => []

def messageOf : ReadEvent → Bytes
  | .message data => data
  | _ => []

def isChange : ReadEvent → Bool
  | .changed _ => true
  | _ => false

def IsMessage (data : Bytes) : Prop := 4 ≤ data.length ∧ data.length = 4 + be24At data 1

lemma be24At_append (h : 4 ≤ data.length) (r : Bytes) : be24At (data ++ r) 1 = be24At data 1 := by
  match data, h with
  | _ :: _ :: _ :: _ :: _, _ => rfl

lemma messages_selfDelimiting : SelfDelimiting IsMessage where
  nonempty := by
    intro x hx hnil
    subst hnil
    cases hx.1
  unique := by
    intro x y r s hx hy heq
    have hlen : x.length = y.length := by
      rw [hx.2, hy.2, ← be24At_append hx.1 r, heq, be24At_append hy.1 s]
    exact (List.append_inj heq hlen).1

/-- Handshake records in a row, taken as plaintext. -/
inductive PlainRecords : List Arrival → Bytes → List Arrival → Prop where
  | none (a : List Arrival) : PlainRecords a [] a
  | more {a rest b : List Arrival} {raw : RawRecord} {bs : Bytes}
    (hraw : readRawRecord a = (.ok raw, rest))
      (htyp : raw.typ = .handshake) (h : PlainRecords rest bs b) : PlainRecords a (raw.body ++ bs) b

variable {a b : List Arrival} {bs : Bytes} {raw : RawRecord}

lemma PlainRecords.snoc (h : PlainRecords a bs b) (hraw : readRawRecord b = (.ok raw, rest))
    (htyp : raw.typ = .handshake) : PlainRecords a (bs ++ raw.body) rest := by
  induction h with
  | none a => simpa using PlainRecords.more hraw htyp (.none rest)
  | more hraw' htyp' _ ih =>
    rw [List.append_assoc]
    exact .more hraw' htyp' (ih hraw)

lemma PlainRecords.initial (h : PlainRecords a bs b) (hd : PlainRecords a ds d)
    (hraw : readRawRecord d = (.ok raw, rest)) (htyp : raw.typ = .changeCipherSpec) :
    ∃ more, ds = bs ++ more ∧ PlainRecords b more d := by
  induction h generalizing ds with
  | none a => exact ⟨ds, rfl, hd⟩
  | more hraw' htyp' _ ih =>
    cases hd with
    | none =>
      rw [hraw'] at hraw
      cases hraw
      rw [htyp'] at htyp
      cases htyp
    | more hraw'' _ hrest =>
      rw [hraw'] at hraw''
      cases hraw''
      obtain ⟨more, rfl, hmore⟩ := ih hrest
      exact ⟨more, (List.append_assoc _ _ _).symm, hmore⟩

/-- Whole handshake messages, none of them a Finished, and then a ChangeCipherSpec. -/
def WholeBeforeChange (incoming : List Arrival) : Prop :=
  ∃ (ms : List Bytes) (rest : List Arrival) (raw : RawRecord)
    (rest' : List Arrival),
  PlainRecords incoming ms.flatten rest ∧
    (∀ m ∈ ms, IsMessage m ∧ m.headD 0 ≠ MessageType.finished) ∧
    readRawRecord rest = (.ok raw, rest') ∧ raw.typ = .changeCipherSpec

/-- One ChangeCipherSpec was applied after the keys were staged, when no octet of a message was
waiting, and every record after it up to the Finished was decrypted under the staged spec. -/
def FinishedProtected (reads : List ReadEvent) : Prop := ∃ before between after spec fin,
  reads = before ++ .staged spec :: between ++ .changed spec :: after ++ [.message fin] ∧
    fin.headD 0 = MessageType.finished ∧
    (before ++ between).flatMap payloadOf = (before ++ between).flatMap messageOf ∧
    (∀ e ∈ before ++ between ++ after, isChange e = false) ∧
    ∀ e ∈ after, ∃ payload, e = .record .handshake payload (some spec)

variable (start : List Arrival)

/-- Everything so far came in plaintext: the messages `ms`, and what is buffered. -/
structure Plain (ms : List Bytes) (s : ReadSide) : Prop where
  current : s.inHalf.current = none
  wire : PlainRecords start (ms.flatten ++ s.hand) s.incoming
  payloads : s.reads.flatMap payloadOf = ms.flatten ++ s.hand
  messages : s.reads.flatMap messageOf = ms.flatten
  whole : ∀ m ∈ ms, IsMessage m
  unchanged : ∀ e ∈ s.reads, isChange e = false

/-- The keys changed after `pre`, when `left` was buffered; `post` followed. -/
structure Changed (ms : List Bytes) (spec : CipherSpec) (left : Bytes) (pre post : List ReadEvent)
    (s : ReadSide) : Prop where
  current : s.inHalf.current = some spec
  next : s.inHalf.next = none
  wire : ∃ rest raw rest', PlainRecords start (ms.flatten ++ left) rest ∧ readRawRecord rest =
    (.ok raw, rest') ∧ raw.typ = .changeCipherSpec
  reads : s.reads = pre ++ .changed spec :: post
  payloads : pre.flatMap payloadOf = ms.flatten ++ left
  messages : pre.flatMap messageOf = ms.flatten
  whole : ∀ m ∈ ms, IsMessage m
  unchanged : ∀ e ∈ pre, isChange e = false
  hand : s.hand = left ++ post.flatMap payloadOf
  underSpec : ∀ e ∈ post, ∃ payload, e = .record .handshake payload (some spec)

/-- The read side while it waits for a message with a staged spec. -/
inductive Filling (start : List Arrival) (ms : List Bytes) (next : Option CipherSpec)
    (base : List ReadEvent) (s : ReadSide) : Prop where
  | plain (h : Plain start ms s) (hnext : s.inHalf.next = next)
    (hreads : ∃ between, s.reads = base ++ between)
  | changed {spec : CipherSpec} {left : Bytes} {between post : List ReadEvent}
      (hnext : next = some spec) (h : Changed start ms spec left (base ++ between) post s)

variable {hc hc' : HalfConn} {code : UInt8}

lemma decrypt_plain {P : RecordPrims} {payload : Bytes} (hlen : raw.header.length = recordHeaderLen)
    (hcur : hc.current = none)
    (h : HalfConn.decrypt P (raw.header ++ raw.body) hc = (.ok (payload, code), hc')) :
    payload = raw.body ∧ hc' = hc := by
  have hpaths := decrypt_spec P (raw.header ++ raw.body) hc
  rw [h] at hpaths
  cases hpaths with
  | plain => exact ⟨by rw [← hlen, List.drop_left], rfl⟩
  | opened hspec => cases hcur.symm.trans hspec

lemma decrypt_specs {P : RecordPrims} {record : Bytes} {payload : Bytes}
    (h : HalfConn.decrypt P record hc = (.ok (payload, code), hc')) :
    hc'.current = hc.current ∧ hc'.next = hc.next := by
  have hpaths := decrypt_spec P record hc
  rw [h] at hpaths
  cases hpaths <;> exact ⟨rfl, rfl⟩

lemma readRecord_handshake {P : RecordPrims} {c c' : Conn} {payload : Bytes}
    (h : Conn.readRecord P c = (.ok (payload, .handshake), c')) :
    ∃ raw rest code hc, readRawRecord c.pastCCS.incoming = (.ok raw, rest) ∧ raw.typ = .handshake ∧
      HalfConn.decrypt P (raw.header ++ raw.body) c.pastCCS.inHalf = (.ok (payload, code), hc) ∧
      c' = { c.pastCCS with incoming := rest, inHalf := hc,
                            reads := c.pastCCS.reads ++
                              [.record .handshake payload c.pastCCS.inHalf.current] } := by
  have hpaths := Conn.readRecord_spec P c
  rw [h] at hpaths
  generalize hr : (Except.ok (payload, RecordType.handshake), c') = r at hpaths
  cases hpaths with
  | @record raw rest payload' code hc hraw _ _ hopen =>
    simp only [Prod.mk.injEq, Except.ok.injEq] at hr
    obtain ⟨⟨rfl, htyp⟩, rfl⟩ := hr
    exact ⟨raw, rest, code, hc, hraw, htyp.symm, hopen, by rw [htyp]⟩
  | _ => cases hr

lemma readRecord_hand {P : RecordPrims} {c d : Conn} {payload : Bytes}
    (h : Conn.readRecord P c = (.ok (payload, .handshake), d)) : d.hand = c.hand := by
  obtain ⟨raw, rest, code, hc, _, _, _, rfl⟩ := readRecord_handshake h
  rcases Conn.pastCCS_cases c with hpast | ⟨_, _, _, _, _, _, _, hpast⟩
  · rw [hpast]
  · rw [hpast]

variable {want : Nat} {u : Unit}

lemma fill_rule {P : RecordPrims} {I : Conn → Prop}
    (hrecord : ∀ c payload d, I c → Conn.readRecord P c = (.ok (payload, .handshake), d) →
      I { d with hand := d.hand ++ payload })
    {c d : Conn} (h : I c) (hfill : Conn.fill P want c = (.ok u, d)) :
    I d ∧ want ≤ d.hand.length := by
  rw [Conn.fill, ask_bind] at hfill
  generalize Conn.weight c.incoming + 1 = rounds at hfill
  induction rounds generalizing c with
  | zero => exact absurd hfill fail_eq_ok
  | succ rounds ih =>
    unfold Conn.fillHand at hfill
    rw [ask_bind] at hfill
    split at hfill
    · rename_i henough
      cases hfill
      exact ⟨h, henough⟩
    · obtain ⟨⟨payload, typ⟩, c₁, hread, hfill⟩ := bind_eq_ok.mp hfill
      simp only [bind_eq_ok, refuse_eq_ok, update_eq_ok, Classical.not_not] at hfill
      obtain ⟨_, _, ⟨rfl, rfl⟩, _, _, rfl, hrest⟩ := hfill
      exact ih (hrecord _ _ _ h hread) hrest

lemma fill_extends {P : RecordPrims} {c d : Conn} (h : Conn.fill P want c = (.ok u, d)) :
    c.hand <+: d.hand ∧ want ≤ d.hand.length := by
  refine fill_rule (I := fun d => c.hand <+: d.hand) (fun d payload e hinitial hread =>
    ?_) List.prefix_rfl h
  rw [readRecord_hand hread]
  exact hinitial.trans (List.prefix_append _ _)

lemma readHandshake_parts {P : RecordPrims} {data : Bytes} {c d : Conn}
    (h : Conn.readHandshake P c = (.ok data, d)) :
    ∃ c₁ c₂ total, Conn.fill P 4 c = (.ok (), c₁) ∧ Conn.fill P total c₁ = (.ok (), c₂) ∧
      IsMessage data ∧
      c₂.hand = data ++ d.hand ∧ d =
        { c₂ with hand := d.hand, reads := c₂.reads ++ [.message data] } := by
  unfold Conn.readHandshake at h
  obtain ⟨_, c₁, hfill₁, h⟩ := bind_eq_ok.mp h
  rw [ask_bind] at h
  obtain ⟨_, _, hrefuse, h⟩ := bind_eq_ok.mp h
  obtain ⟨_, rfl⟩ := refuse_eq_ok.mp hrefuse
  obtain ⟨_, c₂, hfill₂, h⟩ := bind_eq_ok.mp h
  simp only [Conn.noteRead, bind_eq_ok, ask_eq_ok, update_eq_ok, pure_eq_ok] at h
  obtain ⟨_, _, ⟨rfl, rfl⟩, _, _, rfl, _, _, rfl, rfl, rfl⟩ := h
  refine ⟨c₁, c₂, _, hfill₁, hfill₂, ?_, (List.take_append_drop _ _).symm, rfl⟩
  -- The header has not changed since its length field was read.
  have hlen₁ := (fill_extends hfill₁).2
  obtain ⟨⟨more, hmore⟩, hlen₂⟩ := fill_extends hfill₂
  have hlength : (c₂.hand.take (4 + be24At c₁.hand 1)).length = 4 + be24At c₁.hand 1 := by
    rw [List.length_take]
    exact Nat.min_eq_left hlen₂
  have hfour : 4 ≤ (c₂.hand.take (4 + be24At c₁.hand 1)).length := by
    rw [hlength]
    exact Nat.le_add_right _ _
  refine ⟨hfour, ?_⟩
  have hsame : be24At c₂.hand 1 = be24At c₁.hand 1 := by rw [← hmore, be24At_append hlen₁]
  rw [hlength, ← be24At_append hfour (c₂.hand.drop (4 + be24At c₁.hand 1)), List.take_append_drop,
    hsame]

variable {pre : List ReadEvent}

section

variable {start : List Arrival} {ms : List Bytes} {next : Option CipherSpec} {base : List ReadEvent}
  {c d : Conn} {payload : Bytes}

lemma Plain.record {P : RecordPrims} {rest : List Arrival} (h : Plain start ms (readSide c))
    (hraw : readRawRecord c.incoming = (.ok raw, rest)) (htyp : raw.typ = .handshake)
    (hopen : HalfConn.decrypt P (raw.header ++ raw.body) c.inHalf = (.ok (payload, code), hc)) :
    hc = c.inHalf ∧ Plain start ms
      ⟨rest, hc, c.hand ++ payload, c.reads ++ [.record .handshake payload none]⟩ := by
  obtain ⟨rfl, rfl⟩ := decrypt_plain (readRawRecord_ok hraw).1 h.current hopen
  refine ⟨rfl, { h with wire := ?_, payloads := ?_, messages := ?_, unchanged := ?_ }⟩
  · rw [← List.append_assoc]
    exact h.wire.snoc hraw htyp
  · rw [List.flatMap_append, ← List.append_assoc]
    exact congrArg₂ (· ++ ·) h.payloads (by simp [payloadOf])
  · rw [List.flatMap_append]
    exact (List.append_nil _).trans h.messages
  · exact forall_mem_snoc.mpr ⟨h.unchanged, rfl⟩

lemma Changed.record {P : RecordPrims} (rest : List Arrival) {spec : CipherSpec} {left : Bytes}
    {post : List ReadEvent} (h : Changed start ms spec left pre post (readSide c))
    (hopen : HalfConn.decrypt P (raw.header ++ raw.body) c.inHalf = (.ok (payload, code), hc)) :
    Changed start ms spec left pre (post ++ [.record .handshake payload (some spec)])
      ⟨rest, hc, c.hand ++ payload, c.reads ++ [.record .handshake payload (some spec)]⟩ := by
  obtain ⟨hcur, hnext⟩ := decrypt_specs hopen
  refine { h with current := hcur.trans h.current, next := hnext.trans h.next, reads := ?_
                  hand := ?_, underSpec := ?_ }
  · rw [← List.cons_append, ← List.append_assoc]
    exact congrArg (· ++ _) h.reads
  · rw [List.flatMap_append, ← List.append_assoc]
    exact congrArg₂ (· ++ ·) h.hand (by simp [payloadOf])
  · exact forall_mem_snoc.mpr ⟨h.underSpec, payload, rfl⟩

lemma pastCCS_unstaged (h : c.inHalf.next = none) : c.pastCCS = c := by
  rcases Conn.pastCCS_cases c with heq | ⟨_, _, _, _, _, _, hnext, _⟩
  · exact heq
  · cases h.symm.trans hnext

lemma Plain.change (spec : CipherSpec) (h : Plain start ms (readSide c))
    (hraw : readRawRecord c.incoming = (.ok raw, rest)) (htyp : raw.typ = .changeCipherSpec) :
    Changed start ms spec c.hand c.reads []
      ⟨rest, { c.inHalf with
        current := some spec, next := none, seq := Pollux.Counter.zero 8 }, c.hand,
        c.reads ++ [.changed spec]⟩ where
  current := rfl
  next := rfl
  wire := ⟨_, _, _, h.wire, hraw, htyp⟩
  reads := rfl
  payloads := h.payloads
  messages := h.messages
  whole := h.whole
  unchanged := h.unchanged
  hand := (List.append_nil _).symm
  underSpec := nofun

lemma Filling.record {P : RecordPrims} (h : Filling start ms next base (readSide c))
    (hread : Conn.readRecord P c = (.ok (payload, .handshake), d)) :
    Filling start ms next base (readSide { d with hand := d.hand ++ payload }) := by
  obtain ⟨raw, rest, code, hc, hraw, htyp, hopen, rfl⟩ := readRecord_handshake hread
  cases h with
  | plain hplain hnext hreads =>
    obtain ⟨between, hreads⟩ := hreads
    rcases Conn.pastCCS_cases c with hpast | ⟨raw', rest', spec, hraw', htyp', _, hstaged, hpast⟩
    · rw [hpast] at hraw hopen ⊢
      have hcur : c.inHalf.current = none := hplain.current
      obtain ⟨rfl, hplain'⟩ := hplain.record hraw htyp hopen
      rw [hcur]
      exact .plain hplain' hnext ⟨_, (congrArg (· ++ _) hreads).trans (List.append_assoc _ _ _)⟩
    · -- The record was read right after the change.
      rw [hpast] at hraw hopen ⊢
      have hchanged := hplain.change spec hraw' htyp'
      have hrecord := Changed.record (c := { c with
        incoming := rest'
        inHalf := { c.inHalf with
          current := some spec, next := none, seq := Pollux.Counter.zero 8 }
        reads := c.reads ++ [.changed spec] }) rest hchanged hopen
      have hbase : c.reads = base ++ between := hreads
      rw [hbase] at hrecord ⊢
      exact .changed (hnext.symm.trans hstaged) hrecord
  | changed hnext hchanged =>
    have hpast : c.pastCCS = c := pastCCS_unstaged hchanged.next
    have hcur : c.inHalf.current = some _ := hchanged.current
    rw [hpast] at hraw hopen ⊢
    have hrecord := hchanged.record rest hopen
    rw [hcur]
    exact .changed hnext hrecord

lemma readHandshake_ok {P : RecordPrims} {data : Bytes}
    (h : Filling start ms next base (readSide c)) (hread : Conn.readHandshake P c = (.ok data, d)) :
    ∃ s : ReadSide, Filling start ms next base s ∧ IsMessage data ∧ s.hand = data ++ d.hand ∧
      readSide d = ⟨s.incoming, s.inHalf, d.hand, s.reads ++ [.message data]⟩ := by
  obtain ⟨c₁, c₂, total, hfill₁, hfill₂, hmessage, hhand, hd⟩ := readHandshake_parts hread
  have hrecord : ∀ c payload d, Filling start ms next base (readSide c) →
      Conn.readRecord P c = (.ok (payload, .handshake), d) →
      Filling start ms next base (readSide { d with hand := d.hand ++ payload }) :=
        fun _ _ _ => Filling.record
  refine ⟨readSide c₂, (fill_rule hrecord (fill_rule hrecord h hfill₁).1 hfill₂).1, hmessage, hhand,
    ?_⟩
  rw [hd]
  rfl

lemma Plain.taken (h : Plain start ms s) (hmessage : IsMessage data)
    (hhand : s.hand = data ++ rest) :
    Plain start (ms ++ [data]) ⟨s.incoming, s.inHalf, rest, s.reads ++ [.message data]⟩ := by
  have hsplit : (ms ++ [data]).flatten ++ rest = ms.flatten ++ s.hand := by simp [hhand]
  refine { h with wire := ?_, payloads := ?_, messages := ?_, whole := ?_, unchanged := ?_ }
  · rw [hsplit]
    exact h.wire
  · rw [hsplit, ← h.payloads, List.flatMap_append]
    exact List.append_nil _
  · rw [List.flatMap_append, h.messages]
    simp [messageOf]
  · exact forall_mem_snoc.mpr ⟨h.whole, hmessage⟩
  · exact forall_mem_snoc.mpr ⟨h.unchanged, rfl⟩

lemma Plain.message {P : RecordPrims} {data : Bytes} (h : Plain start ms (readSide c))
    (hnext : c.inHalf.next = none) (hread : Conn.readHandshake P c = (.ok data, d)) :
    Plain start (ms ++ [data]) (readSide d) ∧ d.inHalf.next = none := by
  have hstart : Filling start ms none [] (readSide c) := .plain h hnext ⟨c.reads, rfl⟩
  obtain ⟨s, hfilling, hmessage, hhand, hside⟩ := readHandshake_ok hstart hread
  cases hfilling with
  | changed hstaged => cases hstaged
  | plain hplain hunstaged =>
    rw [hside]
    exact ⟨hplain.taken hmessage hhand, (congrArg (fun s => s.inHalf.next) hside).trans hunstaged⟩

end

lemma change_unique (hpre : ∀ e ∈ pre, isChange e = false) (hpre' : ∀ e ∈ pre', isChange e = false)
    (heq : pre ++ .changed spec :: post = pre' ++ .changed spec' :: post') :
    pre = pre' := by
  induction pre generalizing pre' with
  | nil =>
    cases pre' with
    | nil => rfl
    | cons e pre' =>
      obtain rfl : ReadEvent.changed spec = e := (List.cons.inj heq).1
      cases hpre' _ List.mem_cons_self
  | cons e pre ih =>
    cases pre' with
    | nil =>
      obtain rfl : e = ReadEvent.changed spec' := (List.cons.inj heq).1
      cases hpre _ List.mem_cons_self
    | cons e' pre' =>
      obtain ⟨rfl, hrest⟩ := List.cons.inj heq
      rw [ih (fun x hx => hpre x (List.mem_cons_of_mem _ hx))
        (fun x hx => hpre' x (List.mem_cons_of_mem _ hx)) hrest]

lemma flatMap_staged {f : ReadEvent → Bytes} (hf : ∀ spec, f (.staged spec) = [])
    (before between : List ReadEvent) (spec : CipherSpec) :
    (before ++ .staged spec :: between).flatMap f = (before ++ between).flatMap f := by
  simp [hf]

lemma unchanged_staged :
    (∀ e ∈ before ++ .staged spec :: between, isChange e = false) ↔ ∀ e ∈ before ++ between,
      isChange e = false := by
  simp only [List.mem_append, List.mem_cons]
  constructor
  · intro h e he
    exact h e (he.imp_right .inr)
  · rintro h e (he | rfl | he)
    · exact h e (.inl he)
    · rfl
    · exact h e (.inr he)

section

variable {start : List Arrival} {ms : List Bytes} {spec : CipherSpec} {left : Bytes}
  {before between post : List ReadEvent} {s : ReadSide} {fin rest : Bytes}

lemma Plain.not_whole (h : Plain start ms s) (hmessage : IsMessage fin)
    (hhand : s.hand = fin ++ rest) (hfin : fin.headD 0 = MessageType.finished) :
    ¬ WholeBeforeChange start := by
  rintro ⟨ms', _, _, _, hwire, hms', hraw, htyp⟩
  have htaken := h.taken hmessage hhand
  obtain ⟨more, hmore, _⟩ := htaken.wire.initial hwire hraw htyp
  rw [List.append_assoc] at hmore
  obtain ⟨zs, rfl, _⟩ :=
    messages_selfDelimiting.initial htaken.whole (fun m hm => (hms' m hm).1) hmore.symm
  exact (hms' fin (by simp)).2 hfin

/-- The transport was in order exactly if nothing was left over. -/
lemma Changed.whole_iff (h : Changed start ms spec left pre post s)
    (htypes : ∀ m ∈ ms, m.headD 0 ≠ MessageType.finished) (hmessage : IsMessage fin)
    (hhand : s.hand = fin ++ rest) (hfin : fin.headD 0 = MessageType.finished) :
    WholeBeforeChange start ↔ left = [] := by
  obtain ⟨a, raw, a', hwire, hraw, htyp⟩ := h.wire
  constructor
  · rintro ⟨ms', _, _, _, hwire', hms', hraw', htyp'⟩
    obtain ⟨more, hmore, hbehind⟩ := hwire.initial hwire' hraw' htyp'
    obtain rfl : more = [] := by
      cases hbehind with
      | none => rfl
      | more hraw'' htyp'' =>
        rw [hraw] at hraw''
        cases hraw''
        cases htyp.symm.trans htyp''
    rw [List.append_nil] at hmore
    obtain ⟨zs, rfl, rfl⟩ :=
      messages_selfDelimiting.initial h.whole (fun m hm => (hms' m hm).1) hmore.symm
    cases zs with
    | nil => rfl
    | cons z zs =>
      -- The first message left over is the one that was read.
      have hz := hms' z (by simp)
      have hfront : z ++ (zs.flatten ++ post.flatMap payloadOf) = fin ++ rest := by
        rw [← hhand, h.hand, List.flatten_cons, List.append_assoc]
      obtain rfl := messages_selfDelimiting.unique z fin _ _ hz.1 hmessage hfront
      exact absurd hfin hz.2
  · rintro rfl
    rw [List.append_nil] at hwire
    exact ⟨ms, a, raw, a', hwire, fun m hm => ⟨h.whole m hm, htypes m hm⟩, hraw, htyp⟩

lemma Changed.protected_iff
    (h : Changed start ms spec left (before ++ .staged spec :: between) post s)
    (hfin : fin.headD 0 = MessageType.finished) :
    FinishedProtected (s.reads ++ [.message fin]) ↔ left = [] := by
  have hpayloads := h.payloads
  have hmessages := h.messages
  rw [flatMap_staged fun _ => rfl] at hpayloads hmessages
  rw [h.reads]
  constructor
  · rintro ⟨before', between', after', spec', fin', heq, _, hsame, hchange, _⟩
    have hpre : before ++ .staged spec :: between = before' ++ .staged spec' :: between' := by
      have hboth : (before ++ .staged spec :: between) ++ .changed spec ::
        (post ++ [.message fin]) =
          (before' ++ .staged spec' :: between') ++ .changed spec' ::
            (after' ++ [.message fin']) := by simpa using heq
      refine change_unique h.unchanged (unchanged_staged.mpr fun e he => ?_) hboth
      exact hchange e (List.mem_append_left _ he)
    have hnone : (before ++ between).flatMap payloadOf = (before ++ between).flatMap messageOf := by
      rw [← flatMap_staged (fun _ => rfl) before between spec, hpre, flatMap_staged fun _ => rfl,
        hsame,
        ← flatMap_staged (fun _ => rfl) before' between' spec', ← hpre, flatMap_staged fun _ => rfl]
    rw [hpayloads, hmessages] at hnone
    exact List.append_right_eq_self.mp hnone
  · rintro rfl
    refine ⟨before, between, post, spec, fin, by simp, hfin, ?_, ?_, h.underSpec⟩
    · rw [hpayloads, hmessages, List.append_nil]
    · refine List.forall_mem_append.mpr ⟨unchanged_staged.mp h.unchanged, fun e he => ?_⟩
      obtain ⟨payload, rfl⟩ := h.underSpec e he
      rfl

/-- The Finished was protected exactly if the transport was in order. -/
lemma finished_verdict {P : RecordPrims} {c d : Conn} (h : Plain start ms (readSide c))
    (hnext : c.inHalf.next = some spec) (hstaged : c.reads = before ++ [.staged spec])
    (htypes : ∀ m ∈ ms, m.headD 0 ≠ MessageType.finished)
    (hfin : fin.headD 0 = MessageType.finished) (hread : Conn.readHandshake P c = (.ok fin, d)) :
    (FinishedProtected d.reads ∧ d.inHalf.current ≠ none) ↔ WholeBeforeChange start := by
  have hstart : Filling start ms (some spec) (before ++ [.staged spec]) (readSide c) :=
    .plain h hnext ⟨[], hstaged.trans (List.append_nil _).symm⟩
  obtain ⟨s, hfilling, hmessage, hhand, hside⟩ := readHandshake_ok hstart hread
  have hreads : d.reads = s.reads ++ [.message fin] := congrArg ReadSide.reads hside
  have hhalf : d.inHalf = s.inHalf := congrArg ReadSide.inHalf hside
  rw [hreads, hhalf]
  cases hfilling with
  | plain hplain =>
    constructor
    · rintro ⟨_, hcur⟩
      exact absurd hplain.current hcur
    · intro hwhole
      exact absurd hwhole (hplain.not_whole hmessage hhand hfin)
  | changed hspec hchanged =>
    obtain rfl := Option.some.inj hspec
    rw [List.append_assoc, List.singleton_append] at hchanged
    have hcur : s.inHalf.current ≠ none := by simp [hchanged.current]
    rw [hchanged.protected_iff hfin, hchanged.whole_iff htypes hmessage hhand hfin]
    exact and_iff_left hcur

end

def Opening (s : ReadSide) : Prop :=
  ∃ ms, Plain start ms s ∧ (∀ m ∈ ms, m.headD 0 ≠ MessageType.finished) ∧ s.inHalf.next = none

/-- The keys have been staged and nothing has been read since. -/
def Staged (s : ReadSide) : Prop :=
  ∃ ms spec before, Plain start ms s ∧
    (∀ m ∈ ms, m.headD 0 ≠ MessageType.finished) ∧ s.inHalf.next = some spec ∧
    s.reads = before ++ [.staged spec]

def Settled (s : ReadSide) : Prop :=
  (FinishedProtected s.reads ∧ s.inHalf.current ≠ none) ↔ WholeBeforeChange start

section

variable {P : RecordPrims} {start : List Arrival} {c d : Conn} {data : Bytes}

lemma Opening.initial (isClient : Bool) (incoming : List Arrival)
    (writeResults : List (Option NetErr)) (rand : Bytes) :
    Opening incoming (readSide (newTLCPConn isClient incoming writeResults rand)) :=
  ⟨[], ⟨rfl, .none _, rfl, rfl, nofun, nofun⟩, nofun, rfl⟩

lemma Opening.message (h : Opening start (readSide c))
    (hread : Conn.readHandshake P c = (.ok data, d)) (htype : data.headD 0 ≠ MessageType.finished) :
    Opening start (readSide d) := by
  obtain ⟨ms, hplain, htypes, hnext⟩ := h
  obtain ⟨hplain', hnext'⟩ := hplain.message hnext hread
  exact ⟨ms ++ [data], hplain', forall_mem_snoc.mpr ⟨htypes, htype⟩, hnext'⟩

lemma Opening.stage (h : Opening start (readSide c)) (version : UInt16) (spec : CipherSpec) :
    Staged start ⟨c.incoming, c.inHalf.prepareCipherSpec version spec, c.hand, c.reads ++
      [.staged spec]⟩ := by
  obtain ⟨ms, hplain, htypes, _⟩ := h
  refine ⟨ms, spec, c.reads, ?_, htypes, rfl, rfl⟩
  refine { hplain with payloads := ?_, messages := ?_
                       unchanged := forall_mem_snoc.mpr ⟨hplain.unchanged, rfl⟩ }
  · exact (List.flatMap_append).trans ((List.append_nil _).trans hplain.payloads)
  · exact (List.flatMap_append).trans ((List.append_nil _).trans hplain.messages)

lemma Staged.message (h : Staged start (readSide c))
    (hread : Conn.readHandshake P c = (.ok data, d)) (htype : data.headD 0 = MessageType.finished) :
    Settled start (readSide d) := by
  obtain ⟨ms, spec, before, hplain, htypes, hnext, hreads⟩ := h
  exact finished_verdict hplain hnext hreads htypes htype hread

end

end Pollux.Tlcp
