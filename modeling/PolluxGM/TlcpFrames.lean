import PolluxGM.TlcpServer

/-!
# What the steps of a handshake leave alone

Writing touches the write side of the connection only, and reading the read side only.
-/
namespace Pollux.Tlcp

open TlcpSession

variable {P : Prims} {config : EngineConfig} {env : Surroundings}

structure ReadSide where
  incoming : List Arrival
  inHalf : HalfConn
  hand : Bytes
  reads : List ReadEvent

def readSide (c : Conn) : ReadSide := ⟨c.incoming, c.inHalf, c.hand, c.reads⟩

structure Outcome where
  isClient : Bool
  handshakeStatus : Bool
  vers : UInt16
  cipherSuite : UInt16
  peerCertificates : List Bytes
  session : Option SessionState
  didResume : Bool
  cacheCalls : List CacheCall

def outcome (c : Conn) : Outcome :=
  ⟨c.isClient, c.handshakeStatus, c.vers, c.cipherSuite, c.peerCertificates, c.session, c.didResume,
    c.cacheCalls⟩

/-- Only the write side has changed. -/
structure Wrote (c c' : Conn) : Prop where
  readSide : readSide c' = readSide c
  outcome : outcome c' = outcome c

instance : IsPreorder Conn Wrote where
  refl _ := ⟨rfl, rfl⟩
  trans _ _ _ h h' := ⟨h'.readSide.trans h.readSide, h'.outcome.trans h.outcome⟩

/-- And neither cipher of it. -/
structure Sent (c c' : Conn) : Prop extends Wrote c c' where
  current : c'.outHalf.current = c.outHalf.current
  next : c'.outHalf.next = c.outHalf.next

instance : IsPreorder Conn Sent where
  refl c := ⟨refl_of Wrote c, rfl, rfl⟩
  trans _ _ _ h h' := ⟨trans_of Wrote h.toWrote h'.toWrote, h'.current.trans h.current,
    h'.next.trans h.next⟩

lemma onRand_wrote {α : Type} (m : Cmd Err Bytes α) : Keeps Wrote (onRand m) :=
  Keeps.on m fun _ _ => ⟨rfl, rfl⟩

lemma sealRecord_sent (P : RecordPrims) (typ : RecordType) (payload : Bytes) :
    Keeps Sent (Conn.sealRecord P typ payload) := by
  unfold Conn.sealRecord
  refine (Keeps.ask id).bind fun before => Keeps.bind ?_ fun record =>
    (Keeps.update fun _ => ⟨⟨rfl, rfl⟩, rfl, rfl⟩).bind fun _ => Keeps.pure _
  intro c
  have hpaths := encrypt_spec P (recordHeader typ before.recordVersion payload) payload
    (c.outHalf, c.rand)
  unfold Cmd.on
  generalize HalfConn.encrypt P (recordHeader typ before.recordVersion payload) payload
    (c.outHalf, c.rand) = r at hpaths ⊢
  cases hpaths <;> exact ⟨⟨rfl, rfl⟩, rfl, rfl⟩

lemma send_sent (b : Bytes) : Keeps Sent (Conn.send b) := by
  intro c
  unfold Conn.send
  dsimp only
  split <;> exact ⟨⟨rfl, rfl⟩, rfl, rfl⟩

lemma transmit_sent (record : Bytes) : Keeps Sent (Cmd.ask Conn.buffering >>= fun buffering =>
    if buffering = true then Cmd.update (fun c => { c with sendBuf := c.sendBuf ++ record })
      else Conn.send record) := by
  refine (Keeps.ask _).bind fun buffering => ?_
  cases buffering with
  | true => exact Keeps.update fun _ => ⟨⟨rfl, rfl⟩, rfl, rfl⟩
  | false => exact send_sent record

lemma flush_sent : Keeps Sent Conn.flush := by
  unfold Conn.flush
  refine (Keeps.ask _).bind fun sendBuf => ?_
  split
  · exact Keeps.pure ()
  · exact (Keeps.update fun _ => ⟨⟨rfl, rfl⟩, rfl, rfl⟩).bind fun _ => send_sent sendBuf

lemma writeHandshakeRecord_sent (message : Except Err Bytes) (transcript : Bytes) :
    Keeps Sent (writeHandshakeRecord P message transcript) :=
  (Keeps.lift _).bind fun _ => Keeps.bind ((sealRecord_sent _ _ _).bind transmit_sent) fun _ =>
    Keeps.pure _

lemma sent_wrote {α : Type} {m : Cmd Err Conn α} (h : Keeps Sent m) : Keeps Wrote m :=
  h.mono fun _ _ => Sent.toWrote

lemma writeRecord_wrote (P : RecordPrims) (typ : RecordType) (payload : Bytes) :
    Keeps Wrote (Conn.writeRecord P typ payload) := by
  unfold Conn.writeRecord
  refine (sent_wrote (sealRecord_sent P typ payload)).bind fun record => ?_
  dsimp only
  split
  · exact Keeps.bind (Keeps.on _ fun _ _ => ⟨rfl, rfl⟩) fun _ => sent_wrote (transmit_sent record)
  · exact sent_wrote (transmit_sent record)

lemma flush_wrote : Keeps Wrote Conn.flush := sent_wrote flush_sent

lemma writeHandshakeRecord_wrote (message : Except Err Bytes) (transcript : Bytes) :
    Keeps Wrote (writeHandshakeRecord P message transcript) :=
  sent_wrote (writeHandshakeRecord_sent message transcript)

lemma startBuffering_wrote : Keeps Wrote startBuffering := Keeps.update fun _ => ⟨rfl, rfl⟩

lemma drawRandom_wrote (helloTime : Nat) : Keeps Wrote (drawRandom helloTime) :=
  (onRand_wrote _).bind fun _ => Keeps.pure _

lemma sendFinished_wrote (label masterSecret transcript : Bytes) :
    Keeps Wrote (sendFinished P label masterSecret transcript) :=
  (writeRecord_wrote _ _ _).bind fun _ => (writeHandshakeRecord_wrote _ _).bind fun _ =>
    flush_wrote.bind fun _ => Keeps.pure _

lemma sendClientCertificate_wrote (transcript : Bytes) :
    Keeps Wrote (sendClientCertificate P config transcript) :=
  writeHandshakeRecord_wrote _ _

lemma generateClientKeyExchange_wrote (suite : CipherSuite) (ephPub encPub : Bytes) :
    Keeps Wrote (generateClientKeyExchange P config suite ephPub encPub) := by
  unfold generateClientKeyExchange
  split
  · exact (Keeps.lift _).bind fun _ => onRand_wrote _
  · exact (Keeps.ask _).bind fun _ => onRand_wrote _

lemma sendCertificateVerify_wrote (sigType : SigType) (certRequested : Bool) (transcript : Bytes) :
    Keeps Wrote (sendCertificateVerify P sigType certRequested config transcript) := by
  unfold sendCertificateVerify
  split
  · exact (onRand_wrote _).bind fun _ => writeHandshakeRecord_wrote _ _
  · exact Keeps.pure _

lemma sendClientFlight_wrote (suite : CipherSuite) (hello : ClientHelloMsg)
    (serverHello : ServerHelloMsg) (sigType : SigType) (encPub ephPub : Bytes)
    (certRequested : Bool) (transcript : Bytes) :
    Keeps Wrote
      (sendClientFlight P config suite hello serverHello sigType encPub ephPub certRequested
        transcript) := by
  have hrest : ∀ transcript,
    Keeps Wrote (generateClientKeyExchange P config suite ephPub encPub >>= fun x =>
      writeHandshakeRecord P (ClientKeyExchangeMsg.marshal ⟨x.2⟩) transcript >>= fun transcript =>
        sendCertificateVerify P sigType certRequested config transcript >>= fun transcript =>
          pure (tlcpMasterFromPreMaster P.toRecordPrims x.1 hello.random serverHello.random,
            transcript)) :=
    fun _ => (generateClientKeyExchange_wrote _ _ _).bind fun _ =>
      (writeHandshakeRecord_wrote _ _).bind fun _ =>
      (sendCertificateVerify_wrote _ _ _).bind fun _ => Keeps.pure _
  unfold sendClientFlight
  cases certRequested with
  | true => exact (sendClientCertificate_wrote _).bind hrest
  | false => exact hrest _

lemma sendClientHello_wrote : Keeps Wrote (sendClientHello P config env) := by
  unfold sendClientHello tlcpMakeClientHello
  refine ((drawRandom_wrote _).bind fun _ => Keeps.pure _).bind fun _ =>
    (Keeps.ask _).bind fun _ => ?_
  exact (Keeps.lift _).bind fun _ => (writeRecord_wrote _ _ _).bind fun _ => Keeps.pure _

lemma sendServerFlight_wrote (keys : ServerKeys) (suite : CipherSuite) (wantClientCert : Bool)
    (clientHello : ClientHelloMsg) (serverHello : ServerHelloMsg) (transcript : Bytes) :
    Keeps Wrote (sendServerFlight P keys suite wantClientCert clientHello serverHello
      transcript) := by
  have hdone : ∀ {α : Type} (x : Bytes → α) (transcript : Bytes), Keeps Wrote
      (writeHandshakeRecord P (ServerHelloDoneMsg.marshal ⟨⟩) transcript >>= fun transcript =>
        Conn.flush >>= fun _ => pure (x transcript)) :=
    fun _ _ => (writeHandshakeRecord_wrote _ _).bind fun _ => flush_wrote.bind fun _ => Keeps.pure _
  unfold sendServerFlight
  refine startBuffering_wrote.bind fun _ => (writeHandshakeRecord_wrote _ _).bind fun _ => ?_
  refine (writeHandshakeRecord_wrote _ _).bind fun _ => (Keeps.lift _).bind fun sigType => ?_
  refine (onRand_wrote _).bind fun x => (writeHandshakeRecord_wrote _ _).bind fun transcript => ?_
  cases wantClientCert with
  | true =>
    exact (writeHandshakeRecord_wrote _ _).bind (hdone fun transcript => (sigType, x.1, transcript))
  | false => exact hdone (fun transcript => (sigType, x.1, transcript)) transcript

/-- Only the read side has changed. -/
structure HasRead (c c' : Conn) : Prop where
  outHalf : c'.outHalf = c.outHalf
  outcome : outcome c' = outcome c

instance : IsPreorder Conn HasRead where
  refl _ := ⟨rfl, rfl⟩
  trans _ _ _ h h' := ⟨h'.outHalf.trans h.outHalf, h'.outcome.trans h.outcome⟩

def messageIn : ReadEvent → Option Bytes
  | .message data => some data
  | _ => none

/-- Between two states exactly these messages were read. -/
def Hears (c c' : Conn) (ms : List Bytes) : Prop :=
  ∃ es, c'.reads = c.reads ++ es ∧ es.filterMap messageIn = ms

lemma Hears.of_eq {c c' : Conn} (h : c'.reads = c.reads) : Hears c c' [] :=
  ⟨[], by rw [h, List.append_nil], rfl⟩

lemma Hears.trans {c d e : Conn} {ms ns : List Bytes} (h : Hears c d ms) (h' : Hears d e ns) :
    Hears c e (ms ++ ns) := by
  obtain ⟨es, hreads, rfl⟩ := h
  obtain ⟨fs, hreads', rfl⟩ := h'
  exact ⟨es ++ fs, by rw [hreads', hreads, List.append_assoc], List.filterMap_append⟩

lemma Hears.mem {c c' : Conn} {ms : List Bytes} (h : Hears c c' ms) {e : ReadEvent}
    (he : e ∈ c.reads) : e ∈ c'.reads := by
  obtain ⟨es, hreads, _⟩ := h
  rw [hreads]
  exact List.mem_append_left _ he

/-- And nothing but parts of messages was read. -/
structure Buffers (c c' : Conn) : Prop extends HasRead c c' where
  hears : Hears c c' []

instance : IsPreorder Conn Buffers where
  refl c := ⟨refl_of HasRead c, .of_eq rfl⟩
  trans _ _ _ h h' := ⟨trans_of HasRead h.toHasRead h'.toHasRead, h.hears.trans h'.hears⟩

lemma applyCCS_buffers (raw : RawRecord) : Keeps Buffers (Conn.applyCCS raw) := by
  refine (Keeps.refuse _ _).bind fun _ =>
    Keeps.bind (Keeps.on _ fun _ _ => ⟨⟨rfl, rfl⟩, .of_eq rfl⟩) fun _ => ?_
  refine (Keeps.ask _).bind fun spec => Keeps.update fun c => ⟨⟨rfl, rfl⟩, _, rfl, ?_⟩
  cases spec <;> rfl

lemma openRecord_buffers (P : RecordPrims) (raw : RawRecord) :
    Keeps Buffers (Conn.openRecord P raw) := by
  unfold Conn.openRecord
  refine (Keeps.ask _).bind fun under =>
    Keeps.bind (Keeps.on _ fun _ _ => ⟨⟨rfl, rfl⟩, .of_eq rfl⟩) fun plaintext => ?_
  refine Keeps.bind (Keeps.update fun _ => ⟨⟨rfl, rfl⟩, _, rfl, rfl⟩) fun _ => ?_
  split
  · exact Keeps.fail _
  · exact Keeps.pure _

lemma readRecords_buffers (P : RecordPrims) (rounds : Nat) :
    Keeps Buffers (Conn.readRecords P rounds) := by
  induction rounds with
  | zero => exact Keeps.fail _
  | succ rounds ih =>
    unfold Conn.readRecords
    refine Keeps.bind (Keeps.on _ fun _ _ => ⟨⟨rfl, rfl⟩, .of_eq rfl⟩) fun raw => ?_
    split
    · exact (applyCCS_buffers raw).bind fun _ => ih
    · exact openRecord_buffers P raw

lemma fill_buffers (P : RecordPrims) (want : Nat) : Keeps Buffers (Conn.fill P want) := by
  refine (Keeps.ask _).bind fun rounds => ?_
  induction rounds with
  | zero => exact Keeps.fail _
  | succ rounds ih =>
    unfold Conn.fillHand
    refine (Keeps.ask _).bind fun buffered => ?_
    split
    · exact Keeps.pure _
    · refine (readRecords_buffers P 2).bind fun x => (Keeps.refuse _ _).bind fun _ => ?_
      exact (Keeps.update fun _ => ⟨⟨rfl, rfl⟩, .of_eq rfl⟩).bind fun _ => ih

lemma fill_read (P : RecordPrims) (want : Nat) : Keeps HasRead (Conn.fill P want) :=
  (fill_buffers P want).mono fun _ _ => Buffers.toHasRead

lemma readHandshake_read (P : RecordPrims) : Keeps HasRead (Conn.readHandshake P) :=
  (fill_read P 4).bind fun _ => (Keeps.ask _).bind fun _ => (Keeps.refuse _ _).bind fun _ =>
    (fill_read P _).bind fun _ =>
    (Keeps.ask _).bind fun _ => (Keeps.update fun _ => ⟨rfl, rfl⟩).bind fun _ =>
      Keeps.bind (Keeps.update fun _ => ⟨rfl, rfl⟩) fun _ => Keeps.pure _

lemma readMessage_read {α : Type} (unmarshal : Bytes → Option α) (refusal : String) :
    Keeps HasRead (readMessage P unmarshal refusal) :=
  (readHandshake_read _).bind fun _ => (Keeps.lift _).bind fun _ => Keeps.pure _

lemma readFinished_read (peer : String) (label masterSecret transcript : Bytes) :
    Keeps HasRead (readFinished P peer label masterSecret transcript) :=
  (readMessage_read _ _).bind fun _ => (Keeps.refuse _ _).bind fun _ => Keeps.pure _

end Pollux.Tlcp
