import PolluxGM.TlcpCodec
import PolluxGM.TlcpFinished

/-!
# The account of a handshake

The drivers again, each with an account of what it has computed: the suite, the master secret, the
transcripts under the two Finished messages and the handshake octets it has sent.
-/
namespace Pollux.Tlcp

open TlcpSession

variable {P : Prims} {config : EngineConfig} {env : Surroundings}

structure Account where
  suite : CipherSuite
  resumed : Bool
  masterSecret : Bytes
  clientRandom : Bytes
  serverRandom : Bytes
  sent : Bytes
  clientFinished : Bytes
  serverFinished : Bytes
  deriving DecidableEq

/-- What is sent is what the transcript has grown by. -/
def clientResumeAccount (P : Prims) (suite : CipherSuite) (hello : ClientHelloMsg)
    (serverHello : ServerHelloMsg) (transcript : Bytes) (sess : SessionState) :
    Cmd Err Conn Account := do
  Cmd.update fun c => { c with peerCertificates := sess.peerCertificates }
  establishKeys P suite sess.masterSecret hello.random serverHello.random
  let transcript₁ ← readFinished P "server" serverFinishedLabel sess.masterSecret transcript
  startBuffering
  let transcript₂ ← sendFinished P clientFinishedLabel sess.masterSecret transcript₁
  return { suite := suite
           resumed := true
           masterSecret := sess.masterSecret
           clientRandom := hello.random
           serverRandom := serverHello.random
           sent := transcript₂.drop transcript₁.length
           clientFinished := transcript₁
           serverFinished := transcript }

def clientFullAccount (P : Prims) (config : EngineConfig) (env : Surroundings) (suite : CipherSuite)
    (hello : ClientHelloMsg) (serverHello : ServerHelloMsg) (transcript : Bytes) :
    Cmd Err Conn Account := do
  Cmd.update fun c => { c with session := none }
  let (sigType, server, ephPub, certRequested, transcript₁) ← readServerFlight P config suite hello
    serverHello transcript
  let (masterSecret, transcript₂) ←
    sendClientFlight P config suite hello serverHello sigType server.encPub ephPub certRequested
      transcript₁
  establishKeys P suite masterSecret hello.random serverHello.random
  startBuffering
  let transcript₃ ← sendFinished P clientFinishedLabel masterSecret transcript₂
  let _ ← readFinished P "server" serverFinishedLabel masterSecret transcript₃
  createNewClientSession config env serverHello masterSecret
  return { suite := suite
           resumed := false
           masterSecret := masterSecret
           clientRandom := hello.random
           serverRandom := serverHello.random
           sent := transcript₃.drop transcript₁.length
           clientFinished := transcript₂
           serverFinished := transcript₃ }

def clientAccount (P : Prims) (config : EngineConfig) (env : Surroundings) : Cmd Err Conn Account :=
  do
  Cmd.refuse (config.serverName = [] ∧ config.insecureSkipVerify = false)
    (.text "tlcp: either ServerName or InsecureSkipVerify must be specified in Config")
  loadSession config env
  let (hello, chData) ← sendClientHello P config env
  let (serverHello, shData, suite) ← receiveServerHello P config hello
  match ← Cmd.ask (serverResumedSession serverHello) with
  | some sess =>
    let a ← Cmd.onError (clientResumeAccount P suite hello serverHello (chData ++ shData) sess)
      (discardSession config env)
    Cmd.update fun c => { c with didResume := true }
    return { a with sent := chData ++ a.sent }
  | none =>
    let a ← clientFullAccount P config env suite hello serverHello (chData ++ shData)
    return { a with sent := chData ++ a.sent }

def serverResumeAccount (P : Prims) (env : Surroundings) (suite : CipherSuite)
    (clientHello : ClientHelloMsg) (chData : Bytes) (sess : SessionState) : Cmd Err Conn Account :=
  do
  let serverRandom ← drawRandom env.helloTime
  let serverHello := serverHelloWith serverRandom clientHello.sessionID suite
  startBuffering
  let transcript₁ ← writeHandshakeRecord P serverHello.marshal chData
  Conn.flush
  Cmd.update fun c => { c with peerCertificates := sess.peerCertificates }
  establishKeys P suite sess.masterSecret clientHello.random serverHello.random
  let transcript₂ ← sendFinished P serverFinishedLabel sess.masterSecret transcript₁
  let _ ← readFinished P "client" clientFinishedLabel sess.masterSecret transcript₂
  return { suite := suite
           resumed := true
           masterSecret := sess.masterSecret
           clientRandom := clientHello.random
           serverRandom := serverHello.random
           sent := transcript₂.drop chData.length
           clientFinished := transcript₂
           serverFinished := transcript₁ }

def serverFullAccount (P : Prims) (config : EngineConfig) (env : Surroundings) (keys : ServerKeys)
    (suite : CipherSuite) (clientHello : ClientHelloMsg) (chData : Bytes) : Cmd Err Conn Account :=
  do
  let serverRandom ← drawRandom env.helloTime
  let sessionID ← onRand (drawRand 32)
  let serverHello := serverHelloWith serverRandom sessionID suite
  let wantClientCert := config.requestClientCert || suite.ecdhe
  let (sigType, state, transcript₁) ← sendServerFlight P keys suite wantClientCert clientHello
    serverHello chData
  let (masterSecret, transcript₂) ←
    readClientFlight P config keys suite wantClientCert sigType state clientHello serverHello
      transcript₁
  establishKeys P suite masterSecret clientHello.random serverHello.random
  let transcript₃ ← readFinished P "client" clientFinishedLabel masterSecret transcript₂
  startBuffering
  let transcript₄ ← sendFinished P serverFinishedLabel masterSecret transcript₃
  createNewServerSession config env serverHello masterSecret
  return { suite := suite
           resumed := false
           masterSecret := masterSecret
           clientRandom := clientHello.random
           serverRandom := serverHello.random
           sent := transcript₁.drop chData.length ++ transcript₄.drop transcript₃.length
           clientFinished := transcript₂
           serverFinished := transcript₃ }

def serverAccount (P : Prims) (config : EngineConfig) (env : Surroundings) : Cmd Err Conn Account :=
  do
  let keys ← Cmd.lift (need (.text "tlcp: server requires signing + encryption certificates")
    (serverKeys config))
  let (clientHello, chData, suite) ← receiveClientHello P config
  match ← lookupResumedSession config env clientHello suite with
  | some sess =>
    let a ← serverResumeAccount P env suite clientHello chData sess
    Cmd.update fun c => { c with didResume := true }
    return a
  | none => serverFullAccount P config env keys suite clientHello chData

lemma clientResume_tells (suite : CipherSuite) (hello : ClientHelloMsg)
    (serverHello : ServerHelloMsg) (transcript : Bytes) (sess : SessionState) :
    Tells (clientResumeAccount P suite hello serverHello transcript sess)
      (clientResumeHandshake P suite hello serverHello transcript sess) :=
  .after _ fun _ => .after _ fun _ => .after _ fun _ => .after _ fun _ => .after _ fun _ => .pure _

lemma clientFull_tells (suite : CipherSuite) (hello : ClientHelloMsg) (serverHello : ServerHelloMsg)
    (transcript : Bytes) :
    Tells (clientFullAccount P config env suite hello serverHello transcript)
      (clientFullHandshake P config env suite hello serverHello transcript) :=
  .after _ fun _ => .after _ fun _ => .after _ fun _ => .after _ fun _ => .after _ fun _ =>
    .after _ fun _ =>
    .after _ fun _ => (Tells.self _).map _

lemma client_tells : Tells (clientAccount P config env) (clientHandshakeReal P config env) := by
  unfold clientAccount clientHandshakeReal
  refine .after _ fun _ => .after _ fun _ => .after _ fun _ => .after _ fun _ =>
    .after _ fun offered => ?_
  cases offered with
  | none => exact (clientFull_tells _ _ _ _).map _
  | some sess =>
    exact ((clientResume_tells _ _ _ _ sess).onError _).bind fun _ _ => (Tells.self _).map _

lemma serverResume_tells (suite : CipherSuite) (clientHello : ClientHelloMsg) (chData : Bytes)
    (sess : SessionState) :
    Tells (serverResumeAccount P env suite clientHello chData sess)
      (serverResumeHandshake P env suite clientHello chData sess) :=
  .after _ fun _ => .after _ fun _ => .after _ fun _ => .after _ fun _ => .after _ fun _ =>
    .after _ fun _ =>
    .after _ fun _ => .after _ fun _ => .pure _

lemma serverFull_tells (keys : ServerKeys) (suite : CipherSuite) (clientHello : ClientHelloMsg)
    (chData : Bytes) :
    Tells (serverFullAccount P config env keys suite clientHello chData)
      (serverFullHandshake P config env keys suite clientHello chData) :=
  .after _ fun _ => .after _ fun _ => .after _ fun _ => .after _ fun _ => .after _ fun _ =>
    .after _ fun _ =>
    .after _ fun _ => .after _ fun _ => (Tells.self _).map _

lemma server_tells : Tells (serverAccount P config env) (serverHandshakeReal P config env) := by
  unfold serverAccount serverHandshakeReal
  refine .after _ fun _ => .after _ fun _ => .after _ fun found => ?_
  cases found with
  | none => exact serverFull_tells _ _ _ _
  | some sess => exact (serverResume_tells _ _ _ sess).bind fun _ _ => (Tells.self _).map _

def received (c : Conn) : List Bytes := c.reads.filterMap messageIn

structure Steady (c c' : Conn) : Prop where
  isClient : c'.isClient = c.isClient
  cipherSuite : c'.cipherSuite = c.cipherSuite
  didResume : c'.didResume = c.didResume

variable {c : Conn}

lemma Steady.of_outcome (h : outcome c' = outcome c) : Steady c c' :=
  ⟨congrArg Outcome.isClient h, congrArg Outcome.cipherSuite h, congrArg Outcome.didResume h⟩

structure Passes (c d : Conn) (ms : List Bytes) : Prop where
  hears : Hears c d ms
  steady : Steady c d

variable {d e : Conn} {ms ns : List Bytes}

lemma Passes.trans (h : Passes c d ms) (h' : Passes d e ns) : Passes c e (ms ++ ns) where
  hears := h.hears.trans h'.hears
  steady := ⟨h'.steady.isClient.trans h.steady.isClient,
    h'.steady.cipherSuite.trans h.steady.cipherSuite, h'.steady.didResume.trans h.steady.didResume⟩

/-- The first stage lasts unless a Finished is among the messages. -/
def Opens (c d : Conn) (ms : List Bytes) : Prop := (∀ m ∈ ms, m.headD 0 ≠ MessageType.finished) →
  ∀ start, Opening start (readSide c) → Opening start (readSide d)

structure Reads (c d : Conn) (ms : List Bytes) : Prop extends Passes c d ms where
  opens : Opens c d ms

lemma Opens.trans (h : Opens c d ms) (h' : Opens d e ns) : Opens c e (ms ++ ns) := by
  intro htypes start hc
  obtain ⟨hms, hns⟩ := List.forall_mem_append.mp htypes
  exact h' hns start (h hms start hc)

lemma Reads.trans (h : Reads c d ms) (h' : Reads d e ns) : Reads c e (ms ++ ns) :=
  ⟨h.toPasses.trans h'.toPasses, h.opens.trans h'.opens⟩

lemma Reads.of_same (hside : readSide d = readSide c) (hsteady : Steady c d) : Reads c d [] where
  hears := .of_eq (congrArg ReadSide.reads hside)
  steady := hsteady
  opens := fun _ _ hc => hside ▸ hc

lemma wrote_reads (h : Wrote c d) : Reads c d [] := .of_same h.readSide (.of_outcome h.outcome)

lemma update_reads (h : (Cmd.update g : Cmd Err Conn Unit) c = (.ok u, d))
    (hside : readSide (g c) = readSide c) (hsteady : Steady c (g c)) : Reads c d [] := by
  obtain rfl := update_eq_ok.mp h
  exact .of_same hside hsteady

/-- Neither side has changed, nor what is known of the peer. -/
structure Quiet (c d : Conn) : Prop where
  readSide : readSide d = readSide c
  outHalf : d.outHalf = c.outHalf
  peerCertificates : d.peerCertificates = c.peerCertificates
  steady : Steady c d

lemma Quiet.reads (h : Quiet c d) : Reads c d [] := .of_same h.readSide h.steady

instance : IsPreorder Conn Quiet where
  refl _ := ⟨rfl, rfl, rfl, rfl, rfl, rfl⟩
  trans _ _ _ h h' := ⟨h'.readSide.trans h.readSide, h'.outHalf.trans h.outHalf,
    h'.peerCertificates.trans h.peerCertificates, (h.reads.trans h'.reads).steady⟩

lemma noteCache_quiet (call : CacheCall) : Keeps Quiet (noteCache call) :=
  Keeps.update fun _ => ⟨rfl, rfl, rfl, rfl, rfl, rfl⟩

lemma startBuffering_quiet : Keeps Quiet startBuffering :=
  Keeps.update fun _ => ⟨rfl, rfl, rfl, rfl, rfl, rfl⟩

variable {data : Bytes}

lemma readHandshake_told {P : RecordPrims} (h : Conn.readHandshake P c = (.ok data, d)) :
    IsMessage data ∧ Reads c d [data] := by
  obtain ⟨c₁, c₂, total, hfill₁, hfill₂, hmessage, _, hd⟩ := readHandshake_parts h
  have hfill := ((fill_buffers P 4).step hfill₁).hears.trans
    ((fill_buffers P total).step hfill₂).hears
  have hlast : Hears c₂ d [data] := by
    rw [hd]
    exact ⟨[.message data], rfl, rfl⟩
  refine ⟨hmessage, ⟨hfill.trans hlast, .of_outcome ((readHandshake_read P).step h).outcome⟩, ?_⟩
  exact fun htypes _ hc => hc.message h (htypes data List.mem_cons_self)

lemma readMessage_told {α : Type} {unmarshal : Bytes → Option α} {refusal : String} {x : α}
    (h : readMessage P unmarshal refusal c = (.ok (x, data), d)) :
    unmarshal data = some x ∧ IsMessage data ∧ Reads c d [data] := by
  simp only [readMessage, bind_eq_ok, lift_eq_ok, need_ok, pure_eq_ok] at h
  obtain ⟨data, _, hread, message, _, ⟨hmessage, rfl⟩, hx, rfl⟩ := h
  cases hx
  exact ⟨hmessage, readHandshake_told hread⟩

structure Says (ts : List UInt8) (ms : List Bytes) : Prop where
  whole : ∀ m ∈ ms, IsMessage m
  types : ms.map (·.headD 0) = ts

lemma Says.none : Says [] [] := ⟨nofun, rfl⟩

variable {t : UInt8}

lemma Says.one (hm : IsMessage m) (ht : m.headD 0 = t) : Says [t] [m] :=
  ⟨List.forall_mem_singleton.mpr hm, by rw [← ht]; rfl⟩

variable {ts us : List UInt8}

lemma Says.append (h : Says ts ms) (h' : Says us ns) :
    Says (ts ++ us) (ms ++ ns) where
  whole := List.forall_mem_append.mpr ⟨h.whole, h'.whole⟩
  types := by rw [List.map_append, h.types, h'.types]

lemma Says.cons (hm : IsMessage m) (ht : m.headD 0 = t) (h : Says us ns) :
    Says (t :: us) (m :: ns) := (Says.one hm ht).append h

lemma Says.optional {message : Option Bytes} (h : ∀ m ∈ message, Says [t] [m]) :
    Says (if message.isSome then [t] else []) message.toList := by
  cases message with
  | none => exact .none
  | some m => exact h m rfl

lemma Says.unfinished (h : Says ts ms) (ht : MessageType.finished ∉ ts) :
    ∀ m ∈ ms, m.headD 0 ≠ MessageType.finished := by
  intro m hm hfinished
  rw [← h.types, ← hfinished] at ht
  exact ht (List.mem_map_of_mem hm)

lemma Says.initial (h : Says ts ms) (h' : Says us ns) (hfront : ms.flatten <+: ns.flatten) :
    ms <+: ns ∧ ts <+: us := by
  obtain ⟨r, hr⟩ := hfront
  obtain ⟨zs, hzs, _⟩ := messages_selfDelimiting.initial h.whole h'.whole hr
  have hinitial : ms <+: ns := ⟨zs, hzs.symm⟩
  refine ⟨hinitial, ?_⟩
  rw [← h.types, ← h'.types]
  exact hinitial.map _

variable {w : Bytes}

lemma marshalHandshake_spoken (h : tlcpMarshalHandshake msgType body = .ok w) :
    Says [msgType] [w] := by
  simp only [tlcpMarshalHandshake, bind_ok, pure_inj] at h
  obtain ⟨b, _, sized, hsized, rfl⟩ := h
  obtain ⟨hlen, rfl⟩ := sized24_ok.mp hsized
  refine .one ⟨by simp, ?_⟩ rfl
  have hvalue : be24At (msgType :: (be24 b.length ++ b)) 1 = b.length := by
    change (UInt8.ofNat (b.length / 65536)).toNat * 65536 +
      (UInt8.ofNat (b.length / 256)).toNat * 256 + (UInt8.ofNat b.length).toNat = b.length
    simp only [UInt8.toNat_ofNat']
    omega
  rw [hvalue]
  simp
  omega

lemma clientHello_spoken {hello : ClientHelloMsg} (h : hello.marshal = .ok w) :
    Says [MessageType.clientHello] [w] := by
  simp only [ClientHelloMsg.marshal, bind_ok] at h
  obtain ⟨_, _, h⟩ := h
  exact marshalHandshake_spoken h

lemma serverHello_spoken {serverHello : ServerHelloMsg} (h : serverHello.marshal = .ok w) :
    Says [MessageType.serverHello] [w] := by
  simp only [ServerHelloMsg.marshal, bind_ok] at h
  obtain ⟨_, _, h⟩ := h
  exact marshalHandshake_spoken h

structure ServerFlight where
  certificate : Bytes
  keyExchange : Bytes
  request : Option Bytes
  done : Bytes
  deriving DecidableEq

def ServerFlight.messages (f : ServerFlight) : List Bytes :=
  f.certificate :: f.keyExchange :: (f.request.toList ++ [f.done])

def endTypes (asked : Bool) : List UInt8 :=
  (if asked then [MessageType.certificateRequest] else []) ++ [MessageType.serverHelloDone]

def ServerFlight.types (f : ServerFlight) : List UInt8 :=
  MessageType.certificate :: MessageType.serverKeyExchange :: endTypes f.request.isSome

structure ClientFlight where
  certificate : Option Bytes
  keyExchange : Bytes
  verify : Option Bytes
  deriving DecidableEq

def ClientFlight.messages (f : ClientFlight) : List Bytes :=
  f.certificate.toList ++ f.keyExchange :: f.verify.toList

def ClientFlight.types (f : ClientFlight) : List UInt8 :=
  (if f.certificate.isSome then [MessageType.certificate] else []) ++
    MessageType.clientKeyExchange ::
    (if f.verify.isSome then [MessageType.certificateVerify] else [])

/-- The messages of a handshake. A resumed one has no flights. -/
structure Script where
  clientHello : Bytes
  serverHello : Bytes
  flights : Option (ServerFlight × ClientFlight)
  clientFinished : Bytes
  serverFinished : Bytes
  deriving DecidableEq

namespace Script

variable (m : Script)

def serverFlight : List Bytes := m.flights.elim [] (·.1.messages)

def clientFlight : List Bytes := m.flights.elim [] (·.2.messages)

def fromClient : List Bytes := m.clientHello :: (m.clientFlight ++ [m.clientFinished])

def fromServer : List Bytes := m.serverHello :: (m.serverFlight ++ [m.serverFinished])

def clientTypes : List UInt8 :=
  MessageType.clientHello :: (m.flights.elim [] (·.2.types) ++ [MessageType.finished])

def serverTypes : List UInt8 :=
  MessageType.serverHello :: (m.flights.elim [] (·.1.types) ++ [MessageType.finished])

def opening : Bytes :=
  (m.clientHello :: m.serverHello :: (m.serverFlight ++ m.clientFlight)).flatten

end Script

/-- The client finishes first, unless the handshake is a resumed one. -/
structure Account.Follows (a : Account) (m : Script) : Prop where
  client : Says m.clientTypes m.fromClient
  server : Says m.serverTypes m.fromServer
  resumed : a.resumed = m.flights.isNone
  clientFinished : a.clientFinished = m.opening ++ (if a.resumed then m.serverFinished else [])
  serverFinished : a.serverFinished = m.opening ++ (if a.resumed then [] else m.clientFinished)

section

variable {m m' : Script} {a a' : Account}

open Script MessageType

/-- The types tell a resumed handshake from a full one. -/
lemma fromServer_initial (htypes : m.serverTypes <+: m'.serverTypes)
    (h : m.fromServer <+: m'.fromServer) :
    m.serverHello = m'.serverHello ∧ m.flights.map Prod.fst = m'.flights.map Prod.fst ∧
      m.serverFinished = m'.serverFinished := by
  obtain ⟨_, _, flights, _, _⟩ := m
  obtain ⟨_, _, flights', _, _⟩ := m'
  simp only [serverTypes, fromServer, serverFlight] at htypes h ⊢
  rcases flights with _ | ⟨⟨_, _, request, _⟩, _⟩ <;>
    rcases flights' with _ | ⟨⟨_, _, request', _⟩, _⟩
  · simpa using h
  · simp [ServerFlight.types, finished, certificate] at htypes
  · simp [ServerFlight.types, finished, certificate] at htypes
  · cases request <;> cases request' <;>
      simp [ServerFlight.types, ServerFlight.messages, endTypes, finished, certificateRequest,
        serverHelloDone] at htypes h ⊢ <;>
      simp [h]

lemma fromClient_initial (htypes : m'.clientTypes <+: m.clientTypes)
    (h : m'.fromClient <+: m.fromClient) :
    m.clientHello = m'.clientHello ∧ m.flights.map Prod.snd = m'.flights.map Prod.snd ∧
      m.clientFinished = m'.clientFinished := by
  obtain ⟨_, _, flights, _, _⟩ := m
  obtain ⟨_, _, flights', _, _⟩ := m'
  simp only [Script.clientTypes, fromClient, clientFlight] at htypes h ⊢
  rcases flights with _ | ⟨_, ⟨cert, _, verify⟩⟩ <;> rcases flights' with _ | ⟨_,
    ⟨cert', _, verify'⟩⟩
  · simp at h; simp [h]
  · cases cert' <;> simp [ClientFlight.types, finished, certificate, clientKeyExchange] at htypes
  · cases cert <;> simp [ClientFlight.types, finished, certificate, clientKeyExchange] at htypes
  · cases cert <;> cases cert' <;> cases verify <;> cases verify' <;>
      simp [ClientFlight.types, ClientFlight.messages, finished, certificate, clientKeyExchange,
        certificateVerify] at htypes h ⊢ <;>
      simp [h]

lemma Account.Follows.unique (h : a.Follows m) (h' : a'.Follows m')
    (hdown : m.fromServer.flatten <+: m'.fromServer.flatten)
    (hup : m'.fromClient.flatten <+: m.fromClient.flatten) : m = m' := by
  obtain ⟨hmessages, htypes⟩ := h.server.initial h'.server hdown
  obtain ⟨hhello, hflights, hfinished⟩ := fromServer_initial htypes hmessages
  obtain ⟨hmessages', htypes'⟩ := h'.client.initial h.client hup
  obtain ⟨hhello', hflights', hfinished'⟩ := fromClient_initial htypes' hmessages'
  obtain ⟨_, _, flights, _, _⟩ := m
  obtain ⟨_, _, flights', _, _⟩ := m'
  dsimp only at hhello hflights hfinished hhello' hflights' hfinished'
  have hsame : flights = flights' := by
    cases flights <;> cases flights' <;> simp_all [Prod.ext_iff]
  rw [hhello, hhello', hsame, hfinished, hfinished']

end
end Pollux.Tlcp
