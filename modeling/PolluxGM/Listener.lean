import PolluxGM.Server
import PolluxGM.AntiReplay
import PolluxGM.TicketKeys

/-!
# A QUIC listener and its connections

Embedding of `Listen` and `tls13ServerConfig` of quicgm. All connections share the ticket-key
rotator and the anti-replay cache. One event takes the keys for a ClientHello, a later one answers
it, so other connections may come in between.
-/
namespace Pollux.QuicListener

open Tls

variable {P : Prims}

structure QuicServerConfig (P : Prims) where
  certificate : Option P.Certificate
  privateKey : Option P.PrivateKey
  hasClientCAs : Bool := false
  maxIdleTimeout : Int := 0
  maxIncomingStreams : Int := 0
  nextProtos : List Bytes
  sessionTicketKey : Bytes := []
  allowEarlyData : Bool := false
  antiReplay : Option AntiReplayCache := none

/-- One connection: its parser for the client's parameters, and its comparison with those saved in
a ticket. -/
structure Connection (P : Prims) where
  dcid : Bytes
  transportParameters : Option Bytes
  keyPair : Except Err P.PrivateKey
  readPeerParams : Bytes → Except Err Unit
  validFor0RTT : Bytes → Bool

structure Waiting (P : Prims) where
  connection : Connection P
  handshaker : ServerHandshaker P
  hello : Bytes
  ticketKeys : List Bytes

structure Acceptance where
  hello : Bytes
  psk : Bytes
  time : Int
  deriving DecidableEq

/-- `accepted` and `ticketKeys` are history: every 0-RTT acceptance, and every ticket key handed
out. -/
structure Listener (P : Prims) where
  config : QuicServerConfig P
  rotator : TicketKeyRotator
  cache : AntiReplayCache
  clock : Int
  waiting : List (Waiting P)
  accepted : List Acceptance
  ticketKeys : List Bytes

def errNoServerCert : Err := .text "quicgm: server Certificate and PrivateKey are required"
def errEmptyALPN : Err :=
  .text "quicgm: NextProtos is required (RFC 9001 §8.1 mandates ALPN for QUIC)"
def errNegativeConfig : Err :=
  .text "quicgm: MaxIdleTimeout and MaxIncomingStreams must not be negative"

def defaultTicketKeyRotation : Int := 3600000000000

def validateTransportKnobs (idleTimeout maxIncomingStreams : Int) : Except Err Unit :=
  reject (idleTimeout < 0 ∨ maxIncomingStreams < 0) errNegativeConfig

variable (cfg : QuicServerConfig P)

def listen (fresh : Except Err Bytes) (now : Int) : Except Err (Listener P) := do
  reject (cfg.certificate.isNone ∨ cfg.privateKey.isNone) errNoServerCert
  reject (cfg.nextProtos = []) errEmptyALPN
  validateTransportKnobs cfg.maxIdleTimeout cfg.maxIncomingStreams
  reject (cfg.hasClientCAs = true)
    (.text "quicgm: ClientCAs is not yet supported by the GM handshake layer")
  let rotator ← newTicketKeyRotator cfg.sessionTicketKey defaultTicketKeyRotation fresh now
  return ⟨cfg, rotator, cfg.antiReplay.getD .rejecting, now, [], [], []⟩

def QuicServerConfig.allowEarly : Bool := cfg.allowEarlyData && cfg.antiReplay.isSome

def QuicServerConfig.tls13ServerConfig : ServerConfig P where
  dcid := []
  certificate := cfg.certificate
  privateKey := cfg.privateKey
  nextProtos := cfg.nextProtos
  hasSessionTicketKeys := true
  allowEarlyData := cfg.allowEarly
  hasEarlyDataAcceptor := cfg.allowEarly

/-- `NewGMCryptoSetupServer`: the connection's fields and the 0-RTT switch. -/
def connectionConfig (c : Connection P) : ServerConfig P :=
  { cfg.tls13ServerConfig with
    dcid := c.dcid
    transportParameters := c.transportParameters
    allowEarlyData := cfg.tls13ServerConfig.allowEarlyData && cfg.allowEarly }

def asksTicketKeys (s : ServerHandshaker P) (hello : Bytes) : Bool :=
  match readClientHello hello with
  | .error _ => false
  | .ok (_, m, ks) =>
    let pskExt := findExtension m.extensions ExtensionType.preSharedKey
    (negotiateALPN s.config.nextProtos m.extensions).isOk && (clientShare P ks).isOk && pskExt ≠
      [] && offersPSKDHEKE (findExtension m.extensions ExtensionType.pskKeyExchangeModes) &&
      s.config.hasSessionTicketKeys && (readPreSharedKey pskExt).isOk

/-- The question to the acceptor. It comes last, so it is read off a run that answers no. -/
def acceptorQuery (s : ServerHandshaker P) (hello : Bytes) (teks : List Bytes) :
    Option (Bytes × Nat) :=
  match handleClientHello s hello ⟨teks, fun _ _ => false⟩ with
  | (.error _, _) => none
  | (.ok (), s) => if s.clientOfferedEarlyData then earlyDataQuery s else none

def earlyDataAcceptor (P : Prims) (cache : AntiReplayCache) (now : Int) (psk : Bytes)
    (realAge : Nat) :
    Bool × AntiReplayCache := cache.check (P.sm3 psk) realAge now

/-- Early data whose saved parameters no longer hold is dropped. -/
def admitEarlyData (c : Connection P) (s : ServerHandshaker P) : ServerHandshaker P :=
  if s.keys.secrets.clientEarlyKeys.isSome && c.validFor0RTT s.resumptionAppData = false then
    { s with keys := s.keys.discardEarly }
  else s

def Waiting.serve (w : Waiting P) (cache : AntiReplayCache) (now : Int) (rand : Except Err Random)
    (sigRand : Bytes) :
    Except Err Flight × ServerHandshaker P :=
  let cb : Callbacks := ⟨w.ticketKeys, fun psk age => (earlyDataAcceptor P cache now psk age).1⟩
  andThen (handleClientHello w.handshaker w.hello cb) fun _ s =>
    let s := admitEarlyData w.connection s
    match w.connection.readPeerParams s.peerTransportParams with
    | .error e => (.error e, s)
    | .ok () => serverFlight s rand sigRand

def Waiting.cacheAfter (w : Waiting P) (cache : AntiReplayCache) (now : Int) : AntiReplayCache :=
  match acceptorQuery w.handshaker w.hello w.ticketKeys with
  | none => cache
  | some (psk, age) => (earlyDataAcceptor P cache now psk age).2

def echoesEarlyData (f : Flight) : Bool :=
  match readTyped "EncryptedExtensions" HandshakeType.encryptedExtensions
      EncryptedExtensionsMsg.unmarshalBody f.encryptedExt with
  | .error _ => false
  | .ok (_, ee) => hasExtension ee.extensions ExtensionType.earlyData

/-- The early keys exist and the flight says so. -/
def accepts0RTT (r : Except Err Flight × ServerHandshaker P) : Bool :=
  match r.1 with
  | .error _ => false
  | .ok f => r.2.keys.secrets.clientEarlyKeys.isSome && echoesEarlyData f

inductive Event (P : Prims) where
  | issue (now later : Int) (fresh : Except Err Bytes)
  | arrive (c : Connection P) (hello : Bytes) (now later : Int) (fresh : Except Err Bytes)
  | answer (i : Nat) (now : Int) (rand : Except Err Random) (sigRand : Bytes)

def Listener.takeKeys (l : Listener P) (now later : Int) (fresh : Except Err Bytes) :
    List Bytes × Listener P :=
  let (teks, rotator) := l.rotator.keys now later fresh
  (teks, { l with rotator := rotator, clock := later, ticketKeys := teks ++ l.ticketKeys })

def Listener.await (l : Listener P) (w : Waiting P) : Listener P :=
  { l with waiting := l.waiting ++ [w] }

def Listener.answered (l : Listener P) (i : Nat) (w : Waiting P) (now : Int)
    (r : Except Err Flight × ServerHandshaker P) : Listener P :=
  { l with
    cache := w.cacheAfter l.cache now
    clock := now
    waiting := l.waiting.eraseIdx i
    accepted :=
      if accepts0RTT r then ⟨w.hello, r.2.resumptionSelectedPSK.getD [], now⟩ :: l.accepted
        else l.accepted }

def step : Event P → Listener P → Except Err (Option Flight) × Listener P
  | .issue now later fresh, l => (.ok none, (l.takeKeys now later fresh).2)
  | .arrive c hello now later fresh, l =>
    match newServerHandshakerWithConfig (connectionConfig l.config c) c.keyPair with
    | .error e => (.error e, { l with clock := later })
    | .ok s =>
      if asksTicketKeys s hello then
        let (teks, l) := l.takeKeys now later fresh
        (.ok none, l.await ⟨c, s, hello, teks⟩)
      else (.ok none, { l with clock := later }.await ⟨c, s, hello, []⟩)
  | .answer i now rand sigRand, l =>
    match l.waiting[i]? with
    | none => (.ok none, { l with clock := now })
    | some w =>
      let r := w.serve l.cache now rand sigRand
      (r.1.map some, l.answered i w now r)

def Event.inOrder (clock : Int) : Event P → Prop
  | .issue now later _ => clock ≤ now ∧ now ≤ later
  | .arrive _ _ now later _ => clock ≤ now ∧ now ≤ later
  | .answer _ now _ _ => clock ≤ now

instance (clock : Int) : (e : Event P) → Decidable (e.inOrder clock)
  | .issue _ _ _ => inferInstanceAs (Decidable (_ ∧ _))
  | .arrive _ _ _ _ _ => inferInstanceAs (Decidable (_ ∧ _))
  | .answer _ _ _ _ => inferInstanceAs (Decidable (_ ≤ _))

end Pollux.QuicListener
