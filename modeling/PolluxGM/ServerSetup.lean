import PolluxGM.CryptoSetup

/-!
# The server half of the QUIC crypto setup

Embedding of `GMCryptoSetup` on the server side. The 1-RTT keys are installed with the server
flight; the opener is held back until the client's Finished. A server has no 0-RTT sealer. A setup
is one of the two halves.
-/
namespace Pollux.QuicServer

open Tls CryptoSetup

/-- The wire package's functions on the transport parameters of either side. -/
structure Wire (T : Type) where
  marshal : T → Bytes
  unmarshalClient : Bytes → Except Err T
  unmarshalServer : Bytes → Except Err T
  validFor0RTT : T → T → Bool

structure ServerSetup (P : Prims) (T : Type) where
  serverHs : ServerHandshaker P
  ourParams : Option T
  events : List (Event T)
  initialSealer : Option KeyMaterial
  initialOpener : Option KeyMaterial
  handshakeSealer : Option KeyMaterial
  handshakeOpener : Option KeyMaterial
  zeroRTTOpener : Option KeyMaterial
  oneRTTAEAD : Option UpdatableAEAD
  handshakeDropped : Bool
  handshakeDone : Bool

structure Answers where
  callbacks : Callbacks
  rand : Except Err Random
  sigRand : Bytes

variable {P : Prims} {T : Type}

variable (w : Wire T) (g : ServerSetup P T)

/-- Our own parameters replace the configured ones, and both 0-RTT switches must be on. -/
def newGMCryptoSetupServer (connID : Bytes) (serverCfg : ServerConfig P) (tp : Option T)
    (allow0RTT : Bool) (keyPair : Except Err P.PrivateKey) : Except Err (ServerSetup P T) := do
  let cfg := { serverCfg with
    dcid := connID
    transportParameters := (tp.map w.marshal).orElse fun _ => serverCfg.transportParameters
    allowEarlyData := serverCfg.allowEarlyData && allow0RTT }
  let hs ← newServerHandshakerWithConfig cfg keyPair
  let sealer ← newGMKeyMaterial P hs.keys.secrets.serverInitialKeys
  let opener ← newGMKeyMaterial P hs.keys.secrets.clientInitialKeys
  return {
    serverHs := hs
    ourParams := tp
    events := []
    initialSealer := some sealer
    initialOpener := some opener
    handshakeSealer := none
    handshakeOpener := none
    zeroRTTOpener := none
    oneRTTAEAD := none
    handshakeDropped := false
    handshakeDone := false }

namespace ServerSetup

def enqueue (ev : Event T) : ServerSetup P T := { g with events := g.events ++ [ev] }

def onServer {α : Type} (r : Except Err α × ServerHandshaker P) :
    Except Err α × ServerSetup P T := (r.1, { g with serverHs := r.2 })

def earlyKeys : Option QUICPacketKeys := g.serverHs.keys.secrets.clientEarlyKeys

def discardEarlyKeys : ServerSetup P T :=
  { g with serverHs := { g.serverHs with keys := g.serverHs.keys.discardEarly } }

def discard0RTTCodecs : ServerSetup P T := { g with zeroRTTOpener := none }

end ServerSetup

/-- A ticket without saved parameters does not admit 0-RTT. -/
def savedParamsValidFor0RTT (ourParams : T) (saved : Bytes) : Bool :=
  saved ≠ [] && match w.unmarshalServer saved with
    | .error _ => false
    | .ok savedTP => w.validFor0RTT ourParams savedTP

/-- Early data whose saved parameters no longer hold is declined. -/
def admitEarlyData : ServerSetup P T :=
  match g.ourParams with
  | none => g
  | some ours =>
    if g.earlyKeys.isSome && !savedParamsValidFor0RTT w ours g.serverHs.resumptionAppData then
      g.discardEarlyKeys.discard0RTTCodecs
    else g

/-- The 0-RTT event comes first, also when a key cannot be set up. -/
def installHandshakeKeys : Except Err Unit × ServerSetup P T :=
  let secrets := g.serverHs.keys.secrets
  let g := if secrets.clientEarlyKeys.isSome then g.enqueue .received0RTTReadKeys else g
  match newGMKeyMaterial P secrets.serverHandshakeKeys with
  | .error e => (.error e, g)
  | .ok sealer =>
    match newGMKeyMaterial P secrets.clientHandshakeKeys with
    | .error e => (.error e, g)
    | .ok opener => (.ok (),
      { g with handshakeSealer := some sealer, handshakeOpener := some opener }.enqueue
        .receivedHandshakeReadKeys)

def install1RTTKeys : Except Err Unit × ServerSetup P T :=
  let secrets := g.serverHs.keys.secrets
  match newGMUpdatableAEAD P secrets.serverApplicationKeys secrets.clientApplicationKeys
      secrets.serverApplicationTrafficSecret secrets.clientApplicationTrafficSecret with
  | .error e => (.error e, g)
  | .ok aead => (.ok (), { g with oneRTTAEAD := some aead })

def emitPeerTransportParameters (raw : Bytes) : Except Err Unit × ServerSetup P T :=
  if raw = [] then (.ok (), g)
  else match w.unmarshalClient raw with
    | .error e => (.error (.wrap "handshake: GM peer transport parameters" e), g)
    | .ok tp => (.ok (), g.enqueue (.receivedTransportParameters tp))

def emitServerFlight (a : Answers) : Except Err Unit × ServerSetup P T :=
  andThen (g.onServer (serverFlight g.serverHs a.rand a.sigRand)) fun f g =>
  andThen (installHandshakeKeys g) fun _ g =>
  andThen (install1RTTKeys g) fun _ g =>
  (.ok (), (g.enqueue (.writeInitialData f.serverHello)).enqueue
    (.writeHandshakeData (f.encryptedExt ++ f.certificate ++ f.certVerify ++ f.finished)))

def handleHello (msg : Bytes) (a : Answers) : Except Err Unit × ServerSetup P T :=
  andThen (g.onServer (handleClientHello g.serverHs msg a.callbacks)) fun _ g =>
  let g := admitEarlyData w g
  andThen (emitPeerTransportParameters w g g.serverHs.peerTransportParams) fun _ g =>
  emitServerFlight g a

/-- Only now are the 1-RTT read keys announced and the opener released. -/
def completeServer : ServerSetup P T :=
  ({ g with handshakeDone := true }.enqueue .received1RTTReadKeys).enqueue .handshakeComplete

def handleOneServer (msgType : UInt8) (msg : Bytes) (encLevel : EncryptionLevel) (a : Answers) :
    Except Err Unit × ServerSetup P T :=
  match encLevel with
  | .initial =>
    if msgType ≠ HandshakeType.clientHello then
      (.error (.text s!"handshake: GM unexpected Initial message type {msgType}"), g)
    else handleHello w g msg a
  | .handshake =>
    if msgType ≠ HandshakeType.finished then
      (.error (.text s!"handshake: GM unexpected Handshake message type {msgType}"), g)
    else andThen (g.onServer (handleClientFinished g.serverHs msg)) fun _ g =>
      (.ok (), completeServer g)
  | .zeroRTT | .oneRTT =>
    (.error (.text s!"handshake: GM server received message at unexpected level {encLevel.name}"),
      g)

/-- The answers are for the one ClientHello of the stream that is taken. -/
def handleMessage (data : Bytes) (encLevel : EncryptionLevel) (a : Answers) :
    Except Err Unit × ServerSetup P T :=
  handleMessages (fun msgType msg g => handleOneServer w g msgType msg encLevel a) encLevel
    data.length data g

namespace ServerSetup

def get1RTTOpener : Except Err UpdatableAEAD :=
  match g.oneRTTAEAD with
  | none => .error errKeysNotYetAvailable
  | some aead => if g.handshakeDone then .ok aead else .error errKeysNotYetAvailable

def get0RTTOpener : Except Err KeyMaterial × ServerSetup P T :=
  match getCodec (P := P) g.zeroRTTOpener g.earlyKeys with
  | .error e => (.error e, g)
  | .ok opener => (.ok opener, { g with zeroRTTOpener := some opener })

/-- A server that used 0-RTT ends it here. -/
def setHandshakeConfirmed (g : ServerSetup P T) : ServerSetup P T :=
  let g := { g with
    handshakeDropped := true
    handshakeSealer := none
    handshakeOpener := none
    oneRTTAEAD := g.oneRTTAEAD.map Tls.setHandshakeConfirmed }
  if g.earlyKeys.isSome then g.discardEarlyKeys.discard0RTTCodecs.enqueue .discard0RTTKeys else g

def close (wiped : P.PrivateKey) : ServerSetup P T :=
  discard0RTTCodecs { g with serverHs := g.serverHs.zero wiped }

end ServerSetup

inductive GMCryptoSetup (P : Prims) (T : Type) where
  | client (g : ClientSetup P T)
  | server (g : ServerSetup P T)

/-- `rand` is for the client's hellos, `answers` are for the server. -/
inductive SetupCall (P : Prims) where
  | startHandshake (rand : Except Err Random)
  | handleMessage (data : Bytes) (encLevel : EncryptionLevel) (rand : Except Err Random)
    (answers : Answers)
  | get0RTTSealer
  | get0RTTOpener
  | setHandshakeConfirmed
  | close (wiped : P.PrivateKey)

inductive SetupAnswer where
  | done (r : Except Err Unit)
  | codec (r : Except Err KeyMaterial)

namespace GMCryptoSetup

def clientEarlyKeys : GMCryptoSetup P T → Option QUICPacketKeys
  | .client g => g.clientHs.keys.secrets.clientEarlyKeys
  | .server g => g.earlyKeys

def zeroRTTCodec : GMCryptoSetup P T → Option KeyMaterial
  | .client g => g.zeroRTTSealer
  | .server g => g.zeroRTTOpener

def startHandshake (w : Wire T) (rand : Except Err Random) :
    GMCryptoSetup P T → Except Err Unit × GMCryptoSetup P T
  | .client g =>
    let r := CryptoSetup.startHandshake w.unmarshalServer g rand
    (r.1, .client r.2)
  | .server g => (.ok (), .server g)

def handleMessage (w : Wire T) (data : Bytes) (encLevel : EncryptionLevel)
    (rand : Except Err Random) (a : Answers) :
    GMCryptoSetup P T → Except Err Unit × GMCryptoSetup P T
  | .client g =>
    let r := CryptoSetup.handleMessage w.unmarshalServer g data encLevel rand
    (r.1, .client r.2)
  | .server g =>
    let r := QuicServer.handleMessage w g data encLevel a
    (r.1, .server r.2)

def get0RTTSealer : GMCryptoSetup P T → Except Err KeyMaterial × GMCryptoSetup P T
  | .client g => (g.get0RTTSealer.1, .client g.get0RTTSealer.2)
  | .server g => (.error errKeysNotYetAvailable, .server g)

def get0RTTOpener : GMCryptoSetup P T → Except Err KeyMaterial × GMCryptoSetup P T
  | .client g => (.error errKeysNotYetAvailable, .client g)
  | .server g => (g.get0RTTOpener.1, .server g.get0RTTOpener.2)

def setHandshakeConfirmed : GMCryptoSetup P T → GMCryptoSetup P T
  | .client g => .client g.setHandshakeConfirmed
  | .server g => .server g.setHandshakeConfirmed

def close (wiped : P.PrivateKey) : GMCryptoSetup P T → GMCryptoSetup P T
  | .client g => .client (g.close wiped)
  | .server g => .server (g.close wiped)

end GMCryptoSetup

def SetupCall.step (call : SetupCall P) (s : GMCryptoSetup P T) : SetupAnswer × GMCryptoSetup P T :=
  match call with
  | .startHandshake rand =>
    let r := s.startHandshake w rand
    (.done r.1, r.2)
  | .handleMessage data encLevel rand a =>
    let r := s.handleMessage w data encLevel rand a
    (.done r.1, r.2)
  | .get0RTTSealer => (.codec s.get0RTTSealer.1, s.get0RTTSealer.2)
  | .get0RTTOpener => (.codec s.get0RTTOpener.1, s.get0RTTOpener.2)
  | .setHandshakeConfirmed => (.done (.ok ()), s.setHandshakeConfirmed)
  | .close wiped => (.done (.ok ()), s.close wiped)

end Pollux.QuicServer
