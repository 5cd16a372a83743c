import PolluxGM.ClientRun
import PolluxGM.Updatable

/-!
# The client half of the QUIC crypto setup

Embedding of `GMCryptoSetup` on the client side. The event queue is kept whole; `NextEvent` only
takes events off its front. `unmarshal` is the parser for the server's transport parameters. A
client has no 0-RTT opener.
-/
namespace Pollux.CryptoSetup

open Tls

inductive EncryptionLevel where
  | initial
  | handshake
  | zeroRTT
  | oneRTT
  deriving DecidableEq

def EncryptionLevel.name : EncryptionLevel → String
  | .initial => "Initial"
  | .handshake => "Handshake"
  | .zeroRTT => "0-RTT"
  | .oneRTT => "1-RTT"

inductive Event (T : Type) where
  | writeInitialData (data : Bytes)
  | writeHandshakeData (data : Bytes)
  | receivedHandshakeReadKeys
  | received0RTTReadKeys
  | received1RTTReadKeys
  | discard0RTTKeys
  | receivedTransportParameters (tp : T)
  | restoredTransportParameters (tp : T)
  | handshakeComplete
  deriving DecidableEq

/-- `delivered` is what the ticket callback was given. -/
structure ClientSetup (P : Prims) (T : Type) where
  clientHs : ClientHandshaker P
  events : List (Event T)
  clientSession : Option SessionTicket
  delivered : List (SessionTicket × Bytes)
  peerParamsRaw : Bytes
  restoredParamsRaw : Bytes
  initialSealer : Option KeyMaterial
  initialOpener : Option KeyMaterial
  handshakeSealer : Option KeyMaterial
  handshakeOpener : Option KeyMaterial
  zeroRTTSealer : Option KeyMaterial
  oneRTTAEAD : Option UpdatableAEAD
  handshakeDropped : Bool
  handshakeDone : Bool

variable {P : Prims} {T : Type}

/-- The connection ID and our parameters replace the configured ones. -/
def newGMCryptoSetupClient (T : Type) (connID : Bytes) (clientCfg : ClientConfig P)
    (tp : Option Bytes) (keyPair : Except Err P.PrivateKey) : Except Err (ClientSetup P T) := do
  let cfg := { clientCfg with
    dcid := connID, transportParameters := tp.orElse fun _ => clientCfg.transportParameters }
  let hs ← newClientHandshakerWithConfig cfg keyPair
  let sealer ← newGMKeyMaterial P hs.keys.secrets.clientInitialKeys
  let opener ← newGMKeyMaterial P hs.keys.secrets.serverInitialKeys
  return {
    clientHs := hs
    events := []
    clientSession := none
    delivered := []
    peerParamsRaw := []
    restoredParamsRaw := clientCfg.resumptionAppData.getD []
    initialSealer := some sealer
    initialOpener := some opener
    handshakeSealer := none
    handshakeOpener := none
    zeroRTTSealer := none
    oneRTTAEAD := none
    handshakeDropped := false
    handshakeDone := false }

namespace ClientSetup

variable (g : ClientSetup P T)

def enqueue (ev : Event T) : ClientSetup P T := { g with events := g.events ++ [ev] }

def onClient {α : Type} (r : Except Err α × ClientHandshaker P) :
    Except Err α × ClientSetup P T := (r.1, { g with clientHs := r.2 })

def discardEarlyKeys : ClientSetup P T :=
  { g with clientHs := { g.clientHs with keys := g.clientHs.keys.discardEarly } }

def discard0RTTCodecs : ClientSetup P T := { g with zeroRTTSealer := none }

end ClientSetup

variable (unmarshal : Bytes → Except Err T) (g : ClientSetup P T)

def parseRestoredParams : Option T :=
  if g.restoredParamsRaw = [] then none else (unmarshal g.restoredParamsRaw).toOption

/-- Without the server's saved parameters the 0-RTT keys are dropped. -/
def startHandshake (rand : Except Err Random) : Except Err Unit × ClientSetup P T :=
  let r := clientHello g.clientHs rand
  andThen (g.onClient (wrapErr "handshake: GM ClientHello" r.1, r.2)) fun ch g =>
  let g := g.enqueue (.writeInitialData ch)
  if g.clientHs.keys.secrets.clientEarlyKeys.isNone then (.ok (), g)
  else match parseRestoredParams unmarshal g with
    | some tp => (.ok (), g.enqueue (.restoredTransportParameters tp))
    | none => (.ok (), g.discardEarlyKeys.discard0RTTCodecs)

def installHandshakeKeys : Except Err Unit × ClientSetup P T :=
  let secrets := g.clientHs.keys.secrets
  match newGMKeyMaterial P secrets.clientHandshakeKeys with
  | .error e => (.error e, g)
  | .ok sealer =>
    match newGMKeyMaterial P secrets.serverHandshakeKeys with
    | .error e => (.error e, g)
    | .ok opener => (.ok (),
      { g with handshakeSealer := some sealer, handshakeOpener := some opener }.enqueue
        .receivedHandshakeReadKeys)

def install1RTTKeys : Except Err Unit × ClientSetup P T :=
  let secrets := g.clientHs.keys.secrets
  match newGMUpdatableAEAD P secrets.clientApplicationKeys secrets.serverApplicationKeys
      secrets.clientApplicationTrafficSecret secrets.serverApplicationTrafficSecret with
  | .error e => (.error e, g)
  | .ok aead => (.ok (), { g with oneRTTAEAD := some aead }.enqueue .received1RTTReadKeys)

/-- The raw parameters are kept even when they do not parse. -/
def emitPeerTransportParameters (raw : Bytes) : Except Err Unit × ClientSetup P T :=
  if raw = [] then (.ok (), g)
  else
    let g := { g with peerParamsRaw := raw }
    match unmarshal raw with
    | .error e => (.error (.wrap "handshake: GM peer transport parameters" e), g)
    | .ok tp => (.ok (), g.enqueue (.receivedTransportParameters tp))

def completeClientFlight : Except Err Unit × ClientSetup P T :=
  andThen (install1RTTKeys g) fun _ g =>
  andThen (g.onClient (clientFinished g.clientHs)) fun cf g =>
  (.ok (), { g.enqueue (.writeHandshakeData cf) with handshakeDone := true }.enqueue
    .handshakeComplete)

/-- A HelloRetryRequest is answered at once with the second ClientHello. -/
def handleInitial (msgType : UInt8) (msg : Bytes) (rand : Except Err Random) :
    Except Err Unit × ClientSetup P T :=
  if msgType ≠ HandshakeType.serverHello then
    (.error (.text s!"handshake: GM unexpected Initial message type {msgType}"), g)
  else match handleServerHello g.clientHs msg with
    | (.ok (), c) => installHandshakeKeys { g with clientHs := c }
    | (.error e, c) =>
      let g := { g with clientHs := c }
      if e.isHelloRetryRequest then
        let hadEarlyKeys := c.keys.secrets.clientEarlyKeys.isSome
        andThen (g.onClient (handleHelloRetryRequest c msg rand)) fun ch2 g =>
        (.ok (), (if hadEarlyKeys then g.enqueue .discard0RTTKeys else g).enqueue
          (.writeInitialData ch2))
      else (.error e, g)

/-- 0-RTT that was not accepted is discarded with the extensions. -/
def handleExtensions (msg : Bytes) : Except Err Unit × ClientSetup P T :=
  andThen (g.onClient (handleEncryptedExtensions g.clientHs msg)) fun _ g =>
  let g := if g.clientHs.offerEarlyData && !g.clientHs.earlyDataAccepted then
    g.discardEarlyKeys.discard0RTTCodecs.enqueue .discard0RTTKeys else g
  emitPeerTransportParameters unmarshal g g.clientHs.peerTransportParams

def handleTicket (msg : Bytes) : Except Err Unit × ClientSetup P T :=
  let r := handleNewSessionTicket g.clientHs (msg.drop 4)
  andThen (g.onClient (wrapErr "handshake: GM process NewSessionTicket" r.1, r.2)) fun t g =>
  (.ok (), { g with clientSession := some t, delivered := g.delivered ++ [(t, g.peerParamsRaw)] })

def handleOneClient (msgType : UInt8) (msg : Bytes) (encLevel : EncryptionLevel)
    (rand : Except Err Random) :
    Except Err Unit × ClientSetup P T :=
  match encLevel with
  | .initial => handleInitial g msgType msg rand
  | .handshake =>
    if msgType = HandshakeType.encryptedExtensions then handleExtensions unmarshal g msg
    else if msgType = HandshakeType.certificate then g.onClient (handleCertificate g.clientHs msg)
    else if msgType = HandshakeType.certificateVerify then g.onClient
      (handleCertificateVerify g.clientHs msg)
    else if msgType = HandshakeType.finished then
      andThen (g.onClient (handleServerFinished g.clientHs msg)) fun _ g => completeClientFlight g
    else (.error (.text s!"handshake: GM unexpected Handshake message type {msgType}"), g)
  | .oneRTT =>
    if msgType = HandshakeType.newSessionTicket then handleTicket g msg
    else (.error (.text s!"handshake: GM unexpected 1-RTT message type {msgType}"), g)
  | .zeroRTT =>
    (.error (.text s!"handshake: GM client received message at unexpected level {encLevel.name}"),
      g)

/-- Every round takes at least the four header octets. -/
def handleMessages {σ : Type} (handleOne : UInt8 → Bytes → σ → Except Err Unit × σ)
    (encLevel : EncryptionLevel) :
    Nat → Bytes → σ → Except Err Unit × σ
  | 0, _, g => (.ok (), g)
  | rounds + 1, data, g =>
    if data = [] then (.ok (), g)
    else match readHandshakeMessage data with
      | .error e => (.error (.wrap s!"handshake: GM parse message at {encLevel.name}" e), g)
      | .ok (msgType, _, n) =>
        andThen (handleOne msgType (data.take n) g) fun _ g =>
        handleMessages handleOne encLevel rounds (data.drop n) g

/-- `rand` is for a second ClientHello; at most one message calls for it. -/
def handleMessage (data : Bytes) (encLevel : EncryptionLevel) (rand : Except Err Random) :
    Except Err Unit × ClientSetup P T :=
  handleMessages (fun msgType msg g => handleOneClient unmarshal g msgType msg encLevel rand)
    encLevel data.length data g

def errKeysNotYetAvailable : Err :=
  .text "CryptoSetup: keys at this encryption level not yet available"

/-- A cached codec is returned without a look at its keys. -/
def getCodec (cached : Option KeyMaterial) (earlyKeys : Option QUICPacketKeys) :
    Except Err KeyMaterial :=
  match cached with
  | some codec => .ok codec
  | none =>
    match earlyKeys with
    | none => .error errKeysNotYetAvailable
    | some keys => newGMKeyMaterial P (some keys)

namespace ClientSetup

def get0RTTSealer : Except Err KeyMaterial × ClientSetup P T :=
  match getCodec (P := P) g.zeroRTTSealer g.clientHs.keys.secrets.clientEarlyKeys with
  | .error e => (.error e, g)
  | .ok sealer => (.ok sealer, { g with zeroRTTSealer := some sealer })

def setHandshakeConfirmed (g : ClientSetup P T) : ClientSetup P T :=
  { g with
    handshakeDropped := true
    handshakeSealer := none
    handshakeOpener := none
    oneRTTAEAD := g.oneRTTAEAD.map Tls.setHandshakeConfirmed }

/-- The 1-RTT keys stay, for the packet that closes the connection. -/
def close (wiped : P.PrivateKey) : ClientSetup P T :=
  discard0RTTCodecs { g with
    clientHs := g.clientHs.zero wiped
    clientSession := g.clientSession.map fun t => { t with identity := [], psk := [] } }

end ClientSetup

end Pollux.CryptoSetup
