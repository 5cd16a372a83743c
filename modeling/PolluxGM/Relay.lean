import PolluxGM.Server

/-!
# A handshake whose messages are relayed unmodified

The client's ClientHello goes to the server, the server flight to the client and
the client's Finished to the server. `relay` performs these steps and stops at
the first error.
-/
namespace Pollux.Tls

variable {P : Prims}

structure RelayRandom where
  clientHello : Except Err Random
  serverHello : Except Err Random
  signature : Bytes

structure Relayed (P : Prims) where
  clientHello : Bytes
  flight : Flight
  clientFinished : Bytes
  client : ClientHandshaker P
  server : ServerHandshaker P

def relay (c : ClientHandshaker P) (s : ServerHandshaker P) (cb : Callbacks) (r : RelayRandom) :
    Except Err (Relayed P) := do
  let (ch, c) ← settle (clientHello c r.clientHello)
  let (_, s) ← settle (handleClientHello s ch cb)
  let (f, s) ← settle (serverFlight s r.serverHello r.signature)
  let (_, c) ← settle (handleServerFlight c f.serverHello f.encryptedExt f.certificate f.certVerify
    f.finished)
  let (cf, c) ← settle (clientFinished c)
  let (_, s) ← settle (handleClientFinished s cf)
  return ⟨ch, f, cf, c, s⟩

def sampleClientConfig : ClientConfig toyPrims where
  dcid := [1]
  serverName := "pollux"
  roots := some [[15, 1]]

def sampleServerConfig : ServerConfig toyPrims where
  dcid := [1]
  certificate := some [15, 1]
  privateKey := some (5 : UInt8)
  hasSessionTicketKeys := true

def sampleRandom : RelayRandom := ⟨.ok (Random.copy [7]), .ok (Random.copy [8]), []⟩

def sampleCallbacks : Callbacks := ⟨[], fun _ _ => false⟩

def sampleTicketRandom : TicketRandom := ⟨.ok (zeros 16), .ok 5, .ok (zeros 12)⟩

def sampleClient : ClientHandshaker toyPrims :=
  okValue (newClientHandshakerWithConfig sampleClientConfig (.ok (5 : UInt8))) (by decide +kernel)

def sampleServer : ServerHandshaker toyPrims :=
  okValue (newServerHandshakerWithConfig sampleServerConfig (.ok (6 : UInt8))) (by decide +kernel)

def sampleRelayed : Relayed toyPrims :=
  okValue (relay sampleClient sampleServer sampleCallbacks sampleRandom) (by decide +kernel)

def sampleTicket : Bytes :=
  okValue (newSessionTicketWithData sampleRelayed.server 3600 [] [zeros 16] sampleTicketRandom)
    (by decide +kernel)

def samplePSK : Bytes := List.replicate 32 3

def sampleIdentity : Bytes :=
  okValue (encryptSessionTicketWithData toyPrims (zeros 16) ⟨samplePSK, 0, []⟩ (.ok (zeros 12)))
    (by decide +kernel)

def sampleResumingConfig : ClientConfig toyPrims :=
  { sampleClientConfig with resumptionPSK := some samplePSK, resumptionIdentity := sampleIdentity }

def sampleResumer : ClientHandshaker toyPrims :=
  okValue (newClientHandshakerWithConfig sampleResumingConfig (.ok (5 : UInt8))) (by decide +kernel)

def sampleResumption : Bytes :=
  okValue (clientHello sampleResumer sampleRandom.clientHello).1 (by decide +kernel)

def resumingCallbacks : Callbacks := ⟨[zeros 16], fun _ _ => true⟩

end Pollux.Tls
