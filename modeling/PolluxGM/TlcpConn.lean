import PolluxGM.TlcpRecord
import PolluxGM.TlcpSession

/-!
# TLCP connections

The connection of `engine_conn.go`. The transport is a list of what it will deliver and a list of
what its writes will return. Three histories are kept that nothing reads: of the read side, of the
write side, and of the calls on the session cache.
-/
namespace Pollux.Tlcp

open TlcpSession

def versionTLCP : UInt16 := 0x0101
def maxHandshake : Nat := 16 * 1024
def maxHandshakeCertificateMsg : Nat := 128 * 1024
def alertLevelWarning : UInt8 := 1
def alertLevelError : UInt8 := 2
def alertCloseNotify : UInt8 := 0
def alertHandshakeFailure : UInt8 := 40

namespace MessageType
def clientHello : UInt8 := 1
def serverHello : UInt8 := 2
def certificate : UInt8 := 11
def serverKeyExchange : UInt8 := 12
def certificateRequest : UInt8 := 13
def serverHelloDone : UInt8 := 14
def certificateVerify : UInt8 := 15
def clientKeyExchange : UInt8 := 16
def finished : UInt8 := 20
end MessageType

/-- An error of the transport: its end, or anything else. -/
inductive NetErr where
  | eof
  | other (text : String)
  deriving DecidableEq

def NetErr.err : NetErr → Err
  | .eof => .eof
  | .other text => .net text

/-- What one read of the transport brings. -/
inductive Arrival where
  | bytes (b : Bytes)
  | fault (e : NetErr)
  deriving DecidableEq

/-- The error of `io.ReadFull` after the octets `got`. -/
def shortRead (got : Bytes) : NetErr → Err
  | .eof => if got = [] then .eof else .unexpectedEOF
  | .other text => .net text

/-- `io.ReadFull` of `n` octets, of which `got` have been read. -/
def readFullFrom (n : Nat) : Bytes → List Arrival → Except Err Bytes × List Arrival
  | got, [] => if n ≤ got.length then (.ok got, []) else (.error (shortRead got .eof), [])
  | got, .fault e :: rest =>
    if n ≤ got.length then (.ok got, .fault e :: rest) else (.error (shortRead got e), rest)
  | got, .bytes b :: rest =>
    if n ≤ got.length + b.length then
      (.ok (got ++ b.take (n - got.length)), .bytes (b.drop (n - got.length)) :: rest)
    else readFullFrom n (got ++ b) rest

def readFull (n : Nat) : Cmd Err (List Arrival) Bytes := readFullFrom n []

def be16At (b : Bytes) (i : Nat) : Nat := (b.getD i 0).toNat * 256 + (b.getD (i + 1) 0).toNat

def be24At (b : Bytes) (i : Nat) : Nat :=
  (b.getD i 0).toNat * 65536 + (b.getD (i + 1) 0).toNat * 256 + (b.getD (i + 2) 0).toNat

structure RawRecord where
  typ : RecordType
  header : Bytes
  body : Bytes
  deriving DecidableEq

def readRawRecord : Cmd Err (List Arrival) RawRecord := do
  let header ← readFull recordHeaderLen
  let code := header.headD 0
  match RecordType.ofCode code with
  | none => Cmd.fail (.text s!"tlcp: unexpected record type {code.toNat}")
  | some typ =>
    let version := be16At header 1
    Cmd.refuse (version ≠ versionTLCP.toNat ∧ (version < 0x0301 ∨ 0x0303 < version))
      (.text ("tlcp: unexpected record version 0x" ++ hex4 version))
    let length := be16At header 3
    Cmd.refuse (maxPlaintext + 2048 < length) (.text "tlcp: record too large")
    let body ← readFull length
    return ⟨typ, header, body⟩

/-- A record is noted with the spec it was decrypted under. -/
inductive ReadEvent where
  | staged (spec : CipherSpec)
  | changed (spec : CipherSpec)
  | record (typ : RecordType) (payload : Bytes) (under : Option CipherSpec)
  | message (data : Bytes)
  deriving DecidableEq

def recordHeader (typ : RecordType) (version : UInt16) (payload : Bytes) : Bytes :=
  typ.code :: (be16 version.toNat ++ be16 payload.length)

structure Sealed where
  spec : CipherSpec
  seq : Counter 8
  typ : RecordType
  version : UInt16
  payload : Bytes
  deriving DecidableEq

def Sealed.header (e : Sealed) : Bytes := recordHeader e.typ e.version e.payload

inductive CacheCall where
  | get (key : Bytes)
  | put (key : Bytes) (cs : SessionState)
  | delete (key : Bytes)
  deriving DecidableEq

structure Conn where
  isClient : Bool
  incoming : List Arrival
  writeResults : List (Option NetErr)
  outgoing : List Bytes
  rand : Bytes
  handshakeStatus : Bool
  handshakeErr : Option Err
  vers : UInt16
  haveVers : Bool
  inHalf : HalfConn
  outHalf : HalfConn
  hand : Bytes
  input : Bytes
  buffering : Bool
  sendBuf : Bytes
  cipherSuite : UInt16
  peerCertificates : List Bytes
  serverName : Bytes
  clientProtocol : Bytes
  session : Option SessionState
  didResume : Bool
  reads : List ReadEvent
  sealed : List Sealed
  cacheCalls : List CacheCall
  deriving DecidableEq

def newTLCPConn (isClient : Bool) (incoming : List Arrival) (writeResults : List (Option NetErr))
    (rand : Bytes) :
    Conn where
  isClient := isClient
  incoming := incoming
  writeResults := writeResults
  outgoing := []
  rand := rand
  handshakeStatus := false
  handshakeErr := none
  vers := 0
  haveVers := false
  inHalf := HalfConn.fresh
  outHalf := HalfConn.fresh
  hand := []
  input := []
  buffering := false
  sendBuf := []
  cipherSuite := 0
  peerCertificates := []
  serverName := []
  clientProtocol := []
  session := none
  didResume := false
  reads := []
  sealed := []
  cacheCalls := []

namespace Conn

def onTransport {α : Type} (m : Cmd Err (List Arrival) α) : Cmd Err Conn α :=
  Cmd.on Conn.incoming (fun incoming c => { c with incoming := incoming }) m

def onIn {α : Type} (m : Cmd Err HalfConn α) : Cmd Err Conn α :=
  Cmd.on Conn.inHalf (fun hc c => { c with inHalf := hc }) m

def noteRead (e : ReadEvent) : Cmd Err Conn Unit :=
  Cmd.update fun c => { c with reads := c.reads ++ [e] }

def alertOf : Bytes → Err
  | [level, desc] => .alert level desc
  | _ => .text "tlcp: malformed alert record"

variable (P : RecordPrims)

def openRecord (raw : RawRecord) : Cmd Err Conn (Bytes × RecordType) := do
  let under ← Cmd.ask fun c => c.inHalf.current
  let plaintext ← onIn (HalfConn.decrypt P (raw.header ++ raw.body))
  noteRead (.record raw.typ plaintext.1 under)
  if raw.typ = .alert then Cmd.fail (alertOf plaintext.1) else return (plaintext.1, raw.typ)

def applyCCS (raw : RawRecord) : Cmd Err Conn Unit := do
  Cmd.refuse (raw.body ≠ [1]) (.text "tlcp: malformed ChangeCipherSpec")
  onIn HalfConn.changeCipherSpec
  let spec ← Cmd.ask fun c => c.inHalf.current
  Cmd.update fun c => { c with reads := c.reads ++ spec.toList.map ReadEvent.changed }

/-- The loop of `readRecord`, for at most the given number of records. -/
def readRecords (P : RecordPrims) : Nat → Cmd Err Conn (Bytes × RecordType)
  | 0 => Cmd.fail .eof
  | rounds + 1 => do
    let raw ← onTransport readRawRecord
    if raw.typ = .changeCipherSpec then
      applyCCS raw
      readRecords P rounds
    else openRecord P raw

/-- A ChangeCipherSpec uses up the staged spec, so the loop never goes round a third time. -/
def readRecord : Cmd Err Conn (Bytes × RecordType) := readRecords P 2

/-- The rounds a loop over the transport can make. -/
def weight : List Arrival → Nat
  | [] => 0
  | .bytes b :: rest => b.length + 1 + weight rest
  | .fault _ :: rest => 1 + weight rest

/-- Read handshake records until `want` octets are buffered. -/
def fillHand (P : RecordPrims) (want : Nat) : Nat → Cmd Err Conn Unit
  | 0 => Cmd.fail .eof
  | rounds + 1 => do
    let buffered ← Cmd.ask fun c => c.hand.length
    if want ≤ buffered then return ()
    else
      let (payload, typ) ← readRecord P
      Cmd.refuse (typ ≠ .handshake)
        (.text s!"tlcp: expected handshake record, got type {typ.code.toNat}")
      Cmd.update fun c => { c with hand := c.hand ++ payload }
      fillHand P want rounds

/-- The loop ends because every record takes octets off the transport. -/
def fill (want : Nat) : Cmd Err Conn Unit := do
  let rounds ← Cmd.ask fun c => weight c.incoming + 1
  fillHand P want rounds

def messageLimit (msgType : UInt8) : Nat :=
  if msgType = MessageType.certificate then maxHandshakeCertificateMsg else maxHandshake

/-- One handshake message. The callers hash it. -/
def readHandshake : Cmd Err Conn Bytes := do
  fill P 4
  let head ← Cmd.ask Conn.hand
  let msgLen := be24At head 1
  let limit := messageLimit (head.headD 0)
  Cmd.refuse (limit < msgLen)
    (.text s!"tlcp: handshake message of length {msgLen} bytes exceeds maximum of {limit} bytes")
  let total := 4 + msgLen
  fill P total
  let data ← Cmd.ask fun c => c.hand.take total
  Cmd.update fun c => { c with hand := c.hand.drop total }
  noteRead (.message data)
  return data

def onOut {α : Type} (m : Cmd Err HalfConn α) : Cmd Err Conn α :=
  Cmd.on Conn.outHalf (fun hc c => { c with outHalf := hc }) m

def send (b : Bytes) : Cmd Err Conn Unit := fun c =>
  let c' := { c with outgoing := c.outgoing ++ [b], writeResults := c.writeResults.tail }
  match c.writeResults.head? with
  | some (some e) => (.error e.err, c')
  | _ => (.ok (), c')

def recordVersion (c : Conn) : UInt16 := if c.haveVers then c.vers else versionTLCP

def sealRecord (typ : RecordType) (payload : Bytes) : Cmd Err Conn Bytes := do
  let before ← Cmd.ask id
  let record ← Cmd.on (fun c => (c.outHalf, c.rand)) (fun s c =>
    { c with outHalf := s.1, rand := s.2 })
    (HalfConn.encrypt P (recordHeader typ before.recordVersion payload) payload)
  Cmd.update fun c => { c with sealed := c.sealed ++
    before.outHalf.current.toList.map fun spec =>
      ⟨spec, before.outHalf.seq, typ, before.recordVersion, payload⟩ }
  return record

def writeRecord (typ : RecordType) (payload : Bytes) : Cmd Err Conn Unit := do
  let record ← sealRecord P typ payload
  if typ = .changeCipherSpec then onOut HalfConn.changeCipherSpec
  if ← Cmd.ask Conn.buffering then Cmd.update fun c => { c with sendBuf := c.sendBuf ++ record }
  else send record

def flush : Cmd Err Conn Unit := do
  let sendBuf ← Cmd.ask Conn.sendBuf
  if sendBuf = [] then return ()
  else
    Cmd.update fun c => { c with sendBuf := [] }
    send sendBuf

def bufferRead (size : Nat) : Cmd Err Bytes Bytes := fun buf =>
  if buf = [] then (if size = 0 then .ok [] else .error .eof, [])
  else (.ok (buf.take size), buf.drop size)

def readError (e : Err) : Err :=
  match e.asAlert with
  | some (_, desc) => if desc = alertCloseNotify then .eof else e
  | none => e

def readInput (size : Nat) : Cmd Err Conn Bytes :=
  Cmd.on Conn.input (fun input c => { c with input := input }) (bufferRead size)

/-- `Read` after the handshake. Its loop returns in the first round. -/
def readData (size : Nat) : Cmd Err Conn Bytes := do
  if (← Cmd.ask Conn.input) ≠ [] then readInput size
  else
    let (payload, typ) ← Cmd.mapError readError (readRecord P)
    if typ = .applicationData then
      Cmd.update fun c => { c with input := c.input ++ payload }
      readInput size
    else Cmd.fail (.text s!"tlcp: unexpected record type {typ.code.toNat} after handshake")

/-- `Read` into a slice of the given size; `handshake` is the driver. -/
def read (handshake : Cmd Err Conn Unit) (size : Nat) : Cmd Err Conn Bytes := do
  if (← Cmd.ask Conn.handshakeStatus) then readData P size
  else
    handshake
    readData P size

/-- `Write` after the handshake, one record a round. -/
def writeData (P : RecordPrims) : Nat → Bytes → Nat → Conn → (Nat × Option Err) × Conn
  | 0, _, total, c => ((total, none), c)
  | rounds + 1, b, total, c =>
    if b = [] then ((total, none), c)
    else
      match writeRecord P .applicationData (b.take maxPlaintext) c with
      | (.error e, c') => ((total, some e), c')
      | (.ok (), c') => writeData P rounds (b.drop maxPlaintext)
        (total + min b.length maxPlaintext) c'

/-- The octets written and the error, if there was one. -/
def write (handshake : Cmd Err Conn Unit) (b : Bytes) (c : Conn) : (Nat × Option Err) × Conn :=
  if c.handshakeStatus then writeData P b.length b 0 c
  else
    match handshake c with
    | (.error e, c') => ((0, some e), c')
    | (.ok (), c') => writeData P b.length b 0 c'

end Conn

end Pollux.Tlcp
