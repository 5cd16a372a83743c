import PolluxGM.TlcpConn
import PolluxGM.Vectors

/-!
# TLCP handshake messages

The nine messages of `engine_messages.go` with their codecs. The `raw` cache of a
message is left out: the engine marshals a message it has built before it changes it.
-/
namespace Pollux.Tlcp

def tooLong (length width : Nat) : Err :=
  .text s!"cryptobyte: pending child length {length} exceeds {width}-byte length prefix"

variable (b data : Bytes)

def sized8 : Except Err Bytes := prefixed tooLong 1 (fun n => [UInt8.ofNat n]) b
def sized16 : Except Err Bytes := prefixed tooLong 2 be16 b
def sized24 : Except Err Bytes := prefixed tooLong 3 be24 b

def concatM {α : Type} (f : α → Except Err Bytes) (xs : List α) : Except Err Bytes := do
  return (← xs.mapM f).flatten

def tlcpMarshalHandshake (msgType : UInt8) (body : Except Err Bytes) : Except Err Bytes := do
  return msgType :: (← sized24 (← body))

/-- The body of a message of the given type, with nothing behind it. -/
def tlcpReadHeader (msgType : UInt8) : Bytes → Option Bytes
  | [] => none
  | t :: rest => if t = msgType then whole (vec24 rest) else none

lemma readHeader_type {α : Type} {msgType : UInt8} {data : Bytes} {f : Bytes → Option α} {m : α}
    (h : (tlcpReadHeader msgType data >>= f) = some m) : data.headD 0 = msgType := by
  cases data with
  | nil => cases h
  | cons t rest =>
    by_cases ht : t = msgType
    · exact ht
    · rw [tlcpReadHeader, if_neg ht] at h
      cases h

def pair : Option (UInt16 × Bytes) := do
  let (n, rest) ← u16 b
  return (UInt16.ofNat n, rest)

def encodePairs (xs : List UInt16) : Bytes := xs.flatMap fun x => be16 x.toNat

namespace Ext
def serverName : UInt16 := 0
def trustedCAKeys : UInt16 := 3
def statusRequest : UInt16 := 5
def supportedCurves : UInt16 := 10
def signatureAlgorithms : UInt16 := 13
def alpn : UInt16 := 16
end Ext

def idTypePreAgreed : UInt8 := 0
def idTypeX509Name : UInt8 := 2
def idTypeKeySM3Hash : UInt8 := 4
def idTypeCertSM3Hash : UInt8 := 5
def curveSM2 : UInt16 := 41
def sigSM2WithSM3 : UInt16 := 0x0704
def certTypeECDSA : UInt8 := 64

structure TrustedAuthority where
  identifierType : UInt8
  identifier : Bytes
  deriving DecidableEq

def listExtension (typ : UInt16) (body : Except Err Bytes) : Except Err Bytes := do
  return be16 typ.toNat ++ (← sized16 (← sized16 (← body)))

def TrustedAuthority.marshal (ta : TrustedAuthority) : Except Err Bytes := do
  if ta.identifierType = idTypeKeySM3Hash ∨ ta.identifierType = idTypeCertSM3Hash then
    return ta.identifierType :: ta.identifier
  else if ta.identifierType = idTypeX509Name then return ta.identifierType ::
    (← sized16 ta.identifier)
  else return [ta.identifierType]

def TrustedAuthority.read : Option (TrustedAuthority × Bytes) := do
  let (t, rest) ← u8 b
  let identifierType := UInt8.ofNat t
  if identifierType = idTypePreAgreed then return (⟨identifierType, []⟩, rest)
  else if identifierType = idTypeKeySM3Hash ∨ identifierType = idTypeCertSM3Hash then
    let (identifier, rest) ← chunk 32 rest
    return (⟨identifierType, identifier⟩, rest)
  else if identifierType = idTypeX509Name then
    let (identifier, rest) ← vec16 rest
    return (⟨identifierType, identifier⟩, rest)
  else none

def extension : Option ((UInt16 × Bytes) × Bytes) := do
  let (typ, rest) ← pair b
  let (data, rest) ← vec16 rest
  return ((typ, data), rest)

/-- A list that is all of an extension's data and is not empty. -/
def extensionList : Option Bytes := do
  nonEmpty (← whole (vec16 data))

/-- The extension block at the end of a hello, which may be missing. -/
def extensionBlock : Option (List (UInt16 × Bytes)) :=
  if b = [] then some []
  else do items extension (← whole (vec16 b))

structure ClientHelloMsg where
  version : UInt16
  random : Bytes
  sessionID : Bytes
  cipherSuites : List UInt16
  compressionMethods : Bytes
  serverName : Bytes
  trustedAuthorities : List TrustedAuthority
  ocspStapling : Bool
  supportedCurves : List UInt16
  supportedSignatureAlgorithms : List UInt16
  alpnProtocols : List Bytes
  deriving DecidableEq

namespace ClientHelloMsg

variable (m : ClientHelloMsg)

def marshalExtensions : Except Err Bytes := do
  let name ← if m.serverName = [] then pure []
    else listExtension Ext.serverName (return 0 :: (← sized16 m.serverName))
  let authorities ← if m.trustedAuthorities = [] then pure []
    else listExtension Ext.trustedCAKeys (concatM TrustedAuthority.marshal m.trustedAuthorities)
  let status ← if m.ocspStapling then
      (be16 Ext.statusRequest.toNat ++ ·) <$> sized16 (1 :: (be16 0 ++ be16 0))
    else pure []
  let curves ← if m.supportedCurves = [] then pure []
    else listExtension Ext.supportedCurves (pure (encodePairs m.supportedCurves))
  let schemes ← if m.supportedSignatureAlgorithms = [] then pure []
    else listExtension Ext.signatureAlgorithms (pure (encodePairs m.supportedSignatureAlgorithms))
  let protocols ← if m.alpnProtocols = [] then pure []
    else listExtension Ext.alpn (concatM sized8 m.alpnProtocols)
  return name ++ authorities ++ status ++ curves ++ schemes ++ protocols

def marshal : Except Err Bytes := do
  let extBytes ← m.marshalExtensions
  tlcpMarshalHandshake MessageType.clientHello do
    let sessionID ← sized8 m.sessionID
    let suites ← sized16 (encodePairs m.cipherSuites)
    let methods ← sized8 m.compressionMethods
    let extensions ← if extBytes = [] then pure [] else sized16 extBytes
    return be16 m.version.toNat ++ m.random ++ sessionID ++ suites ++ methods ++ extensions

def nameEntry : Option ((Nat × Bytes) × Bytes) := do
  let (nameType, rest) ← u8 b
  let (name, rest) ← vec16 rest
  return ((nameType, ← nonEmpty name), rest)

def protocolEntry : Option (Bytes × Bytes) := do
  let (proto, rest) ← vec8 b
  return (← nonEmpty proto, rest)

/-- Only the first host name counts. -/
def withName (entry : Nat × Bytes) : ClientHelloMsg :=
  if entry.1 ≠ 0 ∨ m.serverName ≠ [] then m else { m with serverName := entry.2 }

def statusType (data : Bytes) : Option Nat := do
  let (statusType, rest) ← u8 data
  let (_, rest) ← vec16 rest
  let _ ← whole (vec16 rest)
  return statusType

def unmarshalExtension (e : UInt16 × Bytes) : Option ClientHelloMsg :=
  if e.1 = Ext.serverName then do
    let names ← items nameEntry (← extensionList e.2)
    return names.foldl withName m
  else if e.1 = Ext.trustedCAKeys then do
    let authorities ← items TrustedAuthority.read (← extensionList e.2)
    return { m with trustedAuthorities := m.trustedAuthorities ++ authorities }
  else if e.1 = Ext.statusRequest then do
    return { m with ocspStapling := (← statusType e.2) = 1 }
  else if e.1 = Ext.supportedCurves then do
    let curves ← items pair (← extensionList e.2)
    return { m with supportedCurves := m.supportedCurves ++ curves }
  else if e.1 = Ext.signatureAlgorithms then do
    let schemes ← items pair (← extensionList e.2)
    return { m with supportedSignatureAlgorithms := m.supportedSignatureAlgorithms ++ schemes }
  else if e.1 = Ext.alpn then do
    let protocols ← items protocolEntry (← extensionList e.2)
    return { m with alpnProtocols := m.alpnProtocols ++ protocols }
  else if e.2 = [] then some m else none

def unmarshal : Option ClientHelloMsg := do
  let body ← tlcpReadHeader MessageType.clientHello data
  let (version, rest) ← pair body
  let (random, rest) ← chunk 32 rest
  let (sessionID, rest) ← vec8 rest
  let (suites, rest) ← vec16 rest
  let cipherSuites ← items pair suites
  let (compressionMethods, rest) ← vec8 rest
  let extensions ← extensionBlock rest
  extensions.foldlM unmarshalExtension
    ⟨version, random, sessionID, cipherSuites, compressionMethods, [], [], false, [], [], []⟩

end ClientHelloMsg

structure ServerHelloMsg where
  version : UInt16
  random : Bytes
  sessionID : Bytes
  cipherSuite : UInt16
  compressionMethod : UInt8
  ocspStapling : Bool
  ocspResponse : Bytes
  alpnProtocol : Bytes
  serverNameAck : Bool
  deriving DecidableEq

namespace ServerHelloMsg

def stapled (response : Bytes) : Except Err Bytes := do
  return be16 Ext.statusRequest.toNat ++ (← sized16 (1 :: (← sized24 response)))

def marshalExtensions (m : ServerHelloMsg) : Except Err Bytes := do
  let status ← if m.ocspStapling ∧ m.ocspResponse ≠ [] then stapled m.ocspResponse else pure []
  let protocol ← if m.alpnProtocol = [] then pure []
    else listExtension Ext.alpn (sized8 m.alpnProtocol)
  let ack := if m.serverNameAck then be16 Ext.serverName.toNat ++ be16 0 else []
  return status ++ protocol ++ ack

def marshal (m : ServerHelloMsg) : Except Err Bytes := do
  let extBytes ← m.marshalExtensions
  tlcpMarshalHandshake MessageType.serverHello do
    let sessionID ← sized8 m.sessionID
    let extensions ← if extBytes = [] then pure [] else sized16 extBytes
    return be16 m.version.toNat ++ m.random ++ sessionID ++ be16 m.cipherSuite.toNat ++
      [m.compressionMethod] ++ extensions

def statusResponse : Option Bytes := do
  let (statusType, rest) ← u8 data
  if statusType = 1 then whole (vec24 rest) else none

def unmarshalExtension (m : ServerHelloMsg) (e : UInt16 × Bytes) : Option ServerHelloMsg :=
  if e.1 = Ext.statusRequest then do
    return { m with ocspStapling := true, ocspResponse := ← statusResponse e.2 }
  else if e.1 = Ext.alpn then do
    return { m with alpnProtocol := ← whole (ClientHelloMsg.protocolEntry (← extensionList e.2)) }
  else if e.2 = [] then some (if e.1 = Ext.serverName then { m with serverNameAck := true } else m)
  else none

def unmarshal : Option ServerHelloMsg := do
  let body ← tlcpReadHeader MessageType.serverHello data
  let (version, rest) ← pair body
  let (random, rest) ← chunk 32 rest
  let (sessionID, rest) ← vec8 rest
  let (cipherSuite, rest) ← pair rest
  let (compressionMethod, rest) ← u8 rest
  let extensions ← extensionBlock rest
  extensions.foldlM unmarshalExtension
    ⟨version, random, sessionID, cipherSuite, UInt8.ofNat compressionMethod, false, [], [], false⟩

end ServerHelloMsg

structure CertificateMsg where
  certificates : List Bytes
  deriving DecidableEq

def CertificateMsg.marshal (m : CertificateMsg) : Except Err Bytes :=
  tlcpMarshalHandshake MessageType.certificate do sized24 (← concatM sized24 m.certificates)

def CertificateMsg.unmarshal : Option CertificateMsg := do
  let body ← tlcpReadHeader MessageType.certificate data
  return ⟨← items vec24 (← whole (vec24 body))⟩

structure CertificateRequestMsg where
  certificateTypes : Bytes
  certificateAuthorities : List Bytes
  deriving DecidableEq

def CertificateRequestMsg.marshal (m : CertificateRequestMsg) : Except Err Bytes :=
  tlcpMarshalHandshake MessageType.certificateRequest do
    let types ← sized8 m.certificateTypes
    return types ++ (← sized16 (← concatM sized16 m.certificateAuthorities))

def CertificateRequestMsg.unmarshal : Option CertificateRequestMsg := do
  let body ← tlcpReadHeader MessageType.certificateRequest data
  let (types, rest) ← vec8 body
  return ⟨types, ← items vec16 (← whole (vec16 rest))⟩

structure CertificateVerifyMsg where
  signature : Bytes
  deriving DecidableEq

def CertificateVerifyMsg.marshal (m : CertificateVerifyMsg) : Except Err Bytes :=
  tlcpMarshalHandshake MessageType.certificateVerify (sized16 m.signature)

def CertificateVerifyMsg.unmarshal : Option CertificateVerifyMsg := do
  let body ← tlcpReadHeader MessageType.certificateVerify data
  return ⟨← whole (vec16 body)⟩

def marshalOpaque (msgType : UInt8) (body : Bytes) : Except Err Bytes :=
  tlcpMarshalHandshake msgType (pure body)

structure ServerKeyExchangeMsg where
  key : Bytes
  deriving DecidableEq

def ServerKeyExchangeMsg.marshal (m : ServerKeyExchangeMsg) : Except Err Bytes :=
  marshalOpaque MessageType.serverKeyExchange m.key

def ServerKeyExchangeMsg.unmarshal : Option ServerKeyExchangeMsg := do
  return ⟨← tlcpReadHeader MessageType.serverKeyExchange data⟩

structure ClientKeyExchangeMsg where
  ciphertext : Bytes
  deriving DecidableEq

def ClientKeyExchangeMsg.marshal (m : ClientKeyExchangeMsg) : Except Err Bytes :=
  marshalOpaque MessageType.clientKeyExchange m.ciphertext

def ClientKeyExchangeMsg.unmarshal : Option ClientKeyExchangeMsg := do
  return ⟨← tlcpReadHeader MessageType.clientKeyExchange data⟩

structure FinishedMsg where
  verifyData : Bytes
  deriving DecidableEq

def FinishedMsg.marshal (m : FinishedMsg) : Except Err Bytes :=
  marshalOpaque MessageType.finished m.verifyData

def FinishedMsg.unmarshal : Option FinishedMsg := do
  return ⟨← tlcpReadHeader MessageType.finished data⟩

structure ServerHelloDoneMsg where
  deriving DecidableEq

def ServerHelloDoneMsg.marshal (_ : ServerHelloDoneMsg) : Except Err Bytes :=
  marshalOpaque MessageType.serverHelloDone []

def ServerHelloDoneMsg.unmarshal : Option ServerHelloDoneMsg := do
  let body ← tlcpReadHeader MessageType.serverHelloDone data
  if body = [] then some ⟨⟩ else none

end Pollux.Tlcp
