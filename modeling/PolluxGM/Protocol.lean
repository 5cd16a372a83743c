import PolluxGM.Bytes

/-!
# Errors and wire constants of the TLS 1.3 GM engine

The constants of `constants.go`, `protocol.go`, `labels.go`, `keyexchange.go` and `signature.go`.
The only error a caller tests for by identity is the HelloRetryRequest sentinel.
-/
namespace Pollux.Tls

inductive Err where
  | helloRetryRequest : Err
  | text : String → Err
  | wrap : String → Err → Err
  deriving DecidableEq

def Err.isHelloRetryRequest : Err → Bool
  | .helloRetryRequest => true
  | .text _ => false
  | .wrap _ e => e.isHelloRetryRequest

def hex (n : Nat) : String := "0x" ++ String.ofList (Nat.toDigits 16 n)

def tlsSM4GCMSM3 : UInt16 := 0x00C6
def sm2SigSM3 : UInt16 := 0x0708
def curveSM2 : UInt16 := 0x0029
def versionTLS13 : UInt16 := 0x0304
def versionTLS12 : UInt16 := 0x0303

namespace HandshakeType
def clientHello : UInt8 := 1
def serverHello : UInt8 := 2
def newSessionTicket : UInt8 := 4
def encryptedExtensions : UInt8 := 8
def certificate : UInt8 := 11
def certificateVerify : UInt8 := 15
def finished : UInt8 := 20
/-- The synthetic first message after a HelloRetryRequest. -/
def messageHash : UInt8 := 254
end HandshakeType

namespace ExtensionType
def supportedGroups : UInt16 := 10
def signatureAlgorithms : UInt16 := 13
def alpn : UInt16 := 16
def preSharedKey : UInt16 := 41
def earlyData : UInt16 := 42
def supportedVersions : UInt16 := 43
def cookie : UInt16 := 44
def pskKeyExchangeModes : UInt16 := 45
def keyShare : UInt16 := 51
def quicTransportParams : UInt16 := 57
end ExtensionType

/-- The only key exchange mode the engine performs: PSK with ECDHE. -/
def pskKeyExchangeModeDHEKE : UInt8 := 1

def sm3Size : Nat := 32

def maxHandshakeMessageLen : Nat := 16777215

/-- A fixed array of 32 octets: no other length can be built. -/
structure Random where
  bytes : Bytes
  length_eq : bytes.length = 32
  deriving DecidableEq

/-- `copy` into a zeroed array. -/
def Random.copy (b : Bytes) : Random :=
  ⟨(b ++ zeros 32).take 32, by simp⟩

@[simp] lemma Random.copy_bytes (r : Random) : Random.copy r.bytes = r := by
  obtain ⟨b, h⟩ := r
  simp [Random.copy, ← h]

lemma Random.bytes_copy (b : Bytes) (h : b.length = 32) : (Random.copy b).bytes = b := by
  simp [Random.copy, ← h]

def helloRetryRequestRandom : Random where
  bytes := [0xCF, 0x21, 0xAD, 0x74, 0xE5, 0x9A, 0x61, 0x11,
    0xBE, 0x1D, 0x8C, 0x02, 0x1E, 0x65, 0xB8, 0xB9,
    0xEA, 0x86, 0x85, 0x8F, 0x27, 0x64, 0xA8, 0xAD,
    0x90, 0xC2, 0xAB, 0x3D, 0xCC, 0xE1, 0x0E, 0x33]
  length_eq := rfl

def ascii (s : List Char) : Bytes := s.map fun c => UInt8.ofNat c.toNat

namespace Label
def derived : Bytes := ascii ['d', 'e', 'r', 'i', 'v', 'e', 'd']
def finished : Bytes := ascii ['f', 'i', 'n', 'i', 's', 'h', 'e', 'd']
/-- Tongsuo's label for the PSK instead of RFC 8446's "res psk". -/
def resumption : Bytes := ascii ['r', 'e', 's', 'u', 'm', 'p', 't', 'i', 'o', 'n']
def clientEarlyTraffic : Bytes := ascii ['c', ' ', 'e', ' ', 't', 'r', 'a', 'f', 'f', 'i', 'c']
def clientHSTraffic : Bytes := ascii ['c', ' ', 'h', 's', ' ', 't', 'r', 'a', 'f', 'f', 'i', 'c']
def serverHSTraffic : Bytes := ascii ['s', ' ', 'h', 's', ' ', 't', 'r', 'a', 'f', 'f', 'i', 'c']
def clientAPTraffic : Bytes := ascii ['c', ' ', 'a', 'p', ' ', 't', 'r', 'a', 'f', 'f', 'i', 'c']
def serverAPTraffic : Bytes := ascii ['s', ' ', 'a', 'p', ' ', 't', 'r', 'a', 'f', 'f', 'i', 'c']
def resumptionMaster : Bytes := ascii ['r', 'e', 's', ' ', 'm', 'a', 's', 't', 'e', 'r']
def resumptionBinder : Bytes := ascii ['r', 'e', 's', ' ', 'b', 'i', 'n', 'd', 'e', 'r']
def quicKey : Bytes := ascii ['q', 'u', 'i', 'c', ' ', 'k', 'e', 'y']
def quicIV : Bytes := ascii ['q', 'u', 'i', 'c', ' ', 'i', 'v']
def quicHP : Bytes := ascii ['q', 'u', 'i', 'c', ' ', 'h', 'p']
def quicKU : Bytes := ascii ['q', 'u', 'i', 'c', ' ', 'k', 'u']
def quicClientIn : Bytes := ascii ['c', 'l', 'i', 'e', 'n', 't', ' ', 'i', 'n']
def quicServerIn : Bytes := ascii ['s', 'e', 'r', 'v', 'e', 'r', ' ', 'i', 'n']
end Label

@[simp] lemma toNat_ofNat16 (n : Nat) (h : n < 65536) : (UInt16.ofNat n).toNat = n := by
  rw [UInt16.toNat_ofNat']
  exact Nat.mod_eq_of_lt h

lemma toNat_lt16 (t : UInt16) : t.toNat < 65536 := t.toNat_lt

end Pollux.Tls
