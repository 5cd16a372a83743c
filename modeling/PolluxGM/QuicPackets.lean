import Mathlib.Data.List.Induction
import PolluxGM.QuicNumbers
import PolluxGM.Updatable

/-!
# QUIC packets under SM4-GCM

Embedding of `packet.go`, `initial.go`, `longhandshake.go` and `short.go`. The opener learns the
length of the packet number only once the mask is off, so the sample starts four octets after the
start of the number in every case.
-/
namespace Pollux.Quicgm

open Tls

/-- `none` is the nil of a zeroed protector. -/
structure QUICPacketProtector where
  aead : Option AEAD
  hpBlock : Option Bytes
  deriving DecidableEq

def sm4GCMTagSize : Nat := 16
def quicHeaderSampleLen : Nat := 16
def initialPacketNumberLen : Nat := 4
def quicVersion1 : Nat := 1

def errZeroedProtector : Err := .text "quicgm: packet protector has been zeroed"

def padded (base width n : Nat) : String :=
  let digits := Nat.toDigits base n
  String.ofList (List.replicate (width - digits.length) '0' ++ digits)

def errPacketNumberField (pnOffset pnLen length : Nat) : Err :=
  .text s!"quicgm: packet number field (offset {pnOffset}, len {pnLen}) exceeds buffer length {length}"

def validateHeaderArgs (buffer : Bytes) (pnOffset pnLen : Nat) : Except Err Unit := do
  reject (pnOffset < 1) (.text s!"quicgm: packet number offset {pnOffset} must be >= 1")
  reject (pnLen < 1 ∨ 4 < pnLen) (.text s!"quicgm: packet number length {pnLen} must be 1..4")
  reject (buffer.length < pnOffset + pnLen)
    (errPacketNumberField pnOffset pnLen buffer.length)

def firstByteMask (isLongHeader : Bool) : UInt8 := if isLongHeader then 0x0f else 0x1f

def xorFirstByte (buffer mask : Bytes) (isLongHeader : Bool) : Bytes :=
  buffer.modify 0 (· ^^^ (mask.getD 0 0 &&& firstByteMask isLongHeader))

def xorPacketNumber (buffer mask : Bytes) (pnOffset pnLen : Nat) : Bytes :=
  (List.range pnLen).foldl (fun b i => b.modify (pnOffset + i) (· ^^^ mask.getD (1 + i) 0)) buffer

def xorHeaderMask (buffer mask : Bytes) (pnOffset pnLen : Nat) (isLongHeader : Bool) : Bytes :=
  xorPacketNumber (xorFirstByte buffer mask isLongHeader) mask pnOffset pnLen

section

variable (P : Prims)

def newQUICPacketProtectorFromKeys (keys : Option QUICPacketKeys) :
    Except Err QUICPacketProtector := do
  let keys ← need (.text "quicgm: nil packet keys") keys
  let aead ← newAEAD P keys.aeadKey keys.aeadIV
  wrapErr "quicgm: header protection cipher" (P.newCipher keys.headerKey)
  return ⟨some aead, some keys.headerKey⟩

def newQUICPacketProtector (trafficSecret : Bytes) : Except Err QUICPacketProtector := do
  let keys ← deriveQUICPacketKeys P trafficSecret
  newQUICPacketProtectorFromKeys P (some keys)

namespace QUICPacketProtector

variable (p : QUICPacketProtector)

def encryptPayload (pn : UInt64) (header payload : Bytes) : Except Err Bytes := do
  let aead ← need errZeroedProtector p.aead
  return aead.seal P pn.toNat payload header

def decryptPayload (pn : UInt64) (header ciphertext : Bytes) : Except Err Bytes := do
  let aead ← need errZeroedProtector p.aead
  aead.openWith P pn.toNat ciphertext header

def headerMask (hpBlock buffer : Bytes) (pnOffset : Nat) : Except Err Bytes := do
  let sampleStart := pnOffset + 4
  let sampleEnd := sampleStart + quicHeaderSampleLen
  reject (buffer.length < sampleEnd)
    (.text (s!"quicgm: packet too short for header protection sample (need {quicHeaderSampleLen} bytes " ++
      s!"at offset {sampleStart}, have {buffer.length})"))
  return P.sm4Encrypt hpBlock ((buffer.drop sampleStart).take quicHeaderSampleLen)

def applyHeaderProtection (buffer : Bytes) (pnOffset pnLen : Nat) (isLongHeader : Bool) :
    Except Err Bytes := do
  let hpBlock ← need errZeroedProtector p.hpBlock
  validateHeaderArgs buffer pnOffset pnLen
  let mask ← headerMask P hpBlock buffer pnOffset
  return xorHeaderMask buffer mask pnOffset pnLen isLongHeader

/-- The truncated number, and the buffer after the call. The length of the number is read once the
mask is off the first octet. -/
def removeHeaderProtection (buffer : Bytes) (pnOffset : Nat) (isLongHeader : Bool) :
    Except Err (UInt64 × Bytes) := do
  let hpBlock ← need errZeroedProtector p.hpBlock
  reject (pnOffset < 1 ∨ buffer.length ≤ pnOffset)
    (.text s!"quicgm: packet number offset {pnOffset} out of range for buffer length {buffer.length}")
  let mask ← headerMask P hpBlock buffer pnOffset
  let buffer := xorFirstByte buffer mask isLongHeader
  let pnLen := (buffer.getD 0 0 &&& 0x03).toNat + 1
  reject (buffer.length < pnOffset + pnLen)
    (errPacketNumberField pnOffset pnLen buffer.length)
  let buffer := xorPacketNumber buffer mask pnOffset pnLen
  return (decodePacketNumberBytes ((buffer.drop pnOffset).take pnLen), buffer)

end QUICPacketProtector

end

variable (firstByte : UInt8) (b : Bytes)

def appendUint32 (v : UInt32) : Bytes := b ++ be32 v.toNat

def readUint32 (pos : Nat) : Except Err (Nat × Nat) := do
  let (v, _) ← need (.text s!"quicgm: truncated 4-octet field at offset {pos}") (u32 (b.drop pos))
  return (v, pos + 4)

def checkCIDLen (name : String) (cid : Bytes) : Except Err Unit :=
  reject (255 < cid.length) (.text s!"quicgm: {name} length {cid.length} exceeds 255")

def readCID (pos : Nat) (name : String) : Except Err (Bytes × Nat) := do
  let (l, rest) ← need (.text s!"quicgm: truncated {name} length") (u8 (b.drop pos))
  let (cid, _) ← need (.text s!"quicgm: truncated {name} value") (chunk l rest)
  return (cid, pos + 1 + l)

/-- The checks of `readCID`, without the copy. -/
def skipCID (pos : Nat) (name : String) : Except Err Nat := do
  let (_, pos) ← readCID b pos name
  return pos

def readVarintBytes (pos : Nat) (name : String) : Except Err (Bytes × Nat) := do
  let (v, n) ← wrapErr s!"quicgm: read {name} length" (readVarint (b.drop pos))
  reject (2147483647 < v) (.text s!"quicgm: {name} length {v} too large")
  let start := pos + n
  let (out, _) ← need (.text s!"quicgm: truncated {name} value") (chunk v (b.drop start))
  return (out, start + v)

def previewHex : String := String.join ((b.take 8).map fun o => padded 16 2 o.toNat)

section

variable (P : Prims)

def longHeaderStart (dcid scid : Bytes) : Except Err Bytes := do
  let hdr := appendUint32 [firstByte] (UInt32.ofNat quicVersion1)
  checkCIDLen "dcid" dcid
  let hdr := hdr ++ (UInt8.ofNat dcid.length :: dcid)
  checkCIDLen "scid" scid
  return hdr ++ (UInt8.ofNat scid.length :: scid)

/-- The end of both long packets: length, number in four octets, ciphertext, mask. -/
def sealLongTail (protector : QUICPacketProtector) (hdr : Bytes) (pn : UInt64) (payload : Bytes) :
    Except Err Bytes := do
  let ciphertextLen := payload.length + sm4GCMTagSize
  let hdr ← appendVarint hdr (initialPacketNumberLen + ciphertextLen)
  let pnOffset := hdr.length
  let hdr := appendUint32 hdr pn.toUInt32
  let ciphertext ← protector.encryptPayload P pn hdr payload
  protector.applyHeaderProtection P (hdr ++ ciphertext) pnOffset initialPacketNumberLen true

def sealInitialPacket (dcid scid token : Bytes) (pn : UInt64) (payload : Bytes) :
    Except Err Bytes := do
  reject (0xFFFFFFFF < pn) (.text s!"quicgm: packet number {pn} exceeds 32 bits")
  reject (dcid.length = 0) (.text "quicgm: dcid must be non-empty (it seeds the Initial secret)")
  let (clientIn, _) ← wrapErr "quicgm: derive initial secret" (deriveQUICInitialSecrets P dcid)
  let protector ← newQUICPacketProtector P clientIn
  let hdr ← longHeaderStart 0xC3 dcid scid
  let hdr ← appendVarint hdr token.length
  sealLongTail P protector (hdr ++ token) pn payload

variable (keys : Option QUICPacketKeys)

def sealHandshakePacket (dcid scid : Bytes) (pn : UInt64) (payload : Bytes) : Except Err Bytes := do
  reject (0xFFFFFFFF < pn) (.text s!"quicgm: packet number {pn} exceeds 32 bits")
  let protector ← newQUICPacketProtectorFromKeys P keys
  let hdr ← longHeaderStart 0xE3 dcid scid
  sealLongTail P protector hdr pn payload

/-- The end of both openers, from the length field at `pos` on. -/
def openLongTail (protector : QUICPacketProtector) (packet : Bytes) (pos : Nat) (kind : String) :
    Except Err (UInt64 × Bytes) := do
  let (length, n) ← wrapErr "quicgm: read length" (readVarint (packet.drop pos))
  let pnOffset := pos + n
  let (pn, packet) ← protector.removeHeaderProtection P packet pnOffset true
  let pnLen := (packet.getD 0 0 &&& 0x03).toNat + 1
  reject (pnLen ≠ 4) (.text s!"quicgm: {kind} packet number length must be 4, got {pnLen}")
  reject (length < pnLen)
    (.text s!"quicgm: declared length {length} smaller than packet number {pnLen}")
  reject (packet.length - pnOffset < length)
    (.text s!"quicgm: declared length {length} exceeds packet tail {packet.length - pnOffset}")
  reject (2147483647 < length) (.text s!"quicgm: declared length {length} too large")
  let ctLen := length - pnLen
  let headerEnd := pnOffset + pnLen
  let payload ← protector.decryptPayload P pn (packet.take headerEnd)
    ((packet.drop headerEnd).take ctLen)
  return (pn, payload)

/-- Version, source connection id, token, packet number and payload. -/
def openInitialPacket (dcid packet : Bytes) : Except Err (Nat × Bytes × Bytes × UInt64 × Bytes) :=
  do
  reject (dcid.length = 0) (.text "quicgm: dcid must be non-empty (it seeds the Initial secret)")
  let (clientIn, _) ← wrapErr "quicgm: derive initial secret" (deriveQUICInitialSecrets P dcid)
  let protector ← newQUICPacketProtector P clientIn
  reject (packet.length < 1) (.text "quicgm: initial packet too short")
  let firstByte := packet.getD 0 0
  reject (firstByte &&& 0x80 = 0) (.text "quicgm: not a long-header packet")
  reject (firstByte &&& 0x40 = 0) (.text "quicgm: fixed bit not set in long header")
  reject (firstByte &&& 0x30 ≠ 0) (.text "quicgm: not an Initial packet (type bits set)")
  let (version, pos) ← readUint32 packet 1
  reject (version ≠ quicVersion1)
    (.text s!"quicgm: unsupported QUIC version 0x{padded 16 8 version}")
  let pos ← skipCID packet pos "dcid"
  let (scid, pos) ← readCID packet pos "scid"
  let (token, pos) ← readVarintBytes packet pos "token"
  let (pn, payload) ← openLongTail P protector packet pos "initial"
  return (version, scid, token, pn, payload)

/-- Version, source connection id, packet number and payload. -/
def openHandshakePacket (expectedDCID packet : Bytes) : Except Err (Nat × Bytes × UInt64 × Bytes) :=
  do
  let protector ← newQUICPacketProtectorFromKeys P keys
  reject (packet.length < 1) (.text "quicgm: handshake packet too short")
  let firstByte := packet.getD 0 0
  reject (firstByte &&& 0x80 = 0) (.text "quicgm: not a long-header packet")
  reject (firstByte &&& 0x40 = 0) (.text "quicgm: fixed bit not set in long header")
  let kind := (firstByte >>> 4) &&& 0x03
  reject (kind ≠ 0b10) (.text s!"quicgm: not a Handshake packet (type {padded 2 2 kind.toNat})")
  let (version, pos) ← readUint32 packet 1
  reject (version ≠ quicVersion1)
    (.text s!"quicgm: unsupported QUIC version 0x{padded 16 8 version}")
  let (gotDCID, pos) ← readCID packet pos "dcid"
  reject (gotDCID ≠ expectedDCID)
    (.text (s!"quicgm: dcid mismatch (got {gotDCID.length} bytes {previewHex gotDCID}, " ++
      s!"expected {expectedDCID.length} bytes)"))
  let (scid, pos) ← readCID packet pos "scid"
  let (pn, payload) ← openLongTail P protector packet pos "handshake"
  return (version, scid, pn, payload)

def shortFirstByte (pnLen : Nat) (keyPhase : Bool) : UInt8 :=
  (0x40 ||| UInt8.ofNat (pnLen - 1)) ||| if keyPhase then 0x08 else 0

def seal1RTTPacket (dcid : Bytes) (pn : UInt64) (pnLen : Nat) (keyPhase : Bool) (payload : Bytes) :
    Except Err Bytes := do
  reject (pnLen < 1 ∨ 4 < pnLen) (.text s!"quicgm: packet number length {pnLen} must be 1..4")
  reject (dcid.length = 0) (.text "quicgm: 1-RTT packet requires a non-empty dcid")
  let protector ← newQUICPacketProtectorFromKeys P keys
  let hdr := shortFirstByte pnLen keyPhase :: dcid
  let pnOffset := hdr.length
  let hdr := appendPacketNumber hdr pn pnLen
  let ciphertext ← protector.encryptPayload P pn hdr payload
  protector.applyHeaderProtection P (hdr ++ ciphertext) pnOffset pnLen false

/-- Without an acknowledged number the truncated one stands for itself. -/
def completePacketNumber (largestAcked : Option UInt64) (truncatedPN : UInt64) (pnLen : Nat) :
    UInt64 :=
  match largestAcked with
  | none => truncatedPN
  | some acked => decodePacketNumber acked truncatedPN pnLen

def open1RTTPacket (expectedDCID : Bytes) (largestAcked : Option UInt64) (packet : Bytes) :
    Except Err (UInt64 × Bytes) := do
  let protector ← newQUICPacketProtectorFromKeys P keys
  let dcidLen := expectedDCID.length
  reject (dcidLen = 0) (.text "quicgm: 1-RTT packet requires a non-empty expected dcid")
  reject (packet.length < 1) (.text "quicgm: 1-RTT packet too short")
  reject (packet.getD 0 0 &&& 0x80 ≠ 0) (.text "quicgm: not a short-header packet")
  reject (packet.length < 1 + dcidLen)
    (.text s!"quicgm: expected dcid length {dcidLen} exceeds packet")
  reject ((packet.drop 1).take dcidLen ≠ expectedDCID) (.text "quicgm: dcid mismatch")
  let pnOffset := 1 + dcidLen
  reject (packet.length ≤ pnOffset)
    (.text s!"quicgm: dcid length {dcidLen} leaves no packet number")
  let (truncatedPN, packet) ← protector.removeHeaderProtection P packet pnOffset false
  let pnLen := (packet.getD 0 0 &&& 0x03).toNat + 1
  let pn := completePacketNumber largestAcked truncatedPN pnLen
  let headerEnd := pnOffset + pnLen
  reject (packet.length < headerEnd) (.text "quicgm: packet number field exceeds packet length")
  let ciphertext := packet.drop headerEnd
  reject (ciphertext.length < sm4GCMTagSize) (.text "quicgm: 1-RTT payload shorter than GCM tag")
  let payload ← protector.decryptPayload P pn (packet.take headerEnd) ciphertext
  return (pn, payload)

end

def layout (fields pnBytes tail : Bytes) : Bytes := firstByte :: (fields ++ (pnBytes ++ tail))

/-- The sample lies behind a number of any length. -/
def sampleOf (pnBytes tail : Bytes) : Bytes :=
  (tail.drop (4 - pnBytes.length)).take quicHeaderSampleLen

variable {p : QUICPacketProtector} {packet : Bytes}

section

variable {P : Prims} {hp : Bytes} {firstByte : UInt8} {fields pnBytes tail : Bytes} {isLong : Bool}

lemma layout_length : (layout firstByte fields pnBytes tail).length =
    1 + fields.length + pnBytes.length + tail.length := by
  simp only [layout, List.length_cons, List.length_append]
  omega

lemma foldl_modify (f : Nat → UInt8 → UInt8) (xs pre rest : Bytes) :
    (List.range xs.length).foldl (fun b i => b.modify (pre.length + i) (f i))
      (pre ++ (xs ++ rest)) = pre ++ (xs.mapIdx f ++ rest) := by
  induction xs using List.reverseRecOn generalizing rest with
  | nil => simp
  | append_singleton ys y ih =>
    have hat : (pre ++ (ys.mapIdx f ++ (y :: rest))).modify (pre.length + ys.length) (f ys.length) =
        pre ++ (ys.mapIdx f ++ (f ys.length y :: rest)) := by
      rw [← List.append_assoc, ← List.append_assoc,
        show pre.length + ys.length = (pre ++ ys.mapIdx f).length by simp]
      exact List.modifyTailIdx_add _ 0 (pre ++ ys.mapIdx f) (y :: rest)
    rw [List.length_append, List.length_singleton, List.range_succ, List.foldl_append,
      List.append_assoc ys,
      List.singleton_append, ih, List.foldl_cons, List.foldl_nil, hat, List.mapIdx_concat,
        List.append_assoc,
      List.singleton_append]

lemma xorPacketNumber_layout (mask : Bytes) :
    xorPacketNumber (layout firstByte fields pnBytes tail) mask (1 + fields.length) pnBytes.length =
      layout firstByte fields (pnBytes.mapIdx fun i b => b ^^^ mask.getD (1 + i) 0) tail := by
  have h := foldl_modify (fun i b => b ^^^ mask.getD (1 + i) 0) pnBytes (firstByte :: fields) tail
  rw [List.length_cons, Nat.add_comm fields.length] at h
  exact h

lemma layout_field :
    ((layout firstByte fields pnBytes tail).drop (1 + fields.length)).take pnBytes.length =
      pnBytes := by
  rw [layout, Nat.add_comm, List.drop_succ_cons, List.drop_left, List.take_left]

lemma layout_sample (hn : pnBytes.length ≤ 4) :
    ((layout firstByte fields pnBytes tail).drop (1 + fields.length + 4)).take quicHeaderSampleLen =
      sampleOf pnBytes tail := by
  have hpre : layout firstByte fields pnBytes tail =
    (firstByte :: (fields ++ pnBytes)) ++ tail := by simp [layout]
  have hpos : 1 + fields.length + 4 =
    (firstByte :: (fields ++ pnBytes)).length + (4 - pnBytes.length) := by
    simp only [List.length_cons, List.length_append]
    omega
  rw [hpre, hpos, List.drop_append, List.drop_eq_nil_of_le (by omega), sampleOf, List.nil_append]
  congr 2
  omega

lemma headerMask_layout (hn : pnBytes.length ≤ 4) {mask : Bytes} :
    QUICPacketProtector.headerMask P hp (layout firstByte fields pnBytes tail) (1 + fields.length) =
      .ok mask ↔
      20 ≤ pnBytes.length + tail.length ∧ mask = P.sm4Encrypt hp (sampleOf pnBytes tail) := by
  have hsize : quicHeaderSampleLen = 16 := rfl
  simp only [QUICPacketProtector.headerMask, bind_ok, reject_ok, pure_inj, layout_sample hn,
    layout_length]
  constructor
  · rintro ⟨-, h, rfl⟩
    exact ⟨by omega, rfl⟩
  · rintro ⟨h, rfl⟩
    exact ⟨(), by omega, rfl⟩

def protect (P : Prims) (hp : Bytes) (isLong : Bool) (firstByte : UInt8)
    (fields pnBytes tail : Bytes) : Bytes :=
  let masked := applyGMHeaderMask P hp isLong (sampleOf pnBytes tail) firstByte pnBytes
  layout masked.1 fields masked.2 tail

lemma applyGMHeaderMask_length (sample : Bytes) :
    (applyGMHeaderMask P hp isLong sample firstByte pnBytes).2.length = pnBytes.length := by
  simp [applyGMHeaderMask]

lemma mapIdx_xor_xor (xs : Bytes) (mask : Nat → UInt8) :
    (xs.mapIdx fun i b => b ^^^ mask i).mapIdx (fun i b => b ^^^ mask i) = xs := by
  rw [List.mapIdx_mapIdx]
  apply List.ext_getElem (by simp)
  intro i _ _
  rw [List.getElem_mapIdx]
  exact (xor_xor_eq_iff _ _ _).mpr rfl

lemma applyHeaderProtection_layout (hblock : p.hpBlock = some hp) (hpos : 1 ≤ pnBytes.length)
    (hmax : pnBytes.length ≤ 4) :
    p.applyHeaderProtection P (layout firstByte fields pnBytes tail)
        (1 + fields.length) pnBytes.length isLong = .ok packet ↔
      20 ≤ pnBytes.length + tail.length ∧
        packet = protect P hp isLong firstByte fields pnBytes tail := by
  have hvalid : validateHeaderArgs (layout firstByte fields pnBytes tail)
    (1 + fields.length) pnBytes.length = .ok () := by
    simp only [validateHeaderArgs, layout_length]
    rw [reject_bind (by omega), reject_bind (by omega), reject_neg (by omega)]
  have hxor (mask : Bytes) :
    xorHeaderMask (layout firstByte fields pnBytes tail) mask (1 + fields.length)
      pnBytes.length isLong = layout (firstByte ^^^ (mask.getD 0 0 &&& firstByteMask isLong)) fields
        (pnBytes.mapIdx fun i b => b ^^^ mask.getD (1 + i) 0) tail :=
    xorPacketNumber_layout mask
  simp only [QUICPacketProtector.applyHeaderProtection, hblock, need_some, ok_bind, hvalid, bind_ok,
    headerMask_layout hmax, hxor, pure_inj]
  constructor
  · rintro ⟨_, ⟨hroom, rfl⟩, rfl⟩
    exact ⟨hroom, rfl⟩
  · rintro ⟨hroom, rfl⟩
    exact ⟨_, ⟨hroom, rfl⟩, rfl⟩

/-- The restored first octet tells how many octets of the number to restore. -/
lemma removeHeaderProtection_protect (hblock : p.hpBlock = some hp)
    (hlen : (firstByte &&& 0x03).toNat + 1 = pnBytes.length) (hmax : pnBytes.length ≤ 4)
    (hroom : 20 ≤ pnBytes.length + tail.length) :
    p.removeHeaderProtection P (protect P hp isLong firstByte fields pnBytes tail)
      (1 + fields.length) isLong =
      .ok (decodePacketNumberBytes pnBytes, layout firstByte fields pnBytes tail) := by
  have hcount : (applyGMHeaderMask P hp isLong (sampleOf pnBytes tail) firstByte pnBytes).2.length =
    pnBytes.length :=
    applyGMHeaderMask_length _
  generalize hmasked : applyGMHeaderMask P hp isLong (sampleOf pnBytes tail) firstByte pnBytes =
    masked at hcount
  have hfirst : masked.1 ^^^
    ((P.sm4Encrypt hp (sampleOf pnBytes tail)).getD 0 0 &&& firstByteMask isLong) =
      firstByte := by
    rw [← hmasked]
    exact (xor_xor_eq_iff _ _ _).mpr rfl
  have hnumber : (masked.2.mapIdx fun i b =>
    b ^^^ (P.sm4Encrypt hp (sampleOf pnBytes tail)).getD (1 + i) 0) =
      pnBytes := by
    rw [← hmasked]
    exact mapIdx_xor_xor _ _
  have hsample : sampleOf masked.2 tail = sampleOf pnBytes tail := by
    rw [sampleOf, sampleOf, hcount]
  have hmask : QUICPacketProtector.headerMask P hp (layout masked.1 fields masked.2 tail)
      (1 + fields.length) = .ok (P.sm4Encrypt hp (sampleOf pnBytes tail)) :=
    (headerMask_layout (by omega)).mpr ⟨by omega, by rw [hsample]⟩
  have hunmask : xorFirstByte (layout masked.1 fields masked.2 tail)
      (P.sm4Encrypt hp (sampleOf pnBytes tail)) isLong = layout firstByte fields masked.2 tail := by
    rw [← hfirst]
    rfl
  have hrestore : xorPacketNumber (layout firstByte fields masked.2 tail)
    (P.sm4Encrypt hp (sampleOf pnBytes tail))
      (1 + fields.length) pnBytes.length = layout firstByte fields pnBytes tail := by
    rw [← hcount, xorPacketNumber_layout, hnumber]
  have hhead : (layout firstByte fields masked.2 tail).getD 0 0 = firstByte := rfl
  simp only [QUICPacketProtector.removeHeaderProtection, protect, hmasked, hblock, need_some,
    ok_bind, hmask, hunmask, hhead, hlen, hrestore, layout_field, layout_length]
  rw [reject_bind (by omega), reject_neg (by omega)]
  rfl

end

variable {b x rest : Bytes} {pos : Nat}

lemma drop_next (h : b.drop pos = x ++ rest) : b.drop (pos + x.length) = rest := by
  rw [← List.drop_drop, h, List.drop_left]

lemma readUint32_at {v : Nat} (hv : v < 4294967296) (h : b.drop pos = be32 v ++ rest) :
    readUint32 b pos = .ok (v, pos + (be32 v).length) := by
  rw [readUint32, h, u32_be32 v hv]
  rfl

lemma readCID_at {cid : Bytes} (name : String) (hcid : cid.length ≤ 255)
    (h : b.drop pos = (UInt8.ofNat cid.length :: cid) ++ rest) :
    readCID b pos name = .ok (cid, pos + (UInt8.ofNat cid.length :: cid).length) := by
  rw [readCID, h, List.cons_append, u8_cons _ (by omega)]
  simp only [need_some, ok_bind, chunk_append rfl, List.length_cons, pure_ok]
  congr 2
  omega

lemma readVarintBytes_at {w : Bytes} (name : String) (hx : x.length ≤ 2147483647)
    (hw : ∀ rest, readVarint (w ++ rest) = .ok (x.length, w.length))
    (h : b.drop pos = w ++ (x ++ rest)) :
    readVarintBytes b pos name = .ok (x, pos + w.length + x.length) := by
  simp only [readVarintBytes, h, hw, wrapErr, ok_bind, drop_next h, chunk_append rfl, need_some]
  rw [reject_neg (by omega)]
  rfl

lemma xor_and_disjoint (a x m k : UInt8) (h : m &&& k = 0) : (a ^^^ (x &&& m)) &&& k = a &&& k := by
  have hdistrib : (a ^^^ (x &&& m)) &&& k = (a &&& k) ^^^ (x &&& (m &&& k)) := by
    apply UInt8.toBitVec_inj.mp
    ext i hi
    simp only [UInt8.toBitVec_and, UInt8.toBitVec_xor, BitVec.getElem_and, BitVec.getElem_xor]
    cases a.toBitVec[i] <;> cases x.toBitVec[i] <;> cases m.toBitVec[i] <;> cases k.toBitVec[i] <;>
      rfl
  rw [hdistrib, h]
  simp

/-- SM4-GCM opens what it sealed, and its tag has sixteen octets. -/
structure GcmLaws (P : Prims) : Prop where
  open_seal : ∀ key nonce pt aad, P.gcmOpen key nonce (P.gcmSeal key nonce pt aad) aad = .ok pt
  seal_length : ∀ key nonce pt aad, (P.gcmSeal key nonce pt aad).length = pt.length + sm4GCMTagSize

variable {keys : Option QUICPacketKeys} {payload dcid scid : Bytes} {pn : UInt64} {pnLen : Nat}
  {keyPhase : Bool} {largestAcked : Option UInt64}

section

variable {P : Prims}

lemma newQUICPacketProtectorFromKeys_ok (h : newQUICPacketProtectorFromKeys P keys = .ok p) :
    ∃ aead hp, p = ⟨some aead, some hp⟩ := by
  obtain ⟨k, -, h⟩ := bind_ok.mp h
  obtain ⟨aead, -, h⟩ := bind_ok.mp h
  obtain ⟨-, -, h⟩ := bind_ok.mp h
  cases h
  exact ⟨aead, k.headerKey, rfl⟩

lemma newQUICPacketProtector_ok {secret : Bytes} (h : newQUICPacketProtector P secret = .ok p) :
    ∃ aead hp, p = ⟨some aead, some hp⟩ := by
  obtain ⟨keys, -, h⟩ := bind_ok.mp h
  exact newQUICPacketProtectorFromKeys_ok h

lemma layout_take (fields pnBytes tail : Bytes) :
    (layout firstByte fields pnBytes tail).take (1 + fields.length + pnBytes.length) =
      firstByte :: (fields ++ pnBytes) := by
  rw [layout, ← List.append_assoc, ← List.cons_append]
  exact List.take_left' (by simp only [List.length_cons, List.length_append]; omega)

lemma layout_drop (fields pnBytes tail : Bytes) :
    (layout firstByte fields pnBytes tail).drop (1 + fields.length + pnBytes.length) = tail := by
  rw [layout, ← List.append_assoc, ← List.cons_append]
  exact List.drop_left' (by simp only [List.length_cons, List.length_append]; omega)

/-- The end of a sealed long packet is opened where sealing left its length. -/
lemma openLongTail_sealLongTail (hP : GcmLaws P) {aead : AEAD} {hp pre : Bytes} {firstByte : UInt8}
    (kind : String) (hfirst : (firstByte &&& 0x03).toNat = 3) (hpn : pn.toNat < 4294967296)
    (hpayload : payload.length < 2 ^ 30)
    (hseal : sealLongTail P ⟨some aead, some hp⟩ (firstByte :: pre) pn payload = .ok packet) :
    ∃ x rest, packet = (firstByte ^^^ (x &&& 0x0f)) :: (pre ++ rest) ∧
      openLongTail P ⟨some aead, some hp⟩ packet (1 + pre.length) kind = .ok (pn, payload) := by
  obtain ⟨hdr, hvarint, hseal⟩ := bind_ok.mp hseal
  obtain ⟨w, rfl, hread⟩ := readVarint_appendVarint hvarint
  have hsmall : pn.toUInt32.toNat = pn.toNat := by
    rw [UInt64.toNat_toUInt32]
    exact Nat.mod_eq_of_lt hpn
  have hcount : (be32 pn.toNat).length = 4 := be32_length _
  have hshape (tail : Bytes) : firstByte :: pre ++ w ++ be32 pn.toNat ++ tail =
      layout firstByte (pre ++ w) (be32 pn.toNat) tail := by simp [layout]
  have hoffset : (firstByte :: pre ++ w).length = 1 + (pre ++ w).length := by
    simp only [List.cons_append, List.length_cons]
    omega
  simp only [QUICPacketProtector.encryptPayload, need_some, ok_bind, pure_ok, appendUint32, hsmall,
    hshape, hoffset] at hseal
  obtain ⟨hroom, rfl⟩ := (applyHeaderProtection_layout rfl (by omega) (by omega)).mp hseal
  refine ⟨_, _, congrArg _ (List.append_assoc _ _ _), ?_⟩
  have hlen := hP.seal_length aead.key (aead.computeNonce pn.toNat) payload
    (firstByte :: pre ++ w ++ be32 pn.toNat)
  have hopen := hP.open_seal aead.key (aead.computeNonce pn.toNat) payload
    (firstByte :: pre ++ w ++ be32 pn.toNat)
  rw [← AEAD.seal] at hlen hopen
  generalize aead.seal P pn.toNat payload (firstByte :: pre ++ w ++ be32 pn.toNat) =
    ct at hroom hlen hopen ⊢
  have hlength : (protect P hp true firstByte (pre ++ w) (be32 pn.toNat) ct).drop (1 + pre.length) =
      w ++ ((applyGMHeaderMask P hp true (sampleOf (be32 pn.toNat) ct) firstByte
        (be32 pn.toNat)).2 ++ ct) := by
    rw [protect, layout, Nat.add_comm, List.drop_succ_cons, List.append_assoc, List.drop_left]
  have hremove : QUICPacketProtector.removeHeaderProtection P ⟨some aead, some hp⟩
      (protect P hp true firstByte (pre ++ w) (be32 pn.toNat) ct) (1 + (pre ++ w).length) true =
        _ :=
    removeHeaderProtection_protect rfl (by omega) (by omega) hroom
  have hnumber : decodePacketNumberBytes (be32 pn.toNat) = pn := by
    rw [← numberOctets_four]
    exact decodePacketNumberBytes_octets pn (by omega) hpn
  rw [hnumber, List.length_append, ← Nat.add_assoc] at hremove
  have hhead : (layout firstByte (pre ++ w) (be32 pn.toNat) ct).getD 0 0 = firstByte := rfl
  have hheader := layout_take firstByte (pre ++ w) (be32 pn.toNat) ct
  have htail := layout_drop firstByte (pre ++ w) (be32 pn.toNat) ct
  rw [hcount, List.length_append, ← Nat.add_assoc] at hheader htail
  simp only [openLongTail, hlength, hread, wrapErr, ok_bind, hremove, hhead, hfirst, hheader, htail]
  have htag : sm4GCMTagSize = 16 := rfl
  have hwidth : initialPacketNumberLen = 4 := rfl
  have htake : ct.take (initialPacketNumberLen + (payload.length + sm4GCMTagSize) - 4) = ct :=
    List.take_of_length_le (by omega)
  have hdecrypt : QUICPacketProtector.decryptPayload P ⟨some aead, some hp⟩ pn
      (firstByte :: (pre ++ w ++ be32 pn.toNat)) ct = .ok payload := hopen
  rw [reject_bind (by omega), reject_bind (by omega), reject_neg, ok_bind, reject_bind (by omega),
    htake, hdecrypt]
  · rfl
  · rw [layout_length, List.length_append]
    omega

def longFields (dcid scid : Bytes) : Bytes :=
  be32 quicVersion1 ++ ((UInt8.ofNat dcid.length :: dcid) ++ (UInt8.ofNat scid.length :: scid))

lemma longFields_length (dcid scid : Bytes) :
    (longFields dcid scid).length = 6 + dcid.length + scid.length := by
  simp only [longFields, List.length_append, be32_length, List.length_cons]
  omega

lemma longHeaderStart_ok {firstByte : UInt8} {hdr : Bytes}
    (h : longHeaderStart firstByte dcid scid = .ok hdr) :
    dcid.length ≤ 255 ∧ scid.length ≤ 255 ∧ hdr = firstByte :: longFields dcid scid := by
  obtain ⟨_, hdcid, h⟩ := bind_ok.mp h
  obtain ⟨_, hscid, h⟩ := bind_ok.mp h
  rw [checkCIDLen, reject_ok] at hdcid hscid
  cases h
  refine ⟨by omega, by omega, ?_⟩
  rw [List.append_assoc]
  rfl

structure StartsLong (packet : Bytes) (firstByte : UInt8) (dcid scid rest : Bytes) : Prop where
  nonempty : ¬ packet.length < 1
  unmasked : ∀ k, 0x0f &&& k = 0 → packet.getD 0 0 &&& k = firstByte &&& k
  readVersion : readUint32 packet 1 = .ok (quicVersion1, 5)
  readDcid : readCID packet 5 "dcid" = .ok (dcid, 6 + dcid.length)
  readScid : readCID packet (6 + dcid.length) "scid" = .ok (scid, 7 + dcid.length + scid.length)
  next : packet.drop (7 + dcid.length + scid.length) = rest

lemma startsLong (x : UInt8) (rest : Bytes) (hdcid : dcid.length ≤ 255)
    (hscid : scid.length ≤ 255) :
    StartsLong ((firstByte ^^^ (x &&& 0x0f)) :: (longFields dcid scid ++ rest)) firstByte dcid scid
      rest := by
  generalize hpacket : (firstByte ^^^ (x &&& 0x0f)) :: _ = packet
  have hversion : packet.drop 1 = be32 quicVersion1 ++ ((UInt8.ofNat dcid.length :: dcid) ++
      ((UInt8.ofNat scid.length :: scid) ++ rest)) := by
    rw [← hpacket]
    simp only [longFields, List.drop_succ_cons, List.drop_zero, List.append_assoc]
  have hdcidEnd : 5 + (UInt8.ofNat dcid.length :: dcid).length = 6 + dcid.length := by
    rw [List.length_cons]
    omega
  have hscidEnd : 6 + dcid.length + (UInt8.ofNat scid.length :: scid).length =
    7 + dcid.length + scid.length := by
    rw [List.length_cons]
    omega
  have hdcidAt : packet.drop 5 = _ := drop_next hversion
  have hscidAt := drop_next hdcidAt
  have hreadDcid := readCID_at "dcid" hdcid hdcidAt
  rw [hdcidEnd] at hscidAt hreadDcid
  have hnext := drop_next hscidAt
  have hreadScid := readCID_at "scid" hscid hscidAt
  rw [hscidEnd] at hnext hreadScid
  refine ⟨?_, ?_, readUint32_at (by decide) hversion, hreadDcid, hreadScid, hnext⟩
  · rw [← hpacket, List.length_cons]
    omega
  · intro k hk
    rw [← hpacket]
    exact xor_and_disjoint _ _ _ _ hk

lemma fits_of_not_lt (h : ¬ 0xFFFFFFFF < pn) : pn.toNat < 4294967296 := by
  have hmax : (0xFFFFFFFF : UInt64).toNat = 4294967295 := rfl
  rw [UInt64.lt_iff_toNat_lt] at h
  omega

lemma openInitialPacket_sealInitialPacket (hP : GcmLaws P) {token : Bytes}
    (htoken : token.length < 2 ^ 30) (hpayload : payload.length < 2 ^ 30)
    (hseal : sealInitialPacket P dcid scid token pn payload = .ok packet) :
    openInitialPacket P dcid packet = .ok (quicVersion1, scid, token, pn, payload) := by
  obtain ⟨_, hpn, hseal⟩ := bind_ok.mp hseal
  obtain ⟨_, hdcid, hseal⟩ := bind_ok.mp hseal
  obtain ⟨⟨clientIn, _⟩, hsecret, hseal⟩ := bind_ok.mp hseal
  obtain ⟨protector, hprotector, hseal⟩ := bind_ok.mp hseal
  obtain ⟨start, hstart, hseal⟩ := bind_ok.mp hseal
  obtain ⟨hdr, hvarint, hseal⟩ := bind_ok.mp hseal
  obtain ⟨aead, hp, rfl⟩ := newQUICPacketProtector_ok hprotector
  obtain ⟨hdcidLen, hscidLen, rfl⟩ := longHeaderStart_ok hstart
  obtain ⟨w, rfl, hread⟩ := readVarint_appendVarint hvarint
  rw [reject_ok] at hpn
  rw [List.cons_append, List.cons_append, List.append_assoc] at hseal
  obtain ⟨x, rest, rfl, hopen⟩ :=
    openLongTail_sealLongTail hP "initial" rfl (fits_of_not_lt hpn) hpayload hseal
  have hpos : 1 + (longFields dcid scid ++ (w ++ token)).length =
      7 + dcid.length + scid.length + w.length + token.length := by
    rw [List.length_append, longFields_length, List.length_append]
    omega
  rw [hpos, List.append_assoc, List.append_assoc w] at hopen
  rw [List.append_assoc, List.append_assoc w]
  have hs := startsLong 0xC3 x (w ++ (token ++ rest)) hdcidLen hscidLen
  generalize (0xC3 ^^^ (x &&& 0x0f)) :: _ = packet at hopen hs ⊢
  have hlong : ¬ packet.getD 0 0 &&& 0x80 = 0 := by rw [hs.unmasked 0x80 rfl]; decide
  have hfixed : ¬ packet.getD 0 0 &&& 0x40 = 0 := by rw [hs.unmasked 0x40 rfl]; decide
  have hkind : ¬ packet.getD 0 0 &&& 0x30 ≠ 0 := by rw [hs.unmasked 0x30 rfl]; decide
  have hsame : ¬ quicVersion1 ≠ quicVersion1 := fun h => h rfl
  simp only [openInitialPacket, hdcid, hsecret, hprotector, ok_bind, reject_neg hs.nonempty,
    reject_neg hlong,
    reject_neg hfixed, reject_neg hkind, hs.readVersion, reject_neg hsame, skipCID, hs.readDcid,
      hs.readScid, pure_ok,
    readVarintBytes_at "token" (by omega) hread hs.next, hopen]

lemma openHandshakePacket_sealHandshakePacket (hP : GcmLaws P) (hpayload : payload.length < 2 ^ 30)
    (hseal : sealHandshakePacket P keys dcid scid pn payload = .ok packet) :
    openHandshakePacket P keys dcid packet = .ok (quicVersion1, scid, pn, payload) := by
  obtain ⟨_, hpn, hseal⟩ := bind_ok.mp hseal
  obtain ⟨protector, hprotector, hseal⟩ := bind_ok.mp hseal
  obtain ⟨start, hstart, hseal⟩ := bind_ok.mp hseal
  obtain ⟨aead, hp, rfl⟩ := newQUICPacketProtectorFromKeys_ok hprotector
  obtain ⟨hdcidLen, hscidLen, rfl⟩ := longHeaderStart_ok hstart
  rw [reject_ok] at hpn
  obtain ⟨x, rest, rfl, hopen⟩ :=
    openLongTail_sealLongTail hP "handshake" rfl (fits_of_not_lt hpn) hpayload hseal
  have hpos : 1 + (longFields dcid scid).length = 7 + dcid.length + scid.length := by
    rw [longFields_length]
    omega
  rw [hpos] at hopen
  have hs := startsLong 0xE3 x rest hdcidLen hscidLen
  generalize (0xE3 ^^^ (x &&& 0x0f)) :: _ = packet at hopen hs ⊢
  have hlong : ¬ packet.getD 0 0 &&& 0x80 = 0 := by rw [hs.unmasked 0x80 rfl]; decide
  have hfixed : ¬ packet.getD 0 0 &&& 0x40 = 0 := by rw [hs.unmasked 0x40 rfl]; decide
  have hkind : ¬ packet.getD 0 0 >>> 4 &&& (0x03 : UInt8) ≠ 0b10 := by
    have hbits : packet.getD 0 0 >>> 4 &&& (0x03 : UInt8) = (packet.getD 0 0 &&& 0x30) >>> 4 := by
      rw [UInt8.shiftRight_and]
      rfl
    rw [hbits, hs.unmasked 0x30 rfl]
    decide
  have hsame : ¬ quicVersion1 ≠ quicVersion1 := fun h => h rfl
  have hdcid : ¬ dcid ≠ dcid := fun h => h rfl
  simp only [openHandshakePacket, hprotector, ok_bind, reject_neg hs.nonempty, reject_neg hlong,
    reject_neg hfixed, reject_neg hkind, hs.readVersion, reject_neg hsame, hs.readDcid,
      reject_neg hdcid, hs.readScid,
    pure_ok, hopen]

structure Sealed1RTT (P : Prims) (keys : Option QUICPacketKeys) (dcid : Bytes) (pn : UInt64)
    (pnLen : Nat) (keyPhase : Bool) (payload packet : Bytes) (aead : AEAD) (hp pnBytes ct : Bytes) :
    Prop where
  protector : newQUICPacketProtectorFromKeys P keys = .ok ⟨some aead, some hp⟩
  positive : 1 ≤ pnLen
  atMostFour : pnLen ≤ 4
  number : pnBytes = numberOctets (truncatePacketNumber pn pnLen) pnLen
  ciphertext : ct = aead.seal P pn.toNat payload (shortFirstByte pnLen keyPhase ::
    (dcid ++ pnBytes))
  room : 20 ≤ pnLen + ct.length
  sealed : packet = protect P hp false (shortFirstByte pnLen keyPhase) dcid pnBytes ct

lemma seal1RTTPacket_ok (h : seal1RTTPacket P keys dcid pn pnLen keyPhase payload = .ok packet) :
    dcid.length ≠ 0 ∧ ∃ aead hp pnBytes ct,
      Sealed1RTT P keys dcid pn pnLen keyPhase payload packet aead hp pnBytes ct := by
  obtain ⟨_, hlen, h⟩ := bind_ok.mp h
  obtain ⟨_, hdcid, h⟩ := bind_ok.mp h
  obtain ⟨protector, hprotector, h⟩ := bind_ok.mp h
  obtain ⟨aead, hp, rfl⟩ := newQUICPacketProtectorFromKeys_ok hprotector
  rw [reject_ok] at hlen hdcid
  have hcount := numberOctets_length (truncatePacketNumber pn pnLen) pnLen
  have hhdr : appendPacketNumber (shortFirstByte pnLen keyPhase :: dcid) pn pnLen =
      shortFirstByte pnLen keyPhase ::
        (dcid ++ numberOctets (truncatePacketNumber pn pnLen) pnLen) := by
    rw [appendPacketNumber, if_neg hlen]
    rfl
  simp only [QUICPacketProtector.encryptPayload, need_some, ok_bind, pure_ok, hhdr,
    List.length_cons, Nat.add_comm dcid.length] at h
  generalize hnumber : numberOctets (truncatePacketNumber pn pnLen) pnLen = pnBytes at h hcount
  generalize hct : aead.seal P pn.toNat payload (shortFirstByte pnLen keyPhase ::
    (dcid ++ pnBytes)) = ct at h
  rw [List.cons_append, List.append_assoc, ← layout] at h
  subst hcount
  obtain ⟨hroom, hsealed⟩ := (applyHeaderProtection_layout rfl (by omega) (by omega)).mp h
  exact ⟨hdcid, aead, hp, pnBytes, ct, hprotector,
    by omega, by omega, hnumber.symm, hct.symm, by omega, hsealed⟩

lemma shortFirstByte_length (keyPhase : Bool) (hpos : 1 ≤ pnLen) (hmax : pnLen ≤ 4) :
    (shortFirstByte pnLen keyPhase &&& 0x03).toNat + 1 = pnLen := by
  interval_cases pnLen <;> cases keyPhase <;> rfl

lemma shortFirstByte_short (keyPhase : Bool) (hpos : 1 ≤ pnLen) (hmax : pnLen ≤ 4) :
    shortFirstByte pnLen keyPhase &&& 0x80 = 0 := by
  interval_cases pnLen <;> cases keyPhase <;> rfl

lemma completePacketNumber_truncate {n : Nat} (hpos : 1 ≤ n) (hmax : n ≤ 4)
    (hpn : pn.toNat < 2 ^ 62) (hwin : InHalfWindow largestAcked pn n) :
    completePacketNumber largestAcked (truncatePacketNumber pn n) n = pn := by
  cases largestAcked with
  | none =>
    apply UInt64.toNat_inj.mp
    rw [completePacketNumber, truncatePacketNumber_toNat pn hpos hmax]
    exact Nat.mod_eq_of_lt hwin
  | some acked => exact decodePacketNumber_truncate hpos hmax hpn hwin

lemma open1RTTPacket_seal1RTTPacket (hP : GcmLaws P) (hpn : pn.toNat < 2 ^ 62)
    (hseal : seal1RTTPacket P keys dcid pn pnLen keyPhase payload = .ok packet)
    (hwin : InHalfWindow largestAcked pn pnLen) :
    open1RTTPacket P keys dcid largestAcked packet = .ok (pn, payload) := by
  obtain ⟨hdcid, aead, hp, pnBytes, ct, s⟩ := seal1RTTPacket_ok hseal
  have hcount : pnBytes.length = pnLen := by rw [s.number, numberOctets_length]
  have hnumber : decodePacketNumberBytes pnBytes = truncatePacketNumber pn pnLen := by
    rw [s.number]
    apply decodePacketNumberBytes_octets _ s.atMostFour
    rw [truncatePacketNumber_toNat pn s.positive s.atMostFour]
    exact Nat.mod_lt _ (Nat.two_pow_pos _)
  have hlen := hP.seal_length aead.key (aead.computeNonce pn.toNat) payload
    (shortFirstByte pnLen keyPhase :: (dcid ++ pnBytes))
  have hopen := hP.open_seal aead.key (aead.computeNonce pn.toNat) payload
    (shortFirstByte pnLen keyPhase :: (dcid ++ pnBytes))
  rw [← AEAD.seal, ← s.ciphertext] at hlen hopen
  have htag : sm4GCMTagSize = 16 := rfl
  have hremove : QUICPacketProtector.removeHeaderProtection P ⟨some aead, some hp⟩ packet
    (1 + dcid.length) false = _ :=
    s.sealed ▸ removeHeaderProtection_protect rfl
      (by rw [hcount]; exact shortFirstByte_length keyPhase s.positive s.atMostFour)
      (by rw [hcount]; exact s.atMostFour) (by rw [hcount]; exact s.room)
  have hpacket : packet.length = 1 + dcid.length + pnLen + ct.length := by
    rw [s.sealed, protect, layout_length, applyGMHeaderMask_length, hcount]
  have hshort : ¬ packet.getD 0 0 &&& 0x80 ≠ 0 := by
    rw [s.sealed]
    change ¬ (shortFirstByte pnLen keyPhase ^^^ (_ &&& 0x1f)) &&& 0x80 ≠ 0
    rw [xor_and_disjoint _ _ _ _ rfl, shortFirstByte_short keyPhase s.positive s.atMostFour]
    exact fun h => h rfl
  have hmatch : ¬ (packet.drop 1).take dcid.length ≠ dcid := by
    rw [s.sealed, protect, layout, List.drop_succ_cons, List.drop_zero, List.take_left]
    exact fun h => h rfl
  have hheader := layout_take (shortFirstByte pnLen keyPhase) dcid pnBytes ct
  have htail := layout_drop (shortFirstByte pnLen keyPhase) dcid pnBytes ct
  have hhead : (layout (shortFirstByte pnLen keyPhase) dcid pnBytes ct).getD 0 0 =
    shortFirstByte pnLen keyPhase := rfl
  rw [hcount] at hheader htail
  have hdecrypt : QUICPacketProtector.decryptPayload P ⟨some aead, some hp⟩ pn
      (shortFirstByte pnLen keyPhase :: (dcid ++ pnBytes)) ct = .ok payload := hopen
  simp only [open1RTTPacket, s.protector, ok_bind, reject_neg hdcid,
    reject_neg (show ¬ packet.length < 1 by omega),
    reject_neg hshort, reject_neg (show ¬ packet.length < 1 + dcid.length by omega),
      reject_neg hmatch,
    reject_neg (show ¬ packet.length ≤ 1 + dcid.length by have := s.positive; omega), hremove,
      hnumber, hhead,
    shortFirstByte_length keyPhase s.positive s.atMostFour,
      completePacketNumber_truncate s.positive s.atMostFour hpn hwin,
    hheader, htail]
  rw [reject_bind (by rw [layout_length]; omega), reject_neg (by omega), ok_bind, hdecrypt]
  rfl

/-- Each opener returns what its sealer sealed. The 1-RTT sealer takes numbers of more than 62
bits, which its opener does not complete. -/
theorem packets_round_trip (hP : GcmLaws P) :
    (∀ dcid scid token pn payload packet, token.length < 2 ^ 30 → payload.length < 2 ^ 30 →
      sealInitialPacket P dcid scid token pn payload = .ok packet →
      openInitialPacket P dcid packet = .ok (quicVersion1, scid, token, pn, payload)) ∧
    (∀ keys dcid scid pn payload packet, payload.length < 2 ^ 30 →
      sealHandshakePacket P keys dcid scid pn payload = .ok packet →
      openHandshakePacket P keys dcid packet = .ok (quicVersion1, scid, pn, payload)) ∧
    (∀ keys dcid pn pnLen keyPhase payload packet largestAcked, pn.toNat < 2 ^ 62 →
      seal1RTTPacket P keys dcid pn pnLen keyPhase payload = .ok packet →
        InHalfWindow largestAcked pn pnLen →
      open1RTTPacket P keys dcid largestAcked packet = .ok (pn, payload)) := by
  refine ⟨?_, ?_, ?_⟩
  · intro dcid scid token pn payload packet htoken hpayload hseal
    exact openInitialPacket_sealInitialPacket hP htoken hpayload hseal
  · intro keys dcid scid pn payload packet hpayload hseal
    exact openHandshakePacket_sealHandshakePacket hP hpayload hseal
  · intro keys dcid pn pnLen keyPhase payload packet largestAcked hpn hseal hwin
    exact open1RTTPacket_seal1RTTPacket hP hpn hseal hwin

end

lemma toyPrims_gcmLaws : GcmLaws toyPrims where
  open_seal := toyPrims_lawful.open_seal
  seal_length key nonce pt aad := by
    simp only [toyPrims, List.length_append, List.length_take, toyHash_length, sm4GCMTagSize]
    omega

def toyKeys : QUICPacketKeys := ⟨zeros 16, zeros 12, List.replicate 16 1⟩

def toyInitial : Bytes := (sealInitialPacket toyPrims [1, 2] [3] [4, 5] 7 [9]).toOption.getD []
def toyHandshake : Bytes :=
  (sealHandshakePacket toyPrims (some toyKeys) [1, 2] [3] 7 [9]).toOption.getD []
def toyShort (pn : UInt64) : Bytes :=
  (seal1RTTPacket toyPrims (some toyKeys) [1, 2] pn 1 true [9, 9, 9]).toOption.getD []

theorem packets_round_trip_toy :
    openInitialPacket toyPrims [1, 2] toyInitial = .ok (quicVersion1, [3], [4, 5], 7, [9]) ∧
      openHandshakePacket toyPrims (some toyKeys) [1, 2] toyHandshake =
        .ok (quicVersion1, [3], 7, [9]) ∧
      open1RTTPacket toyPrims (some toyKeys) [1, 2] (some 200) (toyShort 261) =
        .ok (261, [9, 9, 9]) := by
  obtain ⟨hinitial, hhandshake, hshort⟩ := packets_round_trip toyPrims_gcmLaws
  refine ⟨hinitial _ _ _ _ _ _ (by decide) (by decide) ?_, hhandshake _ _ _ _ _ _ (by decide) ?_,
    hshort _ _ _ 1 true _ _ _ (by decide) ?_ ⟨by decide, by decide⟩⟩ <;> decide +kernel

/-- The number 261 above 2^62 comes out as 5 above 2^62. -/
theorem long_number_lost :
    seal1RTTPacket toyPrims (some toyKeys) [1, 2] 4611686018427388165 1 true [9, 9, 9] =
        .ok (toyShort 4611686018427388165) ∧
      InHalfWindow (some 4611686018427388104) 4611686018427388165 1 ∧
      decodePacketNumber 4611686018427388104 (truncatePacketNumber 4611686018427388165 1) 1 =
        4611686018427387909 ∧
      open1RTTPacket toyPrims (some toyKeys) [1, 2] (some 4611686018427388104)
        (toyShort 4611686018427388165) ≠ .ok (4611686018427388165, [9, 9, 9]) := by
  refine ⟨?_, ⟨by decide, by decide⟩, ?_, ?_⟩ <;> decide +kernel

end Pollux.Quicgm
