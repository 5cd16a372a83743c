import PolluxGM.QuicPackets

/-!
# Two ways to a 1-RTT packet

Embedding of the short header of quic-go, `short_header.go`, with the GM sealer for it, next to
`Seal1RTTPacket`. The two place the key phase in different bits of the first octet.
-/
namespace Pollux.Tls

open Quicgm

def errEOF : Err := .text "EOF"
def errInvalidReservedBits : Err := .text "invalid reserved bits"

/-- Packet numbers are signed 64-bit integers in quic-go. -/
def appendPacketNumber (b : Bytes) (pn : Int64) (pnLen : Nat) : Except Err Bytes :=
  match pnLen with
  | 1 => .ok (b ++ [pn.toUInt64.toUInt8])
  | 2 => .ok (b ++ be16 pn.toUInt64.toNat)
  | 3 => .ok (b ++ (be32 pn.toUInt64.toNat).drop 1)
  | 4 => .ok (b ++ be32 pn.toUInt64.toNat)
  | _ => .error (.text s!"invalid packet number length: {pnLen}")

/-- The caller has checked that the octets are there. -/
def readPacketNumber (data : Bytes) (pnLen : Nat) : Except Err Int64 :=
  let octet i := (data.getD i 0).toNat
  match pnLen with
  | 1 => .ok (Int64.ofNat (octet 0))
  | 2 => .ok (Int64.ofNat (octet 0 * 256 + octet 1))
  | 3 => .ok (Int64.ofNat (octet 2 + octet 1 * 256 + octet 0 * 65536))
  | 4 => .ok (Int64.ofNat (octet 0 * 16777216 + octet 1 * 65536 + octet 2 * 256 + octet 3))
  | _ => .error (.text s!"invalid packet number length: {pnLen}")

def shortTypeByte (pnLen : Nat) (kp : KeyPhaseBit) : UInt8 :=
  (0x40 ||| UInt8.ofNat (pnLen - 1)) ||| if kp = .one then 0x04 else 0

def appendShortHeader (b connID : Bytes) (pn : Int64) (pnLen : Nat) (kp : KeyPhaseBit) :
    Except Err Bytes :=
  appendPacketNumber (b ++ (shortTypeByte pnLen kp :: connID)) pn pnLen

/-- The fields come back also with reserved bits set; `err` says so. -/
structure ParsedShortHeader where
  length : Nat
  pn : Int64
  pnLen : Nat
  kp : KeyPhaseBit
  err : Option Err
  deriving DecidableEq

def parseShortHeader (data : Bytes) (connIDLen : Nat) : Except Err ParsedShortHeader := do
  reject (data.length = 0) errEOF
  let typeByte := data.getD 0 0
  reject (0 < typeByte &&& 0x80) (.text "not a short header packet")
  reject (typeByte &&& 0x40 = 0) (.text "not a QUIC packet")
  let pnLen := (typeByte &&& 0b11).toNat + 1
  reject (data.length < 1 + pnLen + connIDLen) errEOF
  let pn ← readPacketNumber (data.drop (1 + connIDLen)) pnLen
  let kp := if 0 < typeByte &&& 0b100 then KeyPhaseBit.one else .zero
  let err := if typeByte &&& 0x18 ≠ 0 then some errInvalidReservedBits else none
  return ⟨1 + connIDLen + pnLen, pn, pnLen, kp, err⟩

structure GMShortSealer where
  km : KeyMaterial
  isLong : Bool
  kp : KeyPhaseBit
  deriving DecidableEq

section

variable (P : Prims)

def newGMShortSealer (keys : Option QUICPacketKeys) (kp : KeyPhaseBit) : Except Err GMShortSealer :=
  do
  let km ← newGMKeyMaterial P keys
  return ⟨km, false, kp⟩

namespace GMShortSealer

def sealPacket (s : GMShortSealer) (dst src : Bytes) (pn : Int64) (ad : Bytes) : Bytes :=
  dst ++ s.km.aead.seal P pn.toUInt64.toNat src ad

def encryptHeader (s : GMShortSealer) (sample : Bytes) (firstByte : UInt8) (pnBytes : Bytes) :
    UInt8 × Bytes :=
  applyGMHeaderMask P s.km.hp s.isLong sample firstByte pnBytes

/-- The payload sealed behind the header, which is then masked. -/
def encryptPacket (s : GMShortSealer) (header payload : Bytes) (pn : Int64) (pnLen : Nat) :
    Except Err Bytes := do
  let raw := s.sealPacket P header payload pn header
  let payloadOffset := header.length
  let pnOffset := payloadOffset - pnLen
  reject (raw.length < pnOffset + 4 + 16) (.text "slice bounds out of range")
  let masked := s.encryptHeader P ((raw.drop (pnOffset + 4)).take 16) (raw.getD 0 0)
    ((raw.drop pnOffset).take pnLen)
  return masked.1 :: ((raw.take pnOffset).drop 1 ++ (masked.2 ++ raw.drop payloadOffset))

end GMShortSealer

def packShortHeaderPacket (keys : Option QUICPacketKeys) (connID : Bytes) (pn : Int64) (pnLen : Nat)
    (kp : KeyPhaseBit) (payload : Bytes) : Except Err Bytes := do
  let sealer ← newGMShortSealer P keys kp
  let header ← appendShortHeader [] connID pn pnLen kp
  sealer.encryptPacket P header payload pn pnLen

end

def phaseBit (keyPhase : Bool) : KeyPhaseBit := if keyPhase then .one else .zero

variable {n pnLen : Nat} {keys : Option QUICPacketKeys}
  {hp connID pnBytes payload packet ct dcid : Bytes} {firstByte : UInt8} {pn : UInt64}
  {keyPhase : Bool}

section

variable {P : Prims}

lemma ofNat_eq_of_mod {a b : Nat} (h : a % 256 = b % 256) : UInt8.ofNat a = UInt8.ofNat b := by
  apply byte_of_toNat
  rw [UInt8.toNat_ofNat']
  exact h

lemma appendPacketNumber_eq (b : Bytes) (pn : UInt64) (hpos : 1 ≤ n) (hmax : n ≤ 4) :
    appendPacketNumber b pn.toInt64 n = .ok (b ++ numberOctets (truncatePacketNumber pn n) n) := by
  have htrunc := truncatePacketNumber_toNat pn hpos hmax
  have hoctet (k : Nat) (hk : k < n) :
    (truncatePacketNumber pn n >>> UInt64.ofNat (8 * k)).toUInt8 =
      UInt8.ofNat (pn.toNat / 2 ^ (8 * k)) := by
    rw [octet_eq _ (by omega), htrunc]
    apply ofNat_eq_of_mod
    interval_cases n <;> interval_cases k <;> simp only [Nat.reduceMul, Nat.reducePow] <;> omega
  have hlow : (truncatePacketNumber pn n >>> UInt64.ofNat (8 * 0)).toUInt8 =
    UInt8.ofNat pn.toNat := by
    rw [hoctet 0 hpos, Nat.mul_zero, Nat.pow_zero, Nat.div_one]
  interval_cases n <;> simp only [appendPacketNumber, numberOctets, hlow, hoctet, Nat.reduceLT] <;>
    rfl

lemma newGMShortSealer_of_protector (kp : KeyPhaseBit)
    (h : newQUICPacketProtectorFromKeys P keys = .ok ⟨some aead, some hp⟩) :
    newGMShortSealer P keys kp = .ok ⟨⟨aead, hp⟩, false, kp⟩ := by
  obtain ⟨k, hkeys, h⟩ := bind_ok.mp h
  obtain ⟨a, haead, h⟩ := bind_ok.mp h
  obtain ⟨_, hcipher, h⟩ := bind_ok.mp h
  cases h
  rw [wrapErr_eq_ok] at hcipher
  rw [need_ok] at hkeys
  simp only [newGMShortSealer, newGMKeyMaterial, hkeys, need_some, ok_bind, haead, hcipher, wrapErr,
    pure_ok]

lemma encryptPacket_ok {s : GMShortSealer} {pn : Int64} (hmax : pnBytes.length ≤ 4)
    (hshort : s.isLong = false)
    (hct : ct = s.km.aead.seal P pn.toUInt64.toNat payload (firstByte :: (connID ++ pnBytes))) :
    s.encryptPacket P (firstByte :: (connID ++ pnBytes)) payload pn pnBytes.length = .ok packet ↔
      20 ≤ pnBytes.length + ct.length ∧
        packet = protect P s.km.hp false firstByte connID pnBytes ct := by
  have hraw : s.sealPacket P (firstByte :: (connID ++ pnBytes)) payload pn
      (firstByte :: (connID ++ pnBytes)) = layout firstByte connID pnBytes ct := by
    rw [GMShortSealer.sealPacket, ← hct, layout, List.cons_append, List.append_assoc]
  have hoffset : (firstByte :: (connID ++ pnBytes)).length =
    1 + connID.length + pnBytes.length := by
    simp only [List.length_cons, List.length_append]
    omega
  have hstart : 1 + connID.length + pnBytes.length - pnBytes.length = 1 + connID.length := by omega
  have htake : ((layout firstByte connID pnBytes ct).take (1 + connID.length)).drop 1 = connID := by
    rw [layout, Nat.add_comm, List.take_succ_cons, List.drop_succ_cons, List.drop_zero,
      List.take_left]
  have hsample : ((layout firstByte connID pnBytes ct).drop (1 + connID.length + 4)).take 16 =
    sampleOf pnBytes ct :=
    layout_sample hmax
  simp only [GMShortSealer.encryptPacket, hraw, hoffset, hstart, htake, hsample, layout_field,
    layout_drop, GMShortSealer.encryptHeader, hshort, bind_ok, reject_ok, layout_length, pure_inj]
  constructor
  · rintro ⟨_, hroom, rfl⟩
    exact ⟨by omega, rfl⟩
  · rintro ⟨hroom, rfl⟩
    exact ⟨(), by omega, rfl⟩

/-- Equal packets have equal samples, and so equal masks. -/
lemma protect_injective
    (h : protect P hp false firstByte connID pnBytes ct =
      protect P hp false firstByte' connID pnBytes ct') : firstByte = firstByte' := by
  simp only [protect, layout, List.cons.injEq, List.append_cancel_left_eq] at h
  obtain ⟨hfirst, htail⟩ := h
  obtain ⟨-, rfl⟩ := List.append_inj htail
    (by rw [applyGMHeaderMask_length, applyGMHeaderMask_length])
  exact (UInt8.xor_left_inj _).mp hfirst

lemma shortFirstByte_eq_iff (keyPhase : Bool) (hpos : 1 ≤ n) (hmax : n ≤ 4) :
    shortFirstByte n keyPhase = shortTypeByte n (phaseBit keyPhase) ↔ keyPhase = false := by
  interval_cases n <;> cases keyPhase <;> decide

lemma packShortHeaderPacket_iff
    (hseal : seal1RTTPacket P keys dcid pn pnLen keyPhase payload = .ok packet) :
    packShortHeaderPacket P keys dcid pn.toInt64 pnLen (phaseBit keyPhase) payload = .ok packet ↔
      keyPhase = false := by
  obtain ⟨-, aead, hp, pnBytes, ct, s⟩ := seal1RTTPacket_ok hseal
  have hcount : pnBytes.length = pnLen := by rw [s.number, numberOctets_length]
  have hheader : appendShortHeader [] dcid pn.toInt64 pnLen (phaseBit keyPhase) =
      .ok (shortTypeByte pnLen (phaseBit keyPhase) :: (dcid ++ pnBytes)) := by
    rw [appendShortHeader, appendPacketNumber_eq _ _ s.positive s.atMostFour, s.number]
    rfl
  have hpack : packShortHeaderPacket P keys dcid pn.toInt64 pnLen (phaseBit keyPhase) payload =
      GMShortSealer.encryptPacket P ⟨⟨aead, hp⟩, false, phaseBit keyPhase⟩
        (shortTypeByte pnLen (phaseBit keyPhase) :: (dcid ++ pnBytes)) payload pn.toInt64
          pnBytes.length := by
    rw [packShortHeaderPacket, newGMShortSealer_of_protector _ s.protector, hheader, hcount]
    rfl
  rw [hpack, encryptPacket_ok (by rw [hcount]; exact s.atMostFour) rfl rfl,
    ← shortFirstByte_eq_iff keyPhase s.positive s.atMostFour]
  constructor
  · rintro ⟨-, h⟩
    exact protect_injective (s.sealed.symm.trans h)
  · intro h
    have hct : aead.seal P pn.toInt64.toUInt64.toNat payload
        (shortTypeByte pnLen (phaseBit keyPhase) :: (dcid ++ pnBytes)) = ct := by
          rw [← h, s.ciphertext]; rfl
    rw [hct, ← h, hcount]
    exact ⟨s.room, s.sealed⟩

/-- With the mask off, the header parses to the key phase that was sealed. -/
def ReportsPhase (P : Prims) (keys : Option QUICPacketKeys) (dcid packet : Bytes)
    (keyPhase : Bool) : Prop :=
  ∃ protector truncatedPN buffer header, newQUICPacketProtectorFromKeys P keys = .ok protector ∧
    protector.removeHeaderProtection P packet (1 + dcid.length) false = .ok (truncatedPN, buffer) ∧
    parseShortHeader buffer dcid.length = .ok header ∧ header.kp = phaseBit keyPhase ∧
      header.err = none

lemma readPacketNumber_total (data : Bytes) (hpos : 1 ≤ n) (hmax : n ≤ 4) :
    ∃ pn, readPacketNumber data n = .ok pn := by
  interval_cases n <;> exact ⟨_, rfl⟩

/-- The standalone header always parses to phase zero; its phase is taken for a reserved bit. -/
lemma parseShortHeader_standalone (dcid tail : Bytes) (keyPhase : Bool) (hpos : 1 ≤ pnBytes.length)
    (hmax : pnBytes.length ≤ 4) :
    ∃ pn, parseShortHeader (layout (shortFirstByte pnBytes.length keyPhase) dcid pnBytes tail)
      dcid.length = .ok ⟨1 + dcid.length + pnBytes.length, pn, pnBytes.length, .zero,
        if keyPhase then some errInvalidReservedBits else none⟩ := by
  obtain ⟨pn, hpn⟩ := readPacketNumber_total
    ((layout (shortFirstByte pnBytes.length keyPhase) dcid pnBytes tail).drop (1 + dcid.length))
      hpos hmax
  have hlength : (layout (shortFirstByte pnBytes.length keyPhase) dcid pnBytes tail).length = _ :=
    layout_length
  have hhead : (layout (shortFirstByte pnBytes.length keyPhase) dcid pnBytes tail).getD 0 0 =
    shortFirstByte pnBytes.length keyPhase := rfl
  have hwidth := shortFirstByte_length keyPhase hpos hmax
  generalize layout (shortFirstByte pnBytes.length keyPhase) dcid pnBytes tail =
    data at hpn hlength hhead ⊢
  generalize pnBytes.length = n at *
  have hshort : ¬ 0 < shortFirstByte n keyPhase &&& 0x80 := by
    rw [shortFirstByte_short keyPhase hpos hmax]; decide
  have hquic : ¬ shortFirstByte n keyPhase &&& 0x40 = 0 := by
    interval_cases n <;> cases keyPhase <;> decide
  have hphase : ¬ 0 < shortFirstByte n keyPhase &&& 0b100 := by
    interval_cases n <;> cases keyPhase <;> decide
  have hreserved : shortFirstByte n keyPhase &&& 0x18 ≠ 0 ↔ keyPhase = true := by
    interval_cases n <;> cases keyPhase <;> decide
  refine ⟨pn, ?_⟩
  simp only [parseShortHeader, hhead, hwidth, reject_neg hshort, reject_neg hquic, hpn, ok_bind,
    if_neg hphase, hreserved]
  rw [reject_bind (by omega), reject_neg (by omega)]
  rfl

lemma reportsPhase_iff (hseal : seal1RTTPacket P keys dcid pn pnLen keyPhase payload = .ok packet) :
    ReportsPhase P keys dcid packet keyPhase ↔ keyPhase = false := by
  obtain ⟨-, aead, hp, pnBytes, ct, s⟩ := seal1RTTPacket_ok hseal
  have hcount : pnBytes.length = pnLen := by rw [s.number, numberOctets_length]
  have hremove : QUICPacketProtector.removeHeaderProtection P ⟨some aead, some hp⟩ packet
    (1 + dcid.length) false = _ :=
    s.sealed ▸ removeHeaderProtection_protect rfl
      (by rw [hcount]; exact shortFirstByte_length keyPhase s.positive s.atMostFour)
      (by rw [hcount]; exact s.atMostFour) (by rw [hcount]; exact s.room)
  have hpos := s.positive
  have hmax := s.atMostFour
  rw [← hcount] at hpos hmax
  obtain ⟨number, hparse⟩ := parseShortHeader_standalone dcid ct keyPhase hpos hmax
  rw [hcount] at hparse
  constructor
  · rintro ⟨protector, _, buffer, header, hprotector, hbuffer, hheader, -, herr⟩
    cases s.protector.symm.trans hprotector
    cases hremove.symm.trans hbuffer
    cases hparse.symm.trans hheader
    cases keyPhase with
    | false => rfl
    | true => cases herr
  · rintro rfl
    exact ⟨_, _, _, _, s.protector, hremove, hparse, rfl, rfl⟩

/-- The two paths to a 1-RTT packet give the same octets, and the packet tells its key phase, in
phase zero only. -/
theorem paths_agree_iff {keys : Option QUICPacketKeys} {dcid : Bytes} {pn : UInt64} {pnLen : Nat}
    {keyPhase : Bool} {payload packet : Bytes}
    (hseal : seal1RTTPacket P keys dcid pn pnLen keyPhase payload = .ok packet) :
    (packShortHeaderPacket P keys dcid pn.toInt64 pnLen (phaseBit keyPhase) payload = .ok packet ↔
      keyPhase = false) ∧ (ReportsPhase P keys dcid packet keyPhase ↔ keyPhase = false) :=
  ⟨packShortHeaderPacket_iff hseal, reportsPhase_iff hseal⟩

end

def toyPacket (keyPhase : Bool) : Bytes :=
  (seal1RTTPacket toyPrims (some toyKeys) [1, 2] 7 2 keyPhase [9, 9, 9]).toOption.getD []

theorem paths_agree_iff_zero :
    (packShortHeaderPacket toyPrims (some toyKeys) [1, 2] (UInt64.toInt64 7) 2 (phaseBit false)
    [9, 9, 9] =
        .ok (toyPacket false)) ∧
          ReportsPhase toyPrims (some toyKeys) [1, 2] (toyPacket false) false := by
  have hseal : seal1RTTPacket toyPrims (some toyKeys) [1, 2] 7 2 false [9, 9, 9] =
    .ok (toyPacket false) := by
    decide +kernel
  exact ⟨(paths_agree_iff hseal).1.mpr rfl, (paths_agree_iff hseal).2.mpr rfl⟩

/-- In phase one the octets differ, and the header parses to phase zero with a reserved bit set. -/
theorem phase_one_differs :
    seal1RTTPacket toyPrims (some toyKeys) [1, 2] 7 2 true [9, 9, 9] = .ok (toyPacket true) ∧
      packShortHeaderPacket toyPrims (some toyKeys) [1, 2] (UInt64.toInt64 7) 2 (phaseBit true)
        [9, 9, 9] ≠ .ok (toyPacket true) ∧
      ((newQUICPacketProtectorFromKeys toyPrims (some toyKeys) >>= fun p =>
          p.removeHeaderProtection toyPrims (toyPacket true) 3 false) >>= fun r =>
            parseShortHeader r.2 2) =
        .ok ⟨5, 7, 2, .zero, some errInvalidReservedBits⟩ := by
  refine ⟨?_, ?_, ?_⟩ <;> decide +kernel

end Pollux.Tls
