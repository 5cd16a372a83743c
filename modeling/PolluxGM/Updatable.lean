import Mathlib.Algebra.Ring.Nat
import PolluxGM.Ticket

/-!
# Packet protection and the 1-RTT AEAD with key update

Embedding of the key material in `gm_sealer.go` and of `gm_updatable.go`. A nil pointer is `none`;
using one, and a failure in a method without an error result, is the outcome `panic`.
-/
namespace Pollux.Tls

structure KeyMaterial where
  aead : AEAD
  hp : Bytes
  deriving DecidableEq

section

variable (P : Prims)

def newGMKeyMaterial (keys : Option QUICPacketKeys) : Except Err KeyMaterial := do
  let keys ← need (.text "handshake: nil GM QUIC packet keys") keys
  let aead ← wrapErr "handshake: GM AEAD init" (newAEAD P keys.aeadKey keys.aeadIV)
  wrapErr "handshake: GM header-protection cipher init" (P.newCipher keys.headerKey)
  return ⟨aead, keys.headerKey⟩

/-- A packet number has at most four octets, so the mask covers it. -/
def applyGMHeaderMask (hp : Bytes) (isLongHeader : Bool) (sample : Bytes) (firstByte : UInt8)
    (pnBytes : Bytes) : UInt8 × Bytes :=
  let mask := P.sm4Encrypt hp sample
  (firstByte ^^^ (mask.getD 0 0 &&& if isLongHeader then 0x0f else 0x1f),
    pnBytes.mapIdx fun i b => b ^^^ mask.getD (1 + i) 0)

end

def seqNum (pn : Int) : Nat := (pn % 18446744073709551616).toNat

inductive KeyPhaseBit where
  | undefined
  | zero
  | one
  deriving DecidableEq

def invalidPacketNumber : Int := -1
def gmFirstKeyUpdateInterval : Nat := 100
/-- Three times the assumed probe timeout of one second, in nanoseconds. -/
def keyDropDelay : Int := 3000000000
def gmAEADInvalidPacketLimit : Nat := 2 ^ 36

inductive AEADError where
  | keysDropped
  | decryptionFailed
  | aeadLimitReached
  | keysUpdatedTooQuickly
  | peerDidNotUpdate (keyPhase : KeyPhaseBit)
  | derivation (e : Err)
  | panic
  deriving DecidableEq

structure UpdatableAEAD where
  sendKM : Option KeyMaterial
  rcvKM : Option KeyMaterial
  prevRcvKM : Option KeyMaterial := none
  prevRcvKMExpiry : Int := 0
  nextSendSecret : Bytes
  nextRcvSecret : Bytes
  keyPhase : KeyPhaseBit := .zero
  largestAcked : Int := invalidPacketNumber
  firstSent : Int := invalidPacketNumber
  firstRcvd : Int := invalidPacketNumber
  highestRcvdPN : Int := invalidPacketNumber
  numSent : Nat := 0
  numRcvd : Nat := 0
  invalidPacketCount : Nat := 0
  invalidPacketLimit : Nat := gmAEADInvalidPacketLimit
  handshakeConfirmed : Bool := false
  deriving DecidableEq

section

variable (P : Prims)

def newGMUpdatableAEAD (sendKeys rcvKeys : Option QUICPacketKeys) (sendSecret rcvSecret : Bytes) :
    Except Err UpdatableAEAD := do
  let sendKM ← newGMKeyMaterial P sendKeys
  let rcvKM ← newGMKeyMaterial P rcvKeys
  let nextSend ← quicKeyUpdate P sendSecret
  let nextRcv ← quicKeyUpdate P rcvSecret
  return { sendKM := some sendKM, rcvKM := some rcvKM
           nextSendSecret := nextSend, nextRcvSecret := nextRcv }

def KeyPhaseBit.toggle : KeyPhaseBit → KeyPhaseBit
  | .zero => .one
  | _ => .zero

variable (u : UpdatableAEAD) (src : Bytes)

/-- A failing constructor has already overwritten its field with nil. -/
def rollKeys : Except Err Unit × UpdatableAEAD :=
  let u := { u with prevRcvKM := u.rcvKM }
  match deriveQUICPacketKeys P u.nextSendSecret with
  | .error e => (.error e, u)
  | .ok nextSendKeys =>
  match deriveQUICPacketKeys P u.nextRcvSecret with
  | .error e => (.error e, u)
  | .ok nextRcvKeys =>
  match newGMKeyMaterial P (some nextSendKeys) with
  | .error e => (.error e, { u with sendKM := none })
  | .ok sendKM =>
  let u := { u with sendKM := some sendKM }
  match newGMKeyMaterial P (some nextRcvKeys) with
  | .error e => (.error e, { u with rcvKM := none })
  | .ok rcvKM =>
  let u := { u with rcvKM := some rcvKM }
  match quicKeyUpdate P u.nextSendSecret with
  | .error e => (.error e, u)
  | .ok newSendSecret =>
  match quicKeyUpdate P u.nextRcvSecret with
  | .error e => (.error e, u)
  | .ok newRcvSecret =>
  (.ok (), { u with
    nextSendSecret := newSendSecret
    nextRcvSecret := newRcvSecret
    keyPhase := u.keyPhase.toggle
    firstSent := invalidPacketNumber
    firstRcvd := invalidPacketNumber
    numSent := 0
    numRcvd := 0 })

def updateAllowed : Bool :=
  u.handshakeConfirmed && (u.keyPhase == .zero || (u.firstSent != invalidPacketNumber &&
    u.largestAcked != invalidPacketNumber && u.firstSent ≤ u.largestAcked))

/-- `interval` is the `keyUpdateInterval` at the time of the call. -/
def shouldInitiateKeyUpdate (interval : Nat) : Bool :=
  updateAllowed u && ((u.keyPhase == .zero &&
      (gmFirstKeyUpdateInterval ≤ u.numRcvd || gmFirstKeyUpdateInterval ≤ u.numSent)) ||
    interval ≤ u.numRcvd || interval ≤ u.numSent)

def sealPacket (pn : Int) (ad : Bytes) : Except AEADError Bytes × UpdatableAEAD :=
  match u.sendKM with
  | none => (.error .panic, u)
  | some km => (.ok (km.aead.seal P (seqNum pn) src ad), { u with
      numSent := u.numSent + 1
      firstSent := if u.firstSent = invalidPacketNumber then pn else u.firstSent })

def encryptHeader (sample : Bytes) (firstByte : UInt8) (pnBytes : Bytes) :
    Except AEADError (UInt8 × Bytes) := do
  let km ← need .panic u.sendKM
  return applyGMHeaderMask P km.hp false sample firstByte pnBytes

def decryptHeader (sample : Bytes) (firstByte : UInt8) (pnBytes : Bytes) :
    Except AEADError (UInt8 × Bytes) := do
  let km ← need .panic u.rcvKM
  return applyGMHeaderMask P km.hp false sample firstByte pnBytes

def keyPhase (u : UpdatableAEAD) (interval : Nat) : Except AEADError KeyPhaseBit × UpdatableAEAD :=
  if shouldInitiateKeyUpdate u interval then
    match rollKeys P u with
    | (.error _, u) => (.error .panic, u)
    | (.ok (), u) => (.ok u.keyPhase, u)
  else (.ok u.keyPhase, u)

def startKeyDropTimer (now : Int) : UpdatableAEAD :=
  { u with prevRcvKMExpiry := now + keyDropDelay }

def nextRcvKeyMaterial : Except Err KeyMaterial := do
  let keys ← deriveQUICPacketKeys P u.nextRcvSecret
  newGMKeyMaterial P (some keys)

def decryptionFailed {α : Type} (u : UpdatableAEAD) : Except AEADError α × UpdatableAEAD :=
  let u := { u with invalidPacketCount := u.invalidPacketCount + 1 }
  if u.invalidPacketLimit ≤ u.invalidPacketCount then (.error .aeadLimitReached, u)
  else (.error .decryptionFailed, u)

/-- Previous keys past their deadline are dropped before anything else. -/
def dropExpiredKeys (rcvTime : Int) : UpdatableAEAD :=
  if u.prevRcvKM.isSome ∧ u.prevRcvKMExpiry ≠ 0 ∧ u.prevRcvKMExpiry < rcvTime then
    { u with prevRcvKM := none, prevRcvKMExpiry := 0 }
  else u

def noteHighest (pn : Int) : UpdatableAEAD :=
  { u with highestRcvdPN := if u.highestRcvdPN < pn then pn else u.highestRcvdPN }

/-- A packet of the phase we are not on, taken as late. -/
def openLate (pn : Int) (ad : Bytes) : Except AEADError Bytes × UpdatableAEAD :=
  match u.prevRcvKM with
  | none => (.error .keysDropped, u)
  | some km =>
    match km.aead.openWith P (seqNum pn) src ad with
    | .error _ => decryptionFailed u
    | .ok pt => (.ok pt, u)

/-- A packet of the other phase must open under the next keys before the phase moves. -/
def openUpdate (rcvTime pn : Int) (ad : Bytes) : Except AEADError Bytes × UpdatableAEAD :=
  match nextRcvKeyMaterial P u with
  | .error e => (.error (.derivation e), u)
  | .ok nextKM =>
    match nextKM.aead.openWith P (seqNum pn) src ad with
    | .error _ => decryptionFailed u
    | .ok pt =>
      if u.keyPhase ≠ .zero ∧ u.firstSent = invalidPacketNumber then
        (.error .keysUpdatedTooQuickly, u)
      else match rollKeys P u with
        | (.error e, u) => (.error (.derivation e), u)
        | (.ok (), u) =>
          (.ok pt, startKeyDropTimer (noteHighest { u with firstRcvd := pn } pn) rcvTime)

/-- The previous keys are tried when the current ones fail. -/
def openCurrent (rcvTime pn : Int) (ad : Bytes) : Except AEADError Bytes × UpdatableAEAD :=
  match u.rcvKM with
  | none => (.error .panic, u)
  | some km =>
    let opened := match km.aead.openWith P (seqNum pn) src ad with
      | .ok pt => some pt
      | .error _ => u.prevRcvKM.bind fun prev => (prev.aead.openWith P (seqNum pn) src ad).toOption
    match opened with
    | none => decryptionFailed u
    | some pt =>
      let u := { u with numRcvd := u.numRcvd + 1 }
      let u := if u.firstRcvd = invalidPacketNumber then
          { if u.keyPhase ≠ .zero then startKeyDropTimer u rcvTime else u with firstRcvd := pn }
        else u
      (.ok pt, noteHighest u pn)

def openPacket (rcvTime pn : Int) (kp : KeyPhaseBit) (ad : Bytes) :
    Except AEADError Bytes × UpdatableAEAD :=
  let u := dropExpiredKeys u rcvTime
  if kp ≠ u.keyPhase then
    if u.keyPhase ≠ .zero ∧ (u.firstRcvd = invalidPacketNumber ∨ pn < u.firstRcvd) then
      openLate P u src pn ad
    else openUpdate P u src rcvTime pn ad
  else openCurrent P u src rcvTime pn ad

def setLargestAcked (pn : Int) : Except AEADError Unit × UpdatableAEAD :=
  if u.firstSent ≠ invalidPacketNumber ∧ u.firstSent ≤ pn ∧ u.numRcvd = 0 then
    (.error (.peerDidNotUpdate u.keyPhase), u)
  else (.ok (), { u with largestAcked := pn })

def setHandshakeConfirmed : UpdatableAEAD := { u with handshakeConfirmed := true }

end

end Pollux.Tls
