import PolluxGM.Command
import PolluxGM.Counter

/-!
# TLCP record protection

Embedded from the half-connection of `engine_conn.go` and the record ciphers of `engine_ciphers.go`.
SM4, SM4-GCM and HMAC-SM3 enter as functions. Padding is taken off with the bit operations of the
source.
-/
namespace Pollux.Tlcp

/-- `eof` and `unexpectedEOF` are those of `io`, `net` any other error of the transport. -/
inductive Err where
  | eof
  | unexpectedEOF
  | net (text : String)
  | alert (level desc : UInt8)
  | text (message : String)
  | wrap (context : String) (cause : Err)
  deriving DecidableEq

def Err.asAlert : Err → Option (UInt8 × UInt8)
  | .alert level desc => some (level, desc)
  | .wrap _ cause => cause.asAlert
  | _ => none

def hex4 (n : Nat) : String :=
  let digits := Nat.toDigits 16 n
  String.ofList (List.replicate (4 - digits.length) '0' ++ digits)

structure RecordPrims where
  hmacSM3 : (key data : Bytes) → Bytes
  gcmSeal : (key nonce plaintext additionalData : Bytes) → Bytes
  gcmOpen : (key nonce ciphertext additionalData : Bytes) → Option Bytes
  cbcEncrypt : (key iv data : Bytes) → Bytes
  cbcDecrypt : (key iv data : Bytes) → Bytes

def recordHeaderLen : Nat := 5
def maxPlaintext : Nat := 16384
def aeadNonceLength : Nat := 12
def noncePrefixLength : Nat := 4
def gcmOverhead : Nat := 16
def blockSize : Nat := 16
def macSize : Nat := 32

inductive RecordType where
  | changeCipherSpec
  | alert
  | handshake
  | applicationData
  deriving DecidableEq

def RecordType.code : RecordType → UInt8
  | .changeCipherSpec => 20
  | .alert => 21
  | .handshake => 22
  | .applicationData => 23

def RecordType.ofCode (b : UInt8) : Option RecordType :=
  if b = 20 then some .changeCipherSpec
  else if b = 21 then some .alert
  else if b = 22 then some .handshake
  else if b = 23 then some .applicationData
  else none

lemma RecordType.ofCode_some {b : UInt8} {t : RecordType} (h : RecordType.ofCode b = some t) :
    t.code = b := by
  unfold RecordType.ofCode at h
  repeat' split at h
  all_goals cases h
  all_goals exact Eq.symm ‹_›

/-- A cipher and, for CBC, its MAC; the source has nilable fields for them. -/
inductive CipherSpec where
  | aead (key implicitPrefix : Bytes)
  | cbc (cbcKey macKeyBytes : Bytes)
  deriving DecidableEq

/-- Without a current spec the direction is in its plaintext phase. -/
structure HalfConn where
  version : UInt16
  current : Option CipherSpec
  next : Option CipherSpec
  seq : Counter 8
  deriving DecidableEq

def HalfConn.fresh : HalfConn := ⟨0, none, none, Counter.zero 8⟩

def HalfConn.prepareCipherSpec (version : UInt16) (spec : CipherSpec) (hc : HalfConn) : HalfConn :=
  { hc with version := version, next := some spec }

def HalfConn.changeCipherSpec : Cmd Err HalfConn Unit := fun hc =>
  match hc.next with
  | none => (.error (.text "tlcp: changeCipherSpec without prepareCipherSpec"), hc)
  | some spec => (.ok (), { hc with current := some spec, next := none, seq := Counter.zero 8 })

/-- The sequence number is advanced also when that overflows it. -/
def HalfConn.incSeq : Cmd Err HalfConn Unit := fun hc =>
  (if hc.seq.next.2 then .error
    (.text "tlcp: sequence number overflow, connection must be terminated") else .ok (),
    { hc with seq := hc.seq.next.1 })

variable (P : RecordPrims)

def withLength (header : Bytes) (n : Nat) : Bytes := header.take 3 ++ be16 n

def aeadAdditionalData (seq header : Bytes) (plaintextLen : Nat) : Bytes :=
  seq ++ withLength header plaintextLen

/-- `tlcpRecordMAC`. The extra data is hashed after the digest is taken. -/
def recordMAC (macKey seq header payload : Bytes) : Bytes :=
  P.hmacSM3 macKey (seq ++ header ++ payload)

def roundUpToBlock (a b : Nat) : Nat := a + (b - a % b) % b

/-- `newTLCPCBCEncrypter` and `newTLCPCBCDecrypter` refuse the same lengths. -/
def newCBC (key iv : Bytes) : Except Err Unit := do
  reject (key.length ≠ 16) (.text s!"tlcp: SM4 key length {key.length}, want 16")
  reject (iv.length ≠ 16) (.text s!"tlcp: SM4-CBC IV length {iv.length}, want 16")

def newAEADSM4GCM (key implicitNonce : Bytes) : Except Err CipherSpec := do
  reject (implicitNonce.length ≠ noncePrefixLength)
    (.text s!"tlcp: implicit nonce length {implicitNonce.length}, want {noncePrefixLength}")
  reject (key.length ≠ 16) (.text s!"tlcp: SM4 key length {key.length}, want 16")
  return .aead key implicitNonce

/-- `byte(int32(t) >> 31)`: all ones when bit 31 is set. -/
def signByte (t : BitVec 64) : UInt8 := UInt8.ofBitVec (((t.setWidth 32).sshiftRight 31).setWidth 8)

def paddingStep (plaintext : Bytes) (paddingLen good : UInt8) (i : Nat) : UInt8 :=
  let t := BitVec.ofNat 64 paddingLen.toNat - BitVec.ofNat 64 i
  let mask := signByte (~~~t)
  let b := plaintext.getD (plaintext.length - 1 - i) 0
  good &&& ~~~((mask &&& paddingLen) ^^^ (mask &&& b))

/-- One if every bit was one, spread over the octet. -/
def replicateGood (good : UInt8) : UInt8 :=
  let good := good &&& (good <<< 4)
  let good := good &&& (good <<< 2)
  let good := good &&& (good <<< 1)
  UInt8.ofBitVec (good.toBitVec.sshiftRight 7)

/-- The octets to remove, and 255 if the padding is valid. -/
def extractPadding (plaintext : Bytes) : Nat × UInt8 :=
  match plaintext.getLast? with
  | none => (0, 0)
  | some paddingLen =>
    let t := BitVec.ofNat 64 (plaintext.length - 1) - BitVec.ofNat 64 paddingLen.toNat
    let checked := (List.range (min 256 plaintext.length)).foldl (paddingStep plaintext paddingLen)
      (signByte (~~~t))
    let good := replicateGood checked
    ((paddingLen &&& good).toNat + 1, good)

/-- The record that goes on the wire. `iv` is drawn for CBC only. -/
def CipherSpec.seal (spec : CipherSpec) (seq iv record payload : Bytes) : Except Err Bytes :=
  match spec with
  | .aead key implicitPrefix =>
    let ct := P.gcmSeal key (implicitPrefix ++ seq) payload
      (aeadAdditionalData seq record payload.length)
    .ok (withLength record (seq.length + ct.length) ++ seq ++ ct)
  | .cbc key macKey => do
    let mac := recordMAC P macKey seq (record.take recordHeaderLen) payload
    let paddingLen := blockSize - (payload.length + mac.length) % blockSize
    let padded := payload ++ mac ++ List.replicate paddingLen (UInt8.ofNat (paddingLen - 1))
    newCBC key iv
    let ciphertext := P.cbcEncrypt key iv padded
    return withLength record (iv.length + ciphertext.length) ++ iv ++ ciphertext

def errDecrypt : Err := .text "tlcp: bad record MAC"

def openAEAD (key implicitPrefix seq record : Bytes) : Except Err Bytes := do
  let payload := record.drop recordHeaderLen
  let enl := aeadNonceLength - noncePrefixLength
  reject (payload.length < enl + 1) (.text "tlcp: AEAD record too short")
  let explicitNonce := payload.take enl
  let ct := payload.drop enl
  reject (ct.length < gcmOverhead) (.text "tlcp: AEAD record shorter than tag")
  let aad := aeadAdditionalData seq record (ct.length - gcmOverhead)
  need (.text "tlcp: bad record MAC (AEAD authentication failed)")
    (P.gcmOpen key (implicitPrefix ++ explicitNonce) ct aad)

/-- `subtle.ConstantTimeSelect(int(uint32(n)>>31), 0, n)`: bit 31 is the sign. -/
def clampNegative (n : Int) : Int := if (BitVec.ofInt 32 n).msb = true then 0 else n

/-- Where the payload ends in a decrypted CBC record; zero when the padding claims too much. -/
def payloadEnd (size : Nat) (plain : Bytes) : Int :=
  clampNegative (plain.length - size - (extractPadding plain).1)

def payloadLength (plain : Bytes) : Nat := (payloadEnd macSize plain).toNat

def openCBC (key macKey seq record : Bytes) : Except Err Bytes := do
  let payload := record.drop recordHeaderLen
  let minPayload := blockSize + roundUpToBlock (macSize + 1) blockSize
  reject (payload.length % blockSize ≠ 0 ∨ payload.length < minPayload) errDecrypt
  let iv := payload.take blockSize
  reject (key.length ≠ 16) errDecrypt
  let plain := P.cbcDecrypt key iv (payload.drop blockSize)
  let n := payloadLength plain
  let remoteMAC := (plain.drop n).take macSize
  let localMAC := recordMAC P macKey seq (withLength record n) (plain.take n)
  reject (¬ (localMAC = remoteMAC ∧ (extractPadding plain).2 &&& 1 = 1)) errDecrypt
  return plain.take n

def CipherSpec.open (spec : CipherSpec) (seq record : Bytes) : Except Err Bytes :=
  match spec with
  | .aead key implicitPrefix => openAEAD P key implicitPrefix seq record
  | .cbc key macKey => openCBC P key macKey seq record

/-- `io.ReadFull` on the random source. -/
def drawRand (n : Nat) : Cmd Err Bytes Bytes := fun rand =>
  if n ≤ rand.length then (.ok (rand.take n), rand.drop n)
  else (.error (if rand = [] then .eof else .unexpectedEOF), [])

def CipherSpec.drawIV : CipherSpec → Cmd Err Bytes Bytes
  | .aead _ _ => pure []
  | .cbc _ _ => drawRand blockSize

/-- The state is the half-connection with the random source beside it. -/
def HalfConn.encrypt (record payload : Bytes) : Cmd Err (HalfConn × Bytes) Bytes := do
  let hc ← Cmd.ask Prod.fst
  match hc.current with
  | none => return record ++ payload
  | some spec =>
    let iv ← Cmd.on Prod.snd (fun rand s => (s.1, rand)) spec.drawIV
    let full ← Cmd.lift (spec.seal P hc.seq.bytes iv record payload)
    Cmd.on Prod.fst (fun hc s => (hc, s.2)) HalfConn.incSeq
    return full

def HalfConn.decrypt (record : Bytes) : Cmd Err HalfConn (Bytes × UInt8) := do
  Cmd.refuse (record.length < recordHeaderLen) (.text "tlcp: record too short")
  let hc ← Cmd.ask id
  match hc.current with
  | none => return (record.drop recordHeaderLen, record.headD 0)
  | some spec =>
    let plaintext ← Cmd.lift (spec.open P hc.seq.bytes record)
    HalfConn.incSeq
    return (plaintext, record.headD 0)

@[simp] lemma changeCipherSpec_eq_ok {hc hc' : HalfConn} {u : Unit} :
    HalfConn.changeCipherSpec hc = (.ok u, hc') ↔
      ∃ spec, hc.next = some spec ∧
        { hc with current := some spec, next := none, seq := Counter.zero 8 } = hc' := by
  unfold HalfConn.changeCipherSpec
  cases hc.next <;> simp

lemma changeCipherSpec_none {hc : HalfConn} (h : hc.next = none) :
    HalfConn.changeCipherSpec hc =
      (.error (.text "tlcp: changeCipherSpec without prepareCipherSpec"), hc) := by
  simp [HalfConn.changeCipherSpec, h]

lemma incSeq_next {hc : HalfConn} (h : hc.seq.next.2 = false) :
    HalfConn.incSeq hc = (.ok (), { hc with seq := hc.seq.next.1 }) := by
  simp [HalfConn.incSeq, h]

lemma incSeq_last {hc : HalfConn} (h : hc.seq.next.2 = true) :
    HalfConn.incSeq hc =
      (.error (.text "tlcp: sequence number overflow, connection must be terminated"),
      { hc with seq := hc.seq.next.1 }) := by
  simp [HalfConn.incSeq, h]

lemma open_error {P : RecordPrims} {spec : CipherSpec} {seq record : Bytes} {e : Err}
    (h : spec.open P seq record = .error e) : ∃ message, e = .text message := by
  cases spec with
  | aead key implicitPrefix =>
    simp only [CipherSpec.open, openAEAD, bind_error, reject_error] at h
    rcases h with ⟨_, rfl⟩ | ⟨_, _, ⟨_, rfl⟩ | ⟨_, _, h⟩⟩
    · exact ⟨_, rfl⟩
    · exact ⟨_, rfl⟩
    · unfold need at h
      split at h
      · cases h
      · cases h
        exact ⟨_, rfl⟩
  | cbc key macKey =>
    simp only [CipherSpec.open, openCBC, errDecrypt, bind_error, reject_error, pure_ok] at h
    rcases h with ⟨_, rfl⟩ | ⟨_, _, ⟨_, rfl⟩ | ⟨_, _, ⟨_, rfl⟩ | ⟨_, _, h⟩⟩⟩
    · exact ⟨_, rfl⟩
    · exact ⟨_, rfl⟩
    · exact ⟨_, rfl⟩
    · cases h

inductive Decrypted (P : RecordPrims) (record : Bytes) (hc : HalfConn) :
    Except Err (Bytes × UInt8) × HalfConn → Prop where
  | short (h : record.length < recordHeaderLen) :
    Decrypted P record hc (.error (.text "tlcp: record too short"), hc)
  | plain (h : hc.current = none) :
    Decrypted P record hc (.ok (record.drop recordHeaderLen, record.headD 0), hc)
  | refused {spec : CipherSpec} {message : String} (h : hc.current = some spec)
      (hopen : spec.open P hc.seq.bytes record = .error (.text message)) :
      Decrypted P record hc (.error (.text message), hc)
  | overflow {spec : CipherSpec} {plaintext : Bytes} (h : hc.current = some spec)
      (hopen : spec.open P hc.seq.bytes record = .ok plaintext) (hlast : hc.seq.next.2 = true) :
      Decrypted P record hc
        (.error (.text "tlcp: sequence number overflow, connection must be terminated"),
        { hc with seq := hc.seq.next.1 })
  | opened {spec : CipherSpec} {plaintext : Bytes} (h : hc.current = some spec)
      (hopen : spec.open P hc.seq.bytes record = .ok plaintext) (hlast : hc.seq.next.2 = false) :
      Decrypted P record hc (.ok (plaintext, record.headD 0), { hc with seq := hc.seq.next.1 })

lemma decrypt_spec (record : Bytes) (hc : HalfConn) :
    Decrypted P record hc (HalfConn.decrypt P record hc) := by
  unfold HalfConn.decrypt
  by_cases hshort : record.length < recordHeaderLen
  · rw [bind_of_error (refuse_pos hshort _ hc)]
    exact .short hshort
  rw [bind_of_ok (refuse_neg hshort _ hc), ask_bind, id]
  cases hcur : hc.current with
  | none => exact .plain hcur
  | some spec =>
    dsimp only
    cases hopen : spec.open P hc.seq.bytes record with
    | error e =>
      obtain ⟨message, rfl⟩ := open_error hopen
      rw [bind_of_error (lift_apply _ hc)]
      exact .refused hcur hopen
    | ok plaintext =>
      rw [lift_bind]
      cases hlast : hc.seq.next.2 with
      | true =>
        rw [bind_of_error (incSeq_last hlast)]
        exact .overflow hcur hopen hlast
      | false =>
        rw [bind_of_ok (incSeq_next hlast)]
        exact .opened hcur hopen hlast

/-- Only CBC can fail before it uses a sequence number: for want of randomness or by its key. -/
inductive Encrypted (P : RecordPrims) (record payload : Bytes) (hc : HalfConn) :
    Except Err Bytes × (HalfConn × Bytes) → Prop where
  | plain {rand : Bytes} (h : hc.current = none) :
    Encrypted P record payload hc (.ok (record ++ payload), hc, rand)
  | failed {key macKey rand : Bytes} {e : Err} (h : hc.current = some (.cbc key macKey)) :
      Encrypted P record payload hc (.error e, hc, rand)
  | overflow {spec : CipherSpec} {rand : Bytes} (h : hc.current = some spec)
    (hlast : hc.seq.next.2 = true) :
      Encrypted P record payload hc
        (.error (.text "tlcp: sequence number overflow, connection must be terminated"),
        { hc with seq := hc.seq.next.1 }, rand)
  | sealed {spec : CipherSpec} {iv full rand : Bytes} (h : hc.current = some spec)
      (hseal : spec.seal P hc.seq.bytes iv record payload = .ok full)
        (hlast : hc.seq.next.2 = false) :
      Encrypted P record payload hc (.ok full, { hc with seq := hc.seq.next.1 }, rand)

lemma encrypt_spec (record payload : Bytes) (s : HalfConn × Bytes) :
    Encrypted P record payload s.1 (HalfConn.encrypt P record payload s) := by
  obtain ⟨hc, rand⟩ := s
  rw [HalfConn.encrypt, ask_bind]
  dsimp only
  cases hcur : hc.current with
  | none => exact .plain hcur
  | some spec =>
    dsimp only
    generalize hdraw : spec.drawIV rand = r
    have hon : Cmd.on Prod.snd (fun rand s => (s.1, rand)) spec.drawIV (hc, rand) =
      (r.1, hc, r.2) := by
      rw [← hdraw]
      rfl
    obtain ⟨e | iv, rand'⟩ := r
    · rw [bind_of_error hon]
      cases spec with
      | aead key implicitPrefix => cases hdraw
      | cbc key macKey => exact .failed hcur
    rw [bind_of_ok hon]
    cases hseal : spec.seal P hc.seq.bytes iv record payload with
    | error e =>
      rw [bind_of_error (lift_apply _ _)]
      cases spec with
      | aead key implicitPrefix => cases hseal
      | cbc key macKey => exact .failed hcur
    | ok full =>
      rw [lift_bind]
      have hinc : Cmd.on Prod.fst (fun hc s => (hc, s.2)) HalfConn.incSeq (hc, rand') =
          ((HalfConn.incSeq hc).1, (HalfConn.incSeq hc).2, rand') := rfl
      cases hlast : hc.seq.next.2 with
      | true =>
        rw [incSeq_last hlast] at hinc
        rw [bind_of_error hinc]
        exact .overflow hcur hlast
      | false =>
        rw [incSeq_next hlast] at hinc
        rw [bind_of_ok hinc]
        exact .sealed hcur hseal hlast

def toyTag (n : Nat) (b : Bytes) : Bytes :=
  be32 (b.foldl (fun h x => h * 31 + x.toNat + 1) 7) ++ zeros (n - 4)

def toyRecordPrims : RecordPrims where
  hmacSM3 key data := toyTag 32 (key ++ data)
  gcmSeal key nonce plaintext additionalData :=
    plaintext ++ toyTag 16 (key ++ nonce ++ plaintext ++ additionalData)
  gcmOpen key nonce ciphertext additionalData :=
    let plaintext := ciphertext.take (ciphertext.length - 16)
    if ciphertext.drop (ciphertext.length - 16) =
      toyTag 16 (key ++ nonce ++ plaintext ++ additionalData) then
      some plaintext
    else none
  cbcEncrypt _ _ data := data
  cbcDecrypt _ _ data := data

def sampleSpec : CipherSpec := .aead (zeros 16) (zeros 4)

end Pollux.Tlcp
