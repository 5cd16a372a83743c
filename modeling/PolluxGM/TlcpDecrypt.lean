import PolluxGM.Access
import PolluxGM.TlcpTransport

/-!
# Decryption of TLCP records, access by access

`decrypt` of `engine_conn.go` once more, with the nilable fields of `tlcpHalfConn` and with every
index and slice expression as an access that can panic, also in states in which the fields do not go
together.
-/
namespace Pollux.TlcpDecrypt

open Access Tlcp TlcpStream

/-- `tlcpPrefixNonceAEAD`. The prefix is an array of four octets. -/
structure PrefixNonceAEAD where
  key : Bytes
  implicitPrefix : Bytes
  size : implicitPrefix.length = noncePrefixLength

/-- The fields that `decrypt` reads. `none` is nil; `mac` is the reported size. -/
structure TlcpHalfConn where
  cbcKey : Option Bytes
  aead : Option PrefixNonceAEAD
  mac : Option Nat
  macKeyBytes : Bytes
  seq : Counter 8

def TlcpHalfConn.incSeq : Cmd (Fault Err) TlcpHalfConn Unit := fun hc =>
  (if hc.seq.next.2 then .error
    (.err (.text "tlcp: sequence number overflow, connection must be terminated")) else .ok (),
    { hc with seq := hc.seq.next.1 })

def tlcpAEADAdditionalData (seq header : Bytes) (plaintextLen : Int) : Except (Fault Err) Bytes :=
  do
  let h ← slice header 0 recordHeaderLen
  return seq ++ withLength h plaintextLen.toNat

variable (P : RecordPrims) (f : PrefixNonceAEAD)

/-- `Open`. GCM panics on a nonce of another length than twelve. -/
def PrefixNonceAEAD.open (explicitNonce ciphertext additionalData : Bytes) :
    Except (Fault Err) Bytes := do
  reject (explicitNonce.length ≠ aeadNonceLength - noncePrefixLength)
    (.err (.text s!"tlcp: explicit nonce length {explicitNonce.length}, want {aeadNonceLength - noncePrefixLength}"))
  let nonce := f.implicitPrefix ++ explicitNonce
  reject (nonce.length ≠ aeadNonceLength)
    (.panicked "crypto/cipher: incorrect nonce length given to GCM")
  need (.err (.text "cipher: message authentication failed"))
    (P.gcmOpen f.key nonce ciphertext additionalData)

def decryptAEAD (seq record payload : Bytes) : Except (Fault Err) Bytes := do
  let enl := aeadNonceLength - noncePrefixLength
  reject (payload.length < enl + 1) (.err (.text "tlcp: AEAD record too short"))
  let explicitNonce ← slice payload 0 enl
  let ct ← slice payload enl payload.length
  let plaintextLen : Int := ct.length - gcmOverhead
  reject (plaintextLen < 0) (.err (.text "tlcp: AEAD record shorter than tag"))
  let aad ← tlcpAEADAdditionalData seq record plaintextLen
  failAs (.text "tlcp: bad record MAC (AEAD authentication failed)") (f.open P explicitNonce ct aad)

/-- One round of the padding loop on the octet it has read. -/
def paddingRound (paddingLen good : UInt8) (i : Nat) (b : UInt8) : UInt8 :=
  let t := BitVec.ofNat 64 paddingLen.toNat - BitVec.ofNat 64 i
  let mask := signByte (~~~t)
  good &&& ~~~((mask &&& paddingLen) ^^^ (mask &&& b))

def tlcpExtractPadding (plaintext : Bytes) : Except (Fault Err) (Nat × UInt8) :=
  if plaintext.length < 1 then .ok (0, 0)
  else do
    let paddingLen ← index plaintext (plaintext.length - 1)
    let t := BitVec.ofNat 64 (plaintext.length - 1) - BitVec.ofNat 64 paddingLen.toNat
    let checked ← (List.range (min 256 plaintext.length)).foldlM
      (fun good (i : Nat) => do
        let b ← index plaintext (plaintext.length - 1 - i)
        return paddingRound paddingLen good i b)
      (signByte (~~~t))
    let good := replicateGood checked
    return ((paddingLen &&& good).toNat + 1, good)

def cryptBlocks (key iv src : Bytes) : Except (Fault Err) Bytes := do
  reject (src.length % blockSize ≠ 0) (.panicked "crypto/cipher: input not full blocks")
  return P.cbcDecrypt key iv src

def decryptCBC (key : Bytes) (mac : Option Nat) (macKey seq record payload : Bytes) :
    Except (Fault Err) Bytes := do
  let size := mac.getD 0
  let minPayload := blockSize + roundUpToBlock (size + 1) blockSize
  reject (payload.length % blockSize ≠ 0 ∨ payload.length < minPayload) (.err errDecrypt)
  let iv ← slice payload 0 blockSize
  let ct ← slice payload blockSize payload.length
  failAs errDecrypt (returned (newCBC key iv))
  let plain ← cryptBlocks P key iv ct
  let (paddingLen, paddingGood) ← tlcpExtractPadding plain
  let n := clampNegative (plain.length - size - paddingLen)
  let macHeader ← slice record 0 recordHeaderLen
  let remoteMAC ← slice plain n (n + size)
  let covered ← slice plain 0 n
  -- the rest is only hashed for the time it takes
  let _ ← slice plain (n + size) plain.length
  let localMAC := recordMAC P macKey seq (withLength macHeader n.toNat) covered
  reject (¬ (localMAC = remoteMAC ∧ paddingGood &&& 1 = 1)) (.err errDecrypt)
  slice plain 0 n

def TlcpHalfConn.decrypt (record : Bytes) : Cmd (Fault Err) TlcpHalfConn (Bytes × UInt8) := do
  Cmd.refuse (record.length < recordHeaderLen) (.err (.text "tlcp: record too short"))
  let typ ← Cmd.lift (index record 0)
  let payload ← Cmd.lift (slice record recordHeaderLen record.length)
  let hc ← Cmd.ask id
  if hc.cbcKey = none ∧ hc.aead.isNone = true then return (payload, typ)
  else
    match hc.aead, hc.cbcKey with
    | some f, _ =>
      let plaintext ← Cmd.lift (decryptAEAD P f hc.seq.bytes record payload)
      TlcpHalfConn.incSeq
      return (plaintext, typ)
    | none, some key =>
      let plaintext ← Cmd.lift (decryptCBC P key hc.mac hc.macKeyBytes hc.seq.bytes record payload)
      TlcpHalfConn.incSeq
      return (plaintext, typ)
    -- not reached, this was the plaintext phase
    | none, none => Cmd.fail (.err (.text "tlcp: no cipher configured"))

lemma tlcpExtractPadding_eq (plaintext : Bytes) :
    tlcpExtractPadding plaintext = .ok (extractPadding plaintext) := by
  unfold tlcpExtractPadding
  split
  · rename_i hempty
    obtain rfl : plaintext = [] := List.length_eq_zero_iff.mp (by omega)
    rfl
  rename_i hpos
  have hread (i : Nat) (hi : i < plaintext.length) :
      (index plaintext (plaintext.length - 1 - i) : Except (Fault Err) UInt8) =
        .ok (fromEnd plaintext i) := by
    apply index_ok (by omega)
    have hnat : ((plaintext.length : Int) - 1 - i).toNat = plaintext.length - 1 - i := by omega
    rw [hnat, fromEnd, List.getD_eq_getElem?_getD, List.getElem?_eq_getElem (by omega),
      Option.getD_some]
  have hlast : plaintext.getLast? = some (fromEnd plaintext 0) := by
    rw [List.getLast?_eq_getElem?, fromEnd, List.getD_eq_getElem?_getD, Nat.sub_zero,
      List.getElem?_eq_getElem (by omega), Option.getD_some]
  have hloop (p : UInt8) (is : List Nat) (his : ∀ i ∈ is, i < plaintext.length) (good : UInt8) :
      is.foldlM (fun good (i : Nat) => do
        let b ← index plaintext (plaintext.length - 1 - i)
        return paddingRound p good i b) good =
        (.ok (is.foldl (paddingStep plaintext p) good) : Except (Fault Err) UInt8) := by
    induction is generalizing good with
    | nil => rfl
    | cons i is ih =>
      rw [List.foldlM_cons, hread i (his i List.mem_cons_self)]
      exact ih (fun j hj => his j (List.mem_cons_of_mem i hj)) _
  have hfirst := hread 0 (by omega)
  rw [Int.natCast_zero, Int.sub_zero] at hfirst
  rw [hfirst, ok_bind, extractPadding, hlast]
  dsimp only
  rw [hloop _ _ fun i hi => Nat.lt_of_lt_of_le (List.mem_range.mp hi) (Nat.min_le_right _ _)]
  rfl

lemma withLength_front (record : Bytes) (n : Nat) :
    withLength (record.take recordHeaderLen) n = withLength record n := by
  rw [withLength, List.take_take]
  rfl

lemma PrefixNonceAEAD.open_eq {explicitNonce : Bytes}
    (hnonce : explicitNonce.length = aeadNonceLength - noncePrefixLength) (ct aad : Bytes)
    (e : Err) : failAs e (f.open P explicitNonce ct aad) =
      returned (need e (P.gcmOpen f.key (f.implicitPrefix ++ explicitNonce) ct aad)) := by
  have hlen : (f.implicitPrefix ++ explicitNonce).length = aeadNonceLength := by
    rw [List.length_append, f.size, hnonce]
    rfl
  unfold PrefixNonceAEAD.open
  rw [reject_bind (not_not.mpr hnonce)]
  dsimp only
  rw [reject_bind (not_not.mpr hlen)]
  cases P.gcmOpen f.key (f.implicitPrefix ++ explicitNonce) ct aad <;> rfl

lemma decryptAEAD_eq (seq : Bytes) {record : Bytes} (hrecord : recordHeaderLen ≤ record.length) :
    decryptAEAD P f seq record (record.drop recordHeaderLen) =
      returned (openAEAD P f.key f.implicitPrefix seq record) := by
  unfold decryptAEAD openAEAD
  rw [returned_bind, returned_reject]
  apply reject_congr
  intro hlong
  have hnonce : aeadNonceLength - noncePrefixLength ≤ (record.drop recordHeaderLen).length := by
    omega
  rw [slice_take hnonce, ok_bind, slice_drop hnonce, ok_bind]
  generalize (record.drop recordHeaderLen).drop (aeadNonceLength - noncePrefixLength) = ct
  dsimp only
  -- The source subtracts first and then tests the sign.
  rw [returned_bind, returned_reject,
    reject_iff (show (ct.length : Int) - gcmOverhead < 0 ↔ ct.length < gcmOverhead by omega)]
  apply reject_congr
  intro htag
  have hplain : ((ct.length : Int) - gcmOverhead).toNat = ct.length - gcmOverhead := by omega
  rw [tlcpAEADAdditionalData, slice_take hrecord, ok_bind, pure_ok, ok_bind, withLength_front,
    hplain, f.open_eq P (List.length_take_of_le hnonce)]
  rfl

/-- `openCBC` with a MAC of any size. -/
def openCBCSized (size : Nat) (key macKey seq record : Bytes) : Except Err Bytes := do
  let payload := record.drop recordHeaderLen
  let minPayload := blockSize + roundUpToBlock (size + 1) blockSize
  reject (payload.length % blockSize ≠ 0 ∨ payload.length < minPayload) errDecrypt
  let iv := payload.take blockSize
  reject (key.length ≠ 16) errDecrypt
  let plain := P.cbcDecrypt key iv (payload.drop blockSize)
  let n := (payloadEnd size plain).toNat
  let remoteMAC := (plain.drop n).take size
  let localMAC := recordMAC P macKey seq (withLength record n) (plain.take n)
  reject (¬ (localMAC = remoteMAC ∧ (extractPadding plain).2 &&& 1 = 1)) errDecrypt
  return plain.take n

lemma openCBCSized_eq (key macKey seq record : Bytes) :
    openCBCSized P macSize key macKey seq record = openCBC P key macKey seq record := rfl

lemma lt_roundUpToBlock (size : Nat) : size < roundUpToBlock (size + 1) blockSize :=
  Nat.lt_of_lt_of_le (Nat.lt_succ_self size) (Nat.le_add_right _ _)

lemma newCBC_eq {key iv : Bytes} (hiv : iv.length = blockSize) (e : Err) :
    failAs e (returned (newCBC key iv)) = reject (key.length ≠ 16) (.err e) := by
  unfold newCBC
  by_cases hkey : key.length = 16
  · rw [reject_bind (not_not.mpr hkey), reject_neg (fun h => h hiv), reject_neg (not_not.mpr hkey)]
    rfl
  · simp only [reject, ne_eq, hkey, not_false_eq_true, if_true, error_bind]
    rfl

/-- The minimum length leaves room for the MAC wherever the padding begins. -/
lemma decryptCBC_eq {P : RecordPrims} (hP : Lawful P) (key : Bytes) (mac : Option Nat)
    (macKey seq : Bytes) {record : Bytes} (hrecord : recordHeaderLen ≤ record.length) :
    decryptCBC P key mac macKey seq record (record.drop recordHeaderLen) =
      returned (openCBCSized P (mac.getD 0) key macKey seq record) := by
  unfold decryptCBC openCBCSized
  rw [returned_bind, returned_reject]
  apply reject_congr
  intro hwhole
  -- The guard leaves a block for the IV and, behind it, more octets than the MAC has.
  have hroom := lt_roundUpToBlock (mac.getD 0)
  have hblock : blockSize ≤ (record.drop recordHeaderLen).length := by omega
  rw [slice_take hblock, ok_bind, slice_drop hblock, ok_bind]
  dsimp only
  rw [newCBC_eq (List.length_take_of_le hblock), returned_bind, returned_reject]
  apply reject_congr
  intro hkey
  have hct : ((record.drop recordHeaderLen).drop blockSize).length % blockSize = 0 := by
    rw [List.length_drop]
    simp only [blockSize] at hwhole hblock ⊢
    omega
  rw [cryptBlocks, reject_bind (not_not.mpr hct), pure_ok, ok_bind]
  have hplain : mac.getD 0 < (P.cbcDecrypt key ((record.drop recordHeaderLen).take blockSize)
      ((record.drop recordHeaderLen).drop blockSize)).length := by
    rw [hP.cbc_decrypted, List.length_drop]
    omega
  generalize P.cbcDecrypt key _ _ = plain at hplain ⊢
  obtain ⟨hpos, hend⟩ := payloadEnd_bounds hplain
  rw [tlcpExtractPadding_eq, ok_bind]
  -- From here on every bound is 0, the end of the payload, the end of the MAC or the length.
  have hn : clampNegative (plain.length - mac.getD 0 - (extractPadding plain).1) =
    payloadEnd (mac.getD 0) plain := rfl
  rw [hn]
  rw [slice_take hrecord, ok_bind, slice_middle hpos hend, ok_bind, slice_front hpos (by omega),
    ok_bind, slice_back (by omega) hend, ok_bind, withLength_front, returned_bind, returned_reject]
  rfl

/-- How the fields open a record; nil fields leave it as it is. -/
def TlcpHalfConn.opener (hc : TlcpHalfConn) : Option (Bytes → Except Err Bytes) :=
  match hc.aead, hc.cbcKey with
  | some f, _ => some (openAEAD P f.key f.implicitPrefix hc.seq.bytes)
  | none, some key => some (openCBCSized P (hc.mac.getD 0) key hc.macKeyBytes hc.seq.bytes)
  | none, none => none

/-- The paths of `decrypt`; a panic is none of them. -/
inductive Outcome (P : RecordPrims) (record : Bytes) (hc : TlcpHalfConn) :
    Except (Fault Err) (Bytes × UInt8) × TlcpHalfConn → Prop where
  | short (h : record.length < recordHeaderLen) :
    Outcome P record hc (.error (.err (.text "tlcp: record too short")), hc)
  | plain (hlen : recordHeaderLen ≤ record.length) (h : hc.opener P = none) :
      Outcome P record hc (.ok (record.drop recordHeaderLen, record.headD 0), hc)
  | refused {opener : Bytes → Except Err Bytes} {e : Err} (hlen : recordHeaderLen ≤ record.length)
      (h : hc.opener P = some opener) (hopen : opener record = .error e) :
        Outcome P record hc (.error (.err e), hc)
  | overflow {opener : Bytes → Except Err Bytes} {plaintext : Bytes}
    (hlen : recordHeaderLen ≤ record.length)
      (h : hc.opener P = some opener) (hopen : opener record = .ok plaintext)
        (hlast : hc.seq.next.2 = true) :
      Outcome P record hc
        (.error (.err (.text "tlcp: sequence number overflow, connection must be terminated")),
        { hc with seq := hc.seq.next.1 })
  | opened {opener : Bytes → Except Err Bytes} {plaintext : Bytes}
    (hlen : recordHeaderLen ≤ record.length)
      (h : hc.opener P = some opener) (hopen : opener record = .ok plaintext)
        (hlast : hc.seq.next.2 = false) :
      Outcome P record hc (.ok (plaintext, record.headD 0), { hc with seq := hc.seq.next.1 })

section

variable {P : RecordPrims} {record : Bytes} {hc : TlcpHalfConn}

lemma outcome_protected {opener : Bytes → Except Err Bytes} (hlen : recordHeaderLen ≤ record.length)
    (h : hc.opener P = some opener) :
    Outcome P record hc ((do
      let plaintext ← Cmd.lift (returned (opener record))
      TlcpHalfConn.incSeq
      return (plaintext, record.headD 0) : Cmd (Fault Err) TlcpHalfConn (Bytes × UInt8)) hc) := by
  cases hopen : opener record with
  | error e =>
    rw [returned_error, bind_of_error (lift_apply _ hc)]
    exact .refused hlen h hopen
  | ok plaintext =>
    rw [returned_ok, lift_bind]
    cases hlast : hc.seq.next.2 with
    | true =>
      have hinc : TlcpHalfConn.incSeq hc =
        (.error (.err (.text "tlcp: sequence number overflow, connection must be terminated")),
          { hc with seq := hc.seq.next.1 }) := by
        rw [TlcpHalfConn.incSeq, if_pos hlast]
      rw [bind_of_error hinc]
      exact .overflow hlen h hopen hlast
    | false =>
      have hinc : TlcpHalfConn.incSeq hc = (.ok (), { hc with seq := hc.seq.next.1 }) := by
        rw [TlcpHalfConn.incSeq, if_neg (by rw [hlast]; exact Bool.false_ne_true)]
      rw [bind_of_ok hinc]
      exact .opened hlen h hopen hlast

lemma decrypt_outcome (hP : Lawful P) (record : Bytes) (hc : TlcpHalfConn) :
    Outcome P record hc (TlcpHalfConn.decrypt P record hc) := by
  unfold TlcpHalfConn.decrypt
  by_cases hshort : record.length < recordHeaderLen
  · rw [bind_of_error (refuse_pos hshort _ hc)]
    exact .short hshort
  have hlen : recordHeaderLen ≤ record.length := Nat.le_of_not_lt hshort
  have htype : (index record 0 : Except (Fault Err) UInt8) = .ok (record.headD 0) := by
    match record, hlen with
    | x :: _, _ => rfl
  have hpayload : (slice record recordHeaderLen record.length : Except (Fault Err) Bytes) =
      .ok (record.drop recordHeaderLen) := slice_drop hlen
  rw [bind_of_ok (refuse_neg hshort _ hc), htype, lift_bind, hpayload, lift_bind,
    ask_bind, id]
  -- With both keys set the AEAD is taken.
  match haead : hc.aead, hkey : hc.cbcKey with
  | none, none => exact .plain hlen (by rw [TlcpHalfConn.opener, haead, hkey])
  | some f, _ =>
    dsimp only
    rw [if_neg (by simp), decryptAEAD_eq P f _ hlen]
    exact outcome_protected hlen (by rw [TlcpHalfConn.opener, haead])
  | none, some key =>
    dsimp only
    rw [if_neg (by simp), decryptCBC_eq hP key _ _ _ hlen]
    exact outcome_protected hlen (by rw [TlcpHalfConn.opener, haead, hkey])

end

structure Represents (raw : TlcpHalfConn) (hc : HalfConn) : Prop where
  seq : raw.seq = hc.seq
  fields : match hc.current with
    | none => raw.aead = none ∧ raw.cbcKey = none
    | some (.aead key implicitPrefix) => ∃ size, raw.aead = some ⟨key, implicitPrefix, size⟩
    | some (.cbc key macKey) =>
      raw.aead = none ∧ raw.cbcKey = some key ∧ raw.mac = some macSize ∧ raw.macKeyBytes = macKey

variable {raw : TlcpHalfConn}

lemma Represents.opener {P : RecordPrims} {hc : HalfConn} (h : Represents raw hc) :
    raw.opener P = hc.current.map fun spec => spec.open P hc.seq.bytes := by
  obtain ⟨hseq, hfields⟩ := h
  unfold TlcpHalfConn.opener
  cases hcur : hc.current with
  | none =>
    rw [hcur] at hfields
    obtain ⟨haead, hkey⟩ := hfields
    rw [haead, hkey]
    rfl
  | some spec =>
    cases spec with
    | aead key implicitPrefix =>
      rw [hcur] at hfields
      obtain ⟨size, haead⟩ := hfields
      rw [haead, hseq]
      rfl
    | cbc key macKey =>
      rw [hcur] at hfields
      obtain ⟨haead, hkey, hmac, rfl⟩ := hfields
      rw [haead, hkey, hmac, hseq]
      exact congrArg some (funext (openCBCSized_eq P key raw.macKeyBytes hc.seq.bytes))

lemma Represents.withSeq {hc : HalfConn} (h : Represents raw hc) (seq : Counter 8) :
    Represents { raw with seq := seq } { hc with seq := seq } := ⟨rfl, h.fields⟩

lemma decrypt_of_spec {P : RecordPrims} {record : Bytes} {hc : HalfConn} {spec : CipherSpec}
    (hlen : recordHeaderLen ≤ record.length) (hcur : hc.current = some spec) :
    HalfConn.decrypt P record hc = ((do
      let plaintext ← Cmd.lift (spec.open P hc.seq.bytes record)
      HalfConn.incSeq
      return (plaintext, record.headD 0) : Cmd Err HalfConn (Bytes × UInt8)) hc) := by
  rw [HalfConn.decrypt, bind_of_ok (refuse_neg (Nat.not_lt.mpr hlen) _ hc), ask_bind, id, hcur]

/-- Access by access the source does what the half-connection of specs does. -/
lemma Represents.decrypt {P : RecordPrims} (hP : Lawful P) {hc : HalfConn} (h : Represents raw hc)
    (record : Bytes) :
    (TlcpHalfConn.decrypt P record raw).1 = returned (HalfConn.decrypt P record hc).1 ∧
      Represents (TlcpHalfConn.decrypt P record raw).2 (HalfConn.decrypt P record hc).2 := by
  have hopener := h.opener (P := P)
  have houtcome := decrypt_outcome hP record raw
  generalize TlcpHalfConn.decrypt P record raw = x at houtcome ⊢
  cases houtcome with
  | short hshort =>
    have heq : HalfConn.decrypt P record hc = (.error (.text "tlcp: record too short"), hc) :=
      bind_of_error (refuse_pos hshort _ hc) _
    rw [heq]
    exact ⟨rfl, h⟩
  | plain hlen hnone =>
    have hcur : hc.current = none := by
      rw [hnone] at hopener
      exact Option.map_eq_none_iff.mp hopener.symm
    rw [decrypt_none hlen hcur]
    exact ⟨rfl, h⟩
  | refused hlen hsome hopen =>
    rw [hsome] at hopener
    obtain ⟨spec, hcur, rfl⟩ := Option.map_eq_some_iff.mp hopener.symm
    rw [decrypt_of_spec hlen hcur, hopen, bind_of_error (lift_apply _ hc)]
    exact ⟨rfl, h⟩
  | overflow hlen hsome hopen hlast =>
    rw [hsome] at hopener
    obtain ⟨spec, hcur, rfl⟩ := Option.map_eq_some_iff.mp hopener.symm
    rw [h.seq] at hlast ⊢
    rw [decrypt_of_spec hlen hcur, hopen, lift_bind, bind_of_error (incSeq_last hlast)]
    exact ⟨rfl, h.withSeq _⟩
  | opened hlen hsome hopen hlast =>
    rw [hsome] at hopener
    obtain ⟨spec, hcur, rfl⟩ := Option.map_eq_some_iff.mp hopener.symm
    rw [h.seq] at hlast ⊢
    rw [decrypt_of_spec hlen hcur, hopen, lift_bind, bind_of_ok (incSeq_next hlast)]
    exact ⟨rfl, h.withSeq _⟩

def TlcpHalfConn.Protected (hc : TlcpHalfConn) : Prop := hc.cbcKey ≠ none ∨ hc.aead.isSome = true

lemma protected_iff {P : RecordPrims} {hc : TlcpHalfConn} :
    hc.Protected ↔ (hc.opener P).isSome = true := by
  unfold TlcpHalfConn.Protected TlcpHalfConn.opener
  cases hc.aead <;> cases hc.cbcKey <;> simp

def Accepted {ε α : Type} (x : Except ε α) : Prop := ∃ a, x = .ok a

variable {x : Except (Fault Err) (Bytes × UInt8) × TlcpHalfConn}

lemma Outcome.returns {P : RecordPrims} {record : Bytes} {hc : TlcpHalfConn}
    (h : Outcome P record hc x) : Returns x.1 := by
  intro message hpanic
  cases h <;> cases hpanic

lemma not_accepted {ε α : Type} {e : ε} : ¬ Accepted (.error e : Except ε α) := by
  rintro ⟨_, h⟩
  cases h

lemma Outcome.counts {P : RecordPrims} {record : Bytes} {hc : TlcpHalfConn}
    (h : Outcome P record hc x) (hroom : hc.seq.value < 2 ^ 64 - 1) :
    (hc.Protected ∧ Accepted x.1 → x.2 = { hc with seq := hc.seq.next.1 } ∧
      x.2.seq.value = hc.seq.value + 1) ∧ (¬ (hc.Protected ∧ Accepted x.1) → x.2 = hc) := by
  have hnext : hc.seq.next.2 = false := Counter.next_of_lt (by omega)
  cases h with
  | short _ => exact ⟨fun h => absurd h.2 not_accepted, fun _ => rfl⟩
  | plain _ hnone =>
    refine ⟨fun ⟨hprotected, _⟩ => ?_, fun _ => rfl⟩
    rw [protected_iff (P := P), hnone] at hprotected
    cases hprotected
  | refused _ _ _ => exact ⟨fun h => absurd h.2 not_accepted, fun _ => rfl⟩
  | overflow _ _ _ hlast => cases hnext.symm.trans hlast
  | opened _ hsome _ _ =>
    refine ⟨fun _ => ⟨rfl, Counter.next_value hnext⟩, fun hnot => absurd ⟨?_, _, rfl⟩ hnot⟩
    rw [protected_iff (P := P), hsome]
    rfl

def KeysFit : CipherSpec → Prop
  | .aead key implicitPrefix => key.length = 16 ∧ implicitPrefix.length = noncePrefixLength
  | .cbc key _ => key.length = 16

variable {header : Bytes}

lemma decrypt_encrypt {P : RecordPrims} (hP : Lawful P) {sender receiver : HalfConn}
    (hraw : Represents raw receiver) (hcurrent : sender.current = receiver.current)
    (hkeys : ∀ spec ∈ sender.current, KeysFit spec) (hseq : sender.seq = receiver.seq)
    (hroom : sender.seq.value < 2 ^ 64 - 1) {payload rand : Bytes}
    (hheader : header.length = recordHeaderLen) (hannounced : header.drop 3 = be16 payload.length)
    (hsmall : payload.length ≤ maxPlaintext) (hrand : blockSize ≤ rand.length) :
    ∃ full sender' rand', HalfConn.encrypt P header payload (sender, rand) =
      (.ok full, sender', rand') ∧
      (TlcpHalfConn.decrypt P full raw).1 = .ok (payload, header.headD 0) ∧
      (TlcpHalfConn.decrypt P full raw).2.seq = sender'.seq := by
  have hwritten : withLength header payload.length = header := by
    rw [withLength, ← hannounced, List.take_append_drop]
  cases hcur : sender.current with
  | none =>
    have hdecrypt := decrypt_none (P :=
      P) (by rw [List.length_append]; omega : recordHeaderLen ≤ (header ++ payload).length)
      (hcurrent.symm.trans hcur)
    obtain ⟨hresult, hstate⟩ := hraw.decrypt hP (header ++ payload)
    rw [hdecrypt] at hresult hstate
    refine ⟨_, _, rand, encrypt_none hcur, ?_, ?_⟩
    · rw [hresult, List.drop_left' hheader, headD_append (Nat.le_of_eq hheader.symm)]
      rfl
    · rw [hstate.seq, hseq]
  | some spec =>
    have hnext : sender.seq.next.2 = false := Counter.next_of_lt (by omega)
    have hrandom : ∀ key macKey, spec = .cbc key macKey → key.length = 16 ∧
      blockSize ≤ rand.length := by
      rintro key macKey rfl
      exact ⟨hkeys _ hcur, hrand⟩
    obtain ⟨iv, full, rand', hdraw, hseal, -⟩ :=
      seal_succeeds P spec rand sender.seq.bytes header payload hrandom
    have hopen := open_sealed hP hheader hwritten (Nat.lt_of_le_of_lt hsmall (by decide)) hseal
    obtain ⟨body, rfl, -⟩ := seal_shape hP hseal
    rw [hseq] at hopen
    have hlength : (withLength header body.length).length = recordHeaderLen :=
      withLength_length (Nat.le_of_eq hheader.symm) _
    have hdecrypt := decrypt_some (by rw [List.length_append]; omega)
      (hcurrent.symm.trans hcur) hopen (hseq ▸ hnext)
    obtain ⟨hresult, hstate⟩ := hraw.decrypt hP (withLength header body.length ++ body)
    rw [hdecrypt] at hresult hstate
    refine ⟨_, _, rand', encrypt_some hcur hdraw hseal hnext, ?_, ?_⟩
    · rw [hresult, headD_append (Nat.le_of_eq hlength.symm), withLength_headD
        (Nat.le_of_eq hheader.symm)]
      rfl
    · rw [hstate.seq, hseq]

/-- Records come back as they were sealed, and `decrypt` comes back for every record in every
state; it counts the protected records it accepts and changes nothing otherwise. -/
theorem record_protection {P : RecordPrims} (hP : Lawful P) :
    (∀ (sender receiver : HalfConn) (raw : TlcpHalfConn) (header payload rand : Bytes),
      Represents raw receiver →
      sender.current = receiver.current →
        (∀ spec ∈ sender.current, KeysFit spec) → sender.seq = receiver.seq →
      sender.seq.value < 2 ^ 64 - 1 → header.length = recordHeaderLen →
        header.drop 3 = be16 payload.length →
      payload.length ≤ maxPlaintext → blockSize ≤ rand.length →
      ∃ full sender' rand', HalfConn.encrypt P header payload (sender, rand) =
        (.ok full, sender', rand') ∧
        (TlcpHalfConn.decrypt P full raw).1 = .ok (payload, header.headD 0) ∧
        (TlcpHalfConn.decrypt P full raw).2.seq = sender'.seq) ∧
    ∀ (raw : TlcpHalfConn) (record : Bytes), Returns (TlcpHalfConn.decrypt P record raw).1 ∧
      (raw.seq.value < 2 ^ 64 - 1 →
        (raw.Protected ∧ Accepted (TlcpHalfConn.decrypt P record raw).1 →
          (TlcpHalfConn.decrypt P record raw).2.seq.value = raw.seq.value + 1) ∧
        (¬ (raw.Protected ∧ Accepted (TlcpHalfConn.decrypt P record raw).1) →
          (TlcpHalfConn.decrypt P record raw).2 = raw)) := by
  refine ⟨?_, ?_⟩
  · intro sender receiver raw header payload rand hraw hcurrent hkeys hseq hroom hheader hannounced
      hsmall hrand
    exact decrypt_encrypt hP hraw hcurrent hkeys hseq hroom hheader hannounced hsmall hrand
  · intro raw record
    have houtcome := decrypt_outcome hP record raw
    exact ⟨houtcome.returns, fun hroom =>
      ⟨fun h => ((houtcome.counts hroom).1 h).2, (houtcome.counts hroom).2⟩⟩

def sampleHalf : HalfConn := ⟨0x0101, some (.cbc (zeros 16) (zeros 32)), none, Counter.zero 8⟩

def sampleFields : TlcpHalfConn := ⟨some (zeros 16), none, some macSize, zeros 32, Counter.zero 8⟩

/-- A record that comes back, and one that is cut off in the MAC. -/
theorem record_protection_sample :
    (∃ full sender' rand',
      HalfConn.encrypt toyRecordPrims [23, 1, 1, 0, 3] [7, 8, 9] (sampleHalf, zeros 16) =
        (.ok full, sender', rand') ∧
      (TlcpHalfConn.decrypt toyRecordPrims full sampleFields).1 = .ok ([7, 8, 9], 23) ∧
      (TlcpHalfConn.decrypt toyRecordPrims full sampleFields).2.seq = sender'.seq) ∧
    Returns (TlcpHalfConn.decrypt toyRecordPrims ([23, 1, 1, 0, 48] ++ zeros 48)
      sampleFields).1 := by
  obtain ⟨htrip, hreturns⟩ := record_protection toyRecordPrims_lawful
  have hraw : Represents sampleFields sampleHalf := ⟨rfl, rfl, rfl, rfl, rfl⟩
  have hkeys : ∀ spec ∈ sampleHalf.current, KeysFit spec := by
    rintro spec ⟨⟩
    exact rfl
  have hroom : sampleHalf.seq.value < 2 ^ 64 - 1 := by
    rw [show sampleHalf.seq.value = 0 from Counter.zero_value 8]
    decide
  exact ⟨htrip sampleHalf sampleHalf sampleFields _ _ _ hraw rfl hkeys rfl hroom rfl rfl (by decide)
    (by decide), (hreturns sampleFields _).1⟩

end Pollux.TlcpDecrypt
