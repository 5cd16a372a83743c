import PolluxGM.TlcpPadding
import PolluxGM.TlcpStream

/-!
# Records on the wire

What one side writes as a record the other side reads as the same record. A transport
that brings no error is known by its octets, however they are cut into reads, and the
ciphers are assumed to open what they sealed.
-/
namespace Pollux.Tlcp

open TlcpStream

def octets : List Arrival → Bytes
  | [] => []
  | .bytes b :: rest => b ++ octets rest
  | .fault _ :: rest => octets rest

def Intact (a : List Arrival) : Prop := ∀ x ∈ a, ∃ b, x = .bytes b

lemma Intact.tail (h : Intact (x :: a)) : Intact a :=
  fun y hy => h y (List.mem_cons_of_mem x hy)

lemma Intact.cons (b : Bytes) (h : Intact a) : Intact (.bytes b :: a) := by
  intro x hx
  rcases List.mem_cons.mp hx with rfl | hx
  · exact ⟨b, rfl⟩
  · exact h x hx

lemma Intact.append (ha : Intact a) (hb : Intact b) : Intact (a ++ b) := by
  intro x hx
  rcases List.mem_append.mp hx with hx | hx
  · exact ha x hx
  · exact hb x hx

lemma octets_append (a b : List Arrival) : octets (a ++ b) = octets a ++ octets b := by
  induction a with
  | nil => rfl
  | cons x a ih => cases x <;> simp [octets, ih]

variable {n : Nat} {got r : Bytes}

lemma readFullFrom_octets (ha : Intact a) (hn : n = got.length + w.length) (hw : octets a = w ++ r)
    : ∃ rest, readFullFrom n got a = (.ok (got ++ w), rest) ∧ Intact rest ∧ octets rest = r := by
  induction a generalizing got w with
  | nil =>
    obtain ⟨rfl, rfl⟩ := List.append_eq_nil_iff.mp hw.symm
    exact ⟨[], by simp [readFullFrom, hn], ha, rfl⟩
  | cons x a ih =>
    obtain ⟨b, rfl⟩ := ha x List.mem_cons_self
    change b ++ octets a = w ++ r at hw
    unfold readFullFrom
    rcases List.append_eq_append_iff.mp hw with ⟨c, rfl, hr⟩ | ⟨c, rfl, rfl⟩
    · -- The first arrival does not reach the end, or just about.
      by_cases hc : c = []
      · subst hc
        rw [List.append_nil] at hn ⊢
        rw [if_pos (by omega)]
        refine ⟨_, by rw [hn, Nat.add_sub_cancel_left, List.take_length], .cons _ ha.tail, ?_⟩
        rw [List.drop_length]
        exact hr
      · have hpos : 0 < c.length := List.length_pos_iff.mpr hc
        rw [List.length_append] at hn
        rw [if_neg (by omega), ← List.append_assoc]
        exact ih ha.tail (by rw [List.length_append]; omega) hr
    · rw [if_pos (by rw [List.length_append]; omega), hn, Nat.add_sub_cancel_left, List.take_left,
        List.drop_left]
      exact ⟨_, rfl, .cons _ ha.tail, rfl⟩

variable {x : Bytes}

lemma readFullFrom_took (ha : Intact a) (hgot : got.length ≤ n)
    (h : readFullFrom n got a = (.ok x, rest)) :
    Intact rest ∧ got ++ octets a = x ++ octets rest := by
  induction a generalizing got with
  | nil =>
    unfold readFullFrom at h
    split at h
    · cases h
      exact ⟨ha, rfl⟩
    · cases h
  | cons y a ih =>
    obtain ⟨b, rfl⟩ := ha y List.mem_cons_self
    unfold readFullFrom at h
    split at h
    · cases h
      refine ⟨.cons _ ha.tail, ?_⟩
      change got ++ (b ++ octets a) = got ++ b.take _ ++ (b.drop _ ++ octets a)
      rw [List.append_assoc, ← List.append_assoc (b.take _), List.take_append_drop]
    · obtain ⟨hrest, hoctets⟩ := ih ha.tail (by rw [List.length_append]; omega) h
      refine ⟨hrest, ?_⟩
      rw [← hoctets, List.append_assoc]
      rfl

lemma readFullFrom_later (h : readFullFrom n got a = (.ok x, rest)) (later : List Arrival) :
    readFullFrom n got (a ++ later) = (.ok x, rest ++ later) := by
  induction a generalizing got with
  | nil =>
    unfold readFullFrom at h
    split at h
    · rename_i henough
      cases h
      have hnone : n - x.length = 0 := Nat.sub_eq_zero_of_le henough
      cases later with
      | nil => exact if_pos henough
      | cons y later =>
        cases y with
        | fault e => exact if_pos henough
        | bytes b => simp [readFullFrom, hnone, Nat.le_add_right_of_le henough]
    · cases h
  | cons y a ih =>
    cases y with
    | fault e =>
      unfold readFullFrom at h
      rw [List.cons_append]
      unfold readFullFrom
      split at h
      · rename_i henough
        cases h
        rw [if_pos henough]
        rfl
      · cases h
    | bytes b =>
      unfold readFullFrom at h
      rw [List.cons_append]
      unfold readFullFrom
      split at h
      · rename_i henough
        cases h
        rw [if_pos henough]
        rfl
      · rename_i hmore
        rw [if_neg hmore]
        exact ih h

lemma readFullFrom_weight (hgot : got.length < n) (h : readFullFrom n got a = (.ok x, rest)) :
    Conn.weight rest < Conn.weight a := by
  induction a generalizing got with
  | nil =>
    unfold readFullFrom at h
    rw [if_neg (by omega)] at h
    cases h
  | cons y a ih =>
    cases y with
    | fault e =>
      unfold readFullFrom at h
      rw [if_neg (by omega)] at h
      cases h
    | bytes b =>
      unfold readFullFrom at h
      split at h
      · cases h
        simp only [Conn.weight, List.length_drop]
        omega
      · have hless := ih (by rw [List.length_append]; omega) h
        simp only [Conn.weight]
        omega

lemma readFullFrom_weight_le (h : readFullFrom n [] a = (.ok x, rest)) :
    Conn.weight rest ≤ Conn.weight a := by
  by_cases hn : 0 < n
  · exact Nat.le_of_lt (readFullFrom_weight hn h)
  · obtain rfl : n = 0 := Nat.eq_zero_of_not_pos hn
    cases a with
    | nil =>
      cases h
      exact Nat.le_refl _
    | cons y a =>
      cases y with
      | fault e =>
        cases h
        exact Nat.le_refl _
      | bytes b =>
        unfold readFullFrom at h
        rw [if_pos (Nat.zero_le _)] at h
        cases h
        simp [Conn.weight]

def VersionAccepted (version : Nat) : Prop :=
  ¬ (version ≠ versionTLCP.toNat ∧ (version < 0x0301 ∨ 0x0303 < version))

/-- A header that announces a body of the given length. -/
structure Announces (header : Bytes) (typ : RecordType) (n : Nat) : Prop where
  size : header.length = recordHeaderLen
  code : RecordType.ofCode (header.headD 0) = some typ
  version : VersionAccepted (be16At header 1)
  length : be16At header 3 = n
  small : n ≤ maxPlaintext + 2048

lemma readRawRecord_eq_ok :
    readRawRecord a = (.ok raw, rest) ↔
      RecordType.ofCode (raw.header.headD 0) = some raw.typ ∧
        VersionAccepted (be16At raw.header 1) ∧ be16At raw.header 3 ≤ maxPlaintext + 2048 ∧
        ∃ a₁, readFullFrom recordHeaderLen [] a = (.ok raw.header, a₁) ∧
          readFullFrom (be16At raw.header 3) [] a₁ = (.ok raw.body, rest) := by
  unfold readRawRecord
  constructor
  · intro h
    obtain ⟨header, a₁, hheader, h⟩ := bind_eq_ok.mp h
    dsimp only at h
    cases htyp : RecordType.ofCode (header.headD 0) with
    | none =>
      rw [htyp] at h
      exact absurd h fail_eq_ok
    | some typ =>
      rw [htyp] at h
      simp only [bind_eq_ok, refuse_eq_ok, pure_eq_ok] at h
      obtain ⟨_, _, ⟨hversion, rfl⟩, _, _, ⟨hsmall, rfl⟩, body, _, hbody, rfl, rfl⟩ := h
      exact ⟨htyp, hversion, Nat.le_of_not_lt hsmall, a₁, hheader, hbody⟩
  · obtain ⟨typ, header, body⟩ := raw
    rintro ⟨htyp, hversion, hsmall, a₁, hheader, hbody⟩
    rw [bind_of_ok (show readFull recordHeaderLen a = _ from hheader)]
    dsimp only at htyp ⊢
    rw [htyp]
    dsimp only
    rw [bind_of_ok (refuse_neg hversion _ _), bind_of_ok (refuse_neg (Nat.not_lt.mpr hsmall) _ _),
      bind_of_ok (show readFull _ a₁ = _ from hbody)]
    rfl

variable {body : Bytes}

lemma readRawRecord_octets (ha : Intact a)
    (hheader : Announces header typ body.length) (hw : octets a = header ++ (body ++ r)) :
    ∃ rest, readRawRecord a = (.ok ⟨typ, header, body⟩, rest) ∧ Intact rest ∧ octets rest = r := by
  have hzero (b : Bytes) : b.length = ([] : Bytes).length + b.length := (Nat.zero_add _).symm
  obtain ⟨a₁, hread, ha₁, hw₁⟩ := readFullFrom_octets ha (hzero header) hw
  obtain ⟨rest, hread', hrest, hr⟩ := readFullFrom_octets ha₁ (hzero body) hw₁
  rw [hheader.size] at hread
  rw [← hheader.length] at hread'
  have hsmall : be16At header 3 ≤ maxPlaintext + 2048 := by
    rw [hheader.length]
    exact hheader.small
  exact ⟨rest, readRawRecord_eq_ok.mpr ⟨hheader.code, hheader.version, hsmall, a₁, hread, hread'⟩,
    hrest, hr⟩

section

variable {raw : RawRecord} {a rest : List Arrival}

lemma readRawRecord_took (ha : Intact a) (h : readRawRecord a = (.ok raw, rest)) :
    Intact rest ∧ octets a = raw.header ++ (raw.body ++ octets rest) ∧
      be16At raw.header 3 = raw.body.length ∧ raw.body.length ≤ maxPlaintext + 2048 := by
  obtain ⟨_, _, hsmall, a₁, hheader, hbody⟩ := readRawRecord_eq_ok.mp h
  obtain ⟨ha₁, hw₁⟩ := readFullFrom_took ha (Nat.zero_le _) hheader
  obtain ⟨hrest, hw⟩ := readFullFrom_took ha₁ (Nat.zero_le _) hbody
  have hlen : raw.body.length = be16At raw.header 3 := readFullFrom_length (Nat.zero_le _) hbody
  rw [List.nil_append] at hw hw₁
  rw [hlen]
  exact ⟨hrest, by rw [hw₁, hw], rfl, hsmall⟩

lemma readRawRecord_later (h : readRawRecord a = (.ok raw, rest)) (later : List Arrival) :
    readRawRecord (a ++ later) = (.ok raw, rest ++ later) := by
  obtain ⟨htyp, hversion, hsmall, a₁, hheader, hbody⟩ := readRawRecord_eq_ok.mp h
  exact readRawRecord_eq_ok.mpr
    ⟨htyp, hversion, hsmall, _, readFullFrom_later hheader later, readFullFrom_later hbody later⟩

lemma readRawRecord_weight (h : readRawRecord a = (.ok raw, rest)) :
    Conn.weight rest < Conn.weight a := by
  obtain ⟨_, _, _, a₁, hheader, hbody⟩ := readRawRecord_eq_ok.mp h
  exact Nat.lt_of_le_of_lt (readFullFrom_weight_le hbody) (readFullFrom_weight (by decide) hheader)

end

def padding (n : Nat) : Bytes := List.replicate n (UInt8.ofNat (n - 1))

lemma extractPadding_padded (hn : 0 < n) (hsmall : n ≤ 16) (hlen : b.length < 2147483000) :
    extractPadding (b ++ padding n) = (n, 255) := by
  have hvalue : (UInt8.ofNat (n - 1)).toNat + 1 = n := by
    rw [UInt8.toNat_ofNat_of_lt' (by simp [UInt8.size]; omega), Nat.sub_add_cancel hn]
  have htotal : (b ++ padding n).length = b.length + n := by simp [padding]
  have hlast : (b ++ padding n).getLast? = some (UInt8.ofNat (n - 1)) := by
    rw [List.getLast?_append, padding, List.getLast?_replicate, if_neg (by omega)]
    rfl
  have hpadded : WellPadded (b ++ padding n) (UInt8.ofNat (n - 1)) := by
    rw [WellPadded, hvalue, htotal, Nat.add_sub_cancel, List.drop_left]
    exact ⟨Nat.le_add_left n _, fun x hx => List.eq_of_mem_replicate hx⟩
  rw [(extractPadding_spec hlast (by omega)).1 hpadded, hvalue]

/-- The ciphers open what they sealed, and change the length as they should. -/
structure Lawful (P : RecordPrims) : Prop where
  hmac_length : ∀ key data, (P.hmacSM3 key data).length = macSize
  gcm_opens : ∀ key nonce plaintext ad, P.gcmOpen key nonce (P.gcmSeal key nonce plaintext ad) ad =
    some plaintext
  gcm_length : ∀ key nonce plaintext ad,
    (P.gcmSeal key nonce plaintext ad).length = plaintext.length + gcmOverhead
  gcm_opened : ∀ key nonce ct ad plaintext, P.gcmOpen key nonce ct ad = some plaintext →
    ct.length = plaintext.length + gcmOverhead
  cbc_decrypts : ∀ key iv data, key.length = 16 → iv.length = 16 → data.length % blockSize = 0 →
    P.cbcDecrypt key iv (P.cbcEncrypt key iv data) = data
  cbc_length : ∀ key iv data, (P.cbcEncrypt key iv data).length = data.length
  cbc_decrypted : ∀ key iv data, (P.cbcDecrypt key iv data).length = data.length

def cbcPadding (n : Nat) : Nat := blockSize - (n + macSize) % blockSize

/-- The length of the body of a record with such a payload. -/
def bodyLength : Option CipherSpec → Nat → Nat
  | none, n => n
  | some (.aead _ _), n => 8 + (n + gcmOverhead)
  | some (.cbc _ _), n => blockSize + (n + macSize + cbcPadding n)

lemma withLength_take (h : header.length = 5) (n : Nat) (r : Bytes) :
    (withLength header n ++ r).take 3 = header.take 3 := by
  match header, h with
  | [_, _, _, _, _], _ => rfl

lemma withLength_append (h : header.length = 5) (m n : Nat) (r : Bytes) :
    withLength (withLength header m ++ r) n = withLength header n := by
  rw [withLength, withLength_take h, withLength]

variable {key implicitPrefix ct macKey : Bytes} {spec : CipherSpec}

section

variable {P : RecordPrims} {seq : Counter 8} {iv header payload full : Bytes}

lemma withLength_recordHeader (typ : RecordType) (version : UInt16) (payload : Bytes) :
    withLength (recordHeader typ version payload) payload.length =
      recordHeader typ version payload := rfl

lemma openAEAD_eq (seq : Bytes) (hheader : header.length = 5) (hnonce : nonce.length = 8)
    (hct : gcmOverhead ≤ ct.length) :
    openAEAD P key implicitPrefix seq (header ++ (nonce ++ ct)) =
      need (.text "tlcp: bad record MAC (AEAD authentication failed)")
        (P.gcmOpen key (implicitPrefix ++ nonce) ct
          (seq ++ withLength (header ++ (nonce ++ ct)) (ct.length - gcmOverhead))) := by
  have hdrop : (header ++ (nonce ++ ct)).drop recordHeaderLen = nonce ++ ct :=
    List.drop_left' hheader
  have hfront : (nonce ++ ct).take (aeadNonceLength - noncePrefixLength) = nonce :=
    List.take_left' hnonce
  have hback : (nonce ++ ct).drop (aeadNonceLength - noncePrefixLength) = ct :=
    List.drop_left' hnonce
  have hlong : ¬ (nonce ++ ct).length < aeadNonceLength - noncePrefixLength + 1 := by
    simp only [List.length_append, aeadNonceLength, noncePrefixLength, gcmOverhead] at hct ⊢
    omega
  unfold openAEAD
  simp only [hdrop, hfront, hback]
  rw [reject_bind hlong, reject_bind (Nat.not_lt.mpr hct)]
  rfl

lemma open_sealed_aead (hP : Lawful P) (hheader : header.length = 5)
    (h : CipherSpec.seal P (.aead key implicitPrefix) seq.bytes iv header payload = .ok full) :
    CipherSpec.open P (.aead key implicitPrefix) seq.bytes full = .ok payload := by
  cases h
  have hlen := hP.gcm_length key (implicitPrefix ++ seq.bytes) payload
    (aeadAdditionalData seq.bytes header payload.length)
  rw [CipherSpec.open, List.append_assoc,
    openAEAD_eq _ (withLength_length (Nat.le_of_eq hheader.symm) _) seq.length_eq
      (by omega), withLength_append hheader, hlen,
    Nat.add_sub_cancel]
  change need _ (P.gcmOpen key _ _ (aeadAdditionalData _ _ _)) = _
  rw [hP.gcm_opens, need_some]

lemma openCBC_eq (seq : Bytes) (hheader : header.length = 5) (hkey : key.length = 16)
    (hiv : iv.length = 16) (hblocks : ct.length % blockSize = 0) (hct : 48 ≤ ct.length) :
    openCBC P key macKey seq (header ++ (iv ++ ct)) =
      (do
        let plain := P.cbcDecrypt key iv ct
        let n := payloadLength plain
        reject (¬ (recordMAC P macKey seq (withLength (header ++ (iv ++ ct)) n) (plain.take n) =
          (plain.drop n).take macSize ∧ (extractPadding plain).2 &&& 1 = 1)) errDecrypt
        return plain.take n) := by
  have hdrop : (header ++ (iv ++ ct)).drop recordHeaderLen = iv ++ ct := List.drop_left' hheader
  have hfront : (iv ++ ct).take blockSize = iv := List.take_left' hiv
  have hback : (iv ++ ct).drop blockSize = ct := List.drop_left' hiv
  have hwhole : ¬ ((iv ++ ct).length % blockSize ≠ 0 ∨
      (iv ++ ct).length < blockSize + roundUpToBlock (macSize + 1) blockSize) := by
    have hmin : roundUpToBlock (macSize + 1) blockSize = 48 := by decide
    rw [hmin, List.length_append, hiv]
    simp only [blockSize] at hblocks ⊢
    omega
  unfold openCBC
  simp only [hdrop, hfront, hback]
  rw [reject_bind hwhole, reject_bind (fun hbad => hbad hkey)]

lemma cbcPadding_pos (n : Nat) :
    0 < cbcPadding n ∧ cbcPadding n ≤ 16 ∧ (n + macSize + cbcPadding n) % blockSize = 0 := by
  simp only [cbcPadding, blockSize, macSize]
  omega

lemma seal_cbc (hP : Lawful P)
    (h : CipherSpec.seal P (.cbc key macKey) seq.bytes iv header payload = .ok full) :
    key.length = 16 ∧ iv.length = 16 ∧ ∃ ct, full = withLength header (iv.length + ct.length) ++
      (iv ++ ct) ∧
      ct = P.cbcEncrypt key iv
        (payload ++ recordMAC P macKey seq.bytes (header.take recordHeaderLen) payload ++
        padding (cbcPadding payload.length)) := by
  simp only [CipherSpec.seal, newCBC, bind_ok, reject_ok, pure_inj, Classical.not_not] at h
  obtain ⟨_, ⟨_, hkey, hiv⟩, rfl⟩ := h
  refine ⟨hkey, hiv, _, List.append_assoc _ _ _, ?_⟩
  rw [padding, cbcPadding, recordMAC, hP.hmac_length]

/-- The MAC covers the header, which has to announce the payload. -/
lemma open_sealed_cbc (hP : Lawful P) (hheader : header.length = 5)
    (hannounced : withLength header payload.length = header) (hsmall : payload.length < 2147480000)
    (h : CipherSpec.seal P (.cbc key macKey) seq.bytes iv header payload = .ok full) :
    CipherSpec.open P (.cbc key macKey) seq.bytes full = .ok payload := by
  obtain ⟨hkey, hiv, ct, rfl, hct⟩ := seal_cbc hP h
  obtain ⟨hpos, hle, hblocks⟩ := cbcPadding_pos payload.length
  rw [List.take_of_length_le
    (show header.length ≤ recordHeaderLen from Nat.le_of_eq hheader)] at hct
  generalize hmac : recordMAC P macKey seq.bytes header payload = mac at hct
  have hmaclen : mac.length = macSize := by
    rw [← hmac, recordMAC, hP.hmac_length]
  have hplainlen : (payload ++ mac ++ padding (cbcPadding payload.length)).length =
      payload.length + macSize + cbcPadding payload.length := by
    simp [padding, hmaclen, Nat.add_assoc]
  have hctlen : ct.length = payload.length + macSize + cbcPadding payload.length := by
    rw [hct, hP.cbc_length, hplainlen]
  have hlong : 48 ≤ ct.length := by
    simp only [hctlen, macSize, blockSize] at hblocks ⊢
    omega
  have hplain : P.cbcDecrypt key iv ct = payload ++ mac ++ padding (cbcPadding payload.length) := by
    rw [hct, hP.cbc_decrypts key iv _ hkey hiv (by rw [hplainlen]; exact hblocks)]
  have hpadding : extractPadding (payload ++ mac ++ padding (cbcPadding payload.length)) =
    (cbcPadding payload.length, 255) := by
    apply extractPadding_padded hpos hle
    rw [List.length_append, hmaclen, macSize]
    omega
  have hpayload : payloadLength (payload ++ mac ++ padding (cbcPadding payload.length)) =
    payload.length := by
    rw [payloadLength_eq (by rw [hplainlen, macSize]; omega), hpadding, hplainlen]
    omega
  have htake : (payload ++ mac ++ padding (cbcPadding payload.length)).take payload.length =
    payload := by
    rw [List.append_assoc, List.take_left]
  have hremote : ((payload ++ mac ++ padding (cbcPadding payload.length)).drop payload.length).take
    macSize = mac := by
    rw [List.append_assoc, List.drop_left, List.take_left' hmaclen]
  rw [CipherSpec.open, openCBC_eq _
    (withLength_length (Nat.le_of_eq hheader.symm) _) hkey hiv
      (by rw [hctlen]; exact hblocks) hlong, hplain]
  dsimp only
  rw [hpayload, htake, hremote, hpadding, withLength_append hheader, hannounced, hmac,
    reject_bind (fun hbad => hbad ⟨rfl, show (255 : UInt8) &&& 1 = 1 by decide⟩)]
  rfl

lemma open_sealed (hP : Lawful P) (hheader : header.length = 5)
    (hannounced : withLength header payload.length = header) (hsmall : payload.length < 2147480000)
    (h : spec.seal P seq.bytes iv header payload = .ok full) :
    spec.open P seq.bytes full = .ok payload := by
  cases spec with
  | aead key implicitPrefix => exact open_sealed_aead hP hheader h
  | cbc key macKey => exact open_sealed_cbc hP hheader hannounced hsmall h

lemma seal_shape (hP : Lawful P) (h : spec.seal P seq.bytes iv header payload = .ok full) :
    ∃ body, full = withLength header body.length ++ body ∧
      body.length = bodyLength (some spec) payload.length := by
  cases spec with
  | aead key implicitPrefix =>
    cases h
    refine ⟨seq.bytes ++ P.gcmSeal key (implicitPrefix ++ seq.bytes) payload
      (aeadAdditionalData seq.bytes header payload.length),
        by rw [List.length_append, List.append_assoc], ?_⟩
    rw [List.length_append, seq.length_eq, hP.gcm_length, bodyLength]
  | cbc key macKey =>
    obtain ⟨_, hiv, ct, rfl, hct⟩ := seal_cbc hP h
    refine ⟨iv ++ ct, by rw [List.length_append], ?_⟩
    rw [List.length_append, hiv, hct, hP.cbc_length, bodyLength]
    simp [padding, recordMAC, hP.hmac_length, blockSize, Nat.add_assoc]

end

/-- The octets that a body has beyond its payload, at least. -/
def overhead : Option CipherSpec → Nat
  | none => 0
  | some (.aead _ _) => 24
  | some (.cbc _ _) => 49

lemma open_cost (hP : Lawful P) (hheader : header.length = 5)
    (h : spec.open P seq (header ++ body) = .ok plaintext) :
    plaintext.length + overhead (some spec) ≤ body.length := by
  have hdrop : (header ++ body).drop recordHeaderLen = body := List.drop_left' hheader
  cases spec with
  | aead key implicitPrefix =>
    simp only [CipherSpec.open, openAEAD, hdrop, bind_ok, reject_ok, need_ok] at h
    obtain ⟨_, hshort, _, _, hopen⟩ := h
    have hlen := hP.gcm_opened _ _ _ _ _ hopen
    simp only [List.length_drop, aeadNonceLength, noncePrefixLength, gcmOverhead] at hlen hshort
    simp only [overhead]
    omega
  | cbc key macKey =>
    simp only [CipherSpec.open, openCBC, hdrop, bind_ok, reject_ok, pure_inj] at h
    obtain ⟨_, hwhole, _, _, _, _, rfl⟩ := h
    generalize hplain : P.cbcDecrypt key (body.take blockSize) (body.drop blockSize) = plain
    have hlen : plain.length = body.length - blockSize := by
      rw [← hplain, hP.cbc_decrypted, List.length_drop]
    have hmin : roundUpToBlock (macSize + 1) blockSize = 48 := by decide
    rw [hmin] at hwhole
    simp only [blockSize] at hlen hwhole
    have hpos : 1 ≤ (extractPadding plain).1 := by
      apply extractPadding_pos
      intro hnil
      rw [hnil] at hlen
      simp only [List.length_nil] at hlen
      omega
    have hpayload := payloadLength_le plain
    simp only [macSize] at hpayload
    simp only [overhead, List.length_take]
    omega

end Pollux.Tlcp
