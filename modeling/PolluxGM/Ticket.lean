import PolluxGM.Laws

/-!
# SM4-GCM with a sequence number, and stateless session tickets

Embedding of `aead.go` and `session_ticket.go`. The plaintext of a ticket holds the PSK,
ticket_age_add, the application data and its length, in this order, so it is read from its end.
-/
namespace Pollux.Tls

structure AEAD where
  key : Bytes
  fixedNonce : Bytes
  deriving DecidableEq

def errInvalidNonceLen : Err := .text "tls13gm: nonce must be 12 bytes for TLS 1.3 SM4-GCM"

def be64 (n : Nat) : Bytes := be32 (n / 4294967296) ++ be32 n

variable (P : Prims)

def newAEAD (key nonce : Bytes) : Except Err AEAD := do
  reject (nonce.length ≠ 12) errInvalidNonceLen
  P.newGCM key
  return ⟨key, nonce⟩

def AEAD.computeNonce (a : AEAD) (seqNum : Nat) : Bytes :=
  a.fixedNonce.take 4 ++ List.zipWith (· ^^^ ·) (a.fixedNonce.drop 4) (be64 seqNum)

def AEAD.seal (a : AEAD) (seqNum : Nat) (plaintext aad : Bytes) : Bytes :=
  P.gcmSeal a.key (a.computeNonce seqNum) plaintext aad

def AEAD.openWith (a : AEAD) (seqNum : Nat) (ciphertext aad : Bytes) : Except Err Bytes :=
  P.gcmOpen a.key (a.computeNonce seqNum) ciphertext aad

def sessionTicketKeyLen : Nat := 16
def sessionTicketVersion : UInt8 := 3

def errTicketTooShort : Err := .text "tls13gm: session ticket too short"
def errTicketNoKey : Err := .text "tls13gm: no session-ticket encryption key"
def errTicketUndecryptable : Err :=
  .text "tls13gm: session ticket failed to decrypt under every key"

/-- What a ticket carries. Empty application data is nil. -/
structure TicketData where
  psk : Bytes
  ageAdd : UInt32
  appData : Bytes
  deriving DecidableEq

def TicketData.plaintext (d : TicketData) : Bytes :=
  d.psk ++ be32 d.ageAdd.toNat ++ d.appData ++ be32 d.appData.length

def parseTicketPlaintext (pt : Bytes) : Except Err TicketData := do
  let (dataLen, _) ← need errTicketTooShort (u32 (pt.drop (pt.length - 4)))
  reject (pt.length < 8) errTicketTooShort
  reject (pt.length - 8 < dataLen)
    (.text s!"tls13gm: session-ticket app data length {dataLen} overruns plaintext")
  let split := pt.length - 8 - dataLen
  let (ageAdd, rest) ← need errTicketTooShort (u32 (pt.drop split))
  return ⟨pt.take split, UInt32.ofNat ageAdd, rest.take dataLen⟩

def encryptSessionTicketWithData (tek : Bytes) (d : TicketData) (nonce : Except Err Bytes) :
    Except Err Bytes := do
  reject (tek.length ≠ sessionTicketKeyLen)
    (.text s!"tls13gm: session-ticket key must be {sessionTicketKeyLen} bytes, got {tek.length}")
  reject (1048576 < d.appData.length)
    (.text s!"tls13gm: session-ticket app data too large ({d.appData.length} bytes, max 1MiB)")
  let nonce ← wrapErr "tls13gm: session-ticket nonce" nonce
  let aead ← newAEAD P tek nonce
  return sessionTicketVersion :: (nonce ++ aead.seal P 0 d.plaintext [sessionTicketVersion])

/-- A key of another length, or one that does not open the ticket, is passed over. -/
def tryTicketKey (nonce ct tek : Bytes) : Option TicketData :=
  if tek.length ≠ sessionTicketKeyLen then none
  else match newAEAD P tek nonce with
    | .error _ => none
    | .ok aead =>
      match aead.openWith P 0 ct [sessionTicketVersion] with
      | .error _ => none
      | .ok pt => (parseTicketPlaintext pt).toOption

/-- Every key is tried; the first one that works decides. -/
def decryptSessionTicketWithData (teks : List Bytes) (ticket : Bytes) : Except Err TicketData := do
  reject (ticket.length < 1 + 12) errTicketTooShort
  let version := ticket.headD 0
  reject (version ≠ sessionTicketVersion)
    (.text s!"tls13gm: unsupported session ticket version: {version}")
  reject (teks = []) errTicketNoKey
  need errTicketUndecryptable
    (teks.findSome? (tryTicketKey P ((ticket.drop 1).take 12) (ticket.drop 13)))

variable {P}

lemma parseTicketPlaintext_plaintext (d : TicketData) (h : d.appData.length ≤ 1048576) :
    parseTicketPlaintext d.plaintext = .ok d := by
  have hsplit : d.plaintext =
    (d.psk ++ be32 d.ageAdd.toNat ++ d.appData) ++ be32 d.appData.length := rfl
  have hlen : d.plaintext.length = d.psk.length + d.appData.length + 8 := by
    simp only [TicketData.plaintext, List.length_append, be32_length]
    omega
  have hlast : d.plaintext.drop (d.plaintext.length - 4) = be32 d.appData.length ++ [] := by
    rw [List.append_nil, hlen, hsplit]
    exact List.drop_left' (by simp; omega)
  have hfirst : d.plaintext.drop (d.plaintext.length - 8 - d.appData.length) =
      be32 d.ageAdd.toNat ++ (d.appData ++ be32 d.appData.length) := by
    rw [hlen, TicketData.plaintext, List.append_assoc, List.append_assoc]
    exact List.drop_left' (by omega)
  have htake : d.plaintext.take (d.plaintext.length - 8 - d.appData.length) = d.psk := by
    rw [hlen, TicketData.plaintext, List.append_assoc, List.append_assoc]
    exact List.take_left' (by omega)
  simp only [parseTicketPlaintext, hlast]
  rw [u32_be32 _ (by omega)]
  simp only [need_some, ok_bind]
  rw [reject_bind (by omega), reject_bind (by omega), hfirst, htake, u32_be32 _ d.ageAdd.toNat_lt]
  simp only [need_some, ok_bind, pure_ok, List.take_left', UInt32.ofNat_toNat]

variable {tek : Bytes} {d : TicketData}

lemma tryTicketKey_seal (hP : Lawful P) (htek : tek.length = sessionTicketKeyLen)
    (hnonce : nonce.length = 12) (hdata : d.appData.length ≤ 1048576) :
    tryTicketKey P nonce ((AEAD.mk tek nonce).seal P 0 d.plaintext [sessionTicketVersion]) tek =
      some d := by
  have hnew : newAEAD P tek nonce = .ok ⟨tek, nonce⟩ := by
    simp [newAEAD, hnonce, hP.newGCM_ok tek htek]
  simp only [tryTicketKey, htek, ne_eq, not_true_eq_false, if_false, hnew, AEAD.openWith, AEAD.seal,
    hP.open_seal, parseTicketPlaintext_plaintext d hdata]
  rfl

variable {nonce : Except Err Bytes} {ticket : Bytes}

lemma encryptSessionTicket_ok (h : encryptSessionTicketWithData P tek d nonce = .ok ticket) :
    tek.length = sessionTicketKeyLen ∧ d.appData.length ≤ 1048576 ∧ ∃ iv : Bytes, iv.length = 12 ∧
      ticket = sessionTicketVersion ::
        (iv ++ (AEAD.mk tek iv).seal P 0 d.plaintext [sessionTicketVersion]) := by
  simp only [encryptSessionTicketWithData, newAEAD, bind_ok, reject_ok, wrapErr_eq_ok,
    pure_inj] at h
  obtain ⟨_, htek, _, hdata, iv, -, aead, ⟨_, hiv, _, -, rfl⟩, rfl⟩ := h
  exact ⟨Decidable.not_not.mp htek, by omega, iv, Decidable.not_not.mp hiv, rfl⟩

lemma ticket_parts {iv : Bytes} (hiv : iv.length = 12) (version : UInt8) (ct : Bytes) :
    ((version :: (iv ++ ct)).drop 1).take 12 = iv ∧ (version :: (iv ++ ct)).drop 13 = ct :=
  ⟨List.take_left' hiv, List.drop_left' hiv⟩

/-- Keys in front of the sealing key do no harm if they do not open the ticket. -/
lemma decrypt_encrypt (hP : Lawful P) (h : encryptSessionTicketWithData P tek d nonce = .ok ticket)
    (hnewer : ∀ key ∈ newer, tryTicketKey P ((ticket.drop 1).take 12) (ticket.drop 13) key = none) :
    decryptSessionTicketWithData P (newer ++ tek :: older) ticket = .ok d := by
  obtain ⟨htek, hdata, iv, hiv, rfl⟩ := encryptSessionTicket_ok h
  have hopen := tryTicketKey_seal hP htek hiv hdata
  obtain ⟨htake, hdrop⟩ := ticket_parts hiv sessionTicketVersion
    (AEAD.seal P ⟨tek, iv⟩ 0 d.plaintext [sessionTicketVersion])
  rw [htake, hdrop] at hnewer
  have hfirst := List.findSome?_eq_none_iff.mpr hnewer
  simp only [decryptSessionTicketWithData]
  rw [reject_bind (by simp; omega), reject_bind (by simp), reject_bind (by simp), htake, hdrop,
    List.findSome?_append, hfirst, List.findSome?_cons, hopen]
  rfl

/-- Nothing but the sealing key opens what was sealed. -/
def Binding (P : Prims) : Prop :=
  ∀ key key' nonce pt aad out, key.length = sessionTicketKeyLen →
    key'.length = sessionTicketKeyLen →
    P.gcmOpen key' nonce (P.gcmSeal key nonce pt aad) aad = .ok out → key' = key

def Opens (P : Prims) (key ticket : Bytes) : Prop :=
  key.length = sessionTicketKeyLen ∧
    ∃ pt, (AEAD.mk key ((ticket.drop 1).take 12)).openWith P 0 (ticket.drop 13)
      [sessionTicketVersion] = .ok pt

variable {key : Bytes}

lemma tryTicketKey_some {nonce ct : Bytes} (h : tryTicketKey P nonce ct key = some d) :
    key.length = sessionTicketKeyLen ∧ ∃ pt,
      (AEAD.mk key nonce).openWith P 0 ct [sessionTicketVersion] = .ok pt := by
  unfold tryTicketKey at h
  split at h
  · cases h
  rename_i hlen
  split at h
  · cases h
  rename_i aead hnew
  simp only [newAEAD, bind_ok, pure_inj] at hnew
  obtain ⟨_, -, _, -, rfl⟩ := hnew
  split at h
  · cases h
  rename_i pt hopen
  exact ⟨Decidable.not_not.mp hlen, pt, hopen⟩

lemma tryTicketKey_other (hbind : Binding P) {nonce pt : Bytes}
    (htek : tek.length = sessionTicketKeyLen) (hne : key ≠ tek) :
    tryTicketKey P nonce ((AEAD.mk tek nonce).seal P 0 pt [sessionTicketVersion]) key = none := by
  cases htry : tryTicketKey P nonce ((AEAD.mk tek nonce).seal P 0 pt [sessionTicketVersion])
    key with
  | none => rfl
  | some d =>
    obtain ⟨hlen, out, hopen⟩ := tryTicketKey_some htry
    exact absurd (hbind tek key _ pt _ out htek hlen hopen) hne

lemma mem_of_decrypt (hbind : Binding P)
    (h : encryptSessionTicketWithData P tek d nonce = .ok ticket)
    (hopen : decryptSessionTicketWithData P teks ticket = .ok d') : tek ∈ teks := by
  obtain ⟨htek, -, iv, hiv, rfl⟩ := encryptSessionTicket_ok h
  obtain ⟨htake, hdrop⟩ := ticket_parts hiv sessionTicketVersion
    (AEAD.seal P ⟨tek, iv⟩ 0 d.plaintext [sessionTicketVersion])
  simp only [decryptSessionTicketWithData, bind_ok, need_ok] at hopen
  obtain ⟨_, -, _, -, _, -, hfind⟩ := hopen
  rw [htake, hdrop] at hfind
  obtain ⟨key, hmem, hkey⟩ := List.exists_of_findSome?_eq_some hfind
  by_contra hnot
  rw [tryTicketKey_other hbind htek (ne_of_mem_of_not_mem hmem hnot)] at hkey
  cases hkey

/-- A ticket gives back what was put into it under every list of keys that holds its own, and it
gives nothing under a list none of whose keys opens it or with another version. -/
theorem session_ticket_recovered (hP : Lawful P) (hbind : Binding P) :
    (∀ (tek nonce : Bytes) (d : TicketData), tek.length = sessionTicketKeyLen → nonce.length = 12 →
      d.appData.length ≤ 1048576 →
      ∃ ticket, encryptSessionTicketWithData P tek d (.ok nonce) = .ok ticket ∧
        ∀ teks, tek ∈ teks → decryptSessionTicketWithData P teks ticket = .ok d) ∧
    (∀ teks ticket, (∀ key ∈ teks, ¬ Opens P key ticket) →
      ∃ e, decryptSessionTicketWithData P teks ticket = .error e) ∧
    ∀ teks version rest, version ≠ sessionTicketVersion →
      ∃ e, decryptSessionTicketWithData P teks (version :: rest) = .error e := by
  refine ⟨?_, ?_, ?_⟩
  · intro tek nonce d htek hnonce hdata
    have hseal : encryptSessionTicketWithData P tek d (.ok nonce) =
        .ok (sessionTicketVersion ::
          (nonce ++ (AEAD.mk tek nonce).seal P 0 d.plaintext [sessionTicketVersion])) := by
      simp only [encryptSessionTicketWithData, newAEAD, wrapErr_ok, hP.newGCM_ok tek htek, ok_bind,
        pure_ok]
      rw [reject_bind (not_not.mpr htek), reject_bind (by omega), reject_neg (not_not.mpr hnonce)]
      rfl
    refine ⟨_, hseal, ?_⟩
    intro teks hmem
    -- no key in front of the first occurrence of the sealing key opens the ticket
    obtain ⟨newer, older, rfl, hnot⟩ := List.eq_append_cons_of_mem hmem
    apply decrypt_encrypt hP hseal
    intro key hkey
    obtain ⟨htake, hdrop⟩ := ticket_parts hnonce sessionTicketVersion
      (AEAD.seal P ⟨tek, nonce⟩ 0 d.plaintext [sessionTicketVersion])
    rw [htake, hdrop]
    exact tryTicketKey_other hbind htek (ne_of_mem_of_not_mem hkey hnot)
  · intro teks ticket hnone
    cases h : decryptSessionTicketWithData P teks ticket with
    | error e => exact ⟨e, rfl⟩
    | ok d =>
      simp only [decryptSessionTicketWithData, bind_ok, need_ok] at h
      obtain ⟨_, -, _, -, _, -, hfind⟩ := h
      obtain ⟨key, hmem, hkey⟩ := List.exists_of_findSome?_eq_some hfind
      exact absurd (tryTicketKey_some hkey) (hnone key hmem)
  · intro teks version rest hversion
    cases h : decryptSessionTicketWithData P teks (version :: rest) with
    | error e => exact ⟨e, rfl⟩
    | ok d =>
      simp only [decryptSessionTicketWithData, bind_ok, reject_ok] at h
      obtain ⟨_, -, _, hsame, -⟩ := h
      exact absurd hversion hsame

def keyedPrims : Prims :=
  { toyPrims with
    gcmSeal := fun key _ pt _ => key ++ pt
    gcmOpen := fun key _ ct _ => if ct.take key.length = key then .ok (ct.drop key.length)
      else .error toyFail }

lemma keyedPrims_lawful : Lawful keyedPrims where
  sm3_length := toyPrims_lawful.sm3_length
  hmac_length := toyPrims_lawful.hmac_length
  extract_ok := toyPrims_lawful.extract_ok
  expand_ok := toyPrims_lawful.expand_ok
  marshal_length := toyPrims_lawful.marshal_length
  unmarshal_marshal := toyPrims_lawful.unmarshal_marshal
  ecdh_ok := toyPrims_lawful.ecdh_ok
  ecdh_comm := toyPrims_lawful.ecdh_comm
  sign_ok := toyPrims_lawful.sign_ok
  verify_sign := toyPrims_lawful.verify_sign
  newGCM_ok := toyPrims_lawful.newGCM_ok
  newCipher_ok := toyPrims_lawful.newCipher_ok
  open_seal key nonce pt aad := by simp [keyedPrims]

lemma keyedPrims_binding : Binding keyedPrims := by
  intro key key' nonce pt aad out hkey hkey' h
  simp only [keyedPrims] at h
  split at h
  · rename_i hsame
    rw [← hsame, hkey', ← hkey, List.take_left]
  · cases h

theorem session_ticket_recovered_sample :
    ∃ ticket, encryptSessionTicketWithData keyedPrims (zeros 16) ⟨[1, 2, 3], 7, []⟩
      (.ok (zeros 12)) = .ok ticket ∧
      decryptSessionTicketWithData keyedPrims [[5], List.replicate 16 9, zeros 16] ticket =
        .ok ⟨[1, 2, 3], 7, []⟩ ∧
      ∃ e, decryptSessionTicketWithData keyedPrims [zeros 16] (2 :: ticket.drop 1) = .error e := by
  obtain ⟨hrecover, -, hversion⟩ := session_ticket_recovered keyedPrims_lawful keyedPrims_binding
  obtain ⟨ticket, hseal, hopen⟩ :=
    hrecover (zeros 16) (zeros 12) ⟨[1, 2, 3], 7, []⟩ rfl rfl (by decide)
  exact ⟨ticket, hseal, hopen _ (by decide), hversion _ 2 _ (by decide)⟩

end Pollux.Tls
