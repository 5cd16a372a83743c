import PolluxGM.Payloads

/-!
# Handshake messages

Embedding of `message.go` and of the `message_*.go` codecs. A written body is read back, and an
accepted body is the written form of the message read from it.
-/
namespace Pollux.Tls

/-- `fmt.Errorf("context: %w", err)`. -/
def wrapErr {α : Type} (context : String) : Except Err α → Except Err α
  | .ok a => .ok a
  | .error e => .error (.wrap context e)

variable {α : Type}

@[simp] lemma wrapErr_eq_ok (context : String) (x : Except Err α) (a : α) :
    wrapErr context x = .ok a ↔ x = .ok a := by
  cases x <;> simp [wrapErr]

@[simp] lemma wrapErr_ok (context : String) (a : α) : wrapErr context (.ok a) = .ok a := rfl

/-- Type octet, three-octet length, body. -/
def frame (msgType : UInt8) (body : Bytes) : Bytes := msgType :: (be24 body.length ++ body)

def marshalHandshakeMessage (msgType : UInt8) (marshalBody : Except Err Bytes) :
    Except Err Bytes := do
  let body ← marshalBody
  reject (maxHandshakeMessageLen < body.length)
    (.text s!"tls13gm: handshake {msgType} message body length {body.length} exceeds maximum")
  return frame msgType body

def readHandshakeMessage (b : Bytes) : Except Err (UInt8 × Bytes × Nat) :=
  match b with
  | msgType :: x :: y :: z :: r =>
    let bodyLen := x.toNat * 65536 + y.toNat * 256 + z.toNat
    if r.length < bodyLen then
      .error (.text s!"tls13gm: truncated handshake type {msgType} body (declared {bodyLen}, have {r.length})")
    else .ok (msgType, r.take bodyLen, 4 + bodyLen)
  | _ => .error (.text s!"tls13gm: truncated handshake header (have {b.length} bytes)")

@[simp] lemma frame_length (t : UInt8) (body : Bytes) :
    (frame t body).length = 4 + body.length := by
  simp only [frame, List.length_cons, List.length_append, be24_length]
  omega

@[simp] lemma frame_drop (t : UInt8) (body : Bytes) : (frame t body).drop 4 = body := rfl

variable {t : UInt8}

lemma marshalHandshakeMessage_ok :
    marshalHandshakeMessage t x = .ok full ↔
      ∃ body, x = .ok body ∧ body.length ≤ maxHandshakeMessageLen ∧ full = frame t body := by
  simp only [marshalHandshakeMessage, bind_ok, reject_ok, pure_inj]
  constructor
  · rintro ⟨body, hx, _, hlen, rfl⟩
    exact ⟨body, hx, by omega, rfl⟩
  · rintro ⟨body, hx, hlen, rfl⟩
    exact ⟨body, hx, (), by omega, rfl⟩

lemma readHandshakeMessage_frame (t : UInt8) (body r : Bytes)
    (h : body.length ≤ maxHandshakeMessageLen) :
    readHandshakeMessage (frame t body ++ r) = .ok (t, body, 4 + body.length) := by
  have hlen : body.length < 16777216 := by
    simp only [maxHandshakeMessageLen] at h
    omega
  have hu := u24_be24 body.length hlen (body ++ r)
  simp only [be24, List.cons_append, List.nil_append, u24, Option.some.injEq, Prod.mk.injEq,
    and_true] at hu
  simp only [frame, be24, List.cons_append, List.nil_append, readHandshakeMessage, hu]
  simp

variable {b body : Bytes}

lemma readHandshakeMessage_ok (h : readHandshakeMessage b = .ok (t, body, n)) :
    n = 4 + body.length ∧ body.length ≤ maxHandshakeMessageLen ∧ b = frame t body ++ b.drop n := by
  unfold readHandshakeMessage at h
  split at h
  · rename_i msgType x y z r
    dsimp only at h
    split at h
    · cases h
    · rename_i hr
      simp only [Except.ok.injEq, Prod.mk.injEq] at h
      obtain ⟨rfl, rfl, rfl⟩ := h
      obtain ⟨hxyz, hlt⟩ := u24_some (b := x :: y :: z :: r) rfl
      have hlen : (r.take (x.toNat * 65536 + y.toNat * 256 + z.toNat)).length =
          x.toNat * 65536 + y.toNat * 256 + z.toNat := by simp; omega
      refine ⟨by rw [hlen], by rw [hlen]; simp only [maxHandshakeMessageLen]; omega, ?_⟩
      simp only [frame, hlen, List.cons_append, List.append_assoc, Nat.add_comm 4,
        List.drop_succ_cons, List.take_append_drop]
      rw [← hxyz]
  · cases h

lemma readHandshakeMessage_whole (h : readHandshakeMessage b = .ok (t, body, b.length)) :
    b = frame t body := by
  obtain ⟨-, -, hb⟩ := readHandshakeMessage_ok h
  simpa using hb

/-! ## Hello messages

Both hellos start with the legacy version, the random and the echoed session id. -/

def helloHead (legacyVersion : UInt16) (random : Random) (sessionID : Bytes) : Bytes :=
  be16 legacyVersion.toNat ++ random.bytes ++ (UInt8.ofNat sessionID.length :: sessionID)

/-- `name` is the message the error texts speak of. -/
def parseHelloHead (name : String) (b : Bytes) : Except Err (UInt16 × Random × Bytes × Bytes) := do
  let truncated := Err.text s!"tls13gm: {name} truncated before session id"
  let (version, r) ← need truncated (u16 b)
  let (random, r) ← need truncated (chunk 32 r)
  reject (version < 0x0301 ∨ 0x0304 < version)
    (.text s!"tls13gm: {name} legacy_version {hex version} outside TLS legacy range")
  let (sidLen, r) ← need (.text s!"tls13gm: {name} truncated at session id length") (u8 r)
  reject (r.length < sidLen ∨ 32 < sidLen)
    (.text s!"tls13gm: {name} legacy_session_id length {sidLen} out of range")
  return (UInt16.ofNat version, Random.copy random, r.take sidLen, r.drop sidLen)

def parseTrailingExtensions (name : String) (r : Bytes) : Except Err (List Extension) := do
  let (exts, n) ← wrapErr s!"tls13gm: {name} extensions" (parseExtensions r)
  reject (n ≠ r.length) (.text s!"tls13gm: {name} has {r.length - n} trailing bytes")
  return exts

structure ClientHelloMsg where
  legacyVersion : UInt16
  random : Random
  legacySessionID : Bytes
  cipherSuites : List UInt16
  extensions : List Extension
  deriving DecidableEq

def encodeCipherSuites (suites : List UInt16) : Bytes := suites.flatMap fun c => be16 c.toNat

def ClientHelloMsg.marshalBody (m : ClientHelloMsg) : Except Err Bytes := do
  reject (32 < m.legacySessionID.length)
    (.text s!"tls13gm: ClientHello legacy_session_id length {m.legacySessionID.length} exceeds 32")
  let exts ← wrapErr "tls13gm: ClientHello extensions" (marshalExtensions m.extensions)
  return helloHead m.legacyVersion m.random m.legacySessionID ++
    (be16 (2 * m.cipherSuites.length) ++ (encodeCipherSuites m.cipherSuites ++ (1 :: 0 :: exts)))

def hexByte (b : UInt8) : String :=
  String.ofList [Nat.digitChar (b.toNat / 16), Nat.digitChar (b.toNat % 16)]

def ClientHelloMsg.unmarshalBody (b : Bytes) : Except Err ClientHelloMsg := do
  let (version, random, sid, r) ← parseHelloHead "ClientHello" b
  let (csLen, r) ← need (.text "tls13gm: ClientHello truncated at cipher suites length") (u16 r)
  reject (csLen = 0)
    (.text "tls13gm: ClientHello cipher_suites list is empty (RFC 8446 §4.1.2 requires at least one)")
  reject (csLen % 2 ≠ 0 ∨ r.length < csLen)
    (.text s!"tls13gm: ClientHello cipher suites length {csLen} out of range")
  let suites := (pairs (r.take csLen)).map UInt16.ofNat
  let (cmLen, r) ← need (.text "tls13gm: ClientHello truncated at compression methods")
    (u8 (r.drop csLen))
  reject (r.length < cmLen ∨ cmLen < 1)
    (.text s!"tls13gm: ClientHello compression methods length {cmLen} out of range")
  reject (cmLen ≠ 1 ∨ r.head? ≠ some 0)
    (.text ("tls13gm: ClientHello compression_methods must be exactly [0x00] per RFC 8446 §4.1.2 "
      ++ s!"(got {cmLen} bytes starting with 0x{hexByte (r.headD 0)})"))
  let exts ← parseTrailingExtensions "ClientHello" (r.drop cmLen)
  return ⟨version, random, sid, suites, exts⟩

structure ServerHelloMsg where
  legacyVersion : UInt16
  random : Random
  legacySessionID : Bytes
  cipherSuite : UInt16
  extensions : List Extension
  deriving DecidableEq

def ServerHelloMsg.marshalBody (m : ServerHelloMsg) : Except Err Bytes := do
  reject (32 < m.legacySessionID.length)
    (.text s!"tls13gm: ServerHello legacy_session_id length {m.legacySessionID.length} exceeds 32")
  let exts ← wrapErr "tls13gm: ServerHello extensions" (marshalExtensions m.extensions)
  return helloHead m.legacyVersion m.random m.legacySessionID ++
    (be16 m.cipherSuite.toNat ++ (0 :: exts))

def ServerHelloMsg.unmarshalBody (b : Bytes) : Except Err ServerHelloMsg := do
  let truncated := Err.text "tls13gm: ServerHello truncated at cipher suite / compression"
  let (version, random, sid, r) ← parseHelloHead "ServerHello" b
  let (suite, r) ← need truncated (u16 r)
  let (compression, r) ← need truncated (u8 r)
  reject (compression ≠ 0)
    (.text s!"tls13gm: ServerHello legacy_compression_method {hex compression} is not null")
  let exts ← parseTrailingExtensions "ServerHello" r
  return ⟨version, random, sid, UInt16.ofNat suite, exts⟩

structure EncryptedExtensionsMsg where
  extensions : List Extension
  deriving DecidableEq

def EncryptedExtensionsMsg.marshalBody (m : EncryptedExtensionsMsg) : Except Err Bytes :=
  wrapErr "EncryptedExtensions" (marshalExtensions m.extensions)

def EncryptedExtensionsMsg.unmarshalBody (b : Bytes) : Except Err EncryptedExtensionsMsg := do
  let (exts, n) ← wrapErr "EncryptedExtensions" (parseExtensions b)
  reject (n ≠ b.length) (.text s!"tls13gm: EncryptedExtensions has {b.length - n} trailing bytes")
  return ⟨exts⟩

structure CertificateEntry where
  certificate : Bytes
  extensions : List Extension
  deriving DecidableEq

structure CertificateMsg where
  certificateRequestContext : Bytes
  certificateList : List CertificateEntry
  deriving DecidableEq

def marshalEntries : List CertificateEntry → Except Err Bytes
  | [] => .ok []
  | e :: es => do
    reject (e.certificate = [] ∨ maxHandshakeMessageLen < e.certificate.length)
      (.text s!"tls13gm: certificate length {e.certificate.length} invalid (cert_data must be 1..2^24-1)")
    let exts ← wrapErr "tls13gm: certificate entry extensions" (marshalExtensions e.extensions)
    let rest ← marshalEntries es
    return be24 e.certificate.length ++ (e.certificate ++ (exts ++ rest))

def CertificateMsg.marshalBody (m : CertificateMsg) : Except Err Bytes := do
  let context := m.certificateRequestContext
  reject (255 < context.length)
    (.text s!"tls13gm: Certificate context length {context.length} exceeds 255")
  let list ← marshalEntries m.certificateList
  reject (maxHandshakeMessageLen < list.length)
    (.text s!"tls13gm: certificate_list length {list.length} exceeds maximum")
  return UInt8.ofNat context.length :: (context ++ (be24 list.length ++ list))

def parseEntries : Nat → Bytes → Except Err (List CertificateEntry)
  | 0, _ => .ok []
  | fuel + 1, p =>
    if p = [] then .ok []
    else do
      let (certLen, r) ← need (.text "tls13gm: Certificate entry truncated at cert length") (u24 p)
      reject (r.length < certLen ∨ certLen = 0)
        (.text s!"tls13gm: Certificate entry cert length {certLen} out of range")
      let (exts, n) ← wrapErr "tls13gm: Certificate entry extensions"
        (parseExtensions (r.drop certLen))
      let es ← parseEntries fuel ((r.drop certLen).drop n)
      return ⟨r.take certLen, exts⟩ :: es

def CertificateMsg.unmarshalBody (b : Bytes) : Except Err CertificateMsg := do
  let (ctxLen, r) ← need (.text "tls13gm: Certificate truncated at context length") (u8 b)
  reject (255 < ctxLen) (.text s!"tls13gm: Certificate context length {ctxLen} exceeds 255")
  reject (r.length < ctxLen) (.text s!"tls13gm: Certificate context length {ctxLen} out of range")
  let context := r.take ctxLen
  let (listLen, r) ← need (.text "tls13gm: Certificate truncated at list length")
    (u24 (r.drop ctxLen))
  reject (r.length < listLen) (.text s!"tls13gm: Certificate list length {listLen} out of range")
  let entries ← parseEntries listLen (r.take listLen)
  reject (listLen ≠ r.length)
    (.text s!"tls13gm: Certificate has {r.length - listLen} trailing bytes")
  return ⟨context, entries⟩

structure CertificateVerifyMsg where
  signatureScheme : UInt16
  signature : Bytes
  deriving DecidableEq

def CertificateVerifyMsg.marshalBody (m : CertificateVerifyMsg) : Except Err Bytes := do
  reject (0xFFFF < m.signature.length)
    (.text s!"tls13gm: CertificateVerify signature length {m.signature.length} exceeds 16 bits")
  return be16 m.signatureScheme.toNat ++ be16 m.signature.length ++ m.signature

def CertificateVerifyMsg.unmarshalBody (b : Bytes) : Except Err CertificateVerifyMsg := do
  let (scheme, sigLen, r) ←
    need (.text s!"tls13gm: CertificateVerify truncated (have {b.length} bytes)") (tagLength b)
  reject (sigLen ≠ r.length)
    (.text s!"tls13gm: CertificateVerify signature length {sigLen} does not match body length {r.length}")
  return ⟨UInt16.ofNat scheme, r⟩

structure FinishedMsg where
  verifyData : Bytes
  deriving DecidableEq

def finishedLengthErr (n : Nat) : Err :=
  .text s!"tls13gm: Finished verify_data length {n} != Hash.length ({sm3Size})"

def FinishedMsg.marshalBody (m : FinishedMsg) : Except Err Bytes := do
  reject (m.verifyData.length ≠ sm3Size) (finishedLengthErr m.verifyData.length)
  return m.verifyData

def FinishedMsg.unmarshalBody (b : Bytes) : Except Err FinishedMsg := do
  reject (b.length ≠ sm3Size) (finishedLengthErr b.length)
  return ⟨b⟩

structure NewSessionTicketMsg where
  ticketLifetime : UInt32
  ticketAgeAdd : UInt32
  ticketNonce : Bytes
  ticket : Bytes
  extensions : List Extension
  deriving DecidableEq

def NewSessionTicketMsg.marshalBody (m : NewSessionTicketMsg) : Except Err Bytes := do
  reject (0xFF < m.ticketNonce.length)
    (.text s!"tls13gm: NewSessionTicket ticket_nonce length {m.ticketNonce.length} exceeds 255")
  reject (m.ticket = []) (.text "tls13gm: NewSessionTicket ticket is empty")
  reject (0xFFFF < m.ticket.length)
    (.text s!"tls13gm: NewSessionTicket ticket length {m.ticket.length} exceeds 16 bits")
  let exts ← wrapErr "tls13gm: NewSessionTicket extensions" (marshalExtensions m.extensions)
  return be32 m.ticketLifetime.toNat ++ (be32 m.ticketAgeAdd.toNat ++
    (UInt8.ofNat m.ticketNonce.length :: (m.ticketNonce ++
      (be16 m.ticket.length ++ (m.ticket ++ exts)))))

def NewSessionTicketMsg.unmarshalBody (b : Bytes) : Except Err NewSessionTicketMsg := do
  let truncated := Err.text "tls13gm: NewSessionTicket truncated before nonce"
  let (lifetime, r) ← need truncated (u32 b)
  let (ageAdd, r) ← need truncated (u32 r)
  let (nonceLen, r) ← need (.text "tls13gm: NewSessionTicket truncated at nonce length") (u8 r)
  reject (r.length < nonceLen)
    (.text s!"tls13gm: NewSessionTicket nonce length {nonceLen} out of range")
  let nonce := r.take nonceLen
  let (ticketLen, r) ←
    need (.text "tls13gm: NewSessionTicket truncated at ticket length") (u16 (r.drop nonceLen))
  reject (ticketLen = 0 ∨ r.length < ticketLen)
    (.text s!"tls13gm: NewSessionTicket ticket length {ticketLen} out of range")
  let exts ← parseTrailingExtensions "NewSessionTicket" (r.drop ticketLen)
  return ⟨UInt32.ofNat lifetime, UInt32.ofNat ageAdd, nonce, r.take ticketLen, exts⟩

def LegacyRange (v : UInt16) : Prop := 0x0301 ≤ v.toNat ∧ v.toNat ≤ 0x0304

lemma parseHelloHead_head (name : String) (v : UInt16) (random : Random) (sid r : Bytes)
    (hv : LegacyRange v) (hsid : sid.length ≤ 32) :
    parseHelloHead name (helloHead v random sid ++ r) = .ok (v, random, sid, r) := by
  simp only [parseHelloHead, helloHead, List.append_assoc, List.cons_append]
  rw [u16_be16 _ (toNat_lt16 v)]
  simp only [need_some, ok_bind]
  rw [chunk_append random.length_eq]
  simp only [need_some, ok_bind]
  rw [reject_bind (by have := hv.1; have := hv.2; omega), u8_cons _ (by omega)]
  simp only [need_some, ok_bind]
  rw [reject_bind (by simp; omega)]
  simp

variable {name : String} {r : Bytes}

lemma parseHelloHead_ok (h : parseHelloHead name b = .ok (v, random, sid, r)) :
    b = helloHead v random sid ++ r ∧ LegacyRange v ∧ sid.length ≤ 32 := by
  simp only [parseHelloHead, bind_ok, need_ok, reject_ok, pure_inj,
    Prod.mk.injEq] at h
  obtain ⟨⟨version, r₁⟩, hu, ⟨rnd, r₂⟩, hchunk, _, hv,
    ⟨sidLen, r₃⟩, hsid, _, hlen, rfl, rfl, rfl, rfl⟩ := h
  dsimp only at hu hchunk hv hsid hlen
  obtain ⟨rfl, hver⟩ := u16_some hu
  obtain ⟨rfl, hrnd⟩ := chunk_some hchunk
  obtain ⟨rfl, -⟩ := u8_some hsid
  have htake : (r₃.take sidLen).length = sidLen := by simp; omega
  dsimp only
  refine ⟨?_, ⟨?_, ?_⟩, by omega⟩
  · simp only [helloHead, toNat_ofNat16 _ hver, Random.bytes_copy _ hrnd, htake, List.append_assoc,
      List.cons_append, List.take_append_drop]
  · rw [toNat_ofNat16 _ hver]; omega
  · rw [toNat_ofNat16 _ hver]; omega

variable {exts : List Extension}

lemma parseTrailing_marshal (name : String) (h : marshalExtensions exts = .ok v) :
    parseTrailingExtensions name v = .ok exts := by
  have hparse := parseExtensions_marshal h []
  rw [List.append_nil] at hparse
  simp only [parseTrailingExtensions, hparse, wrapErr_ok, ok_bind]
  rw [reject_neg (by simp)]
  rfl

lemma parseTrailing_ok (h : parseTrailingExtensions name r = .ok exts) :
    marshalExtensions exts = .ok r := by
  simp only [parseTrailingExtensions, bind_ok, wrapErr_eq_ok, reject_ok, pure_inj] at h
  obtain ⟨⟨exts', n⟩, hparse, _, hn, rfl⟩ := h
  obtain ⟨v, hv, rfl, hr⟩ := parseExtensions_ok hparse
  have hlen : v.length = r.length := by simpa using hn
  rw [hlen, List.drop_length, List.append_nil] at hr
  rw [hv, hr]

lemma pairs_encode (suites : List UInt16) :
    (pairs (encodeCipherSuites suites)).map UInt16.ofNat = suites := by
  induction suites with
  | nil => rfl
  | cons c cs ih =>
    have hc : (UInt8.ofNat (c.toNat / 256)).toNat * 256 + (UInt8.ofNat c.toNat).toNat =
      c.toNat := by
      have := toNat_lt16 c
      simp only [UInt8.toNat_ofNat']
      omega
    simp only [encodeCipherSuites, List.flatMap_cons, be16, List.cons_append, List.nil_append,
      pairs, List.map_cons, hc, UInt16.ofNat_toNat]
    exact congrArg _ ih

lemma encode_pairs (p : Bytes) (h : p.length % 2 = 0) :
    encodeCipherSuites ((pairs p).map UInt16.ofNat) = p := by
  induction p using pairs.induct with
  | case1 a b r ih =>
    have ha := byte_lt a
    have hb := byte_lt b
    simp only [List.length_cons] at h
    simp only [pairs, List.map_cons, encodeCipherSuites, List.flatMap_cons, be16,
      List.cons_append, List.nil_append]
    rw [toNat_ofNat16 _ (by omega), byte_of_toNat a _ (by omega), byte_of_toNat b _ (by omega)]
    exact congrArg (fun t => a :: b :: t) (ih (by omega))
  | case2 p hp =>
    cases p with
    | nil => rfl
    | cons a t =>
      cases t with
      | nil => simp at h
      | cons b r => exact absurd rfl (hp a b r)

@[simp] lemma encodeCipherSuites_length (suites : List UInt16) :
    (encodeCipherSuites suites).length = 2 * suites.length := by
  induction suites with
  | nil => rfl
  | cons c cs ih =>
    simp only [encodeCipherSuites, List.flatMap_cons, List.length_append, be16_length,
      List.length_cons] at ih ⊢
    omega

structure ClientHelloMsg.WellFormed (m : ClientHelloMsg) : Prop where
  version : LegacyRange m.legacyVersion
  suites_ne : m.cipherSuites ≠ []
  suites_fit : 2 * m.cipherSuites.length ≤ 0xFFFF

variable {m : ClientHelloMsg}

lemma ClientHelloMsg.marshalBody_ok :
    m.marshalBody = .ok b ↔ m.legacySessionID.length ≤ 32 ∧ ∃ v,
      marshalExtensions m.extensions = .ok v ∧
      b = helloHead m.legacyVersion m.random m.legacySessionID ++
        (be16 (2 * m.cipherSuites.length) ++
          (encodeCipherSuites m.cipherSuites ++ (1 :: 0 :: v))) := by
  simp only [ClientHelloMsg.marshalBody, bind_ok, wrapErr_eq_ok, reject_ok, pure_inj]
  constructor
  · rintro ⟨_, hsid, v, hv, rfl⟩
    exact ⟨by omega, v, hv, rfl⟩
  · rintro ⟨hsid, v, hv, rfl⟩
    exact ⟨(), by omega, v, hv, rfl⟩

lemma ClientHelloMsg.unmarshal_marshal (hm : m.WellFormed) (h : m.marshalBody = .ok b) :
    ClientHelloMsg.unmarshalBody b = .ok m := by
  obtain ⟨hsid, v, hv, rfl⟩ := marshalBody_ok.mp h
  have hpos : m.cipherSuites.length ≠ 0 := by simpa using hm.suites_ne
  have hfit := hm.suites_fit
  simp only [ClientHelloMsg.unmarshalBody, parseHelloHead_head _ _ _ _ _ hm.version hsid, ok_bind]
  rw [u16_be16 _ (by omega)]
  simp only [need_some, ok_bind]
  rw [reject_bind (by omega), reject_bind (by simp),
    List.take_left' (by simp), List.drop_left' (by simp), pairs_encode]
  simp only [u8, need_some, ok_bind]
  rw [reject_bind (by simp), reject_bind (by simp)]
  simp only [UInt8.toNat_one, List.drop_succ_cons, List.drop_zero, parseTrailing_marshal _ hv,
    ok_bind, pure_ok]

lemma ClientHelloMsg.marshal_unmarshal (h : ClientHelloMsg.unmarshalBody b = .ok m) :
    m.marshalBody = .ok b ∧ m.WellFormed := by
  simp only [ClientHelloMsg.unmarshalBody, bind_ok, need_ok, reject_ok, pure_inj] at h
  obtain ⟨⟨version, random, sid, r⟩, hhead, ⟨csLen, r₁⟩, hcs, _, hne, _, heven, ⟨cmLen, r₂⟩, hcm,
    _, hcmLen, _, hnull, exts, hexts, rfl⟩ := h
  dsimp only at hcs hne heven hcm hcmLen hnull hexts
  obtain ⟨rfl, hv, hsid⟩ := parseHelloHead_ok hhead
  obtain ⟨rfl, hcsLen⟩ := u16_some hcs
  obtain ⟨hdrop, -⟩ := u8_some hcm
  have htake : (r₁.take csLen).length = csLen := by simp; omega
  have henc := encode_pairs (r₁.take csLen) (by omega)
  have hcount : 2 * ((pairs (r₁.take csLen)).map UInt16.ofNat).length = csLen := by
    rw [← encodeCipherSuites_length, henc, htake]
  have hone : cmLen = 1 := by omega
  subst hone
  have hzero : r₂ = 0 :: r₂.drop 1 := by
    cases r₂ with
    | nil => simp at hcmLen
    | cons x t => simpa using hnull
  dsimp only
  refine ⟨marshalBody_ok.mpr ⟨hsid, _, parseTrailing_ok hexts, ?_⟩, hv, ?_, by dsimp only; omega⟩
  · have hr₁ : r₁ = r₁.take csLen ++ (1 :: 0 :: r₂.drop 1) := by
      rw [← hzero]
      exact (List.take_append_drop csLen r₁).symm.trans (by rw [hdrop]; rfl)
    simp only [hcount, henc, ← hr₁]
  · intro hnil
    dsimp only at hnil
    rw [hnil] at hcount
    simp at hcount
    omega

lemma ServerHelloMsg.marshalBody_ok {m : ServerHelloMsg} :
    m.marshalBody = .ok b ↔ m.legacySessionID.length ≤ 32 ∧ ∃ v,
      marshalExtensions m.extensions = .ok v ∧
      b = helloHead m.legacyVersion m.random m.legacySessionID ++
        (be16 m.cipherSuite.toNat ++ (0 :: v)) := by
  simp only [ServerHelloMsg.marshalBody, bind_ok, wrapErr_eq_ok, reject_ok, pure_inj]
  constructor
  · rintro ⟨_, hsid, v, hv, rfl⟩
    exact ⟨by omega, v, hv, rfl⟩
  · rintro ⟨hsid, v, hv, rfl⟩
    exact ⟨(), by omega, v, hv, rfl⟩

lemma ServerHelloMsg.unmarshal_marshal {m : ServerHelloMsg} (hv : LegacyRange m.legacyVersion)
    (h : m.marshalBody = .ok b) :
    ServerHelloMsg.unmarshalBody b = .ok m := by
  obtain ⟨hsid, v, hexts, rfl⟩ := marshalBody_ok.mp h
  simp only [ServerHelloMsg.unmarshalBody, parseHelloHead_head _ _ _ _ _ hv hsid, ok_bind]
  rw [u16_be16 _ (toNat_lt16 _)]
  simp only [need_some, ok_bind, u8]
  rw [reject_neg (by simp)]
  simp only [parseTrailing_marshal _ hexts, ok_bind, pure_ok, UInt16.ofNat_toNat]

lemma ServerHelloMsg.marshal_unmarshal {m : ServerHelloMsg}
    (h : ServerHelloMsg.unmarshalBody b = .ok m) :
    m.marshalBody = .ok b ∧ LegacyRange m.legacyVersion := by
  simp only [ServerHelloMsg.unmarshalBody, bind_ok, need_ok, reject_ok, pure_inj] at h
  obtain ⟨⟨version, random, sid, r⟩, hhead, ⟨suite, r₁⟩, hs, ⟨compression, r₂⟩, hc, _, hnull, exts,
    hexts, rfl⟩ := h
  dsimp only at hs hc hnull hexts
  obtain ⟨rfl, hv, hsid⟩ := parseHelloHead_ok hhead
  obtain ⟨rfl, hsuite⟩ := u16_some hs
  obtain ⟨rfl, -⟩ := u8_some hc
  have hzero : compression = 0 := by simpa using hnull
  subst hzero
  dsimp only
  refine ⟨marshalBody_ok.mpr ⟨hsid, _, parseTrailing_ok hexts, ?_⟩, hv⟩
  simp only [toNat_ofNat16 _ hsuite]
  rfl

lemma EncryptedExtensionsMsg.unmarshal_marshal {m : EncryptedExtensionsMsg}
    (h : m.marshalBody = .ok b) :
    EncryptedExtensionsMsg.unmarshalBody b = .ok m := by
  simp only [EncryptedExtensionsMsg.marshalBody, wrapErr_eq_ok] at h
  have hparse := parseExtensions_marshal h []
  rw [List.append_nil] at hparse
  simp only [EncryptedExtensionsMsg.unmarshalBody, hparse, wrapErr_ok, ok_bind]
  rw [reject_neg (by simp)]
  rfl

lemma EncryptedExtensionsMsg.marshal_unmarshal {m : EncryptedExtensionsMsg}
    (h : EncryptedExtensionsMsg.unmarshalBody b = .ok m) : m.marshalBody = .ok b := by
  simp only [EncryptedExtensionsMsg.unmarshalBody, bind_ok, wrapErr_eq_ok, reject_ok, pure_inj] at h
  obtain ⟨⟨exts, n⟩, hparse, _, hn, rfl⟩ := h
  have htrailing : parseTrailingExtensions "" b = .ok exts := by
    simp only [parseTrailingExtensions, hparse, wrapErr_ok, ok_bind]
    rw [reject_neg hn]
    rfl
  simp only [EncryptedExtensionsMsg.marshalBody, parseTrailing_ok htrailing, wrapErr_ok]

lemma CertificateVerifyMsg.unmarshal_marshal {m : CertificateVerifyMsg}
    (h : m.marshalBody = .ok b) : CertificateVerifyMsg.unmarshalBody b = .ok m := by
  simp only [CertificateVerifyMsg.marshalBody, bind_ok, reject_ok, pure_inj] at h
  obtain ⟨_, hlen, rfl⟩ := h
  have htag := tagLength_encode ⟨m.signatureScheme, m.signature⟩ (by dsimp only; omega) []
  simp only [Extension.encode, List.append_nil] at htag
  simp only [CertificateVerifyMsg.unmarshalBody, htag, need_some, ok_bind]
  rw [reject_neg (by simp)]
  simp

lemma CertificateVerifyMsg.marshal_unmarshal {m : CertificateVerifyMsg}
    (h : CertificateVerifyMsg.unmarshalBody b = .ok m) :
    m.marshalBody = .ok b := by
  simp only [CertificateVerifyMsg.unmarshalBody, bind_ok, need_ok, reject_ok, pure_inj] at h
  obtain ⟨⟨scheme, sigLen, r⟩, htag, _, hlen, rfl⟩ := h
  dsimp only at hlen ⊢
  obtain ⟨rfl, hscheme, hsig⟩ := tagLength_some htag
  have hr : sigLen = r.length := by simpa using hlen
  subst hr
  simp only [CertificateVerifyMsg.marshalBody, toNat_ofNat16 _ hscheme]
  rw [reject_neg (by omega)]
  rfl

lemma FinishedMsg.unmarshal_marshal {m : FinishedMsg} (h : m.marshalBody = .ok b) :
    FinishedMsg.unmarshalBody b = .ok m ∧ b = m.verifyData := by
  simp only [FinishedMsg.marshalBody, bind_ok, reject_ok, pure_inj] at h
  obtain ⟨_, hlen, rfl⟩ := h
  refine ⟨?_, rfl⟩
  simp only [FinishedMsg.unmarshalBody]
  rw [reject_neg hlen]
  rfl

lemma FinishedMsg.unmarshalBody_ok {m : FinishedMsg} :
    FinishedMsg.unmarshalBody b = .ok m ↔ b.length = sm3Size ∧ b = m.verifyData := by
  obtain ⟨v⟩ := m
  simp [FinishedMsg.unmarshalBody, bind_ok]

structure CertificateEntry.Writes (e : CertificateEntry) (b : Bytes) : Prop where
  cert_ne : e.certificate ≠ []
  cert_fits : e.certificate.length ≤ maxHandshakeMessageLen
  form : ∃ v, marshalExtensions e.extensions = .ok v ∧ b = be24 e.certificate.length ++
    (e.certificate ++ v)

lemma marshalEntries_cons :
    marshalEntries (e :: es) = .ok b ↔
      ∃ x rest, e.Writes x ∧ marshalEntries es = .ok rest ∧ b = x ++ rest := by
  simp only [marshalEntries, bind_ok, wrapErr_eq_ok, reject_ok, pure_inj]
  constructor
  · rintro ⟨_, hcert, v, hv, rest, hrest, rfl⟩
    refine ⟨_, rest, ⟨?_, ?_, v, hv, rfl⟩, hrest, by simp⟩
    · exact fun h => hcert (.inl h)
    · exact Nat.le_of_not_lt fun h => hcert (.inr h)
  · rintro ⟨_, rest, ⟨hne, hfit, v, hv, rfl⟩, hrest, rfl⟩
    refine ⟨(), ?_, v, hv, rest, hrest, by simp⟩
    rintro (h | h)
    · exact hne h
    · omega

variable {entries : List CertificateEntry}

lemma parseEntries_marshal (fuel : Nat) (hfuel : b.length ≤ fuel)
    (h : marshalEntries entries = .ok b) :
    parseEntries fuel b = .ok entries := by
  induction entries generalizing fuel b with
  | nil =>
    cases h
    cases fuel <;> rfl
  | cons e es ih =>
    obtain ⟨_, rest, ⟨hne, hfit, v, hv, rfl⟩, hrest, rfl⟩ := marshalEntries_cons.mp h
    simp only [maxHandshakeMessageLen] at hfit
    have hpos : e.certificate.length ≠ 0 := by simpa using hne
    cases fuel with
    | zero => simp at hfuel
    | succ fuel =>
      have hes := ih fuel (by simp at hfuel; omega) hrest
      simp only [parseEntries, List.append_assoc]
      rw [if_neg (by simp [be24]), u24_be24 _ (by omega)]
      simp only [need_some, ok_bind, List.drop_left', List.take_left', parseExtensions_marshal hv,
        wrapErr_ok, hes, pure_ok]
      rw [reject_neg (by simp; omega)]
      rfl

lemma parseEntries_ok (hfuel : p.length ≤ fuel) (h : parseEntries fuel p = .ok entries) :
    marshalEntries entries = .ok p := by
  induction fuel generalizing p entries with
  | zero =>
    cases h
    rw [List.eq_nil_of_length_eq_zero (Nat.le_zero.mp hfuel)]
    rfl
  | succ fuel ih =>
    simp only [parseEntries] at h
    split at h
    · rename_i hp
      cases h
      rw [hp]
      rfl
    · simp only [bind_ok, need_ok, reject_ok, wrapErr_eq_ok, pure_inj] at h
      obtain ⟨⟨certLen, r⟩, hu, _, hcert, ⟨exts, n⟩, hexts, es, hes, rfl⟩ := h
      dsimp only at hcert hexts hes ⊢
      obtain ⟨rfl, hcertLen⟩ := u24_some hu
      obtain ⟨v, hv, rfl, hdrop⟩ := parseExtensions_ok hexts
      have hlen : (r.take certLen).length = certLen := by simp; omega
      have hne : r.take certLen ≠ [] := by
        intro hnil
        rw [hnil, List.length_nil] at hlen
        omega
      -- every entry takes its three length octets, so the fuel lasts
      have hshort : ((r.drop certLen).drop v.length).length ≤ fuel := by
        simp only [List.length_append, be24_length] at hfuel
        simp only [List.length_drop]
        omega
      refine marshalEntries_cons.mpr ⟨_, _, ⟨hne, ?_, v, hv, rfl⟩, ih hshort hes, ?_⟩
      · rw [hlen, maxHandshakeMessageLen]
        omega
      · rw [hlen, List.append_assoc, List.append_assoc, ← hdrop, List.take_append_drop]

lemma CertificateMsg.unmarshal_marshal {m : CertificateMsg} (h : m.marshalBody = .ok b) :
    CertificateMsg.unmarshalBody b = .ok m := by
  simp only [CertificateMsg.marshalBody, bind_ok, reject_ok, pure_inj] at h
  obtain ⟨_, hctx, list, hlist, _, hlen, rfl⟩ := h
  simp only [maxHandshakeMessageLen] at hlen
  simp only [CertificateMsg.unmarshalBody]
  rw [u8_cons _ (by omega)]
  simp only [need_some, ok_bind]
  rw [reject_bind hctx, reject_bind (by simp), List.drop_left' rfl,
    List.take_left' rfl, u24_be24 _ (by omega)]
  simp only [need_some, ok_bind, List.take_length,
    parseEntries_marshal list.length (Nat.le_refl _) hlist]
  rw [reject_bind (by simp), reject_neg (by simp)]
  rfl

lemma CertificateMsg.marshal_unmarshal {m : CertificateMsg}
    (h : CertificateMsg.unmarshalBody b = .ok m) :
    m.marshalBody = .ok b := by
  simp only [CertificateMsg.unmarshalBody, bind_ok, need_ok, reject_ok, pure_inj] at h
  obtain ⟨⟨ctxLen, r⟩, hctx, _, hmax, _, hshort, ⟨listLen, q⟩, hlist, _, hlong, entries, hentries,
    _, hend, rfl⟩ := h
  dsimp only at hmax hshort hlist hlong hentries hend ⊢
  obtain ⟨rfl, -⟩ := u8_some hctx
  obtain ⟨hdrop, hlistLen⟩ := u24_some hlist
  have hq : listLen = q.length := Decidable.not_not.mp hend
  subst hq
  rw [List.take_length] at hentries
  have hlen : (r.take ctxLen).length = ctxLen := by simp; omega
  simp only [CertificateMsg.marshalBody, hlen, parseEntries_ok (Nat.le_refl _) hentries]
  rw [reject_bind hmax, ok_bind, reject_bind (by rw [maxHandshakeMessageLen]; omega), pure_ok,
    ← hdrop, List.take_append_drop]

lemma NewSessionTicketMsg.unmarshal_marshal {m : NewSessionTicketMsg} (h : m.marshalBody = .ok b) :
    NewSessionTicketMsg.unmarshalBody b = .ok m := by
  simp only [NewSessionTicketMsg.marshalBody, bind_ok, wrapErr_eq_ok, reject_ok, pure_inj] at h
  obtain ⟨_, hnonce, _, hne, _, hlen, v, hv, rfl⟩ := h
  have hpos : m.ticket.length ≠ 0 := by simpa using hne
  simp only [NewSessionTicketMsg.unmarshalBody]
  rw [u32_be32 _ m.ticketLifetime.toNat_lt]
  simp only [need_some, ok_bind]
  rw [u32_be32 _ m.ticketAgeAdd.toNat_lt]
  simp only [need_some, ok_bind]
  rw [u8_cons _ (by omega)]
  simp only [need_some, ok_bind]
  rw [reject_bind (by simp), List.drop_left' rfl, List.take_left' rfl, u16_be16 _ (by omega)]
  simp only [need_some, ok_bind]
  rw [reject_bind (by simp; omega), List.drop_left' rfl, List.take_left' rfl,
    parseTrailing_marshal _ hv]
  simp

lemma NewSessionTicketMsg.marshal_unmarshal {m : NewSessionTicketMsg}
    (h : NewSessionTicketMsg.unmarshalBody b = .ok m) :
    m.marshalBody = .ok b := by
  simp only [NewSessionTicketMsg.unmarshalBody, bind_ok, need_ok, reject_ok, pure_inj] at h
  obtain ⟨⟨lifetime, r₁⟩, hlifetime, ⟨ageAdd, r₂⟩, hage, ⟨nonceLen, r₃⟩, hnonce, _, hnonceLen,
    ⟨ticketLen, r₄⟩, hticket, _, hticketLen, exts, hexts, rfl⟩ := h
  dsimp only at hage hnonce hnonceLen hticket hticketLen hexts ⊢
  obtain ⟨rfl, hlifetimeLt⟩ := u32_some hlifetime
  obtain ⟨rfl, hageLt⟩ := u32_some hage
  obtain ⟨rfl, hnonceLt⟩ := u8_some hnonce
  obtain ⟨hdrop, hticketLt⟩ := u16_some hticket
  have hnonceTake : (r₃.take nonceLen).length = nonceLen := by simp; omega
  have hticketTake : (r₄.take ticketLen).length = ticketLen := by simp; omega
  have hne : r₄.take ticketLen ≠ [] := by
    intro hnil
    rw [hnil, List.length_nil] at hticketTake
    omega
  have hlifetimeNat : (UInt32.ofNat lifetime).toNat = lifetime :=
    UInt32.toNat_ofNat_of_lt' hlifetimeLt
  have hageNat : (UInt32.ofNat ageAdd).toNat = ageAdd := UInt32.toNat_ofNat_of_lt' hageLt
  simp only [NewSessionTicketMsg.marshalBody, hnonceTake, hticketTake, hlifetimeNat, hageNat,
    parseTrailing_ok hexts, wrapErr_ok]
  rw [reject_bind (by omega), reject_bind hne, reject_bind (by omega), ok_bind, pure_ok,
    List.take_append_drop, ← hdrop, List.take_append_drop]

end Pollux.Tls
