import PolluxGM.Extensions

/-!
# Payloads of the extensions the handshake interprets

ALPN protocol lists, the cookie, key shares and the pre_shared_key offer. Go
strings are byte strings, so a protocol name is a `Bytes` value.
-/
namespace Pollux.Tls

def marshalALPNNames : List Bytes → Except Err Bytes
  | [] => .ok []
  | p :: ps => do
    reject (p = []) (.text "tls13gm: ALPN protocol name must not be empty")
    reject (255 < p.length) (.text s!"tls13gm: ALPN protocol name over 255 bytes ({p.length})")
    let rest ← marshalALPNNames ps
    return UInt8.ofNat p.length :: p ++ rest

/-- The list length is cut to sixteen bits without a check. -/
def marshalALPNExtension (protocols : List Bytes) : Except Err Bytes := do
  let names ← marshalALPNNames protocols
  return be16 names.length ++ names

def parseALPNNames : Nat → Bytes → Except Err (List Bytes)
  | 0, _ => .ok []
  | fuel + 1, p =>
    match u8 p with
    | none => .ok []
    | some (n, r) => do
      reject (n = 0) (.text "tls13gm: ALPN protocol name must not be empty")
      reject (r.length < n) (.text "tls13gm: ALPN protocol name overruns the protocol list")
      let rest ← parseALPNNames fuel (r.drop n)
      return r.take n :: rest

variable (group : UInt16) (key data : Bytes)

def parseALPNExtension : Except Err (List Bytes) := do
  let (listLen, p) ← need (.text s!"tls13gm: ALPN extension too short ({data.length} bytes)")
    (u16 data)
  reject (listLen ≠ p.length)
    (.text s!"tls13gm: ALPN list length {listLen} does not match extension data ({p.length} bytes)")
  let out ← parseALPNNames p.length p
  reject (out = []) (.text "tls13gm: ALPN protocol list must not be empty")
  return out

def marshalCookieExtension (cookie : Bytes) : Except Err Bytes := do
  reject (0xFFFF < cookie.length) (.text s!"tls13gm: cookie over 65535 bytes ({cookie.length})")
  return be16 cookie.length ++ cookie

def parseCookieExtension : Except Err Bytes := do
  let (l, r) ← need (.text "tls13gm: cookie extension truncated (length)") (u16 data)
  reject (r.length < l)
    (.text s!"tls13gm: cookie extension truncated (declared {l}, have {r.length})")
  return r.take l

/-- Empty (nil) when the key cannot be represented. -/
def marshalClientKeyShare : Bytes :=
  if key = [] ∨ 0xFFFF < key.length then []
  else if 0xFFFF < 4 + key.length then []
  else be16 (4 + key.length) ++ be16 group.toNat ++ be16 key.length ++ key

def marshalServerKeyShare : Bytes :=
  if key = [] ∨ 0xFFFF < key.length then []
  else be16 group.toNat ++ be16 key.length ++ key

def parseKeyShareEntry (b : Bytes) : Except Err (UInt16 × Bytes × Nat) := do
  let (group, keyLen, r) ← need
    (.text s!"tls13gm: truncated key_share entry (have {b.length} bytes)") (tagLength b)
  reject (r.length < keyLen) (.text s!"tls13gm: key_share key length {keyLen} out of range")
  return (UInt16.ofNat group, r.take keyLen, 4 + keyLen)

def findKeyShare (wantGroup : UInt16) : Nat → Bytes → Except Err Bytes
  | 0, _ => .error (.text
    s!"tls13gm: ClientHello key_share has no entry for group {hex wantGroup.toNat}")
  | fuel + 1, p =>
    if p = [] then
      .error (.text s!"tls13gm: ClientHello key_share has no entry for group {hex wantGroup.toNat}")
    else do
      let (group, key, n) ← parseKeyShareEntry p
      if group = wantGroup then return key else findKeyShare wantGroup fuel (p.drop n)

def parseClientKeyShare (wantGroup : UInt16) : Except Err Bytes := do
  let (listLen, p) ← need (.text "tls13gm: ClientHello key_share truncated at list length")
    (u16 data)
  reject (listLen ≠ p.length)
    (.text s!"tls13gm: ClientHello key_share list length {listLen} does not match extension data ({p.length} bytes)")
  findKeyShare wantGroup p.length p

def parseServerKeyShare (wantGroup : UInt16) : Except Err Bytes := do
  let (group, key, n) ← parseKeyShareEntry data
  reject (n ≠ data.length)
    (.text s!"tls13gm: ServerHello key_share has {data.length - n} trailing bytes")
  reject (group ≠ wantGroup)
    (.text s!"tls13gm: ServerHello key_share group {hex group.toNat}, want {hex wantGroup.toNat}")
  return key

structure PskIdentity where
  identity : Bytes
  obfuscatedTicketAge : UInt32
  deriving DecidableEq

def PskIdentity.encode (i : PskIdentity) : Bytes :=
  be16 i.identity.length ++ i.identity ++ be32 i.obfuscatedTicketAge.toNat

def encodeBinder (b : Bytes) : Bytes := UInt8.ofNat b.length :: b

/-- Both vector lengths are cut to sixteen bits without a check. -/
def marshalPreSharedKeyExtension (identities : List PskIdentity) (binders : List Bytes) :
    Except Err Bytes :=
  match identities.find? fun i => 0xFFFF < i.identity.length with
  | some i => .error (.text s!"tls13gm: psk identity length {i.identity.length} exceeds 16 bits")
  | none =>
    match binders.find? fun b => 0xFF < b.length with
    | some b => .error (.text s!"tls13gm: psk binder length {b.length} exceeds 8 bits")
    | none =>
      let idVec := identities.flatMap PskIdentity.encode
      let binderVec := binders.flatMap encodeBinder
      .ok (be16 idVec.length ++ idVec ++ be16 binderVec.length ++ binderVec)

def parseIdentities : Nat → Bytes → Except Err (List PskIdentity)
  | 0, _ => .ok []
  | fuel + 1, p =>
    if p = [] then .ok []
    else do
      let (l, r) ← need (.text "tls13gm: psk identity length truncated") (u16 p)
      reject (r.length < l + 4) (.text "tls13gm: psk identity body truncated")
      let (age, rest) ← need (.text "tls13gm: psk identity body truncated") (u32 (r.drop l))
      let ids ← parseIdentities fuel rest
      return ⟨r.take l, UInt32.ofNat age⟩ :: ids

def parseBinders : Nat → Bytes → Except Err (List Bytes)
  | 0, _ => .ok []
  | fuel + 1, p =>
    match u8 p with
    | none => .ok []
    | some (l, r) => do
      reject (r.length < l) (.text "tls13gm: psk binder body truncated")
      let bs ← parseBinders fuel (r.drop l)
      return r.take l :: bs

/-- Octets after the binders vector are ignored. -/
def parsePreSharedKeyExtension : Except Err (List PskIdentity × List Bytes) := do
  let (idLen, r) ← need (.text "tls13gm: pre_shared_key identities length truncated") (u16 data)
  reject (r.length < idLen) (.text "tls13gm: pre_shared_key identities vector truncated")
  let identities ← parseIdentities idLen (r.take idLen)
  let (binderLen, r) ← need (.text "tls13gm: pre_shared_key binders length truncated")
    (u16 (r.drop idLen))
  reject (r.length < binderLen) (.text "tls13gm: pre_shared_key binders vector truncated")
  let binders ← parseBinders binderLen (r.take binderLen)
  return (identities, binders)

def marshalPSKKeyExchangeModesExtension (modes : List UInt8) : Bytes :=
  UInt8.ofNat modes.length :: modes

def offersPSKDHEKE (modesExt : Bytes) : Bool :=
  match u8 modesExt with
  | none => false
  | some (listLen, r) =>
    if r.length < listLen then false else (r.take listLen).any fun m => m = pskKeyExchangeModeDHEKE

def containsCipherSuite (list : List UInt16) (want : UInt16) : Bool := list.any fun c => c = want

/-- The pairs of octets of a list; an odd last octet is dropped. -/
def pairs : Bytes → List Nat
  | a :: b :: r => (a.toNat * 256 + b.toNat) :: pairs r
  | _ => []

/-- `lenSize` is the width of the length prefix, one or two octets. -/
def containsUint16List (lenSize : Nat) (want : UInt16) : Bool :=
  match if lenSize = 1 then u8 data else u16 data with
  | none => false
  | some (listLen, body) =>
    if body.length < listLen then false else (pairs (body.take listLen)).any fun n => n = want.toNat

def encodeName (p : Bytes) : Bytes := UInt8.ofNat p.length :: p

def GoodName (p : Bytes) : Prop := p ≠ [] ∧ p.length ≤ 255

variable {ps : List Bytes} {b : Bytes}

lemma marshalALPNNames_ok :
    marshalALPNNames ps = .ok b ↔ (∀ p ∈ ps, GoodName p) ∧ b = ps.flatMap encodeName := by
  induction ps generalizing b with
  | nil => simp [marshalALPNNames, eq_comm]
  | cons p ps ih =>
    simp only [marshalALPNNames, bind_ok, reject_ok, pure_inj]
    constructor
    · rintro ⟨_, hne, _, hlen, rest, hrest, rfl⟩
      obtain ⟨hps, rfl⟩ := ih.mp hrest
      refine ⟨?_, rfl⟩
      intro q hq
      rcases List.mem_cons.mp hq with rfl | hq
      · exact ⟨hne, by omega⟩
      · exact hps q hq
    · rintro ⟨hps, rfl⟩
      obtain ⟨hne, hlen⟩ := hps p (by simp)
      exact ⟨(), hne, (), by omega, _, ih.mpr ⟨fun q hq => hps q (by simp [hq]), rfl⟩, rfl⟩

variable {fuel : Nat} {p : Bytes}

lemma parseALPNNames_items : ReadsItems parseALPNNames encodeName GoodName where
  octets _ := List.cons_ne_nil _ _
  stop fuel := by cases fuel <;> rfl
  round hp := by
    obtain ⟨hne, hlen⟩ := hp
    simp only [encodeName, List.cons_append, parseALPNNames]
    rw [u8_cons _ (by omega)]
    simp only [List.length_append, List.drop_left', List.take_left']
    rw [reject_neg (by simpa using hne), reject_neg (by omega)]
    rfl
  taken hp h := by
    simp only [parseALPNNames] at h
    split at h
    · rename_i hu
      exact absurd (u8_none hu) hp
    · rename_i n r hu
      simp only [bind_ok, reject_ok, pure_inj] at h
      obtain ⟨_, hn, _, hr, rest, hrest, rfl⟩ := h
      obtain ⟨rfl, hlt⟩ := u8_some hu
      have hlen : (r.take n).length = n := by simp; omega
      refine ⟨_, r.drop n, rest, ⟨List.length_pos_iff.mp ?_, ?_⟩, ?_, hrest, rfl⟩
      · omega
      · omega
      · simp only [encodeName, hlen, List.cons_append, List.take_append_drop]

lemma parseALPN_marshal (hne : ps ≠ []) (h : marshalALPNExtension ps = .ok b)
    (hlen : b.length ≤ 2 + 0xFFFF) :
    parseALPNExtension b = .ok ps := by
  simp only [marshalALPNExtension, bind_ok, pure_inj] at h
  obtain ⟨names, hnames, rfl⟩ := h
  obtain ⟨hps, rfl⟩ := marshalALPNNames_ok.mp hnames
  simp only [List.length_append, be16_length] at hlen
  simp only [parseALPNExtension]
  rw [u16_be16 _ (by omega)]
  simp only [need_some, ok_bind]
  rw [reject_bind (by simp), parseALPNNames_items.written hps (Nat.le_refl _), ok_bind,
    reject_neg hne]
  rfl

variable {data : Bytes}

lemma parseALPN_ok (h : parseALPNExtension data = .ok ps) :
    marshalALPNExtension ps = .ok data ∧ ps ≠ [] ∧
      (∀ p ∈ ps, GoodName p) ∧ data.length ≤ 2 + 0xFFFF := by
  simp only [parseALPNExtension, bind_ok, need_ok, reject_ok, pure_inj] at h
  obtain ⟨⟨listLen, p⟩, hu, _, hlen, out, hout, _, hne, rfl⟩ := h
  dsimp only at hlen hout
  obtain ⟨rfl, hlt⟩ := u16_some hu
  obtain ⟨hgood, rfl⟩ := parseALPNNames_items.items (Nat.le_refl _) hout
  have hl : listLen = (out.flatMap encodeName).length := by omega
  subst hl
  refine ⟨?_, hne, hgood, by rw [List.length_append, be16_length]; omega⟩
  simp only [marshalALPNExtension, marshalALPNNames_ok.mpr ⟨hgood, rfl⟩, ok_bind, pure_ok]

variable {cookie : Bytes}

lemma marshalCookie_ok :
    marshalCookieExtension cookie = .ok b ↔ cookie.length ≤ 0xFFFF ∧
      b = be16 cookie.length ++ cookie := by
  simp only [marshalCookieExtension, bind_ok, reject_ok, pure_inj]
  constructor
  · rintro ⟨_, hlen, rfl⟩
    exact ⟨by omega, rfl⟩
  · rintro ⟨hlen, rfl⟩
    exact ⟨(), by omega, rfl⟩

lemma parseCookie_ok :
    parseCookieExtension data = .ok cookie ↔
      cookie.length ≤ 0xFFFF ∧ ∃ tail, data = be16 cookie.length ++ (cookie ++ tail) := by
  simp only [parseCookieExtension, bind_ok, need_ok, reject_ok, pure_inj]
  constructor
  · rintro ⟨⟨l, r⟩, hu, _, hr, rfl⟩
    dsimp only at hr ⊢
    obtain ⟨rfl, hl⟩ := u16_some hu
    have hlen : (r.take l).length = l := by simp; omega
    exact ⟨by omega, r.drop l, by rw [hlen, List.take_append_drop]⟩
  · rintro ⟨hlen, tail, rfl⟩
    exact ⟨_, u16_be16 _ (by omega) _, (), by simp, List.take_left' rfl⟩

lemma parseKeyShareEntry_encode (r : Bytes) (h : key.length ≤ 0xFFFF) :
    parseKeyShareEntry (be16 group.toNat ++ be16 key.length ++ key ++ r) =
      .ok (group, key, 4 + key.length) := by
  have htag := tagLength_encode ⟨group, key⟩ h r
  simp only [Extension.encode] at htag
  simp only [parseKeyShareEntry, htag, need_some, ok_bind, List.length_append, pure_ok,
    UInt16.ofNat_toNat]
  rw [reject_neg (by omega)]
  simp

lemma parseClientKeyShare_marshal (h : marshalClientKeyShare group key ≠ []) :
    parseClientKeyShare (marshalClientKeyShare group key) group = .ok key := by
  unfold marshalClientKeyShare at h ⊢
  split at h
  · exact absurd rfl h
  · split at h
    · exact absurd rfl h
    · rename_i hkey hlen
      simp only [hkey, hlen, if_false]
      simp only [parseClientKeyShare, List.append_assoc]
      rw [u16_be16 _ (by omega)]
      simp only [need_some, ok_bind]
      rw [reject_bind (by simp; omega)]
      have hentry := parseKeyShareEntry_encode group key [] (by omega)
      simp only [List.append_nil, List.append_assoc] at hentry
      simp only [List.length_append, be16_length, Nat.add_comm 2, findKeyShare, hentry]
      simp [be16]

lemma parseServerKeyShare_marshal (h : marshalServerKeyShare group key ≠ []) :
    parseServerKeyShare (marshalServerKeyShare group key) group = .ok key := by
  unfold marshalServerKeyShare at h ⊢
  split at h
  · exact absurd rfl h
  · rename_i hkey
    have hentry := parseKeyShareEntry_encode group key [] (by omega)
    simp only [List.append_nil] at hentry
    simp only [hkey, if_false, parseServerKeyShare, hentry, ok_bind]
    rw [reject_bind (by simp; omega), reject_neg (by simp)]
    rfl

def pskPayload (identities : List PskIdentity) (binders : List Bytes) : Bytes :=
  be16 (identities.flatMap PskIdentity.encode).length ++ identities.flatMap PskIdentity.encode ++
    (be16 (binders.flatMap encodeBinder).length ++ binders.flatMap encodeBinder)

lemma marshalPreSharedKey_ok :
    marshalPreSharedKeyExtension identities binders = .ok b ↔
      (∀ i ∈ identities, i.identity.length ≤ 0xFFFF) ∧ (∀ x ∈ binders, x.length ≤ 0xFF) ∧
        b = pskPayload identities binders := by
  unfold marshalPreSharedKeyExtension
  split
  · rename_i i hi
    have hbad := List.find?_some hi
    have hmem := List.mem_of_find?_eq_some hi
    simp only [decide_eq_true_eq] at hbad
    simp only [reduceCtorEq, false_iff]
    rintro ⟨hids, -⟩
    have := hids i hmem
    omega
  · rename_i hids
    split
    · rename_i x hx
      have hbad := List.find?_some hx
      have hmem := List.mem_of_find?_eq_some hx
      simp only [decide_eq_true_eq] at hbad
      simp only [reduceCtorEq, false_iff]
      rintro ⟨-, hbs, -⟩
      have := hbs x hmem
      omega
    · rename_i hbs
      simp only [List.find?_eq_none, decide_eq_true_eq, Nat.not_lt] at hids hbs
      simp only [Except.ok.injEq, pskPayload, List.append_assoc, eq_comm (b := b)]
      exact ⟨fun h => ⟨hids, hbs, h⟩, fun h => h.2.2⟩

@[simp] lemma PskIdentity.encode_length (i : PskIdentity) :
    i.encode.length = i.identity.length + 6 := by
  simp only [PskIdentity.encode, List.length_append, be16_length, be32_length]
  omega

lemma parseIdentities_items :
    ReadsItems parseIdentities PskIdentity.encode (·.identity.length ≤ 0xFFFF) where
  octets _ := List.length_pos_iff.mp (by simp)
  stop fuel := by cases fuel <;> rfl
  round hi := by
    rename_i i rest
    have hne : i.encode ++ rest ≠ [] := List.length_pos_iff.mp (by
      rw [List.length_append, PskIdentity.encode_length]
      omega)
    simp only [parseIdentities, hne, if_false]
    simp only [PskIdentity.encode, List.append_assoc]
    rw [u16_be16 _ (by omega)]
    simp only [need_some, ok_bind, List.drop_left', List.take_left']
    rw [reject_bind (by simp), u32_be32 _ i.obfuscatedTicketAge.toNat_lt]
    simp only [need_some, ok_bind, UInt32.ofNat_toNat]
    rfl
  taken hp h := by
    simp only [parseIdentities, hp, if_false, bind_ok, need_ok, reject_ok, pure_inj] at h
    obtain ⟨⟨l, r⟩, hu, _, hr, ⟨age, rest⟩, hage, ids, hids, rfl⟩ := h
    dsimp only at hr hage hids
    obtain ⟨rfl, hl⟩ := u16_some hu
    obtain ⟨hdrop, hage⟩ := u32_some hage
    have hlen : (r.take l).length = l := by simp; omega
    have hage' : (UInt32.ofNat age).toNat = age := by
      rw [UInt32.toNat_ofNat']
      exact Nat.mod_eq_of_lt hage
    refine ⟨_, rest, ids, ?_, ?_, hids, rfl⟩
    · simp only [hlen]; omega
    · simp only [PskIdentity.encode, hlen, hage', List.append_assoc]
      rw [← hdrop, List.take_append_drop]

lemma parseBinders_items : ReadsItems parseBinders encodeBinder (·.length ≤ 0xFF) where
  octets _ := List.cons_ne_nil _ _
  stop fuel := by cases fuel <;> rfl
  round hb := by
    simp only [encodeBinder, List.cons_append, parseBinders]
    rw [u8_cons _ (by omega)]
    simp only [List.length_append, List.drop_left', List.take_left']
    rw [reject_neg (by omega)]
    rfl
  taken hp h := by
    simp only [parseBinders] at h
    split at h
    · rename_i hu
      exact absurd (u8_none hu) hp
    · rename_i l r hu
      simp only [bind_ok, reject_ok, pure_inj] at h
      obtain ⟨_, hr, bs, hbs, rfl⟩ := h
      obtain ⟨rfl, hl⟩ := u8_some hu
      have hlen : (r.take l).length = l := by simp; omega
      refine ⟨_, r.drop l, bs, by omega, ?_, hbs, rfl⟩
      simp only [encodeBinder, hlen, List.cons_append, List.take_append_drop]

/-- A payload is read back whatever follows it: the reader stops after the binders. -/
lemma parsePreSharedKey_payload (ids : List PskIdentity) (bs : List Bytes) (tail : Bytes)
    (hids : ∀ i ∈ ids, i.identity.length ≤ 0xFFFF) (hbs : ∀ b ∈ bs, b.length ≤ 0xFF)
    (hidLen : (ids.flatMap PskIdentity.encode).length ≤ 0xFFFF)
    (hbLen : (bs.flatMap encodeBinder).length ≤ 0xFFFF) :
    parsePreSharedKeyExtension (pskPayload ids bs ++ tail) = .ok (ids, bs) := by
  simp only [parsePreSharedKeyExtension, pskPayload, List.append_assoc]
  rw [u16_be16 _ (by omega)]
  simp only [need_some, ok_bind]
  rw [reject_bind (by simp), List.take_left' rfl, List.drop_left' rfl,
    parseIdentities_items.written hids (Nat.le_refl _), ok_bind, u16_be16 _ (by omega)]
  simp only [need_some, ok_bind]
  rw [reject_bind (by simp), List.take_left' rfl, parseBinders_items.written hbs (Nat.le_refl _)]
  rfl

lemma parsePreSharedKey_ok (h : parsePreSharedKeyExtension data = .ok (ids, bs)) :
    (∃ tail, data = pskPayload ids bs ++ tail) ∧
      (∀ i ∈ ids, i.identity.length ≤ 0xFFFF) ∧ (∀ b ∈ bs, b.length ≤ 0xFF) ∧
      (ids.flatMap PskIdentity.encode).length ≤ 0xFFFF ∧
      (bs.flatMap encodeBinder).length ≤ 0xFFFF := by
  simp only [parsePreSharedKeyExtension, bind_ok, need_ok, reject_ok, pure_inj,
    Prod.mk.injEq] at h
  obtain ⟨⟨idLen, r⟩, hu, _, hr, ids', hids, ⟨binderLen, q⟩, hq, _, hqlen, bs', hbs, rfl, rfl⟩ := h
  dsimp only at hr hids hq hqlen hbs
  obtain ⟨rfl, hidLen⟩ := u16_some hu
  obtain ⟨hdrop, hbLen⟩ := u16_some hq
  have htake : (r.take idLen).length = idLen := by simp; omega
  have hqtake : (q.take binderLen).length = binderLen := by simp; omega
  obtain ⟨hgood, hidVec⟩ := parseIdentities_items.items (by omega) hids
  obtain ⟨hbgood, hbVec⟩ := parseBinders_items.items (by omega) hbs
  rw [hidVec] at htake
  rw [hbVec] at hqtake
  refine ⟨⟨q.drop binderLen, ?_⟩, hgood, hbgood, by omega, by omega⟩
  calc be16 idLen ++ r = be16 idLen ++ (r.take idLen ++ r.drop idLen) := by simp
    _ = be16 idLen ++ (r.take idLen ++
      (be16 binderLen ++ (q.take binderLen ++ q.drop binderLen))) := by
        rw [hdrop]; simp
    _ = pskPayload ids' bs' ++ q.drop binderLen := by
        simp only [pskPayload, hidVec, hbVec, htake, hqtake, List.append_assoc]

end Pollux.Tls
