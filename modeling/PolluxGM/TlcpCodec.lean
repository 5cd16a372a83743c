import PolluxGM.TlcpMessages

/-!
# Round trips of the handshake messages

The hellos carry an extension block; each extension sets the field it was written from and leaves
the others.
-/
namespace Pollux.Tlcp

variable {ε α β : Type}

lemma ite_bind (p : Prop) [Decidable p] (x y : Except ε α) (f : α → Except ε β) :
    (if p then x >>= f else y >>= f) = (if p then x else y) >>= f := by
  split <;> rfl

variable {b : Bytes}

lemma sized8_ok : sized8 b = .ok w ↔ b.length < 256 ∧ UInt8.ofNat b.length :: b = w := prefixed_ok

lemma sized16_ok : sized16 b = .ok w ↔ b.length < 65536 ∧ be16 b.length ++ b = w := prefixed_ok

lemma sized24_ok : sized24 b = .ok w ↔ b.length < 16777216 ∧ be24 b.length ++ b = w := prefixed_ok

variable {f : α → Except Err Bytes} {xs : List α}

lemma concatM_items (h : concatM f xs = .ok w)
    (hf : ∀ x ∈ xs, ∀ w, f x = .ok w → Spells item x w) : items item w = some xs := by
  simp only [concatM, bind_ok, pure_inj] at h
  obtain ⟨ws, hws, rfl⟩ := h
  apply items_spelled
  have hall := mapM_ok hws
  clear hws
  induction hall with
  | nil => exact .nil
  | @cons x w xs ws hw _ ih =>
    exact .cons (hf x List.mem_cons_self w hw) (ih fun y hy => hf y (List.mem_cons_of_mem x hy))

lemma concatM_ne_nil (h : concatM f xs = .ok w) (hxs : xs ≠ [])
    (hf : ∀ x ∈ xs, ∀ w, f x = .ok w → w ≠ []) :
    w ≠ [] := by
  simp only [concatM, bind_ok, pure_inj] at h
  obtain ⟨ws, hws, rfl⟩ := h
  have hall := mapM_ok hws
  cases hall with
  | nil => exact absurd rfl hxs
  | cons hw _ =>
    rw [List.flatten_cons]
    exact List.append_ne_nil_of_left_ne_nil (hf _ List.mem_cons_self _ hw) _

lemma pair_spells (x : UInt16) : Spells pair x (be16 x.toNat) where
  octets := List.cons_ne_nil _ _
  read := by
    intro rest
    have hx : x.toNat < 65536 := x.toNat_lt
    simp [pair, hx]

lemma items_pairs (xs : List UInt16) : items pair (encodePairs xs) = some xs := by
  rw [encodePairs, List.flatMap_def]
  apply items_spelled
  rw [List.forall₂_map_right_iff, List.forall₂_same]
  exact fun x _ => pair_spells x

lemma vec8_spells (h : sized8 b = .ok w) : Spells vec8 b w := by
  obtain ⟨hlen, rfl⟩ := sized8_ok.mp h
  exact ⟨List.cons_ne_nil _ _, fun rest => vec8_append hlen rest⟩

lemma vec16_spells (h : sized16 b = .ok w) : Spells vec16 b w := by
  obtain ⟨hlen, rfl⟩ := sized16_ok.mp h
  exact ⟨List.cons_ne_nil _ _, fun rest => by rw [List.append_assoc, vec16_append hlen]⟩

lemma vec24_spells (h : sized24 b = .ok w) : Spells vec24 b w := by
  obtain ⟨hlen, rfl⟩ := sized24_ok.mp h
  exact ⟨List.cons_ne_nil _ _, fun rest => by rw [List.append_assoc, vec24_append hlen]⟩

variable {msgType : UInt8} {body : Except Err Bytes}

lemma marshalHandshake_ok (h : tlcpMarshalHandshake msgType body = .ok w) :
    ∃ b, body = .ok b ∧ tlcpReadHeader msgType w = some b := by
  simp only [tlcpMarshalHandshake, bind_ok, pure_inj] at h
  obtain ⟨b, hbody, sized, hsized, rfl⟩ := h
  exact ⟨b, hbody, (if_pos rfl).trans ((vec24_spells hsized).whole)⟩

def encodeExtension (e : UInt16 × Bytes) : Bytes := be16 e.1.toNat ++ (be16 e.2.length ++ e.2)

variable {e : UInt16 × Bytes}

lemma extension_spells (h : e.2.length < 65536) : Spells extension e (encodeExtension e) where
  octets := List.cons_ne_nil _ _
  read := by
    intro rest
    simp only [encodeExtension, List.append_assoc, extension]
    rw [(pair_spells e.1).read]
    simp [vec16_append h]

variable {typ : UInt16}

lemma listExtension_ok (h : listExtension typ body = .ok w) :
    ∃ inner, body = .ok inner ∧ (be16 inner.length ++ inner).length < 65536 ∧
      w = encodeExtension (typ, be16 inner.length ++ inner) := by
  simp only [listExtension, bind_ok, pure_inj] at h
  obtain ⟨inner, hbody, data, hdata, sized, hsized, rfl⟩ := h
  obtain ⟨_, rfl⟩ := sized16_ok.mp hdata
  obtain ⟨hlen, rfl⟩ := sized16_ok.mp hsized
  exact ⟨inner, hbody, hlen, rfl⟩

lemma extensionList_some {inner : Bytes} (hne : inner ≠ [])
    (hlen : (be16 inner.length ++ inner).length < 65536) :
    extensionList (be16 inner.length ++ inner) = some inner := by
  rw [List.length_append, be16_length] at hlen
  have hread := vec16_append (b := inner) (by omega) []
  rw [List.append_nil] at hread
  simp [extensionList, hread, whole_some, nonEmpty_some hne]

section

variable {μ : Type} {unmarshalExtension : μ → UInt16 × Bytes → Option μ}

/-- The octets `w` are extensions that take `m` to `m'`. -/
def Extends (unmarshalExtension : μ → UInt16 × Bytes → Option μ) (w : Bytes) (m m' : μ) : Prop :=
  ∃ es : List (UInt16 × Bytes), (∀ e ∈ es, e.2.length < 65536) ∧ w = es.flatMap encodeExtension ∧
    es.foldlM unmarshalExtension m = some m'

lemma Extends.none (m : μ) : Extends unmarshalExtension [] m m := ⟨[], by simp, rfl, rfl⟩

lemma Extends.one (hlen : e.2.length < 65536) (h : unmarshalExtension m e = some m') :
    Extends unmarshalExtension (encodeExtension e) m m' := by
  refine ⟨[e], ?_, ?_, ?_⟩
  · simpa using hlen
  · simp
  · simp [List.foldlM, h]

lemma Extends.append (h : Extends unmarshalExtension w m m')
    (h' : Extends unmarshalExtension w' m' m'') : Extends unmarshalExtension (w ++ w') m m'' := by
  obtain ⟨es, hlen, rfl, hfold⟩ := h
  obtain ⟨es', hlen', rfl, hfold'⟩ := h'
  refine ⟨es ++ es', ?_, List.flatMap_append.symm, ?_⟩
  · intro e he
    rcases List.mem_append.mp he with he | he
    · exact hlen e he
    · exact hlen' e he
  · simp [List.foldlM_append, hfold, hfold']

lemma Extends.block {w tail : Bytes} {m m' : μ} (h : Extends unmarshalExtension w m m')
    (htail : (if w = [] then pure [] else sized16 w) = Except.ok tail) :
    (extensionBlock tail >>= fun es => es.foldlM unmarshalExtension m) = some m' := by
  obtain ⟨es, hlen, rfl, hfold⟩ := h
  have hitems : items extension (es.flatMap encodeExtension) = some es := by
    rw [List.flatMap_def]
    apply items_spelled
    rw [List.forall₂_map_right_iff, List.forall₂_same]
    exact fun e he => extension_spells (hlen e he)
  by_cases hw : es.flatMap encodeExtension = []
  · rw [if_pos hw] at htail
    cases htail
    rw [hw] at hitems
    cases hitems
    exact hfold
  · rw [if_neg hw] at htail
    have hne : tail ≠ [] := (vec16_spells htail).octets
    have hwhole := (vec16_spells htail).whole
    simp [extensionBlock, hne, hwhole, hitems, hfold]

end

/-- A hash identifier has the length of a digest; only four types are known. -/
def TrustedAuthority.WellFormed (ta : TrustedAuthority) : Prop :=
  ta.identifierType = idTypePreAgreed ∨ ta.identifierType = idTypeX509Name ∨
    (ta.identifierType = idTypeKeySM3Hash ∨ ta.identifierType = idTypeCertSM3Hash) ∧
      ta.identifier.length = 32

/-- A pre-agreed authority has no identifier on the wire. -/
def TrustedAuthority.Bare (ta : TrustedAuthority) : Prop :=
  ta.identifierType = idTypePreAgreed → ta.identifier = []

structure ClientHelloMsg.WellFormed (m : ClientHelloMsg) : Prop where
  random : m.random.length = 32
  authorities : ∀ ta ∈ m.trustedAuthorities, TrustedAuthority.WellFormed ta
  protocols : ∀ p ∈ m.alpnProtocols, p ≠ []

structure ClientHelloMsg.Encodable (m : ClientHelloMsg) :
    Prop extends ClientHelloMsg.WellFormed m where
  bare : ∀ ta ∈ m.trustedAuthorities, TrustedAuthority.Bare ta

lemma authority_spells (hta : TrustedAuthority.WellFormed ta) (hbare : TrustedAuthority.Bare ta)
    (h : ta.marshal = .ok w) : Spells TrustedAuthority.read ta w := by
  obtain ⟨typ, identifier⟩ := ta
  have htyp : UInt8.ofNat typ.toNat = typ := UInt8.ofNat_toNat
  rcases hta with hpre | hname | ⟨hhash, hlen⟩
  · obtain rfl : typ = idTypePreAgreed := hpre
    obtain rfl : identifier = [] := hbare rfl
    cases h
    exact ⟨List.cons_ne_nil _ _, fun rest => rfl⟩
  · obtain rfl : typ = idTypeX509Name := hname
    change (sized16 identifier >>= fun sized => pure (idTypeX509Name :: sized)) = _ at h
    simp only [bind_ok, pure_inj] at h
    obtain ⟨sized, hsized, rfl⟩ := h
    refine ⟨List.cons_ne_nil _ _, fun rest => ?_⟩
    have hread := (vec16_spells hsized).read rest
    simp [TrustedAuthority.read, u8, hread, idTypeX509Name, idTypePreAgreed, idTypeKeySM3Hash,
      idTypeCertSM3Hash]
  · simp only at hhash hlen
    simp only [TrustedAuthority.marshal] at h
    rw [if_pos hhash] at h
    cases h
    refine ⟨List.cons_ne_nil _ _, fun rest => ?_⟩
    have hpre : typ ≠ idTypePreAgreed := by
      rcases hhash with rfl | rfl <;> decide
    simp [TrustedAuthority.read, u8, htyp, hpre, hhash, chunk_append hlen]

lemma protocol_spells {p w : Bytes} (hp : p ≠ []) (h : sized8 p = .ok w) :
    Spells ClientHelloMsg.protocolEntry p w := by
  refine ⟨(vec8_spells h).octets, fun rest => ?_⟩
  simp [ClientHelloMsg.protocolEntry, (vec8_spells h).read, nonEmpty_some hp]

variable {name : Bytes}

lemma name_spells (hname : name ≠ []) (h : sized16 name = .ok w) :
    Spells ClientHelloMsg.nameEntry (0, name) (0 :: w) := by
  refine ⟨List.cons_ne_nil _ _, fun rest => ?_⟩
  simp [ClientHelloMsg.nameEntry, u8, (vec16_spells h).read, nonEmpty_some hname]

section

variable {n : ClientHelloMsg} {w : Bytes}

abbrev ClientExtends (w : Bytes) (n n' : ClientHelloMsg) : Prop :=
  Extends ClientHelloMsg.unmarshalExtension w n n'

lemma optional_extends {α : Type} {xs : List α} {f : List α → ClientHelloMsg} {x : Except Err Bytes}
    {_ : Decidable (xs = [])} (hnone : f [] = n) (h : (if xs = [] then pure [] else x) = .ok w)
    (hsome : xs ≠ [] → x = .ok w → ClientExtends w n (f xs)) : ClientExtends w n (f xs) := by
  split at h
  · rename_i hxs
    cases h
    rw [hxs, hnone]
    exact .none n
  · rename_i hxs
    exact hsome hxs h

lemma name_extends (hn : n.serverName = [])
    (h : (if name = [] then pure [] else listExtension Ext.serverName
      (return 0 :: (← sized16 name))) = Except.ok w)
    : ClientExtends w n { n with serverName := name } := by
  refine optional_extends (f := fun x => { n with serverName := x }) (by rw [← hn]) h fun hname h =>
    ?_
  obtain ⟨inner, hinner, hlen, rfl⟩ := listExtension_ok h
  simp only [bind_ok, pure_inj] at hinner
  obtain ⟨sized, hsized, rfl⟩ := hinner
  refine .one hlen ?_
  have hitems := items_spelled (.cons (name_spells hname hsized) .nil)
  simp only [List.flatten_cons, List.flatten_nil, List.append_nil] at hitems
  change (extensionList _ >>= fun inner => items ClientHelloMsg.nameEntry inner >>= fun names =>
    some (names.foldl ClientHelloMsg.withName n)) = _
  rw [extensionList_some (List.cons_ne_nil _ _) hlen]
  simp [hitems, ClientHelloMsg.withName, hn]

lemma authorities_extends {authorities : List TrustedAuthority} (hn : n.trustedAuthorities = [])
    (hwf : ∀ ta ∈ authorities, TrustedAuthority.WellFormed ta)
    (hbare : ∀ ta ∈ authorities, TrustedAuthority.Bare ta)
    (h : (if authorities =
      [] then pure [] else listExtension Ext.trustedCAKeys
        (concatM TrustedAuthority.marshal authorities)) = Except.ok w)
    : ClientExtends w n { n with trustedAuthorities := authorities } := by
  refine optional_extends (f := fun x => { n with trustedAuthorities := x })
    (by rw [← hn]) h fun hsome h => ?_
  obtain ⟨inner, hinner, hlen, rfl⟩ := listExtension_ok h
  have hspells := fun ta hta w => authority_spells (w := w) (hwf ta hta) (hbare ta hta)
  have hne := concatM_ne_nil hinner hsome fun ta hta w hw => (hspells ta hta w hw).octets
  refine .one hlen ?_
  change (extensionList _ >>= fun inner => items TrustedAuthority.read inner >>= fun authorities =>
    some { n with trustedAuthorities := n.trustedAuthorities ++ authorities }) = _
  simp [extensionList_some hne hlen, concatM_items hinner hspells, hn]

lemma status_extends {stapling : Bool} (hn : n.ocspStapling = false)
    (h : (if stapling then (be16 Ext.statusRequest.toNat ++ ·) <$> sized16 (1 :: (be16 0 ++ be16 0))
      else pure []) = Except.ok w) : ClientExtends w n { n with ocspStapling := stapling } := by
  cases stapling with
  | false =>
    cases h
    have hsame : { n with ocspStapling := false } = n := by rw [← hn]
    rw [hsame]
    exact .none n
  | true =>
    have hsized : sized16 (1 :: (be16 0 ++ be16 0)) = .ok _ := sized16_ok.mpr ⟨by simp, rfl⟩
    rw [if_pos rfl, hsized] at h
    cases h
    have htype : ClientHelloMsg.statusType (1 :: (be16 0 ++ be16 0)) = some 1 := by decide
    have hread : ClientHelloMsg.unmarshalExtension n (Ext.statusRequest, 1 :: (be16 0 ++ be16 0)) =
        some { n with ocspStapling := true } := by
      have hnames : Ext.statusRequest ≠ Ext.serverName := by decide
      have hkeys : Ext.statusRequest ≠ Ext.trustedCAKeys := by decide
      simp [ClientHelloMsg.unmarshalExtension, hnames, hkeys, htype]
    have hlen : (1 :: (be16 0 ++ be16 0) : Bytes).length < 65536 := by simp
    exact Extends.one (e := (Ext.statusRequest, 1 :: (be16 0 ++ be16 0))) hlen hread

lemma pairs_inner {xs : List UInt16} (hxs : xs ≠ [])
    (h : listExtension typ (pure (encodePairs xs)) = .ok w) :
    ∃ data : Bytes, data.length < 65536 ∧ w = encodeExtension (typ, data) ∧
      (extensionList data >>= fun inner => items pair inner) = some xs := by
  obtain ⟨inner, hinner, hlen, rfl⟩ := listExtension_ok h
  cases hinner
  have hne : encodePairs xs ≠ [] := by
    obtain ⟨x, xs, rfl⟩ := List.exists_cons_of_ne_nil hxs
    exact List.cons_ne_nil _ _
  exact ⟨_, hlen, rfl, by simp [extensionList_some hne hlen, items_pairs]⟩

lemma curves_extends {curves : List UInt16} (hn : n.supportedCurves = [])
    (h : (if curves = [] then pure [] else listExtension Ext.supportedCurves
      (pure (encodePairs curves))) = Except.ok w)
    : ClientExtends w n { n with supportedCurves := curves } := by
  refine optional_extends (f := fun x =>
    { n with supportedCurves := x }) (by rw [← hn]) h fun hsome h => ?_
  obtain ⟨data, hlen, rfl, hdata⟩ := pairs_inner hsome h
  refine .one hlen ?_
  obtain ⟨inner, hinner, hitems⟩ := Option.bind_eq_some_iff.mp hdata
  change (extensionList data >>= fun inner => items pair inner >>= fun curves =>
    some { n with supportedCurves := n.supportedCurves ++ curves }) = _
  simp [hinner, hitems, hn]

lemma schemes_extends {schemes : List UInt16} (hn : n.supportedSignatureAlgorithms = [])
    (h : (if schemes = [] then pure [] else listExtension Ext.signatureAlgorithms
      (pure (encodePairs schemes))) = Except.ok w)
    : ClientExtends w n { n with supportedSignatureAlgorithms := schemes } := by
  refine optional_extends (f := fun x => { n with supportedSignatureAlgorithms := x })
    (by rw [← hn]) h fun hsome h => ?_
  obtain ⟨data, hlen, rfl, hdata⟩ := pairs_inner hsome h
  refine .one hlen ?_
  obtain ⟨inner, hinner, hitems⟩ := Option.bind_eq_some_iff.mp hdata
  change (extensionList data >>= fun inner => items pair inner >>= fun schemes =>
    some { n with supportedSignatureAlgorithms := n.supportedSignatureAlgorithms ++ schemes }) = _
  simp [hinner, hitems, hn]

lemma protocols_extends {protocols : List Bytes} (hn : n.alpnProtocols = [])
    (hne : ∀ p ∈ protocols, p ≠ [])
    (h : (if protocols = [] then pure [] else listExtension Ext.alpn (concatM sized8 protocols)) =
      Except.ok w) : ClientExtends w n { n with alpnProtocols := protocols } := by
  refine optional_extends (f := fun x =>
    { n with alpnProtocols := x }) (by rw [← hn]) h fun hsome h => ?_
  obtain ⟨inner, hinner, hlen, rfl⟩ := listExtension_ok h
  have hspells := fun p hp w => protocol_spells (w := w) (hne p hp)
  have hinnerNe := concatM_ne_nil hinner hsome fun p hp w hw => (hspells p hp w hw).octets
  refine .one hlen ?_
  change (extensionList _ >>= fun inner =>
    items ClientHelloMsg.protocolEntry inner >>= fun protocols =>
    some { n with alpnProtocols := n.alpnProtocols ++ protocols }) = _
  simp [extensionList_some hinnerNe hlen, concatM_items hinner hspells, hn]

end

variable {m : ClientHelloMsg}

lemma clientExtensions (hm : ClientHelloMsg.Encodable m) (h : m.marshalExtensions = .ok w) :
    ClientExtends w
      ⟨m.version, m.random, m.sessionID, m.cipherSuites, m.compressionMethods, [], [], false, [],
        [], []⟩ m := by
  simp only [ClientHelloMsg.marshalExtensions, ite_bind, bind_ok, pure_inj] at h
  obtain ⟨name, hname, authorities, hauthorities, status, hstatus, curves, hcurves, schemes,
    hschemes, protocols, hprotocols, rfl⟩ := h
  have h₁ := name_extends (n :=
    ⟨m.version, m.random, m.sessionID, m.cipherSuites, m.compressionMethods, [], [], false,
    [], [], []⟩) rfl hname
  have h₂ := h₁.append (authorities_extends rfl hm.authorities hm.bare hauthorities)
  have h₃ := h₂.append (status_extends rfl hstatus)
  have h₄ := h₃.append (curves_extends rfl hcurves)
  have h₅ := h₄.append (schemes_extends rfl hschemes)
  exact h₅.append (protocols_extends rfl hm.protocols hprotocols)

lemma clientHello_unmarshal (hm : ClientHelloMsg.Encodable m) (h : m.marshal = .ok b) :
    ClientHelloMsg.unmarshal b = some m := by
  simp only [ClientHelloMsg.marshal, bind_ok] at h
  obtain ⟨ext, hext, h⟩ := h
  obtain ⟨body, hbody, hread⟩ := marshalHandshake_ok h
  simp only [ite_bind, bind_ok, pure_inj] at hbody
  obtain ⟨sessionID, hsession, suites, hsuites, methods, hmethods, tail, htail, rfl⟩ := hbody
  have hblock := (clientExtensions hm hext).block htail
  simp only [ClientHelloMsg.unmarshal, hread, Option.bind_eq_bind, Option.bind_some,
    List.append_assoc,
    (pair_spells m.version).read, chunk_append hm.random, (vec8_spells hsession).read,
      (vec16_spells hsuites).read,
    items_pairs, (vec8_spells hmethods).read]
  exact hblock

structure ServerHelloMsg.WellFormed (m : ServerHelloMsg) : Prop where
  random : m.random.length = 32
  stapled : m.ocspStapling = true → m.ocspResponse ≠ []

structure ServerHelloMsg.Encodable (m : ServerHelloMsg) :
    Prop extends ServerHelloMsg.WellFormed m where
  unstapled : m.ocspStapling = false → m.ocspResponse = []

section

variable {n : ServerHelloMsg} {w : Bytes}

abbrev ServerExtends (w : Bytes) (n n' : ServerHelloMsg) : Prop :=
  Extends ServerHelloMsg.unmarshalExtension w n n'

lemma response_extends {m : ServerHelloMsg} (hm : ServerHelloMsg.Encodable m)
    (hn : n.ocspStapling = false) (hresponse : n.ocspResponse = [])
    (h : (if m.ocspStapling ∧
      m.ocspResponse ≠ [] then ServerHelloMsg.stapled m.ocspResponse else pure []) = Except.ok w) :
    ServerExtends w n { n with
      ocspStapling := m.ocspStapling, ocspResponse := m.ocspResponse } := by
  cases hstapling : m.ocspStapling with
  | false =>
    rw [hstapling, if_neg (by simp)] at h
    cases h
    have hsame : { n with ocspStapling := false, ocspResponse := [] } = n := by
      rw [← hn, ← hresponse]
    rw [hm.unstapled hstapling, hsame]
    exact .none n
  | true =>
    rw [hstapling, if_pos ⟨rfl, hm.stapled hstapling⟩] at h
    simp only [ServerHelloMsg.stapled, bind_ok, pure_inj] at h
    obtain ⟨response, hresponse, data, hdata, rfl⟩ := h
    obtain ⟨hlen, rfl⟩ := sized16_ok.mp hdata
    have hread : ServerHelloMsg.unmarshalExtension n (Ext.statusRequest, 1 :: response) =
        (whole (vec24 response) >>= fun x =>
          some { n with ocspStapling := true, ocspResponse := x }) := rfl
    rw [(vec24_spells hresponse).whole] at hread
    exact Extends.one hlen hread

lemma protocol_extends {protocol : Bytes} (hn : n.alpnProtocol = [])
    (h : (if protocol = [] then pure [] else listExtension Ext.alpn (sized8 protocol)) =
      Except.ok w) : ServerExtends w n { n with alpnProtocol := protocol } := by
  split at h
  · rename_i hnone
    cases h
    have hsame : { n with alpnProtocol := [] } = n := by rw [← hn]
    rw [hnone, hsame]
    exact .none n
  · rename_i hsome
    obtain ⟨inner, hinner, hlen, rfl⟩ := listExtension_ok h
    have hspells := protocol_spells hsome hinner
    refine .one hlen ?_
    change (extensionList _ >>= fun inner =>
      whole (ClientHelloMsg.protocolEntry inner) >>= fun protocol =>
      some { n with alpnProtocol := protocol }) = _
    simp [extensionList_some hspells.octets hlen, hspells.whole]

lemma ack_extends (ack : Bool) (hn : n.serverNameAck = false) :
    ServerExtends (if ack then be16 Ext.serverName.toNat ++ be16 0 else []) n
      { n with serverNameAck := ack } := by
  cases ack with
  | false =>
    have hsame : { n with serverNameAck := false } = n := by rw [← hn]
    rw [hsame]
    exact .none n
  | true =>
    have hread : ServerHelloMsg.unmarshalExtension n (Ext.serverName, []) =
      some { n with serverNameAck := true } := rfl
    exact Extends.one (by simp) hread

end

lemma serverHello_unmarshal {m : ServerHelloMsg} (hm : ServerHelloMsg.Encodable m)
    (h : m.marshal = .ok b) :
    ServerHelloMsg.unmarshal b = some m := by
  simp only [ServerHelloMsg.marshal, ServerHelloMsg.marshalExtensions, ite_bind, bind_ok,
    pure_inj] at h
  obtain ⟨ext, ⟨status, hstatus, protocol, hprotocol, rfl⟩, h⟩ := h
  obtain ⟨body, hbody, hread⟩ := marshalHandshake_ok h
  simp only [bind_ok, pure_inj] at hbody
  obtain ⟨sessionID, hsession, tail, htail, rfl⟩ := hbody
  have hstart := response_extends (n :=
    ⟨m.version, m.random, m.sessionID, m.cipherSuite, m.compressionMethod, false, [],
    [], false⟩) hm rfl rfl hstatus
  have hblock := ((hstart.append (protocol_extends rfl hprotocol)).append
    (ack_extends m.serverNameAck rfl)).block htail
  have hmethod (rest : Bytes) :
    u8 (m.compressionMethod :: rest) = some (m.compressionMethod.toNat, rest) := rfl
  simp only [ServerHelloMsg.unmarshal, hread, Option.bind_eq_bind, Option.bind_some,
    List.append_assoc,
    (pair_spells m.version).read, chunk_append hm.random, (vec8_spells hsession).read,
    (pair_spells m.cipherSuite).read, List.cons_append, List.nil_append, hmethod, UInt8.ofNat_toNat]
  exact hblock

lemma certificate_unmarshal {m : CertificateMsg} (h : m.marshal = .ok b) :
    CertificateMsg.unmarshal b = some m := by
  obtain ⟨body, hbody, hread⟩ := marshalHandshake_ok h
  simp only [bind_ok] at hbody
  obtain ⟨entries, hentries, hsized⟩ := hbody
  have hitems := concatM_items hentries fun _ _ _ hw => vec24_spells hw
  simp [CertificateMsg.unmarshal, hread, (vec24_spells hsized).whole, hitems]

lemma certificateRequest_unmarshal {m : CertificateRequestMsg} (h : m.marshal = .ok b) :
    CertificateRequestMsg.unmarshal b = some m := by
  obtain ⟨body, hbody, hread⟩ := marshalHandshake_ok h
  simp only [bind_ok, pure_inj] at hbody
  obtain ⟨types, htypes, entries, hentries, authorities, hsized, rfl⟩ := hbody
  have hitems := concatM_items hentries fun _ _ _ hw => vec16_spells hw
  simp [CertificateRequestMsg.unmarshal, hread, (vec8_spells htypes).read,
    (vec16_spells hsized).whole, hitems]

lemma certificateVerify_unmarshal {m : CertificateVerifyMsg} (h : m.marshal = .ok b) :
    CertificateVerifyMsg.unmarshal b = some m := by
  obtain ⟨body, hbody, hread⟩ := marshalHandshake_ok h
  simp [CertificateVerifyMsg.unmarshal, hread, (vec16_spells hbody).whole]

lemma opaque_unmarshal {body : Bytes} (h : marshalOpaque msgType body = .ok b) :
    tlcpReadHeader msgType b = some body := by
  obtain ⟨_, hbody, hread⟩ := marshalHandshake_ok h
  cases hbody
  exact hread

lemma pair_bounded : Bounded pair := u16_bounded.value fun n => some (UInt16.ofNat n)

lemma protocolEntry_bounded : Bounded ClientHelloMsg.protocolEntry := vec8_bounded.value nonEmpty

lemma extension_bounded : Bounded extension := by
  refine pair_bounded.andThen (fun typ b => vec16 b >>= fun p => some ((typ, p.1), p.2)) ?_
  intro typ b y rest hread
  exact (vec16_bounded.value fun data => some (typ, data)).suffix hread

lemma nameEntry_bounded : Bounded ClientHelloMsg.nameEntry := by
  refine u8_bounded.andThen (fun nameType b => vec16 b >>= fun p => nonEmpty p.1 >>= fun name =>
    some ((nameType, name), p.2)) ?_
  intro nameType b y rest hread
  obtain ⟨p, hp, hread⟩ := Option.bind_eq_some_iff.mp hread
  obtain ⟨name, _, hread⟩ := Option.bind_eq_some_iff.mp hread
  cases hread
  exact vec16_bounded.suffix hp

lemma authority_bounded : Bounded TrustedAuthority.read := by
  intro b ta rest h
  simp only [TrustedAuthority.read, Option.bind_eq_bind, Option.bind_eq_some_iff] at h
  obtain ⟨⟨t, b'⟩, ht, h⟩ := h
  obtain ⟨used, hused, rfl⟩ := u8_bounded _ _ _ ht
  have hrest : rest <:+ b' := by
    split at h
    · cases h
      exact List.suffix_refl _
    split at h
    · obtain ⟨p, hp, h⟩ := Option.bind_eq_some_iff.mp h
      cases h
      exact chunk_suffix hp
    split at h
    · obtain ⟨p, hp, h⟩ := Option.bind_eq_some_iff.mp h
      cases h
      exact vec16_bounded.suffix hp
    · cases h
  obtain ⟨more, rfl⟩ := hrest
  exact ⟨used ++ more, List.append_ne_nil_of_left_ne_nil hused _, List.append_assoc _ _ _⟩

def RoundTrip {μ : Type} (marshal : μ → Except Err Bytes) (unmarshal : Bytes → Option μ)
    (encodable : μ → Prop) : Prop :=
  ∀ m b, encodable m → marshal m = .ok b → unmarshal b = some m

/-- Each of the nine messages round trips, and each loop of the readers ends within its input. -/
theorem messages_round_trip :
    (RoundTrip ClientHelloMsg.marshal ClientHelloMsg.unmarshal ClientHelloMsg.Encodable ∧
      RoundTrip ServerHelloMsg.marshal ServerHelloMsg.unmarshal ServerHelloMsg.Encodable ∧
      RoundTrip CertificateMsg.marshal CertificateMsg.unmarshal (fun _ => True) ∧
      RoundTrip ServerKeyExchangeMsg.marshal ServerKeyExchangeMsg.unmarshal (fun _ => True) ∧
      RoundTrip CertificateRequestMsg.marshal CertificateRequestMsg.unmarshal (fun _ => True) ∧
      RoundTrip ServerHelloDoneMsg.marshal ServerHelloDoneMsg.unmarshal (fun _ => True) ∧
      RoundTrip CertificateVerifyMsg.marshal CertificateVerifyMsg.unmarshal (fun _ => True) ∧
      RoundTrip ClientKeyExchangeMsg.marshal ClientKeyExchangeMsg.unmarshal (fun _ => True) ∧
      RoundTrip FinishedMsg.marshal FinishedMsg.unmarshal (fun _ => True)) ∧
    Terminates pair ∧ Terminates vec16 ∧ Terminates vec24 ∧ Terminates extension ∧
      Terminates ClientHelloMsg.nameEntry ∧
      Terminates ClientHelloMsg.protocolEntry ∧ Terminates TrustedAuthority.read := by
  refine ⟨⟨?_, ?_, ?_, ?_, ?_, ?_, ?_, ?_, ?_⟩, pair_bounded.terminates, vec16_bounded.terminates,
    vec24_bounded.terminates, extension_bounded.terminates, nameEntry_bounded.terminates,
    protocolEntry_bounded.terminates, authority_bounded.terminates⟩
  · exact fun m b hm h => clientHello_unmarshal hm h
  · exact fun m b hm h => serverHello_unmarshal hm h
  · exact fun m b _ h => certificate_unmarshal h
  · exact fun m b _ h => by simp [ServerKeyExchangeMsg.unmarshal, opaque_unmarshal h]
  · exact fun m b _ h => certificateRequest_unmarshal h
  · exact fun m b _ h => by simp [ServerHelloDoneMsg.unmarshal, opaque_unmarshal h]
  · exact fun m b _ h => certificateVerify_unmarshal h
  · exact fun m b _ h => by simp [ClientKeyExchangeMsg.unmarshal, opaque_unmarshal h]
  · exact fun m b _ h => by simp [FinishedMsg.unmarshal, opaque_unmarshal h]

def fullHello : ClientHelloMsg where
  version := versionTLCP
  random := zeros 32
  sessionID := [1]
  cipherSuites := [0xe053]
  compressionMethods := [0]
  serverName := [97]
  trustedAuthorities := [⟨idTypePreAgreed, []⟩, ⟨idTypeX509Name, [7]⟩, ⟨idTypeKeySM3Hash, zeros 32⟩]
  ocspStapling := true
  supportedCurves := [curveSM2]
  supportedSignatureAlgorithms := [sigSM2WithSM3]
  alpnProtocols := [[104], [50]]

theorem messages_round_trip_full :
    (fullHello.marshal >>= fun b => need .eof (ClientHelloMsg.unmarshal b)) = .ok fullHello := by
  have hencodable : ClientHelloMsg.Encodable fullHello :=
    ⟨⟨rfl, by simp [fullHello, TrustedAuthority.WellFormed], by simp [fullHello]⟩,
      by simp [fullHello, TrustedAuthority.Bare, idTypePreAgreed, idTypeX509Name, idTypeKeySM3Hash]⟩
  obtain ⟨b, hb⟩ : ∃ b, fullHello.marshal = .ok b := ⟨_, rfl⟩
  rw [hb, ok_bind, messages_round_trip.1.1 fullHello b hencodable hb, need_some]

/-- An identifier of a pre-agreed authority and an OCSP response that is not stapled are not on
the wire. -/
theorem unsent_fields_lost :
    (∃ m b, ClientHelloMsg.WellFormed m ∧ m.marshal = .ok b ∧ ClientHelloMsg.unmarshal b ≠ some m) ∧
      ∃ m b, ServerHelloMsg.WellFormed m ∧ m.marshal = .ok b ∧
        ServerHelloMsg.unmarshal b ≠ some m := by
  constructor
  · refine ⟨{ fullHello with trustedAuthorities := [⟨idTypePreAgreed, [1]⟩] }, _, ?_, rfl,
      by decide +kernel⟩
    exact ⟨rfl, by simp [TrustedAuthority.WellFormed], by simp [fullHello]⟩
  · refine ⟨⟨versionTLCP, zeros 32, [], 0xe053, 0, false, [1], [], false⟩, _, ?_, rfl,
      by decide +kernel⟩
    exact ⟨rfl, by simp⟩

end Pollux.Tlcp
