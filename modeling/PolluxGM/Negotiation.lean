import Mathlib.Algebra.Group.Nat.Defs
import PolluxGM.HelloExchange

/-!
# What the server negotiates

A hello may repeat extensions, and its lists may be of odd length or have octets behind them. What
counts as offered is said about the octets, and the answer is read as a client reads it.
-/
namespace Pollux.Negotiation

open Tls

variable {P : Prims}

def lengthField (lenSize n : Nat) : Bytes := if lenSize = 1 then [UInt8.ofNat n] else be16 n

def HoldsVector (lenSize : Nat) (data list : Bytes) : Prop :=
  list.length < 256 ^ lenSize ∧ ∃ rest, data = lengthField lenSize list.length ++ list ++ rest

def Lists16 (lenSize : Nat) (data : Bytes) (v : UInt16) : Prop :=
  ∃ before after, before.length % 2 = 0 ∧ HoldsVector lenSize data (before ++ be16 v.toNat ++ after)

def ListsMode (data : Bytes) (mode : UInt8) : Prop :=
  ∃ modes, mode ∈ modes ∧ HoldsVector 1 data modes

def encodeShare (share : UInt16 × Bytes) : Bytes :=
  be16 share.1.toNat ++ be16 share.2.length ++ share.2

def OffersShare (data : Bytes) (group : UInt16) (key : Bytes) : Prop :=
  ∃ (before : List (UInt16 × Bytes)) (rest : Bytes), (∀ share ∈ before, share.1 ≠ group) ∧
    HoldsVector 2 data (before.flatMap encodeShare ++ encodeShare (group, key) ++ rest)

lemma be16_octets (a b : UInt8) : be16 (a.toNat * 256 + b.toNat) = [a, b] := by
  have hread : u16 [a, b] = some (a.toNat * 256 + b.toNat, []) := rfl
  simpa using (u16_some hread).1.symm

variable {n : Nat}

lemma mem_pairs (h : n ∈ pairs b) :
    ∃ before after, before.length % 2 = 0 ∧ b = before ++ be16 n ++ after := by
  induction b using pairs.induct with
  | case1 x y r ih =>
    rcases List.mem_cons.mp h with rfl | h
    · exact ⟨[], r, rfl, by simp [be16_octets]⟩
    · obtain ⟨before, after, heven, rfl⟩ := ih h
      exact ⟨x :: y :: before, after, by simp only [List.length_cons]; omega, rfl⟩
  | case2 b hshort =>
    have hnone : pairs b = [] := by
      unfold pairs
      split
      · rename_i x y r
        exact (hshort x y r rfl).elim
      · rfl
    rw [hnone] at h
    cases h

variable {lenSize : Nat}

lemma holdsVector_take (hn : n < 256 ^ lenSize) (hr : n ≤ r.length) :
    HoldsVector lenSize (lengthField lenSize n ++ r) (r.take n) := by
  have hlen : (r.take n).length = n := by simp; omega
  refine ⟨by omega, r.drop n, ?_⟩
  rw [hlen, List.append_assoc, List.take_append_drop]

variable {data : Bytes}

lemma containsUint16List_lists (hsize : lenSize = 1 ∨ lenSize = 2)
    (h : containsUint16List data lenSize v = true) : Lists16 lenSize data v := by
  unfold containsUint16List at h
  split at h
  · cases h
  rename_i listLen body hprefix
  split at h
  · cases h
  rename_i hfits
  obtain ⟨n, hmem, hn⟩ := List.any_eq_true.mp h
  obtain rfl : n = v.toNat := by simpa using hn
  obtain ⟨before, after, heven, hlist⟩ := mem_pairs hmem
  have hdata : data = lengthField lenSize listLen ++ body ∧ listLen < 256 ^ lenSize := by
    rcases hsize with rfl | rfl
    · exact u8_some hprefix
    · exact u16_some hprefix
  refine ⟨before, after, heven, ?_⟩
  rw [← hlist, hdata.1]
  exact holdsVector_take hdata.2 (by omega)

lemma offersPSKDHEKE_lists (h : offersPSKDHEKE data = true) :
    ListsMode data pskKeyExchangeModeDHEKE := by
  unfold offersPSKDHEKE at h
  split at h
  · cases h
  rename_i listLen r hprefix
  split at h
  · cases h
  rename_i hfits
  obtain ⟨mode, hmem, hmode⟩ := List.any_eq_true.mp h
  obtain rfl : mode = pskKeyExchangeModeDHEKE := by simpa using hmode
  obtain ⟨rfl, hlt⟩ := u8_some hprefix
  have hvector : HoldsVector 1 (lengthField 1 listLen ++ r) (r.take listLen) :=
    holdsVector_take hlt (by omega)
  exact ⟨r.take listLen, hmem, hvector⟩

variable {group : UInt16} {key : Bytes}

lemma findKeyShare_offers (h : findKeyShare group fuel p = .ok key) :
    ∃ (before : List (UInt16 × Bytes)) (rest : Bytes), (∀ share ∈ before, share.1 ≠ group) ∧
      p = before.flatMap encodeShare ++ encodeShare (group, key) ++ rest := by
  induction fuel generalizing p with
  | zero => cases h
  | succ fuel ih =>
    unfold findKeyShare at h
    split at h
    · cases h
    simp only [bind_ok, Prod.exists] at h
    obtain ⟨g, k, n, hentry, h⟩ := h
    simp only [parseKeyShareEntry, bind_ok, need_ok, reject_ok, pure_inj, Prod.mk.injEq,
      Prod.exists] at hentry
    obtain ⟨tag, keyLen, r, htag, _, hfits, rfl, rfl, rfl⟩ := hentry
    obtain ⟨rfl, hlt, hlen⟩ := tagLength_some htag
    have hk : (r.take keyLen).length = keyLen := by simp; omega
    have hshare : be16 tag ++ be16 keyLen ++ r = encodeShare (UInt16.ofNat tag, r.take keyLen) ++
      r.drop keyLen := by
      simp only [encodeShare, hk, toNat_ofNat16 _ hlt, List.append_assoc, List.take_append_drop]
    split at h
    · rename_i hgroup
      cases h
      exact ⟨[], r.drop keyLen, by simp, by rw [hshare, hgroup]; rfl⟩
    · rename_i hother
      have hdrop : (be16 tag ++ be16 keyLen ++ r).drop (4 + keyLen) = r.drop keyLen := by
        rw [← List.drop_drop]
        rfl
      rw [hdrop] at h
      obtain ⟨before, rest, hbefore, hp⟩ := ih h
      refine ⟨(UInt16.ofNat tag, r.take keyLen) :: before, rest, ?_, ?_⟩
      · exact List.forall_mem_cons.mpr ⟨hother, hbefore⟩
      · rw [hshare, hp]
        simp only [List.flatMap_cons, List.append_assoc]

lemma parseClientKeyShare_offers (h : parseClientKeyShare data group = .ok key) :
    OffersShare data group key := by
  simp only [parseClientKeyShare, bind_ok, need_ok, reject_ok, Prod.exists] at h
  obtain ⟨listLen, p, hprefix, _, hexact, hfind⟩ := h
  obtain ⟨rfl, hlt⟩ := u16_some hprefix
  obtain ⟨before, rest, hbefore, hp⟩ := findKeyShare_offers hfind
  have hvector : HoldsVector 2 (lengthField 2 listLen ++ p) (p.take listLen) :=
    holdsVector_take hlt (by omega)
  rw [List.take_of_length_le (by omega), hp] at hvector
  exact ⟨before, rest, hbefore, hp ▸ hvector⟩

/-- The hello offers the suite, version, signature scheme and group of the server. -/
structure Capable (m : ClientHelloMsg) : Prop where
  suite : tlsSM4GCMSM3 ∈ m.cipherSuites
  version : Lists16 1 (findExtension m.extensions ExtensionType.supportedVersions) versionTLS13
  signature : Lists16 2 (findExtension m.extensions ExtensionType.signatureAlgorithms) sm2SigSM3
  group : Lists16 2 (findExtension m.extensions ExtensionType.supportedGroups) curveSM2

variable {m : ClientHelloMsg}

lemma checkCapabilities_capable (h : checkCapabilities m = .ok ks) : Capable m := by
  simp only [checkCapabilities, bind_ok, reject_ok, not_or, Bool.not_eq_false] at h
  obtain ⟨_, hsuite, _, ⟨-, hversion⟩, _, ⟨-, hsignature⟩, _, ⟨-, hgroup⟩, -⟩ := h
  obtain ⟨suite, hmem, hwant⟩ := List.any_eq_true.mp hsuite
  obtain rfl : suite = tlsSM4GCMSM3 := by simpa using hwant
  exact ⟨hmem, containsUint16List_lists (.inl rfl) hversion,
    containsUint16List_lists (.inr rfl) hsignature, containsUint16List_lists (.inr rfl) hgroup⟩

def HoldsNames (data : Bytes) (names : List Bytes) : Prop :=
  (∀ name ∈ names, GoodName name) ∧ HoldsVector 2 data (names.flatMap encodeName)

def FirstShared (supported : List Bytes) (data proto : Bytes) : Prop :=
  ∃ before after, HoldsNames data (before ++ proto :: after) ∧ proto ∈ supported ∧ ∀ name ∈ before,
    name ∉ supported

variable {supported : List Bytes}

lemma FirstShared.good (h : FirstShared supported data proto) : GoodName proto := by
  obtain ⟨before, after, ⟨hgood, -⟩, -⟩ := h
  exact hgood proto (by simp)

lemma parseALPN_holds (h : parseALPNExtension data = .ok names) : HoldsNames data names := by
  simp only [parseALPNExtension, bind_ok, need_ok, reject_ok, pure_inj, Prod.exists] at h
  obtain ⟨listLen, p, hprefix, _, hexact, out, hnames, _, -, rfl⟩ := h
  obtain ⟨rfl, hlt⟩ := u16_some hprefix
  obtain ⟨hgood, hp⟩ := parseALPNNames_items.items (Nat.le_refl _) hnames
  have hvector : HoldsVector 2 (lengthField 2 listLen ++ p) (p.take listLen) :=
    holdsVector_take hlt (by omega)
  rw [List.take_of_length_le (by omega)] at hvector
  exact ⟨hgood, hp ▸ hvector⟩

lemma negotiateALPN_settles (h : negotiateALPN supported exts = .ok proto) :
    (proto = none ∧ (supported = [] ∨ findExtension exts ExtensionType.alpn = [])) ∨
    ∃ p, proto = some p ∧ (supported ≠ [] ∧ findExtension exts ExtensionType.alpn ≠ []) ∧
      FirstShared supported (findExtension exts ExtensionType.alpn) p := by
  unfold negotiateALPN at h
  dsimp only at h
  split at h
  · rename_i hsilent
    cases h
    exact .inl ⟨rfl, hsilent⟩
  rename_i hboth
  simp only [bind_ok, wrapErr_eq_ok] at h
  obtain ⟨names, hparse, h⟩ := h
  split at h
  · cases h
  rename_i p hfind
  cases h
  obtain ⟨hshared, before, after, rfl, hbefore⟩ := List.find?_eq_some_iff_append.mp hfind
  refine .inr ⟨p, rfl, not_or.mp hboth, before, after, parseALPN_holds hparse,
    by simpa using hshared, ?_⟩
  intro name hname
  simpa using hbefore name hname

/-- The PSK came out of the one ticket offered, under one of the keys of the moment, and the
binder is that of this PSK over the hello. -/
structure PskAdmitted (P : Prims) (cb : Callbacks) (m : ClientHelloMsg) (psk : Bytes)
    (identity : PskIdentity) (ticket : TicketData) : Prop where
  mode : ListsMode (findExtension m.extensions ExtensionType.pskKeyExchangeModes)
    pskKeyExchangeModeDHEKE
  decrypts : ∃ tek ∈ cb.ticketKeys, decryptSessionTicketWithData P [tek] identity.identity =
    .ok ticket
  carries : ticket.psk = psk
  binder : ∃ binder covered tail,
    findExtension m.extensions ExtensionType.preSharedKey = pskPayload [identity] [binder] ++ tail ∧
    pskBinderTranscript m [identity] = .ok covered ∧
      computeResumptionBinder P psk covered = .ok binder

/-- Early data was asked for and allowed, and the acceptor took this PSK at the age of this ticket
in nanoseconds. -/
structure EarlyAdmitted (cfg : ServerConfig P) (cb : Callbacks) (m : ClientHelloMsg) (psk : Bytes)
    (identity : PskIdentity) (ticket : TicketData) : Prop where
  offered : hasExtension m.extensions ExtensionType.earlyData = true
  allowed : cfg.allowEarlyData = true
  acceptor : cfg.hasEarlyDataAcceptor = true
  accepted : cb.acceptEarlyData psk
    ((identity.obfuscatedTicketAge - ticket.ageAdd).toNat * 1000000) = true

lemma decrypt_under_one
    (h : decryptSessionTicketWithData P teks identity = .ok ticket) :
    ∃ tek ∈ teks, decryptSessionTicketWithData P [tek] identity = .ok ticket := by
  simp only [decryptSessionTicketWithData, bind_ok, reject_ok, need_ok] at h
  obtain ⟨_, hlen, _, hversion, _, -, hfind⟩ := h
  obtain ⟨tek, hmem, hopens⟩ := List.exists_of_findSome?_eq_some hfind
  refine ⟨tek, hmem, ?_⟩
  simp only [decryptSessionTicketWithData, bind_ok, reject_ok, need_ok]
  exact ⟨(), hlen, (), hversion, (), by simp, by simp only [List.findSome?_cons, hopens]⟩

/-- After the offer: nothing selected, or an admitted PSK, with early keys only where early data
was admitted. -/
inductive Resumption (s : ServerHandshaker P) (cb : Callbacks) (m : ClientHelloMsg) :
    ServerHandshaker P → Prop where
  | declined (offered : Bool) : Resumption s cb m { s with clientOfferedEarlyData := offered }
  | selected {identity : PskIdentity} {ticket : TicketData}
    (admitted : PskAdmitted P cb m ticket.psk identity ticket)
      (offered : Bool) (early : Option QUICPacketKeys)
      (keys : early ≠ none → EarlyAdmitted s.config cb m ticket.psk identity ticket) :
      Resumption s cb m { s with
        resumptionAppData := ticket.appData
        resumptionRealAge := realTicketAge identity.obfuscatedTicketAge ticket.ageAdd
        resumptionSelectedPSK := some ticket.psk
        clientOfferedEarlyData := offered
        keys := s.keys.setEarly early }

variable {s s' : ServerHandshaker P} {cb : Callbacks}

lemma resumeFromClientHello_resumption (h : resumeFromClientHello s m cb = (.ok (), s'))
    (hnone : s.resumptionSelectedPSK = none) (hearly : s.keys.secrets.clientEarlyKeys = none) :
    Resumption s cb m s' := by
  obtain rfl | ⟨hmodes, s₁, hverify, hdecide⟩ := resumeFromClientHello_cases h
  · exact .declined s'.clientOfferedEarlyData
  obtain rfl | ⟨identity, binder, ticket, hoffer, hticket, hcheck, rfl⟩ :=
    verifyPSKBinder_cases hverify
  · -- the ticket did not decrypt, so there is no PSK to derive early keys from
    obtain ⟨offered, rfl⟩ | ⟨psk, k, hsel, -⟩ := decideEarlyData_cases hdecide
    · exact .declined offered
    · rw [hnone] at hsel
      cases hsel
  · obtain ⟨tail, htail⟩ := readPreSharedKey_ok hoffer
    obtain ⟨covered, hcovered, hright⟩ := checkBinder_ok hcheck
    have hpayload : findExtension m.extensions ExtensionType.preSharedKey =
      pskPayload [identity] [binder] ++ tail := by
      rw [pskPayload_single, htail, List.append_assoc]
    have hadmitted : PskAdmitted P cb m ticket.psk identity ticket :=
      ⟨offersPSKDHEKE_lists hmodes, decrypt_under_one hticket, rfl, binder, covered, tail, hpayload,
        hcovered, hright⟩
    obtain ⟨offered, rfl⟩ | ⟨psk, k, hsel, hoffers, hallow, hacceptor, haccept, -, rfl⟩ :=
      decideEarlyData_cases hdecide
    · exact .selected hadmitted offered s.keys.secrets.clientEarlyKeys (fun h => absurd hearly h)
    · obtain rfl : ticket.psk = psk := Option.some.inj hsel
      exact .selected hadmitted true (some k) (fun _ => ⟨hoffers, hallow, hacceptor, haccept⟩)

structure Accepted (cfg : ServerConfig P) (cb : Callbacks) (m : ClientHelloMsg)
    (s : ServerHandshaker P) : Prop where
  capable : Capable m
  share : ∃ key pub, OffersShare (findExtension m.extensions ExtensionType.keyShare) curveSM2 key ∧
    P.unmarshalUncompressed key = .ok pub ∧ s.clientPub = some pub
  settled : s.negotiatedProto ≠ [] ↔ cfg.nextProtos ≠ [] ∧
    findExtension m.extensions ExtensionType.alpn ≠ []
  first : s.negotiatedProto ≠ [] →
    FirstShared cfg.nextProtos (findExtension m.extensions ExtensionType.alpn) s.negotiatedProto
  psk : ∀ psk, s.resumptionSelectedPSK = some psk → ∃ identity ticket,
    PskAdmitted P cb m psk identity ticket ∧
    (s.keys.secrets.clientEarlyKeys ≠ none → EarlyAdmitted cfg cb m psk identity ticket)
  early : s.keys.secrets.clientEarlyKeys ≠ none → s.resumptionSelectedPSK ≠ none

lemma Resumption.keeps (h : Resumption s cb m s') :
    s'.clientPub = s.clientPub ∧ s'.negotiatedProto = s.negotiatedProto := by
  cases h <;> exact ⟨rfl, rfl⟩

lemma Resumption.psk (h : Resumption s cb m s') (hnone : s.resumptionSelectedPSK = none)
    {psk : Bytes} (hsel : s'.resumptionSelectedPSK = some psk) :
    ∃ identity ticket, PskAdmitted P cb m psk identity ticket ∧
      (s'.keys.secrets.clientEarlyKeys ≠ none →
        EarlyAdmitted s.config cb m psk identity ticket) := by
  cases h with
  | declined offered =>
    rw [hnone] at hsel
    cases hsel
  | selected admitted offered early keys =>
    cases hsel
    exact ⟨_, _, admitted, keys⟩

lemma Resumption.early (h : Resumption s cb m s') (hnone : s.keys.secrets.clientEarlyKeys = none)
    (hearly : s'.keys.secrets.clientEarlyKeys ≠ none) : s'.resumptionSelectedPSK ≠ none := by
  cases h with
  | declined offered => exact absurd hnone hearly
  | selected admitted offered early keys => simp

lemma handleClientHello_accepted (hfresh : FreshServer s)
    (h : handleClientHello s ch cb = (.ok (), s')) :
    ∃ body m, readTyped "ClientHello" HandshakeType.clientHello ClientHelloMsg.unmarshalBody ch =
      .ok (body, m) ∧ Accepted s.config cb m s' := by
  obtain ⟨-, body, m, ks, proto, pub, hread, hproto, hshare, hresume⟩ := handleClientHello_ok h
  simp only [readClientHello, bind_ok, pure_inj, Prod.mk.injEq, Prod.exists] at hread
  obtain ⟨body, m, hread, ks, hks, rfl, rfl, rfl⟩ := hread
  obtain ⟨rfl, -⟩ := checkCapabilities_share hks
  simp only [clientShare, bind_ok, wrapErr_eq_ok] at hshare
  obtain ⟨key, hkey, hpub⟩ := hshare
  have hresumption := resumeFromClientHello_resumption hresume hfresh.selectedPSK hfresh.earlyKeys
  obtain ⟨hclientPub, hnegotiated⟩ := hresumption.keeps
  have hsettles : (s'.negotiatedProto ≠ [] ↔ s.config.nextProtos ≠ [] ∧
      findExtension m.extensions ExtensionType.alpn ≠ []) ∧ (s'.negotiatedProto ≠ [] →
      FirstShared s.config.nextProtos
        (findExtension m.extensions ExtensionType.alpn) s'.negotiatedProto) := by
    rw [hnegotiated]
    obtain ⟨rfl, hsilent⟩ | ⟨p, rfl, hboth, hfirst⟩ := negotiateALPN_settles hproto
    · simp only [recordClientHello, Option.getD_none, hfresh.negotiatedProto]
      tauto
    · simp only [recordClientHello, Option.getD_some]
      exact ⟨⟨fun _ => hboth, fun _ => hfirst.good.1⟩, fun _ => hfirst⟩
  exact ⟨body, m, hread, {
    capable := checkCapabilities_capable hks
    share := ⟨key, pub, parseClientKeyShare_offers hkey, hpub, hclientPub⟩
    settled := hsettles.1
    first := hsettles.2
    psk := fun psk hpsk => hresumption.psk hfresh.selectedPSK hpsk
    early := hresumption.early hfresh.earlyKeys }⟩

structure Answers (f : Flight) (sh : ServerHelloMsg) (ee : EncryptedExtensionsMsg) : Prop where
  hello : ∃ body, readTyped "ServerHello" HandshakeType.serverHello ServerHelloMsg.unmarshalBody
    f.serverHello = .ok (body, sh)
  extensions : ∃ body, readTyped "EncryptedExtensions" HandshakeType.encryptedExtensions
    EncryptedExtensionsMsg.unmarshalBody f.encryptedExt = .ok (body, ee)

lemma findExtension_versions (s : ServerHandshaker P) (random : Random) :
    findExtension (serverHelloMsg s random).extensions ExtensionType.supportedVersions =
      be16 versionTLS13.toNat := rfl

lemma findExtension_share (s : ServerHandshaker P) (random : Random) :
    findExtension (serverHelloMsg s random).extensions ExtensionType.keyShare =
      marshalServerKeyShare curveSM2 (P.marshalUncompressed (P.publicOf s.ephemeral)) := rfl

lemma hasExtension_psk (s : ServerHandshaker P) (random : Random) :
    hasExtension (serverHelloMsg s random).extensions ExtensionType.preSharedKey = true ↔
      s.resumptionSelectedPSK ≠ none := by
  rcases h : s.resumptionSelectedPSK with _ | psk <;> simp [serverHelloMsg, hasExtension, h]
  decide

variable {alpn : List Extension}

lemma hasExtension_alpn (h : alpnAnswer s = .ok alpn) :
    hasExtension (answerExtensions s alpn) ExtensionType.alpn = true ↔ s.negotiatedProto ≠ [] := by
  have hearly : hasExtension (if s.keys.secrets.clientEarlyKeys.isSome then
      [(⟨ExtensionType.earlyData, []⟩ : Extension)] else []) ExtensionType.alpn = false := by
    split <;> rfl
  rw [answerExtensions, hasExtension_append, hasExtension_append,
    transportExtension_none _ (by decide), hearly, Bool.false_or, Bool.or_false]
  obtain ⟨hnone, rfl⟩ | ⟨hsome, ext, -, rfl⟩ := alpnAnswer_cases h
  · simp [hasExtension, hnone]
  · simp [hasExtension, hsome]

lemma hasExtension_early (h : alpnAnswer s = .ok alpn)
    (hearly : hasExtension (answerExtensions s alpn) ExtensionType.earlyData = true) :
    s.keys.secrets.clientEarlyKeys ≠ none := by
  have halpn : hasExtension alpn ExtensionType.earlyData = false := by
    obtain ⟨-, rfl⟩ | ⟨-, ext, -, rfl⟩ := alpnAnswer_cases h <;> rfl
  intro hnone
  rw [answerExtensions, hasExtension_append, hasExtension_append,
    transportExtension_none _ (by decide), halpn, hnone] at hearly
  cases hearly

variable {sigRand : Bytes}

lemma certificatesSent_present {key : P.PrivateKey} {before after : Transcript}
    {certificate certVerify : Bytes}
    (h : CertificatesSent psk cert key sigRand before certificate certVerify after) :
    (certificate = [] ↔ psk ≠ none) ∧ (certVerify = [] ↔ psk ≠ none) ∧
      (certVerify ≠ [] → ∃ body sig,
      readTyped "CertificateVerify" HandshakeType.certificateVerify
        CertificateVerifyMsg.unmarshalBody certVerify = .ok (body, ⟨sm2SigSM3, sig⟩)) := by
  cases h with
  | resumed hyes =>
    have hsome : psk ≠ none := Option.isSome_iff_ne_none.mp hyes
    exact ⟨⟨fun _ => hsome, fun _ => rfl⟩, ⟨fun _ => hsome, fun _ => rfl⟩, fun h => absurd rfl h⟩
  | certified hno written certFits signed verify verifyFits =>
    rename_i certBody sig cvBody
    have hnone : psk = none := by simpa using hno
    refine ⟨by simp [frame, hnone], by simp [frame, hnone], fun _ => ⟨cvBody, sig, ?_⟩⟩
    exact (readTyped_frame verifyFits).mpr ⟨CertificateVerifyMsg.unmarshal_marshal verify, rfl⟩

/-- What was negotiated was offered and is allowed. -/
structure Negotiated (cfg : ServerConfig P) (cb : Callbacks) (m : ClientHelloMsg) (f : Flight)
    (sh : ServerHelloMsg) (ee : EncryptedExtensionsMsg) (s : ServerHandshaker P) : Prop where
  suite : sh.cipherSuite = tlsSM4GCMSM3 ∧ sh.cipherSuite ∈ m.cipherSuites
  version : findExtension sh.extensions ExtensionType.supportedVersions = be16 versionTLS13.toNat ∧
    Lists16 1 (findExtension m.extensions ExtensionType.supportedVersions) versionTLS13
  signature : Lists16 2 (findExtension m.extensions ExtensionType.signatureAlgorithms) sm2SigSM3 ∧
    (f.certVerify ≠ [] → ∃ body sig, readTyped "CertificateVerify" HandshakeType.certificateVerify
      CertificateVerifyMsg.unmarshalBody f.certVerify = .ok (body, ⟨sm2SigSM3, sig⟩))
  group : Lists16 2 (findExtension m.extensions ExtensionType.supportedGroups) curveSM2 ∧
    findExtension sh.extensions ExtensionType.keyShare =
      marshalServerKeyShare curveSM2 (P.marshalUncompressed (P.publicOf s.ephemeral))
  share : ∃ key pub shared early,
    OffersShare (findExtension m.extensions ExtensionType.keyShare) curveSM2 key ∧
    P.unmarshalUncompressed key = .ok pub ∧ curveSM2ECDHE P s.ephemeral pub = .ok shared ∧
    deriveEarlySecret P (s.resumptionSelectedPSK.getD []) = .ok early ∧
    deriveHandshakeSecret P early shared = .ok s.keys.handshakeSecret
  alpn : hasExtension ee.extensions ExtensionType.alpn = true ↔
    cfg.nextProtos ≠ [] ∧ findExtension m.extensions ExtensionType.alpn ≠ []
  proto : hasExtension ee.extensions ExtensionType.alpn = true →
    ∃ proto, parseALPNExtension (findExtension ee.extensions ExtensionType.alpn) = .ok [proto] ∧
      FirstShared cfg.nextProtos (findExtension m.extensions ExtensionType.alpn) proto
  psk : hasExtension sh.extensions ExtensionType.preSharedKey = true ↔
    s.resumptionSelectedPSK ≠ none
  certificate : f.certificate = [] ↔ s.resumptionSelectedPSK ≠ none
  certVerify : f.certVerify = [] ↔ s.resumptionSelectedPSK ≠ none
  resumed : ∀ psk, s.resumptionSelectedPSK = some psk → ∃ identity ticket,
    PskAdmitted P cb m psk identity ticket
  early : hasExtension ee.extensions ExtensionType.earlyData = true → ∃ psk identity ticket,
    s.resumptionSelectedPSK = some psk ∧ PskAdmitted P cb m psk identity ticket ∧
      EarlyAdmitted cfg cb m psk identity ticket

lemma serverFlight_negotiated {cfg : ServerConfig P} {rand : Except Err Random} {f : Flight}
    (hs : Accepted cfg cb m s) (h : serverFlight s rand sigRand = (.ok f, s')) :
    ∃ sh ee, Answers f sh ee ∧ Negotiated cfg cb m f sh ee s' := by
  obtain ⟨-, -, hello, helloFits, share, level, answer, extensions, extensionsFit, certificates, -,
    -, app⟩ :=
    serverFlight_sent h
  rename_i random shBody shared alpn eeBody certificate certVerify signed verifyData
  have hlegacy : LegacyRange versionTLS12 := ⟨by decide, by decide⟩
  have hhello := ServerHelloMsg.unmarshal_marshal hlegacy hello
  have hext := EncryptedExtensionsMsg.unmarshal_marshal extensions
  obtain ⟨hcert, hverify, hsigned⟩ := certificatesSent_present certificates
  obtain ⟨key, pub, hoffers, hpub, hclientPub⟩ := hs.share
  simp only [serverECDHE, hclientPub, need_some, ok_bind] at share
  refine ⟨serverHelloMsg s random, ⟨answerExtensions s alpn⟩,
    ⟨⟨shBody, (readTyped_frame helloFits).mpr ⟨hhello, rfl⟩⟩,
      ⟨eeBody, (readTyped_frame extensionsFit).mpr ⟨hext, rfl⟩⟩⟩, {
    suite := ⟨rfl, hs.capable.suite⟩
    version := ⟨findExtension_versions s random, hs.capable.version⟩
    signature := ⟨hs.capable.signature, hsigned⟩
    group := ⟨hs.capable.group, findExtension_share s random⟩
    share := ⟨key, pub, shared, level.earlySecret, hoffers, hpub, share, level.early_eq,
      level.handshake_eq⟩
    alpn := (hasExtension_alpn answer).trans hs.settled
    proto := ?_
    psk := hasExtension_psk s random
    certificate := hcert
    certVerify := hverify
    resumed := ?_
    early := ?_ }⟩
  · intro halpn
    have hsome := (hasExtension_alpn answer).mp halpn
    obtain ⟨hnone, -⟩ | ⟨-, ext, hparse, rfl⟩ := alpnAnswer_cases answer
    · exact absurd hnone hsome
    · refine ⟨s.negotiatedProto, ?_, hs.first hsome⟩
      rw [findExtension_answer]
      exact hparse
  · intro psk hpsk
    obtain ⟨identity, ticket, hadmitted, -⟩ := hs.psk psk hpsk
    exact ⟨identity, ticket, hadmitted⟩
  · intro hearly
    have hkeys := hasExtension_early answer hearly
    obtain ⟨psk, hpsk⟩ := Option.ne_none_iff_exists'.mp (hs.early hkeys)
    obtain ⟨identity, ticket, hadmitted, haccepted⟩ := hs.psk psk hpsk
    exact ⟨psk, identity, ticket, hpsk, hadmitted, haccepted hkeys⟩

/-- Whatever hello a fresh server accepts and answers, the answer stays within what the hello
offers and the configuration allows. -/
theorem negotiation_sound {cfg : ServerConfig P} {keyPair : Except Err P.PrivateKey}
    {s s₁ s₂ : ServerHandshaker P} {ch : Bytes} {cb : Callbacks} {rand : Except Err Random}
    {sigRand : Bytes} {f : Flight} (hnew : newServerHandshakerWithConfig cfg keyPair = .ok s)
    (hhello : handleClientHello s ch cb = (.ok (), s₁))
    (hflight : serverFlight s₁ rand sigRand = (.ok f, s₂)) :
    ∃ body m sh ee, readTyped "ClientHello" HandshakeType.clientHello ClientHelloMsg.unmarshalBody
      ch = .ok (body, m) ∧ Answers f sh ee ∧ Negotiated cfg cb m f sh ee s₂ := by
  obtain ⟨body, m, hread, haccepted⟩ :=
    handleClientHello_accepted (newServerHandshaker_fresh hnew) hhello
  rw [(newServerHandshaker_config hnew).1] at haccepted
  obtain ⟨sh, ee, hanswers, hnegotiated⟩ := serverFlight_negotiated haccepted hflight
  exact ⟨body, m, sh, ee, hread, hanswers, hnegotiated⟩

def askingConfig : ClientConfig toyPrims :=
  { sampleResumingConfig with nextProtos := [[104, 50], [104, 51]], earlyData := true }

def answeringConfig : ServerConfig toyPrims :=
  { sampleServerConfig with
    nextProtos := [[104, 51], [104, 49]], allowEarlyData := true, hasEarlyDataAcceptor := true }

def askingClient : ClientHandshaker toyPrims :=
  okValue (newClientHandshakerWithConfig askingConfig (.ok (5 : UInt8))) (by decide +kernel)

def answeringServer : ServerHandshaker toyPrims :=
  okValue (newServerHandshakerWithConfig answeringConfig (.ok (6 : UInt8))) (by decide +kernel)

def askingHello : Bytes :=
  okValue (clientHello askingClient sampleRandom.clientHello).1 (by decide +kernel)

def helloAnswering : ServerHandshaker toyPrims :=
  (handleClientHello answeringServer askingHello resumingCallbacks).2

def answeringFlight : Flight :=
  okValue (serverFlight helloAnswering sampleRandom.serverHello sampleRandom.signature).1
    (by decide +kernel)

/-- The sample resumes, takes the early data and settles on the client's second protocol. -/
theorem negotiation_sound_sample :
    helloAnswering.resumptionSelectedPSK = some samplePSK ∧ helloAnswering.negotiatedProto =
      [104, 51] ∧
    helloAnswering.keys.secrets.clientEarlyKeys.isSome = true ∧ ∃ body m sh ee,
      readTyped "ClientHello" HandshakeType.clientHello ClientHelloMsg.unmarshalBody askingHello =
        .ok (body, m) ∧
      Answers answeringFlight sh ee ∧
        Negotiated answeringConfig resumingCallbacks m answeringFlight sh ee
        (serverFlight helloAnswering sampleRandom.serverHello sampleRandom.signature).2 := by
  have hnew : newServerHandshakerWithConfig answeringConfig (.ok (6 : UInt8)) =
    .ok answeringServer := eq_okValue _ _
  have hhello : (handleClientHello answeringServer askingHello resumingCallbacks).1 = .ok () := by
    decide +kernel
  have hflight : (serverFlight helloAnswering sampleRandom.serverHello sampleRandom.signature).1 =
    .ok answeringFlight :=
    eq_okValue _ _
  exact ⟨by decide +kernel, by decide +kernel, by decide +kernel,
    negotiation_sound hnew (eq_of_fst_ok hhello) (eq_of_fst_ok hflight)⟩

end Pollux.Negotiation
