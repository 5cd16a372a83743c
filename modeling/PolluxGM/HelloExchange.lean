import PolluxGM.Binder
import PolluxGM.Flight

/-!
# The ClientHello, written and read

What an honest client puts into its hello, and what the server takes out of it
when the octets arrive unchanged.
-/
namespace Pollux.Tls

variable {P : Prims}

def helloMsg (random : Random) (exts : List Extension) : ClientHelloMsg :=
  ⟨versionTLS12, random, [], [tlsSM4GCMSM3], exts⟩

@[simp] lemma helloMsg_extensions (random : Random) (exts : List Extension) :
    (helloMsg random exts).extensions = exts := rfl

def offeredIdentity (cfg : ClientConfig P) : PskIdentity :=
  ⟨cfg.resumptionIdentity, cfg.resumptionObfuscatedTicketAge⟩

def earlyOffer (c : ClientHandshaker P) : List Extension :=
  if c.offerEarlyData then [⟨ExtensionType.earlyData, []⟩] else []

/-- Behind the fixed extensions: nothing, or an early-data offer and the PSK. -/
inductive Offers (c : ClientHandshaker P) (random : Random) (base : List Extension) :
    List Extension → Prop where
  | nothing (config : c.config.resumptionPSK = none) : Offers c random base []
  | psk {psk truncated binder : Bytes} (config : c.config.resumptionPSK = some psk)
      (transcript : pskBinderTranscript (helloMsg random (base ++ earlyOffer c))
        [offeredIdentity c.config] = .ok truncated)
      (right : computeResumptionBinder P psk (c.transcript.bytes ++ truncated) = .ok binder) :
      Offers c random base
        (earlyOffer c ++
          [⟨ExtensionType.preSharedKey, pskPayload [offeredIdentity c.config] [binder]⟩])

inductive HelloSent (c : ClientHandshaker P) (rand : Except Err Random) (ch : Bytes)
    (c' : ClientHandshaker P) :
    Prop where
  | sent (phase : c.phase = .none) {random : Random} (drawn : rand = .ok random)
    {base offer : List Extension}
      (extensions : clientHelloExtensions c none = .ok base) (offers : Offers c random base offer)
        {body : Bytes}
      (written : (helloMsg random (base ++ offer)).marshalBody = .ok body)
      (fits : body.length ≤ maxHandshakeMessageLen)
        (framed : ch = frame HandshakeType.clientHello body)
      {early : Option QUICPacketKeys}
      (earlyKeys : ∀ psk, c.config.resumptionPSK = some psk → c.offerEarlyData = true →
        ∃ k, early = some k ∧ deriveEarlyTrafficKeys P psk
          ((c.transcript.addMessage HandshakeType.clientHello body).sum P) = .ok k)
      (state : c' = { sendClientHello c ch with keys := c.keys.setEarly early }) :
        HelloSent c rand ch c'

variable {c : ClientHandshaker P} {rand : Except Err Random} {ch : Bytes}

lemma buildClientHello_sent {cookie : Option Bytes} (h : buildClientHello c rand cookie = .ok ch) :
    ∃ random base offer body, rand = .ok random ∧ clientHelloExtensions c cookie = .ok base ∧
      Offers c random base offer ∧ (helloMsg random (base ++ offer)).marshalBody = .ok body ∧
      body.length ≤ maxHandshakeMessageLen ∧ ch = frame HandshakeType.clientHello body := by
  simp only [buildClientHello, bind_ok] at h
  obtain ⟨random, hrand, base, hbase, h⟩ := h
  cases hpsk : c.config.resumptionPSK with
  | none =>
    simp only [hpsk] at h
    obtain ⟨body, hbody, hfits, rfl⟩ := marshalHandshakeMessage_ok.mp h
    exact ⟨random, base,
      [], body, hrand, hbase, .nothing hpsk, by simpa [helloMsg] using hbody, hfits, rfl⟩
  | some psk =>
    simp only [hpsk, appendPreSharedKey, bind_ok, wrapErr_eq_ok] at h
    obtain ⟨truncated, htruncated, binder, hbinder, fullExt, hfull, h⟩ := h
    obtain ⟨-, -, rfl⟩ := marshalPreSharedKey_ok.mp hfull
    obtain ⟨body, hbody, hfits, rfl⟩ := marshalHandshakeMessage_ok.mp h
    refine ⟨random, base, _, body, hrand, hbase, .psk hpsk ?_ hbinder, ?_, hfits, rfl⟩
    · cases hearly : c.offerEarlyData with
      | false => simpa [hearly, earlyOffer, helloMsg, offeredIdentity] using htruncated
      | true => simpa [hearly, earlyOffer, helloMsg, offeredIdentity] using htruncated
    · cases hearly : c.offerEarlyData with
      | false => simpa [hearly, earlyOffer, helloMsg, offeredIdentity] using hbody
      | true => simpa [hearly, earlyOffer, helloMsg, offeredIdentity] using hbody

variable {c' : ClientHandshaker P}

lemma clientHello_sent (h : clientHello c rand = (.ok ch, c')) : HelloSent c rand ch c' := by
  unfold clientHello at h
  split at h
  · cases congrArg Prod.fst h
  rename_i hphase
  split at h
  · cases congrArg Prod.fst h
  rename_i full hbuild
  obtain ⟨random, base, offer, body, hrand, hbase, hoffers, hbody, hfits, hframe⟩ :=
    buildClientHello_sent hbuild
  unfold deriveClientEarlyKeys at h
  split at h
  · rename_i psk hpsk hearly
    split at h
    · cases congrArg Prod.fst h
    · rename_i keys hkeys
      cases h
      refine .sent (Decidable.not_not.mp hphase) hrand hbase hoffers hbody hfits hframe ?_ rfl
      intro psk' hpsk' _
      cases (show c.config.resumptionPSK = some psk from hpsk).symm.trans hpsk'
      rw [hframe] at hkeys
      exact ⟨keys, rfl, hkeys⟩
  · rename_i hno
    cases h
    have hstate : sendClientHello c ch =
        { sendClientHello c ch with keys := c.keys.setEarly c.keys.secrets.clientEarlyKeys } := rfl
    refine .sent (Decidable.not_not.mp hphase) hrand hbase hoffers hbody hfits hframe ?_ hstate
    intro psk hpsk hearly
    exact absurd hearly (hno psk hpsk)

variable {body body' : Bytes}

lemma readTyped_frame {α : Type} {name : String} {t : UInt8} {unmarshalBody : Bytes → Except Err α}
    {msg : α} (hfits : body.length ≤ maxHandshakeMessageLen) :
    readTyped name t unmarshalBody (frame t body) = .ok (body', msg) ↔
      unmarshalBody body = .ok msg ∧ body' = body := by
  have hread := readHandshakeMessage_frame t body [] hfits
  rw [List.append_nil] at hread
  simp only [readTyped, hread, wrapErr_ok, ok_bind, ne_eq, not_true_eq_false, bind_ok,
    wrapErr_eq_ok, reject_ok, pure_inj, Prod.mk.injEq]
  constructor
  · rintro ⟨_, -, m, hm, rfl, rfl⟩
    exact ⟨hm, rfl⟩
  · rintro ⟨hm, rfl⟩
    exact ⟨(), not_false, msg, hm, rfl, rfl⟩

lemma helloMsg_wellFormed (random : Random) (exts : List Extension) :
    (helloMsg random exts).WellFormed :=
  ⟨show LegacyRange versionTLS12 from ⟨by decide, by decide⟩,
    by simp [helloMsg], by simp [helloMsg]⟩

variable {random : Random} {exts : List Extension} {ks : Bytes} {m : ClientHelloMsg}

lemma readClientHello_frame (hwritten : (helloMsg random exts).marshalBody = .ok body)
    (hfits : body.length ≤ maxHandshakeMessageLen) :
    readClientHello (frame HandshakeType.clientHello body) = .ok (body', m, ks) ↔
      body' = body ∧ m = helloMsg random exts ∧
        checkCapabilities (helloMsg random exts) = .ok ks := by
  have hback := ClientHelloMsg.unmarshal_marshal (helloMsg_wellFormed random exts) hwritten
  simp only [readClientHello, bind_ok, pure_inj, Except.ok.injEq, Prod.mk.injEq, Prod.exists,
    readTyped_frame hfits, hback]
  constructor
  · rintro ⟨b, m', ⟨rfl, rfl⟩, ks', hks, rfl, rfl, rfl⟩
    exact ⟨rfl, rfl, hks⟩
  · rintro ⟨rfl, rfl, hks⟩
    exact ⟨_, _, ⟨rfl, rfl⟩, ks, hks, rfl, rfl, rfl⟩

/-- What the server has taken from an accepted offer: the PSK with its verified binder, and the
0-RTT keys it admitted. -/
structure Resumed (m : ClientHelloMsg) (hash : Bytes) (selected : Option Bytes)
    (early : Option QUICPacketKeys) :
    Prop where
  binder : ∀ psk, selected = some psk → ∃ identity binder covered,
    readPreSharedKey (findExtension m.extensions ExtensionType.preSharedKey) =
      .ok (identity, binder) ∧
    pskBinderTranscript m [identity] = .ok covered ∧
      computeResumptionBinder P psk covered = .ok binder
  keys : ∀ k, early = some k → ∃ psk, selected = some psk ∧
    hasExtension m.extensions ExtensionType.earlyData = true ∧
      deriveEarlyTrafficKeys P psk hash = .ok k

variable {s s' : ServerHandshaker P} {accept : Bytes → Nat → Bool}

/-- Early keys need the client's wish, the configuration, and the acceptor for this PSK and age. -/
lemma decideEarlyData_cases (h : decideEarlyData s exts accept = (.ok (), s')) :
    (∃ offered, s' = { s with clientOfferedEarlyData := offered }) ∨
    ∃ psk k, s.resumptionSelectedPSK = some psk ∧ hasExtension exts ExtensionType.earlyData = true ∧
      s.config.allowEarlyData = true ∧ s.config.hasEarlyDataAcceptor = true ∧
      accept psk s.resumptionRealAge = true ∧ deriveEarlyTrafficKeys P psk (s.transcript.sum P) =
        .ok k ∧
      s' = { s with clientOfferedEarlyData := true, keys := s.keys.setEarly (some k) } := by
  unfold decideEarlyData at h
  split at h
  · cases h
    exact .inl ⟨_, rfl⟩
  rename_i hoffers
  dsimp only at h
  split at h
  · cases h
    exact .inl ⟨_, rfl⟩
  rename_i psk age hquery
  split at h
  · cases h
    exact .inl ⟨_, rfl⟩
  rename_i haccept
  split at h
  · cases congrArg Prod.fst h
  rename_i keys hkeys
  cases h
  unfold earlyDataQuery at hquery
  split at hquery
  · cases hquery
  rename_i psk' hsel
  split at hquery
  · rename_i hallowed
    cases hquery
    rw [Bool.and_eq_true] at hallowed
    exact .inr ⟨psk, keys, hsel,
      by simpa using hoffers, hallowed.1, hallowed.2, by simpa using haccept, hkeys, rfl⟩
  · cases hquery

lemma decideEarlyData_ok (h : decideEarlyData s exts accept = (.ok (), s'))
    (hearly : s.keys.secrets.clientEarlyKeys = none) :
    ∃ offered early, s' =
      { s with clientOfferedEarlyData := offered, keys := s.keys.setEarly early } ∧
      ∀ k, early = some k → ∃ psk, s.resumptionSelectedPSK = some psk ∧
        hasExtension exts ExtensionType.earlyData = true ∧
        deriveEarlyTrafficKeys P psk (s.transcript.sum P) = .ok k := by
  obtain ⟨offered, rfl⟩ | ⟨psk, k, hsel, hoffers, -, -, -, hkeys, rfl⟩ := decideEarlyData_cases h
  · exact ⟨offered, s.keys.secrets.clientEarlyKeys, rfl, by simp [hearly]⟩
  · refine ⟨true, some k, rfl, ?_⟩
    rintro k' ⟨rfl⟩
    exact ⟨psk, hsel, hoffers, hkeys⟩

variable {pskExt : Bytes} {teks : List Bytes}

lemma verifyPSKBinder_cases (h : verifyPSKBinder s m pskExt teks = (.ok (), s')) :
    s' = s ∨ ∃ identity binder ticket, readPreSharedKey pskExt = .ok (identity, binder) ∧
      decryptSessionTicketWithData P teks identity.identity = .ok ticket ∧
      checkBinder P m identity ticket.psk binder = .ok () ∧
      s' = { s with
        resumptionAppData := ticket.appData
        resumptionRealAge := realTicketAge identity.obfuscatedTicketAge ticket.ageAdd
        resumptionSelectedPSK := some ticket.psk } := by
  unfold verifyPSKBinder at h
  split at h
  · cases congrArg Prod.fst h
  split at h
  · cases congrArg Prod.fst h
  rename_i identity binder hoffer
  split at h
  · cases h
    exact .inl rfl
  rename_i ticket hticket
  dsimp only at h
  split at h
  · cases congrArg Prod.fst h
  rename_i hcheck
  cases h
  exact .inr ⟨identity, binder, ticket, hoffer, hticket, hcheck, rfl⟩

lemma verifyPSKBinder_ok (h : verifyPSKBinder s m pskExt teks = (.ok (), s'))
    (hnone : s.resumptionSelectedPSK = none) :
    ∃ appData age selected, s' = { s with
        resumptionAppData := appData, resumptionRealAge := age, resumptionSelectedPSK := selected }
          ∧
      ∀ psk, selected = some psk → ∃ identity binder covered,
        readPreSharedKey pskExt = .ok (identity, binder) ∧
        pskBinderTranscript m [identity] = .ok covered ∧
          computeResumptionBinder P psk covered = .ok binder := by
  obtain rfl | ⟨identity, binder, ticket, hoffer, -, hcheck, rfl⟩ := verifyPSKBinder_cases h
  · exact ⟨_, _, s'.resumptionSelectedPSK, rfl, by simp [hnone]⟩
  · refine ⟨_, _, some ticket.psk, rfl, ?_⟩
    rintro psk ⟨rfl⟩
    obtain ⟨covered, hcovered, hright⟩ := checkBinder_ok hcheck
    exact ⟨identity, binder, covered, hoffer, hcovered, hright⟩

variable {cb : Callbacks}

lemma resumeFromClientHello_cases (h : resumeFromClientHello s m cb = (.ok (), s')) :
    s' = s ∨ (offersPSKDHEKE (findExtension m.extensions ExtensionType.pskKeyExchangeModes) = true ∧
      ∃ s₁, verifyPSKBinder s m (findExtension m.extensions ExtensionType.preSharedKey)
        cb.ticketKeys = (.ok (), s₁) ∧
        decideEarlyData s₁ m.extensions cb.acceptEarlyData = (.ok (), s')) := by
  unfold resumeFromClientHello at h
  dsimp only at h
  split at h
  · cases h
    exact .inl rfl
  split at h
  · cases h
    exact .inl rfl
  rename_i hmodes
  obtain ⟨_, s₁, hverify, hdecide⟩ := andThen_eq_ok.mp h
  exact .inr ⟨by simpa using hmodes, s₁, hverify, hdecide⟩

lemma resumeFromClientHello_ok (h : resumeFromClientHello s m cb = (.ok (), s'))
    (hnone : s.resumptionSelectedPSK = none) (hearly : s.keys.secrets.clientEarlyKeys = none) :
    ∃ appData age selected offered early, s' = { s with
        resumptionAppData := appData, resumptionRealAge := age, resumptionSelectedPSK := selected,
        clientOfferedEarlyData := offered, keys := s.keys.setEarly early } ∧
      Resumed (P := P) m (s.transcript.sum P) selected early := by
  obtain rfl | ⟨-, s₁, hverify, hdecide⟩ := resumeFromClientHello_cases h
  · have hunchanged : Resumed (P := P) m (s'.transcript.sum P) s'.resumptionSelectedPSK
        s'.keys.secrets.clientEarlyKeys := by
      constructor
      · simp [hnone]
      · simp [hearly]
    exact ⟨_, _, _, s'.clientOfferedEarlyData, _, rfl, hunchanged⟩
  · obtain ⟨appData, age, selected, rfl, hbinder⟩ := verifyPSKBinder_ok hverify hnone
    obtain ⟨offered, early, rfl, hkeys⟩ := decideEarlyData_ok hdecide hearly
    exact ⟨appData, age, selected, offered, early, rfl, hbinder, hkeys⟩

lemma checkCapabilities_share (h : checkCapabilities m = .ok ks) :
    ks = findExtension m.extensions ExtensionType.keyShare ∧ ks ≠ [] := by
  simp only [checkCapabilities, bind_ok, reject_ok, pure_inj] at h
  obtain ⟨_, -, _, -, _, -, _, -, _, hne, rfl⟩ := h
  exact ⟨rfl, hne⟩

inductive HelloTaken (s : ServerHandshaker P) (random : Random) (exts : List Extension)
    (body : Bytes) (s' : ServerHandshaker P) : Prop where
  | taken {proto : Option Bytes} {pub : P.PublicKey}
    (alpn : negotiateALPN s.config.nextProtos exts = .ok proto)
      (capable : checkCapabilities (helloMsg random exts) =
        .ok (findExtension exts ExtensionType.keyShare))
      (share : clientShare P (findExtension exts ExtensionType.keyShare) = .ok pub)
        {appData : Bytes} {age : Nat}
      {selected : Option Bytes} {offered : Bool} {early : Option QUICPacketKeys}
      (resumed : Resumed (P := P) (helloMsg random exts)
        ((s.transcript.addMessage HandshakeType.clientHello body).sum P) selected early)
      (state : s' = { recordClientHello { s with
        negotiatedProto := proto.getD s.negotiatedProto } body pub exts with
        resumptionAppData := appData, resumptionRealAge := age, resumptionSelectedPSK := selected,
        clientOfferedEarlyData := offered, keys := s.keys.setEarly early }) :
          HelloTaken s random exts body s'

lemma handleClientHello_taken (hfresh : FreshServer s)
    (hwritten : (helloMsg random exts).marshalBody = .ok body)
    (hfits : body.length ≤ maxHandshakeMessageLen)
    (h : handleClientHello s (frame HandshakeType.clientHello body) cb = (.ok (), s')) :
    HelloTaken s random exts body s' := by
  obtain ⟨-, body', m, ks, proto, pub, hread, hproto, hshare, hresume⟩ := handleClientHello_ok h
  obtain ⟨rfl, rfl, hks⟩ := (readClientHello_frame hwritten hfits).mp hread
  obtain ⟨rfl, -⟩ := checkCapabilities_share hks
  obtain ⟨appData, age, selected, offered, early, rfl, hresumed⟩ :=
    resumeFromClientHello_ok hresume hfresh.selectedPSK hfresh.earlyKeys
  exact .taken hproto hks hshare hresumed rfl

def AlpnOffer (nextProtos : List Bytes) (alpn : List Extension) : Prop :=
  (nextProtos = [] ∧ alpn = []) ∨
    nextProtos ≠ [] ∧ ∃ ext, marshalALPNExtension nextProtos = .ok ext ∧ alpn =
      [⟨ExtensionType.alpn, ext⟩]

variable {base : List Extension}

lemma clientHelloExtensions_ok (h : clientHelloExtensions c none = .ok base) :
    ∃ alpn, AlpnOffer c.config.nextProtos alpn ∧ base = [
      ⟨ExtensionType.supportedVersions, [0x02, 0x03, 0x04]⟩,
      ⟨ExtensionType.signatureAlgorithms, [0x00, 0x02] ++ be16 sm2SigSM3.toNat⟩,
      ⟨ExtensionType.supportedGroups, [0x00, 0x02] ++ be16 curveSM2.toNat⟩,
      ⟨ExtensionType.keyShare,
        marshalClientKeyShare curveSM2 (P.marshalUncompressed (P.publicOf c.ephemeral))⟩,
      ⟨ExtensionType.pskKeyExchangeModes,
        marshalPSKKeyExchangeModesExtension [pskKeyExchangeModeDHEKE]⟩] ++
      (alpn ++ transportExtension c.config.transportParameters) := by
  by_cases hnone : c.config.nextProtos = []
  · simp only [clientHelloExtensions, hnone, if_true, pure_ok, ok_bind, Except.ok.injEq] at h
    subst h
    exact ⟨[], .inl ⟨hnone, rfl⟩, rfl⟩
  · simp only [clientHelloExtensions, hnone, if_false, bind_ok, pure_ok, ok_bind,
      Except.ok.injEq] at h
    obtain ⟨ext, hext, rfl⟩ := h
    refine ⟨_, .inr ⟨hnone, ext, hext, rfl⟩, ?_⟩
    simp only [List.append_assoc, List.nil_append]
    rfl

variable {t : UInt16}

lemma findExtension_none (h : hasExtension exts t = false) : findExtension exts t = [] := by
  induction exts with
  | nil => rfl
  | cons e es ih =>
    simp only [hasExtension, List.any_cons, Bool.or_eq_false_iff, decide_eq_false_iff_not] at h
    simp only [findExtension, if_neg h.1]
    exact ih h.2

variable {more : List Extension}

lemma findExtension_append (h : hasExtension more t = false) :
    findExtension (exts ++ more) t = findExtension exts t := by
  induction exts with
  | nil => exact findExtension_none h
  | cons e es ih => simp only [List.cons_append, findExtension, ih]

lemma findExtension_append_none (h : hasExtension exts t = false) :
    findExtension (exts ++ more) t = findExtension more t := by
  induction exts with
  | nil => rfl
  | cons e es ih =>
    simp only [hasExtension, List.any_cons, Bool.or_eq_false_iff, decide_eq_false_iff_not] at h
    simp only [List.cons_append, findExtension, if_neg h.1]
    exact ih h.2

lemma transportExtension_none (tp : Option Bytes) (ht : ExtensionType.quicTransportParams ≠ t) :
    hasExtension (transportExtension tp) t = false := by
  cases tp with
  | none => rfl
  | some tp => simpa [transportExtension, hasExtension] using ht

def baseTypes : List UInt16 := [ExtensionType.supportedVersions, ExtensionType.signatureAlgorithms,
  ExtensionType.supportedGroups, ExtensionType.keyShare, ExtensionType.pskKeyExchangeModes,
    ExtensionType.alpn,
  ExtensionType.quicTransportParams]

lemma base_types (h : clientHelloExtensions c none = .ok base) (ht : t ∉ baseTypes) :
    hasExtension base t = false := by
  obtain ⟨alpn, halpn, rfl⟩ := clientHelloExtensions_ok h
  simp only [baseTypes, List.mem_cons, List.not_mem_nil, or_false, not_or] at ht
  obtain ⟨h₁, h₂, h₃, h₄, h₅, h₆, h₇⟩ := ht
  have halpn' : hasExtension alpn t = false := by
    rcases halpn with ⟨-, rfl⟩ | ⟨-, ext, -, rfl⟩
    · rfl
    · simpa [hasExtension] using Ne.symm h₆
  have htp := transportExtension_none c.config.transportParameters (Ne.symm h₇)
  simp only [hasExtension, List.any_append, List.any_cons, List.any_nil, Bool.or_eq_false_iff,
    decide_eq_false_iff_not] at halpn' htp ⊢
  exact ⟨⟨Ne.symm h₁, Ne.symm h₂, Ne.symm h₃, Ne.symm h₄, Ne.symm h₅, trivial⟩, halpn', htp⟩

lemma base_share (h : clientHelloExtensions c none = .ok base) :
    findExtension base ExtensionType.keyShare =
      marshalClientKeyShare curveSM2 (P.marshalUncompressed (P.publicOf c.ephemeral)) := by
  obtain ⟨alpn, -, rfl⟩ := clientHelloExtensions_ok h
  rfl

lemma base_alpn (h : clientHelloExtensions c none = .ok base) :
    (c.config.nextProtos = [] ∧ findExtension base ExtensionType.alpn = []) ∨
      c.config.nextProtos ≠ [] ∧ ∃ ext, marshalALPNExtension c.config.nextProtos = .ok ext ∧
        findExtension base ExtensionType.alpn = ext := by
  obtain ⟨alpn, halpn, rfl⟩ := clientHelloExtensions_ok h
  rcases halpn with ⟨hnone, rfl⟩ | ⟨hsome, ext, hext, rfl⟩
  · refine .inl ⟨hnone, ?_⟩
    cases c.config.transportParameters with
    | none => rfl
    | some tp => rfl
  · exact .inr ⟨hsome, ext, hext, rfl⟩

variable {offer : List Extension}

lemma offer_types (h : Offers c random base offer) (hearly : t ≠ ExtensionType.earlyData)
    (hpsk : t ≠ ExtensionType.preSharedKey) : hasExtension offer t = false := by
  cases h with
  | nothing => rfl
  | psk =>
    cases hoffer : c.offerEarlyData with
    | false => simpa [hasExtension, earlyOffer, hoffer] using Ne.symm hpsk
    | true => simpa [hasExtension, earlyOffer, hoffer] using ⟨Ne.symm hearly, Ne.symm hpsk⟩

lemma find_beside_offer (h : Offers c random base offer) (hearly : t ≠ ExtensionType.earlyData)
    (hpsk : t ≠ ExtensionType.preSharedKey) :
    findExtension (base ++ offer) t = findExtension base t :=
  findExtension_append (offer_types h hearly hpsk)

lemma clientShare_of_marshal (hP : Lawful P) {pub pub' : P.PublicKey}
    (hks : ks = marshalClientKeyShare curveSM2 (P.marshalUncompressed pub')) (hne : ks ≠ []) :
    clientShare P ks = .ok pub ↔ pub = pub' := by
  subst hks
  simp only [clientShare, parseClientKeyShare_marshal _ _ hne, wrapErr_ok, ok_bind,
    hP.unmarshal_marshal, Except.ok.injEq]
  exact eq_comm

variable {identity : PskIdentity}

lemma pskBinderTranscript_last {data : Bytes}
    (h : hasExtension exts ExtensionType.preSharedKey = false) :
    pskBinderTranscript (helloMsg random (exts ++ [⟨ExtensionType.preSharedKey, data⟩]))
      [identity] = pskBinderTranscript (helloMsg random exts) [identity] := by
  have hhas : hasExtension
    (exts ++ [⟨ExtensionType.preSharedKey, data⟩]) ExtensionType.preSharedKey = true := by
    simp [hasExtension]
  have hlast (placeholder : Bytes) : replacePreSharedKey placeholder
      (exts ++ [⟨ExtensionType.preSharedKey, data⟩]) = exts ++
        [⟨ExtensionType.preSharedKey, placeholder⟩] :=
    replacePreSharedKey_split [] h
  have hsame (placeholder : Bytes) : replacePreSharedKey placeholder exts = exts := by
    simpa [replacePreSharedKey] using hlast placeholder
  simp only [pskBinderTranscript, helloMsg, hhas, h, hsame, hlast, if_true, List.append_nil]
  rfl

def SharesBinder (P : Prims) (ch psk psk' : Bytes) : Prop :=
  ∃ covered binder, ch = covered ++ bindersOf binder ∧
    computeResumptionBinder P psk covered = .ok binder ∧
    computeResumptionBinder P psk' covered = .ok binder

structure HelloAgreed (c : ClientHandshaker P) (s : ServerHandshaker P) (ch : Bytes) : Prop where
  transcript : c.transcript = s.transcript
  clientPub : s.clientPub = some (P.publicOf c.ephemeral)
  pskMode : c.pskMode = false
  psk : ∀ psk', s.resumptionSelectedPSK = some psk' → ∃ psk, c.config.resumptionPSK = some psk ∧
    SharesBinder P ch psk psk'
  early : ∀ k, s.keys.secrets.clientEarlyKeys = some k → ∃ psk psk' k',
    c.config.resumptionPSK = some psk ∧
    s.resumptionSelectedPSK = some psk' ∧ c.keys.secrets.clientEarlyKeys = some k' ∧
    deriveEarlyTrafficKeys P psk (c.transcript.sum P) = .ok k' ∧
    deriveEarlyTrafficKeys P psk' (s.transcript.sum P) = .ok k
  proto : ∃ exts proto, negotiateALPN s.config.nextProtos exts = .ok proto ∧
    s.negotiatedProto = proto.getD [] ∧
    c.negotiatedProto = [] ∧ (c.config.nextProtos = [] → proto = none)

lemma readPreSharedKey_payload {binder : Bytes} (hbinder : binder.length = sm3Size)
    (hfits : (pskPayload [identity] [binder]).length ≤ 0xFFFF) :
    readPreSharedKey (pskPayload [identity] [binder]) = .ok (identity, binder) := by
  have hsize : sm3Size = 32 := rfl
  simp only [pskPayload, List.flatMap_cons, List.flatMap_nil, List.append_nil, List.length_append,
    be16_length, PskIdentity.encode_length, encodeBinder, List.length_cons] at hfits
  have hparse := parsePreSharedKey_payload [identity] [binder] [] (by simp; omega) (by simp; omega)
    (by simp; omega) (by simp [encodeBinder]; omega)
  rw [List.append_nil] at hparse
  simp only [readPreSharedKey, hparse, wrapErr_ok, ok_bind]

lemma earlyOffer_no_psk (c : ClientHandshaker P) :
    hasExtension (earlyOffer c) ExtensionType.preSharedKey = false := by
  unfold earlyOffer
  split
  · rfl
  · rfl

lemma hasExtension_append (xs ys : List Extension) (t : UInt16) :
    hasExtension (xs ++ ys) t = (hasExtension xs t || hasExtension ys t) := by
  simp [hasExtension]

lemma offer_found (hP : Lawful P) (hbase : clientHelloExtensions c none = .ok base)
    (hoffers : Offers c random base offer)
    (hwritten : (helloMsg random (base ++ offer)).marshalBody = .ok body) :
    (c.config.resumptionPSK = none ∧ findExtension (base ++ offer) ExtensionType.preSharedKey = [])
      ∨ ∃ psk binder covered, c.config.resumptionPSK = some psk ∧
        offer = earlyOffer c ++
          [⟨ExtensionType.preSharedKey, pskPayload [offeredIdentity c.config] [binder]⟩] ∧
        findExtension (base ++ offer) ExtensionType.preSharedKey =
          pskPayload [offeredIdentity c.config] [binder] ∧
        readPreSharedKey (pskPayload [offeredIdentity c.config] [binder]) =
          .ok (offeredIdentity c.config, binder) ∧
        pskBinderTranscript (helloMsg random (base ++ offer)) [offeredIdentity c.config] =
          .ok covered ∧
        computeResumptionBinder P psk (c.transcript.bytes ++ covered) = .ok binder := by
  have hno : hasExtension base ExtensionType.preSharedKey = false := base_types hbase (by decide)
  cases hoffers with
  | nothing hconfig =>
    refine .inl ⟨hconfig, ?_⟩
    rw [List.append_nil]
    exact findExtension_none hno
  | @psk psk truncated binder hconfig htranscript hright =>
    have hbefore : hasExtension (base ++ earlyOffer c) ExtensionType.preSharedKey = false := by
      rw [hasExtension_append, hno, earlyOffer_no_psk]
      rfl
    have hfind : findExtension (base ++ (earlyOffer c ++
        [⟨ExtensionType.preSharedKey, pskPayload [offeredIdentity c.config] [binder]⟩]))
          ExtensionType.preSharedKey = pskPayload [offeredIdentity c.config] [binder] := by
      rw [← List.append_assoc, findExtension_append_none hbefore]
      rfl
    have hlen := computeResumptionBinder_length hP hright
    obtain ⟨-, hfit, -⟩ := marshalBody_layout hwritten
    have hpayload : (pskPayload [offeredIdentity c.config] [binder]).length ≤ 0xFFFF :=
      hfit ⟨ExtensionType.preSharedKey, pskPayload [offeredIdentity c.config] [binder]⟩
        (List.mem_append_right _ (List.mem_append_right _ (List.mem_singleton_self _)))
    refine .inr ⟨psk, binder, truncated, hconfig, rfl, hfind,
      readPreSharedKey_payload hlen hpayload, ?_, hright⟩
    rw [← List.append_assoc, pskBinderTranscript_last hbefore]
    exact htranscript

/-- A selected PSK shares the binder of the hello with the offered one. -/
lemma selected_shares (hP : Lawful P) {hash psk' : Bytes} {selected : Option Bytes}
    {early : Option QUICPacketKeys} (hempty : c.transcript = .empty)
    (hbase : clientHelloExtensions c none = .ok base) (hoffers : Offers c random base offer)
    (hwritten : (helloMsg random (base ++ offer)).marshalBody = .ok body)
    (hfits : body.length ≤ maxHandshakeMessageLen)
    (hcapable : checkCapabilities (helloMsg random (base ++ offer)) =
      .ok (findExtension (base ++ offer) ExtensionType.keyShare))
    (hresumed : Resumed (P := P) (helloMsg random (base ++ offer)) hash selected early)
    (hselected : selected = some psk') :
    ∃ psk, c.config.resumptionPSK = some psk ∧
      SharesBinder P (frame HandshakeType.clientHello body) psk psk' := by
  obtain ⟨identity, binder', covered', hoffer, hcovered, hright'⟩ := hresumed.binder psk' hselected
  have hread := (readClientHello_frame hwritten hfits).mpr ⟨rfl, rfl, hcapable⟩
  have hverified : BinderVerified P _ psk' _ identity binder' covered' :=
    ⟨⟨_, _, hread⟩, hoffer, hcovered, hright'⟩
  have hno : hasExtension (base ++ earlyOffer c) ExtensionType.preSharedKey = false := by
    rw [hasExtension_append, base_types hbase (by decide), earlyOffer_no_psk]
    rfl
  rcases offer_found hP hbase hoffers hwritten with
    ⟨-, hnil⟩ | ⟨psk, binder, covered, hconfig, rfl, hfind, hpayload, hcov, hright⟩
  · rw [helloMsg_extensions, hnil] at hoffer
    cases hoffer
  · rw [helloMsg_extensions, hfind, hpayload] at hoffer
    cases hoffer
    cases hcov.symm.trans hcovered
    rw [hempty, Transcript.empty_bytes, List.nil_append] at hright
    have hwhole := readHandshakeMessage_frame HandshakeType.clientHello body [] hfits
    rw [List.append_nil, ← frame_length] at hwhole
    have hends : EndsWithBinders (frame HandshakeType.clientHello body)
      (helloMsg random (base ++ (earlyOffer c ++
        [⟨ExtensionType.preSharedKey, pskPayload [offeredIdentity c.config] [binder']⟩])))
        (offeredIdentity c.config) binder' :=
      ⟨⟨body, hwhole⟩, base ++ earlyOffer c, hno, (List.append_assoc base (earlyOffer c) _).symm⟩
    have hcovers := hends.covers hverified (computeResumptionBinder_length hP hright)
    exact ⟨psk, hconfig, _, binder', hcovers, hright, hright'⟩

lemma early_offered (hbase : clientHelloExtensions c none = .ok base)
    (hoffers : Offers c random base offer)
    (h : hasExtension (base ++ offer) ExtensionType.earlyData = true) :
    c.offerEarlyData = true := by
  rw [hasExtension_append, base_types hbase (by decide), Bool.false_or] at h
  cases hoffers with
  | nothing => cases h
  | psk =>
    cases hearly : c.offerEarlyData with
    | true => rfl
    | false =>
      rw [earlyOffer, hearly] at h
      cases h

lemma negotiateALPN_none {supported : List Bytes} {proto : Option Bytes}
    (hnil : findExtension exts ExtensionType.alpn = [])
    (h : negotiateALPN supported exts = .ok proto) : proto = none := by
  simp only [negotiateALPN, hnil, or_true, if_true, Except.ok.injEq] at h
  exact h.symm

lemma hello_agreed (hP : Lawful P) {cfg : ClientConfig P} (hc : Fresh cfg c) (hs : FreshServer s)
    (hhello : clientHello c rand = (.ok ch, c'))
    (haccepted : handleClientHello s ch cb = (.ok (), s')) :
    HelloAgreed c' s' ch := by
  obtain ⟨-, hdrawn, hbase, hoffers, hwritten, hfits, rfl, hearly, rfl⟩ := clientHello_sent hhello
  rename_i random base offer body early
  obtain ⟨hproto, hcapable, hshare, hresumed, rfl⟩ :=
    handleClientHello_taken hs hwritten hfits haccepted
  rename_i proto pub appData age selected offered earlyS
  have htranscript : c.transcript = s.transcript := hc.transcript.trans hs.transcript.symm
  constructor
  · exact congrArg (fun t => t.addMessage HandshakeType.clientHello body) htranscript
  · have hne := (checkCapabilities_share hcapable).2
    rw [find_beside_offer hoffers (by decide) (by decide)] at hne hshare
    exact congrArg some ((clientShare_of_marshal hP (base_share hbase) hne).mp hshare)
  · exact hc.pskMode
  · intro psk' hsel
    have hshares := selected_shares hP hc.transcript hbase hoffers hwritten hfits hcapable hresumed
      hsel
    exact hshares
  · intro k hk
    obtain ⟨psk', hsel, hhas, hderived'⟩ := hresumed.keys k hk
    obtain ⟨psk, hconfig, -⟩ :=
      selected_shares hP hc.transcript hbase hoffers hwritten hfits hcapable hresumed hsel
    obtain ⟨k', hk', hderived⟩ := hearly psk hconfig (early_offered hbase hoffers hhas)
    exact ⟨psk, psk', k', hconfig, hsel, hk', hderived, hderived'⟩
  · refine ⟨base ++ offer, proto, hproto, ?_, hc.negotiatedProto, ?_⟩
    · exact congrArg proto.getD hs.negotiatedProto
    · intro hnone
      refine negotiateALPN_none ?_ hproto
      rw [find_beside_offer hoffers (by decide) (by decide)]
      rcases base_alpn hbase with ⟨-, hnil⟩ | ⟨hsome, -⟩
      · exact hnil
      · exact absurd hnone hsome

lemma marshalALPN_single {proto ext : Bytes} (h : marshalALPNExtension [proto] = .ok ext) :
    parseALPNExtension ext = .ok [proto] := by
  have hnames := h
  simp only [marshalALPNExtension, bind_ok, pure_inj] at hnames
  obtain ⟨names, hnames, rfl⟩ := hnames
  obtain ⟨hgood, rfl⟩ := marshalALPNNames_ok.mp hnames
  have hshort := (hgood proto (by simp)).2
  exact parseALPN_marshal (by simp) h (by simp [encodeName]; omega)

lemma alpnAnswer_cases {alpn : List Extension} (h : alpnAnswer s = .ok alpn) :
    (s.negotiatedProto = [] ∧ alpn = []) ∨ (s.negotiatedProto ≠ [] ∧
      ∃ ext, parseALPNExtension ext = .ok [s.negotiatedProto] ∧ alpn =
        [⟨ExtensionType.alpn, ext⟩]) := by
  unfold alpnAnswer at h
  split at h
  · rename_i hnone
    cases h
    exact .inl ⟨hnone, rfl⟩
  rename_i hsome
  simp only [bind_ok, pure_inj] at h
  obtain ⟨ext, hext, rfl⟩ := h
  exact .inr ⟨hsome, ext, marshalALPN_single hext, rfl⟩

lemma findExtension_answer (s : ServerHandshaker P) (alpn : List Extension) :
    findExtension (answerExtensions s alpn) ExtensionType.alpn =
      findExtension alpn ExtensionType.alpn := by
  rw [answerExtensions, findExtension_append (by split <;> rfl),
    findExtension_append_none (transportExtension_none _ (by decide))]

end Pollux.Tls
