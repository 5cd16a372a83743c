import PolluxGM.ServerRun

/-!
# What the resumption binder covers

The server writes the message it parsed once more and cuts the binders off. Octets the parsers skip,
and a pre_shared_key extension that is not the last one, make the result differ from what was sent.
-/
namespace Pollux.Tls

variable {P : Prims}

def Selects (s : ServerHandshaker P) (b : Bytes) (cb : Callbacks) (psk : Bytes) : Prop :=
  s.resumptionSelectedPSK = none ∧ (handleClientHello s b cb).2.resumptionSelectedPSK = some psk

/-- The hello is `m` with this offer, and the binder was found right over `covered`. -/
structure BinderVerified (P : Prims) (b psk : Bytes) (m : ClientHelloMsg) (identity : PskIdentity)
    (binder covered : Bytes) : Prop where
  read : ∃ body ks, readClientHello b = .ok (body, m, ks)
  offered : readPreSharedKey (findExtension m.extensions ExtensionType.preSharedKey) =
    .ok (identity, binder)
  transcript : pskBinderTranscript m [identity] = .ok covered
  right : computeResumptionBinder P psk covered = .ok binder

variable {b psk covered : Bytes}

lemma verified_of_values (hread : readClientHello b = .ok hello)
    (hoffer : readPreSharedKey (findExtension hello.2.1.extensions ExtensionType.preSharedKey) =
      .ok offer)
    (hcovered : pskBinderTranscript hello.2.1 [offer.1] = .ok covered)
    (hright : computeResumptionBinder P psk covered = .ok offer.2) :
    BinderVerified P b psk hello.2.1 offer.1 offer.2 covered :=
  ⟨⟨hello.1, hello.2.2, hread⟩, hoffer, hcovered, hright⟩

variable {m : ClientHelloMsg} {identity : PskIdentity} {binder : Bytes}

lemma checkBinder_ok (h : checkBinder P m identity psk binder = .ok ()) :
    ∃ covered, pskBinderTranscript m [identity] = .ok covered ∧
      computeResumptionBinder P psk covered = .ok binder := by
  simp only [checkBinder, bind_ok, reject_ok] at h
  obtain ⟨covered, hcovered, expected, hexpected, hsame⟩ := h
  obtain rfl := Decidable.not_not.mp hsame
  exact ⟨covered, hcovered, hexpected⟩

variable {s : ServerHandshaker P} {pskExt : Bytes}

lemma verifyPSKBinder_selects (hnone : s.resumptionSelectedPSK = none)
    (h : (verifyPSKBinder s m pskExt teks).2.resumptionSelectedPSK = some psk) :
    ∃ identity binder covered, readPreSharedKey pskExt = .ok (identity, binder) ∧
      pskBinderTranscript m [identity] = .ok covered ∧
        computeResumptionBinder P psk covered = .ok binder := by
  unfold verifyPSKBinder at h
  split at h
  · simp [hnone] at h
  split at h
  · simp [hnone] at h
  rename_i identity binder hoffer
  split at h
  · simp [hnone] at h
  rename_i ticket hticket
  dsimp only at h
  split at h
  · simp [hnone] at h
  · rename_i hcheck
    obtain rfl : ticket.psk = psk := by simpa using h
    obtain ⟨covered, hcovered, hright⟩ := checkBinder_ok hcheck
    exact ⟨identity, binder, covered, hoffer, hcovered, hright⟩

lemma decideEarlyData_selected (s : ServerHandshaker P) (exts : List Extension)
    (accept : Bytes → Nat → Bool) :
    (decideEarlyData s exts accept).2.resumptionSelectedPSK = s.resumptionSelectedPSK := by
  unfold decideEarlyData
  repeat' (first | rfl | split | dsimp only)

lemma selects_verified (h : Selects s b cb psk) :
    ∃ m identity binder covered, BinderVerified P b psk m identity binder covered := by
  obtain ⟨hnone, hsel⟩ := h
  unfold handleClientHello at hsel
  split at hsel
  · simp [hnone] at hsel
  split at hsel
  · simp [hnone] at hsel
  rename_i body m ks hread
  split at hsel
  · simp [hnone] at hsel
  dsimp only at hsel
  split at hsel
  · simp [hnone] at hsel
  rename_i proto _ _ pub _
  unfold resumeFromClientHello at hsel
  dsimp only at hsel
  split at hsel
  · simp [recordClientHello, hnone] at hsel
  split at hsel
  · simp [recordClientHello, hnone] at hsel
  have hverify : (verifyPSKBinder (recordClientHello
      { s with negotiatedProto := proto.getD s.negotiatedProto } body pub m.extensions) m
      (findExtension m.extensions ExtensionType.preSharedKey)
      cb.ticketKeys).2.resumptionSelectedPSK = some psk := by
    rcases hr : verifyPSKBinder (recordClientHello
      { s with negotiatedProto := proto.getD s.negotiatedProto } body pub m.extensions) m
      (findExtension m.extensions ExtensionType.preSharedKey) cb.ticketKeys with ⟨e | _, s'⟩
    · rw [hr] at hsel
      exact hsel
    · rw [hr] at hsel
      exact (decideEarlyData_selected s' _ _).symm.trans hsel
  obtain ⟨identity, binder, covered, hoffer, hcovered, hright⟩ :=
    verifyPSKBinder_selects (by exact hnone) hverify
  exact ⟨m, identity, binder, covered, ⟨body, ks, hread⟩, hoffer, hcovered, hright⟩

def identitiesOf (i : PskIdentity) : Bytes := be16 i.encode.length ++ i.encode

def bindersOf (binder : Bytes) : Bytes := be16 (encodeBinder binder).length ++ encodeBinder binder

def helloStart (m : ClientHelloMsg) : Bytes :=
  helloHead m.legacyVersion m.random m.legacySessionID ++
    (be16 (2 * m.cipherSuites.length) ++ (encodeCipherSuites m.cipherSuites ++ [1, 0]))

def extensionVector (exts : List Extension) : Bytes :=
  be16 (encodeExtensions exts).length ++ encodeExtensions exts

lemma pskPayload_single (i : PskIdentity) (binder : Bytes) :
    pskPayload [i] [binder] = identitiesOf i ++ bindersOf binder := by
  simp [pskPayload, identitiesOf, bindersOf]

lemma bindersOf_length (h : binder.length = sm3Size) :
    (bindersOf binder).length = bindersField := by
  simp [bindersOf, encodeBinder, h, bindersField, sm3Size]

lemma bindersOf_eq (h : binder.length = sm3Size) : bindersOf binder = [0, 33, 32] ++ binder := by
  simp only [bindersOf, encodeBinder, List.length_cons, h]
  rfl

variable {body : Bytes}

lemma marshalBody_layout (h : m.marshalBody = .ok body) :
    body = helloStart m ++ extensionVector m.extensions ∧ Fits m.extensions ∧
      (encodeExtensions m.extensions).length ≤ 0xFFFF := by
  obtain ⟨-, v, hv, rfl⟩ := ClientHelloMsg.marshalBody_ok.mp h
  obtain ⟨hfit, hlen, rfl⟩ := marshalExtensions_ok.mp hv
  exact ⟨by simp [helloStart, extensionVector], hfit, hlen⟩

lemma readClientHello_layout (h : readClientHello b = .ok (body, m, ks)) :
    ∃ n, readHandshakeMessage b = .ok (HandshakeType.clientHello, body, n) ∧
      body = helloStart m ++ extensionVector m.extensions ∧ Fits m.extensions ∧
      (encodeExtensions m.extensions).length ≤ 0xFFFF := by
  simp only [readClientHello, readTyped, bind_ok, wrapErr_eq_ok, reject_ok, pure_inj,
    Prod.mk.injEq] at h
  obtain ⟨_, ⟨⟨typ, body', n⟩, hread, _, htyp, m', hm, rfl⟩, ks', hks, rfl, rfl, rfl⟩ := h
  dsimp only at hread htyp hm hks
  obtain rfl := Decidable.not_not.mp htyp
  exact ⟨n, hread, marshalBody_layout (ClientHelloMsg.marshal_unmarshal hm).1⟩

variable {exts : List Extension}

lemma findExtension_split (h : findExtension exts typ ≠ []) :
    ∃ pre post, exts = pre ++ ⟨typ, findExtension exts typ⟩ :: post ∧
      hasExtension pre typ = false := by
  induction exts with
  | nil => exact absurd rfl h
  | cons e es ih =>
    by_cases he : e.typ = typ
    · subst he
      exact ⟨[], es, by simp [findExtension], rfl⟩
    · simp only [findExtension, if_neg he] at h ⊢
      obtain ⟨pre, post, hes, hpre⟩ := ih h
      refine ⟨e :: pre, post, by rw [List.cons_append, ← hes], ?_⟩
      simpa [hasExtension, he] using hpre

variable {pre : List Extension}

lemma replacePreSharedKey_split (post : List Extension)
    (h : hasExtension pre ExtensionType.preSharedKey = false) :
    replacePreSharedKey placeholder (pre ++ ⟨ExtensionType.preSharedKey, data⟩ :: post) =
      pre ++ ⟨ExtensionType.preSharedKey, placeholder⟩ :: replacePreSharedKey placeholder post := by
  have hpre : replacePreSharedKey placeholder pre = pre := by
    refine (List.map_congr_left fun e he => ?_).trans (List.map_id pre)
    have hne : e.typ ≠ ExtensionType.preSharedKey := by
      simp only [hasExtension, List.any_eq_false, decide_eq_true_eq] at h
      exact h e he
    simp [hne]
  simp only [replacePreSharedKey, List.map_append, List.map_cons, if_true] at hpre ⊢
  rw [hpre]

lemma pskBinderTranscript_layout
    (hhas : hasExtension m.extensions ExtensionType.preSharedKey = true)
    (h : pskBinderTranscript m [identity] = .ok covered) :
    let exts := replacePreSharedKey (identitiesOf identity ++ bindersOf (zeros sm3Size))
      m.extensions
    ∃ rest, rest.length = bindersField ∧
      (helloStart m ++ extensionVector exts).length ≤ maxHandshakeMessageLen ∧
      (encodeExtensions exts).length ≤ 0xFFFF ∧
      frame HandshakeType.clientHello (helloStart m ++ extensionVector exts) = covered ++ rest := by
  simp only [pskBinderTranscript, hhas, if_true, List.append_nil, bind_ok, reject_ok, pure_inj] at h
  obtain ⟨_, -, placeholder, hplaceholder, full, hfull, _, hlen, rfl⟩ := h
  refine ⟨full.drop (full.length - bindersField), by simp; omega, ?_⟩
  rw [List.take_append_drop]
  obtain ⟨-, -, rfl⟩ := marshalPreSharedKey_ok.mp hplaceholder
  obtain ⟨body, hbody, hmax, rfl⟩ := marshalHandshakeMessage_ok.mp hfull
  obtain ⟨rfl, -, hfits⟩ := marshalBody_layout hbody
  rw [pskPayload_single] at hmax hfits
  exact ⟨hmax, hfits, by rw [pskPayload_single]; rfl⟩

/-- Nothing follows the message, pre_shared_key is its last extension and the only one, and
nothing follows the binders in it. -/
structure EndsWithBinders (b : Bytes) (m : ClientHelloMsg) (identity : PskIdentity)
    (binder : Bytes) : Prop where
  whole : ∃ body, readHandshakeMessage b = .ok (HandshakeType.clientHello, body, b.length)
  last : ∃ before, hasExtension before ExtensionType.preSharedKey = false ∧
    m.extensions = before ++ [⟨ExtensionType.preSharedKey, pskPayload [identity] [binder]⟩]

lemma computeResumptionBinder_length (hP : Lawful P)
    (h : computeResumptionBinder P psk covered = .ok binder) :
    binder.length = sm3Size := by
  simp only [computeResumptionBinder, bind_ok, pure_inj] at h
  obtain ⟨_, _, _, _, _, _, rfl⟩ := h
  exact hP.hmac_length _ _

def beforeBinders (m : ClientHelloMsg) (before : List Extension) (identity : PskIdentity) : Bytes :=
  let payload := (identitiesOf identity).length + bindersField
  let vector := (encodeExtensions before).length + (2 + (2 + payload))
  HandshakeType.clientHello :: (be24 ((helloStart m).length + (2 + vector)) ++ (helloStart m ++
    (be16 vector ++ (encodeExtensions before ++
      (be16 ExtensionType.preSharedKey.toNat ++ (be16 payload ++ identitiesOf identity))))))

lemma frame_last (m : ClientHelloMsg) (before : List Extension) (identity : PskIdentity)
    (hlen : binder.length = sm3Size) :
    frame HandshakeType.clientHello (helloStart m ++ extensionVector
      (before ++ [⟨ExtensionType.preSharedKey, identitiesOf identity ++ bindersOf binder⟩])) =
      beforeBinders m before identity ++ bindersOf binder := by
  simp [frame, extensionVector, beforeBinders, Extension.encode, bindersOf_length hlen]

lemma EndsWithBinders.covers (h : EndsWithBinders b m identity binder)
    (hv : BinderVerified P b psk m identity binder covered) (hlen : binder.length = sm3Size) :
    b = covered ++ bindersOf binder := by
  obtain ⟨⟨body', hwhole⟩, before, hbefore, hexts⟩ := h
  obtain ⟨⟨body, ks, hread⟩, -, htranscript, -⟩ := hv
  obtain ⟨n, hmsg, hbody, -, -⟩ := readClientHello_layout hread
  cases hmsg.symm.trans hwhole
  have hhas : hasExtension m.extensions ExtensionType.preSharedKey = true := by
    simp [hexts, hasExtension]
  obtain ⟨rest, hrest, -, -, hfull⟩ := pskBinderTranscript_layout hhas htranscript
  have hreplaced : replacePreSharedKey (identitiesOf identity ++ bindersOf (zeros sm3Size))
    m.extensions =
      before ++ [⟨ExtensionType.preSharedKey,
        identitiesOf identity ++ bindersOf (zeros sm3Size)⟩] := by
    rw [hexts, replacePreSharedKey_split [] hbefore]
    rfl
  have hzeros : (zeros sm3Size).length = sm3Size := zeros_length _
  rw [hreplaced, frame_last m before identity hzeros] at hfull
  obtain ⟨hcovered, -⟩ := List.append_inj' hfull (by rw [bindersOf_length hzeros, hrest])
  rw [readHandshakeMessage_whole hmsg, hbody, hexts, pskPayload_single,
    frame_last m before identity hlen, hcovered]

variable {r : Bytes}

lemma fronts (h : a ++ t = c ++ f) (h' : a' ++ t' = c ++ r) (hlen : a.length = a'.length)
    (hle : a'.length ≤ c.length) : a = a' ∧ ∃ y, t = y ++ f ∧ t' = y ++ r := by
  have htake := congrArg (List.take a.length) h
  have htake' := congrArg (List.take a'.length) h'
  rw [List.take_left' rfl, List.take_append_of_le_length (by omega)] at htake htake'
  have haa : a = a' := htake.trans (by rw [hlen, ← htake'])
  refine ⟨haa, c.drop a'.length, ?_, ?_⟩
  · have hdrop := congrArg (List.drop a.length) h
    rwa [List.drop_left' rfl, List.drop_append_of_le_length (by omega), hlen] at hdrop
  · have hdrop := congrArg (List.drop a'.length) h'
    rwa [List.drop_left' rfl, List.drop_append_of_le_length hle] at hdrop

variable {z : Bytes}

/-- A string that comes before itself shifted repeats what it is shifted by. -/
lemma eq_take_of_shift (h : z ++ w = w ++ e) (n : Nat) (hn : w.length ≤ n * z.length) :
    w = (List.replicate n z).flatten.take w.length := by
  have hshift : ∃ e', (List.replicate n z).flatten ++ w = w ++ e' := by
    clear hn
    induction n with
    | zero => exact ⟨[], by simp⟩
    | succ n ih =>
      obtain ⟨e', he'⟩ := ih
      refine ⟨e' ++ e, ?_⟩
      rw [List.replicate_succ', List.flatten_append, List.flatten_singleton, List.append_assoc, h,
        ← List.append_assoc, he', List.append_assoc]
  obtain ⟨e', he'⟩ := hshift
  have htake := congrArg (List.take w.length) he'
  rw [List.take_left' rfl, List.take_append_of_le_length (by simpa using hn)] at htake
  exact htake.symm

/-- The first octets of the placeholder's binders, repeated to its length. -/
def repeated (k : Nat) : Bytes :=
  (List.replicate 9 ((bindersOf (zeros sm3Size)).take k)).flatten.take bindersField

lemma repeated_not_extensions :
    ∀ k < 34, 4 ≤ k → (parseExtensionList k
      (((bindersOf (zeros sm3Size)).take k ++ repeated k).drop bindersField)).toOption = none := by
  decide +kernel

variable {post post' : List Extension}

/-- Extensions behind the binders force the binder to be the placeholder. -/
lemma zeros_of_extensions_behind (hlen : binder.length = sm3Size) (hfit : Fits post)
    (hne : post ≠ []) (hz : z.length = (encodeExtensions post).length)
    (hreceived : z ++ bindersOf binder = bindersOf binder ++ encodeExtensions post)
    (hwritten : z ++ r = bindersOf (zeros sm3Size) ++ encodeExtensions post') :
    binder = zeros sm3Size := by
  have hbinders := bindersOf_length hlen
  have hzeros : (bindersOf (zeros sm3Size)).length = bindersField :=
    bindersOf_length (zeros_length _)
  have hfield : bindersField = 35 := rfl
  have hcancel : bindersOf binder = bindersOf (zeros sm3Size) → binder = zeros sm3Size := by
    rw [bindersOf_eq hlen, bindersOf_eq (zeros_length _)]
    exact List.append_cancel_left
  have hfour : 4 ≤ z.length := by
    obtain ⟨e, es, rfl⟩ := List.exists_cons_of_ne_nil hne
    rw [hz]
    simp
    omega
  by_cases hlong : bindersField ≤ z.length
  · -- Both binders fields are a front of the octets between.
    have h₁ := congrArg (List.take bindersField) hreceived
    have h₂ := congrArg (List.take bindersField) hwritten
    rw [List.take_append_of_le_length hlong, List.take_left' hbinders] at h₁
    rw [List.take_append_of_le_length hlong, List.take_left' hzeros] at h₂
    exact hcancel (h₁.symm.trans h₂)
  · have hfront : z = (bindersOf (zeros sm3Size)).take z.length := by
      have h := congrArg (List.take z.length) hwritten
      rw [List.take_left' rfl, List.take_append_of_le_length (by omega)] at h
      exact h
    have hrep : bindersOf binder = repeated z.length := by
      have h := eq_take_of_shift hreceived 9 (by omega)
      rw [hbinders] at h
      rw [h, repeated, ← hfront]
    by_cases hlast : z.length = 34
    · refine hcancel (hrep.trans ?_)
      rw [hlast]
      decide +kernel
    · exfalso
      have hpost : encodeExtensions post =
          ((bindersOf (zeros sm3Size)).take z.length ++ repeated z.length).drop bindersField := by
        rw [← hfront, ← hrep, hreceived, List.drop_left' hbinders]
      have hparse := parseExtensionList_items.written hfit (Nat.le_of_eq hz.symm)
      have hbad := repeated_not_extensions z.length (by omega) hfour
      rw [← hpost, encodeExtensions, hparse] at hbad
      cases hbad

lemma readPreSharedKey_ok (h : readPreSharedKey pskExt = .ok (identity, binder)) :
    ∃ tail, pskExt = identitiesOf identity ++ (bindersOf binder ++ tail) := by
  simp only [readPreSharedKey, bind_ok, wrapErr_eq_ok] at h
  obtain ⟨offer, hparse, hoffer⟩ := h
  split at hoffer
  · cases hoffer
    obtain ⟨⟨tail, htail⟩, -⟩ := parsePreSharedKey_ok hparse
    rw [pskPayload_single, List.append_assoc] at htail
    exact ⟨tail, htail⟩
  · cases hoffer

lemma encodeExtensions_split (pre post : List Extension) (data : Bytes) :
    encodeExtensions (pre ++ ⟨ExtensionType.preSharedKey, data⟩ :: post) =
      (encodeExtensions pre ++ be16 ExtensionType.preSharedKey.toNat ++ be16 data.length) ++
        (data ++ encodeExtensions post) := by
  simp [Extension.encode]

/-- Two hellos cut where the binders end the first: the front parts agree. -/
lemma parts_of_covers (hlen : binder.length = sm3Size) (hrest : rest.length = bindersField)
    (hexts : exts = pre ++ ⟨ExtensionType.preSharedKey, ids ++ (bindersOf binder ++ tail)⟩ :: post)
    (hexts' : exts' = pre ++ ⟨ExtensionType.preSharedKey, ids ++ bindersOf (zeros sm3Size)⟩ ::
      post')
    (hmax : (start ++ extensionVector exts).length ≤ maxHandshakeMessageLen)
    (hmax' : (start ++ extensionVector exts').length ≤ maxHandshakeMessageLen)
    (hvector' : (encodeExtensions exts').length ≤ 0xFFFF)
    (hreceived : frame HandshakeType.clientHello (start ++ extensionVector exts) ++ junk =
      covered ++ bindersOf binder)
    (hwritten : frame HandshakeType.clientHello (start ++ extensionVector exts') = covered ++ rest)
    : junk = [] ∧ tail = [] ∧ ∃ z, z.length = (encodeExtensions post).length ∧
      z ++ bindersOf binder = bindersOf binder ++ encodeExtensions post ∧
      z ++ rest = bindersOf (zeros sm3Size) ++ encodeExtensions post' := by
  have hB := bindersOf_length hlen
  have hZ : (bindersOf (zeros sm3Size)).length = bindersField := bindersOf_length (zeros_length _)
  have hmaxEq : maxHandshakeMessageLen = 16777215 := rfl
  have hE := congrArg List.length
    (encodeExtensions_split pre post (ids ++ (bindersOf binder ++ tail)))
  have hE' := congrArg List.length
    (encodeExtensions_split pre post' (ids ++ bindersOf (zeros sm3Size)))
  rw [← hexts] at hE
  rw [← hexts'] at hE'
  have hlenR := congrArg List.length hreceived
  have hlenW := congrArg List.length hwritten
  simp only [List.length_append, frame_length, extensionVector, be16_length, hB, hZ,
    hrest] at hE hE' hlenR hlenW hmax hmax'
  -- The header: the lengths of the two messages agree, so nothing follows the first.
  rw [frame, ← List.cons_append, List.append_assoc] at hreceived
  rw [frame, ← List.cons_append] at hwritten
  obtain ⟨hhead, y₁, hbody, hbody'⟩ := fronts hreceived hwritten (by simp) (by simp; omega)
  have hsize := be24_inj (by simp [extensionVector]; omega) (by simp [extensionVector]; omega)
    (List.cons.inj hhead).2
  simp only [List.length_append, extensionVector, be16_length] at hsize
  have hjunk : junk = [] := List.length_eq_zero_iff.mp (by omega)
  subst hjunk
  rw [List.append_nil, extensionVector, ← List.append_assoc] at hbody
  rw [extensionVector, ← List.append_assoc] at hbody'
  have hlen₁ := congrArg List.length hbody'
  simp only [List.length_append, be16_length, hrest] at hlen₁
  obtain ⟨-, y₂, hvec, hvec'⟩ := fronts hbody hbody' (by simp) (by simp; omega)
  -- The extension header: the two payloads are as long as each other.
  have hlen₂ := congrArg List.length hvec'
  simp only [List.length_append, hrest] at hlen₂
  rw [hexts, encodeExtensions_split] at hvec
  rw [hexts', encodeExtensions_split] at hvec'
  obtain ⟨hheader, y₃, hdata, hdata'⟩ := fronts hvec hvec' (by simp) (by simp; omega)
  have hpayload := be16_inj (by simp; omega) (by simp; omega) (List.append_inj' hheader rfl).2
  simp only [List.length_append, hB, hZ] at hpayload
  have htail : tail = [] := List.length_eq_zero_iff.mp (by omega)
  subst htail
  rw [List.append_nil, List.append_assoc] at hdata
  rw [List.append_assoc] at hdata'
  have hlen₃ := congrArg List.length hdata'
  simp only [List.length_append, hrest, hZ] at hlen₃
  obtain ⟨-, z, hz, hz'⟩ := fronts hdata hdata' rfl (by omega)
  refine ⟨rfl, rfl, z, ?_, hz.symm, hz'.symm⟩
  have hlen₄ := congrArg List.length hz
  simp only [List.length_append] at hlen₄
  omega

lemma ends_of_covers (hv : BinderVerified P b psk m identity binder covered)
    (hlen : binder.length = sm3Size) (hne : binder ≠ zeros sm3Size)
    (h : b = covered ++ bindersOf binder) : EndsWithBinders b m identity binder := by
  obtain ⟨⟨body, ks, hread⟩, hoffered, htranscript, -⟩ := hv
  obtain ⟨n, hmsg, rfl, hfit, -⟩ := readClientHello_layout hread
  obtain ⟨rfl, hmax, hframe⟩ := readHandshakeMessage_ok hmsg
  obtain ⟨tail, htail⟩ := readPreSharedKey_ok hoffered
  have hdata : findExtension m.extensions ExtensionType.preSharedKey ≠ [] := by
    intro hnil
    have hsize := congrArg List.length (htail.symm.trans hnil)
    simp [identitiesOf] at hsize
  obtain ⟨pre, post, hexts, hpre⟩ := findExtension_split hdata
  rw [htail] at hexts
  have hhas : hasExtension m.extensions ExtensionType.preSharedKey = true := by
    simp [hexts, hasExtension]
  obtain ⟨rest, hrest, hmax', hvector', hfull⟩ := pskBinderTranscript_layout hhas htranscript
  have hreplaced : replacePreSharedKey (identitiesOf identity ++ bindersOf (zeros sm3Size))
    m.extensions =
      pre ++ ⟨ExtensionType.preSharedKey, identitiesOf identity ++ bindersOf (zeros sm3Size)⟩ ::
        replacePreSharedKey (identitiesOf identity ++ bindersOf (zeros sm3Size)) post := by
    rw [hexts, replacePreSharedKey_split post hpre]
  obtain ⟨hjunk, rfl, z, hzlen, hz, hz'⟩ :=
    parts_of_covers hlen hrest hexts hreplaced hmax hmax' hvector' (hframe.symm.trans h) hfull
  have hpost : post = [] := by
    by_contra hpost
    have hfitPost : Fits post := fun e he => hfit e (by rw [hexts]; simp [he])
    exact hne (zeros_of_extensions_behind hlen hfitPost hpost hzlen hz hz')
  refine ⟨⟨helloStart m ++ extensionVector m.extensions, ?_⟩, pre, hpre, ?_⟩
  · rw [hjunk, List.append_nil] at hframe
    have hsize := congrArg List.length hframe
    rw [frame_length] at hsize
    rw [hmsg, hsize]
  · rw [hexts, hpost, pskPayload_single, List.append_nil]

/-- A selected PSK's binder was verified over the received octets without the binders field if the
hello ends with its binders, and, unless the binder is the placeholder, only if it does. Two such
hellos with the same binder over the same octets are the same. -/
theorem binder_covers_hello (hP : Lawful P) {s : ServerHandshaker P} {b psk : Bytes}
    {cb : Callbacks} (h : Selects s b cb psk) :
    (∃ m identity binder covered, BinderVerified P b psk m identity binder covered) ∧
    ∀ m identity binder covered, BinderVerified P b psk m identity binder covered →
      (EndsWithBinders b m identity binder → b = covered ++ bindersOf binder) ∧
      (binder ≠ zeros sm3Size →
        (b = covered ++ bindersOf binder ↔ EndsWithBinders b m identity binder)) ∧
      ∀ b' psk' m' identity', BinderVerified P b' psk' m' identity' binder covered →
        EndsWithBinders b m identity binder → EndsWithBinders b' m' identity' binder → b' = b := by
  refine ⟨selects_verified h, ?_⟩
  intro m identity binder covered hv
  have hlen := computeResumptionBinder_length hP hv.right
  refine ⟨fun hends => hends.covers hv hlen, fun hne =>
    ⟨ends_of_covers hv hlen hne, fun hends => hends.covers hv hlen⟩, ?_⟩
  intro b' psk' m' identity' hv' hends hends'
  rw [hends.covers hv hlen, hends'.covers hv' hlen]

def sampleHello : Bytes × ClientHelloMsg × Bytes :=
  okValue (readClientHello sampleResumption) (by decide +kernel)

def sampleOffer : PskIdentity × Bytes :=
  okValue (readPreSharedKey (findExtension sampleHello.2.1.extensions ExtensionType.preSharedKey))
    (by decide +kernel)

def sampleCovered : Bytes :=
  okValue (pskBinderTranscript sampleHello.2.1 [sampleOffer.1]) (by decide +kernel)

lemma sampleResumption_selects :
    Selects sampleServer sampleResumption resumingCallbacks samplePSK :=
  ⟨rfl, by decide +kernel⟩

lemma sampleResumption_verified :
    BinderVerified toyPrims sampleResumption samplePSK sampleHello.2.1 sampleOffer.1 sampleOffer.2
      sampleCovered := by
  have hread : readClientHello sampleResumption = .ok sampleHello := eq_okValue _ _
  have hoffer : readPreSharedKey
    (findExtension sampleHello.2.1.extensions ExtensionType.preSharedKey) =
      .ok sampleOffer := eq_okValue _ _
  have hcovered : pskBinderTranscript sampleHello.2.1 [sampleOffer.1] = .ok sampleCovered :=
    eq_okValue _ _
  exact verified_of_values hread hoffer hcovered (by decide +kernel)

lemma sampleResumption_ends :
    EndsWithBinders sampleResumption sampleHello.2.1 sampleOffer.1 sampleOffer.2 where
  whole := ⟨sampleHello.1, by decide +kernel⟩
  last := ⟨sampleHello.2.1.extensions.dropLast, by decide +kernel, by decide +kernel⟩

theorem binder_covers_hello_sample :
    Selects sampleServer sampleResumption resumingCallbacks samplePSK ∧
      EndsWithBinders sampleResumption sampleHello.2.1 sampleOffer.1 sampleOffer.2 ∧
      sampleResumption = sampleCovered ++ bindersOf sampleOffer.2 :=
  ⟨sampleResumption_selects, sampleResumption_ends,
    ((binder_covers_hello toyPrims_lawful sampleResumption_selects).2 _ _ _ _
      sampleResumption_verified).1 sampleResumption_ends⟩

/-- The same offer with one octet behind the binders of pre_shared_key. -/
def paddedMsg : ClientHelloMsg :=
  { sampleHello.2.1 with
    extensions := sampleHello.2.1.extensions.map fun e =>
      if e.typ = ExtensionType.preSharedKey then { e with data := e.data ++ [9] } else e }

def paddedHello : Bytes :=
  okValue (marshalHandshakeMessage HandshakeType.clientHello paddedMsg.marshalBody)
    (by decide +kernel)

/-- The padded hello is accepted with the binder of the other one, which does not cover the
padding. -/
theorem padded_hello_accepted :
    Selects sampleServer sampleResumption resumingCallbacks samplePSK ∧
    Selects sampleServer paddedHello resumingCallbacks samplePSK ∧
    BinderVerified toyPrims sampleResumption samplePSK sampleHello.2.1 sampleOffer.1 sampleOffer.2
      sampleCovered ∧
    BinderVerified toyPrims paddedHello samplePSK paddedMsg sampleOffer.1 sampleOffer.2
      sampleCovered ∧
    paddedHello ≠ sampleResumption ∧ paddedHello ≠ sampleCovered ++ bindersOf sampleOffer.2 := by
  have hread : readClientHello paddedHello =
    .ok (paddedHello.drop 4, paddedMsg, sampleHello.2.2) := by
    decide +kernel
  refine ⟨sampleResumption_selects, ⟨rfl, by decide +kernel⟩, sampleResumption_verified, ?_,
    by decide +kernel, by decide +kernel⟩
  exact ⟨⟨_, _, hread⟩, by decide +kernel, by decide +kernel, by decide +kernel⟩

end Pollux.Tls
