import PolluxGM.ClientRun
import PolluxGM.HelloExchange

/-!
# The second ClientHello

A HelloRetryRequest is answered once, with a second ClientHello of the same builder. It takes the
configuration and the ephemeral key of the handshaker and a random that is drawn anew.
-/
namespace Pollux.Tls

open ClientRun

variable {P : Prims}

def helloOf (ch : Bytes) : Option ClientHelloMsg :=
  ((readTyped "ClientHello" HandshakeType.clientHello ClientHelloMsg.unmarshalBody ch).map
    Prod.snd).toOption

def cookieEcho : Option Bytes → List Extension
  | none => []
  | some cookie => [⟨ExtensionType.cookie, be16 cookie.length ++ cookie⟩]

/-- The PSK is offered again for the same identity, with a binder over the restarted transcript
and the second hello up to its binders. -/
def Rebound (P : Prims) (psk : Option Bytes) (hrr ch1 ch2 : Bytes)
    (offer1 offer2 : List Extension) : Prop :=
  match psk with
  | none => offer1 = [] ∧ offer2 = []
  | some psk => ∃ identity binder1 binder2 truncated,
      offer1 = [⟨ExtensionType.preSharedKey, pskPayload [identity] [binder1]⟩] ∧
      offer2 = [⟨ExtensionType.preSharedKey, pskPayload [identity] [binder2]⟩] ∧
      ch2 = truncated ++ bindersOf binder2 ∧
      computeResumptionBinder P psk
        (frame HandshakeType.messageHash (P.sm3 ch1) ++ hrr ++ truncated) = .ok binder2

/-- Only early_data is gone, the cookie is echoed and the binder is made anew. -/
structure Revises (P : Prims) (psk cookie : Option Bytes) (hrr ch1 ch2 : Bytes)
    (m1 m2 : ClientHelloMsg) :
    Prop where
  legacyVersion : m2.legacyVersion = m1.legacyVersion
  random : m2.random = m1.random
  legacySessionID : m2.legacySessionID = m1.legacySessionID
  cipherSuites : m2.cipherSuites = m1.cipherSuites
  extensions : ∃ front back early offer1 offer2, m1.extensions = front ++ back ++ early ++ offer1 ∧
    m2.extensions = front ++ cookieEcho cookie ++ back ++ offer2 ∧
    (∀ e ∈ early, e.typ = ExtensionType.earlyData) ∧ Rebound P psk hrr ch1 ch2 offer1 offer2
  noEarlyData : hasExtension m2.extensions ExtensionType.earlyData = false

def SecondHello (P : Prims) (psk cookie : Option Bytes) (hrr ch1 ch2 : Bytes) : Prop :=
  ∃ m1 m2, helloOf ch1 = some m1 ∧ helloOf ch2 = some m2 ∧ Revises P psk cookie hrr ch1 ch2 m1 m2

variable {c : ClientHandshaker P} {cookie : Option Bytes} {exts : List Extension}

/-- The extensions without a cookie, with its echo in their midst. -/
lemma clientHelloExtensions_cookie (h : clientHelloExtensions c cookie = .ok exts) :
    ∃ front back, clientHelloExtensions c none = .ok (front ++ back) ∧
      exts = front ++ cookieEcho cookie ++ back := by
  cases cookie with
  | none => exact ⟨exts, [], by rw [List.append_nil]; exact h, by simp [cookieEcho]⟩
  | some cookie =>
    by_cases hnone : c.config.nextProtos = []
    · simp only [clientHelloExtensions, hnone, if_true, bind_ok, pure_ok, ok_bind,
        Except.ok.injEq] at h ⊢
      obtain ⟨ext, hext, rfl⟩ := h
      rw [(marshalCookie_ok.mp hext).2]
      exact ⟨_, _, by rw [List.append_nil], rfl⟩
    · simp only [clientHelloExtensions, hnone, if_false, bind_ok, pure_ok, ok_bind,
        Except.ok.injEq] at h ⊢
      obtain ⟨alpn, halpn, ext, hext, rfl⟩ := h
      rw [(marshalCookie_ok.mp hext).2]
      exact ⟨_, _, ⟨alpn, halpn, by rw [List.append_nil]⟩, rfl⟩

lemma exts_plain (h : clientHelloExtensions c cookie = .ok exts) (ht : t ∉ baseTypes)
    (hcookie : t ≠ ExtensionType.cookie) : hasExtension exts t = false := by
  obtain ⟨front, back, hbase, rfl⟩ := clientHelloExtensions_cookie h
  have hplain := base_types hbase ht
  rw [hasExtension_append, Bool.or_eq_false_iff] at hplain
  have hecho : hasExtension (cookieEcho cookie) t = false := by
    cases cookie with
    | none => rfl
    | some cookie => simpa [hasExtension, cookieEcho] using hcookie.symm
  rw [hasExtension_append, hasExtension_append, hplain.1, hplain.2, hecho]
  rfl

variable {random : Random} {body : Bytes}

lemma helloOf_frame (hwritten : (helloMsg random exts).marshalBody = .ok body)
    (hfits : body.length ≤ maxHandshakeMessageLen) :
    helloOf (frame HandshakeType.clientHello body) = some (helloMsg random exts) := by
  have hread : readTyped "ClientHello" HandshakeType.clientHello ClientHelloMsg.unmarshalBody
      (frame HandshakeType.clientHello body) = .ok (body, helloMsg random exts) :=
    (readTyped_frame hfits).mpr
      ⟨ClientHelloMsg.unmarshal_marshal (helloMsg_wellFormed random exts) hwritten, rfl⟩
  rw [helloOf, hread]
  rfl

lemma replacePreSharedKey_none (h : hasExtension exts ExtensionType.preSharedKey = false) :
    replacePreSharedKey placeholder exts = exts := by
  induction exts with
  | nil => rfl
  | cons e es ih =>
    simp only [hasExtension, List.any_cons, Bool.or_eq_false_iff, decide_eq_false_iff_not] at h
    simp only [replacePreSharedKey, List.map_cons, if_neg h.1]
    exact congrArg _ (ih h.2)

lemma truncated_hello (hnone : hasExtension exts ExtensionType.preSharedKey = false)
    (htruncated : pskBinderTranscript (helloMsg random exts) [identity] = .ok truncated)
    (hwritten : (helloMsg random
      (exts ++ [⟨ExtensionType.preSharedKey, pskPayload [identity] [binder]⟩])).marshalBody =
        .ok body)
    (hlen : binder.length = sm3Size) :
    frame HandshakeType.clientHello body = truncated ++ bindersOf binder := by
  have hzeros : (zeros sm3Size).length = sm3Size := zeros_length _
  simp only [pskBinderTranscript, helloMsg_extensions, hnone, replacePreSharedKey_none hnone,
    Bool.false_eq_true, if_false, bind_ok, reject_ok, pure_inj] at htruncated
  obtain ⟨_, -, placeholder, hplaceholder, full, hfull, _, -, rfl⟩ := htruncated
  obtain ⟨-, -, rfl⟩ := marshalPreSharedKey_ok.mp hplaceholder
  obtain ⟨body', hbody', -, rfl⟩ := marshalHandshakeMessage_ok.mp hfull
  obtain ⟨rfl, -, -⟩ := marshalBody_layout hbody'
  obtain ⟨rfl, -, -⟩ := marshalBody_layout hwritten
  have hlast := frame_last (helloMsg random exts) exts identity hlen
  have hplaced := frame_last (helloMsg random exts) exts identity hzeros
  rw [← pskPayload_single] at hlast hplaced
  have hstart (more : List Extension) :
    helloStart (helloMsg random more) = helloStart (helloMsg random exts) := rfl
  have hcut : (beforeBinders (helloMsg random exts) exts identity ++
    bindersOf (zeros sm3Size)).length - bindersField =
      (beforeBinders (helloMsg random exts) exts identity).length := by
    rw [List.length_append, bindersOf_length hzeros, Nat.add_sub_cancel]
  simp only [helloMsg_extensions, hstart, hlast]
  refine congrArg (· ++ _) ?_
  change _ = (frame HandshakeType.clientHello (helloStart (helloMsg random exts) ++
    extensionVector (exts ++ _))).take
    ((frame HandshakeType.clientHello (helloStart (helloMsg random exts) ++
      extensionVector (exts ++ _))).length - _)
  rw [hplaced, hcut, List.take_left]

lemma earlyOffer_typ (c : ClientHandshaker P) :
    ∀ e ∈ earlyOffer c, e.typ = ExtensionType.earlyData := by
  intro e he
  unfold earlyOffer at he
  split at he
  · rw [List.mem_singleton.mp he]
  · cases he

variable {c' : ClientHandshaker P} {ch1 : Bytes}

/-- The second hello differs as it may exactly where the same random was drawn. -/
lemma secondHello_iff (hP : Lawful P) (hconfig : c'.config = c₀.config)
    (hephemeral : c'.ephemeral = c₀.ephemeral) (hearly : c'.offerEarlyData = false)
    (hcovers : c₀.config.resumptionPSK ≠ none →
      c'.transcript.bytes = frame HandshakeType.messageHash (P.sm3 ch1) ++ hrr)
    (h1 : buildClientHello c₀ rand1 none = .ok ch1)
    (h2 : buildClientHello c' rand2 cookie = .ok ch2) :
    SecondHello P c₀.config.resumptionPSK cookie hrr ch1 ch2 ↔ rand2 = rand1 := by
  obtain ⟨random1, base1, offer1, body1, rfl, hbase1, hoffers1, hwritten1, hfits1, rfl⟩ :=
    buildClientHello_sent h1
  obtain ⟨random2, base2, offer2, body2, rfl, hbase2, hoffers2, hwritten2, hfits2, rfl⟩ :=
    buildClientHello_sent h2
  have hsame : clientHelloExtensions c' none = clientHelloExtensions c₀ none := by
    simp only [clientHelloExtensions, hconfig, hephemeral]
  obtain ⟨front, back, hfront, rfl⟩ := clientHelloExtensions_cookie hbase2
  cases (hfront.symm.trans hsame).trans hbase1
  have hread1 := helloOf_frame hwritten1 hfits1
  have hread2 := helloOf_frame hwritten2 hfits2
  constructor
  · rintro ⟨m1, m2, hm1, hm2, hrev⟩
    cases hread1.symm.trans hm1
    cases hread2.symm.trans hm2
    exact congrArg Except.ok hrev.random
  · rintro ⟨rfl⟩
    have hpskNone := exts_plain hbase2 (show ExtensionType.preSharedKey ∉ baseTypes by decide)
      (by decide)
    have hearlyNone := exts_plain hbase2 (show ExtensionType.earlyData ∉ baseTypes by decide)
      (by decide)
    have hwithdrawn : earlyOffer c' = [] := by simp [earlyOffer, hearly]
    cases hoffers1 with
    | nothing hnone =>
      cases hoffers2 with
      | psk hsome => cases (hconfig ▸ hsome).symm.trans hnone
      | nothing =>
        refine ⟨_, _, hread1, hread2, rfl, rfl, rfl, rfl, ?_, ?_⟩
        · exact ⟨front, back, [], [],
            [], by simp, by simp, by simp, by rw [hnone]; exact ⟨rfl, rfl⟩⟩
        · rw [helloMsg_extensions, List.append_nil]
          exact hearlyNone
    | @psk psk _ binder1 hsome _ _ =>
      cases hoffers2 with
      | nothing hnone => cases (hconfig ▸ hnone).symm.trans hsome
      | @psk psk' truncated binder2 hsome' htruncated hbinder =>
        cases (hconfig ▸ hsome').symm.trans hsome
        rw [hwithdrawn, List.append_nil] at htruncated
        rw [hwithdrawn, List.nil_append] at hwritten2 hread2
        have hlen := computeResumptionBinder_length hP hbinder
        rw [hcovers (by rw [hsome]; simp)] at hbinder
        refine ⟨_, _, hread1, hread2, rfl, rfl, rfl, rfl, ?_, ?_⟩
        · refine ⟨front, back, earlyOffer c₀, _, _,
            (List.append_assoc _ _ _).symm, rfl, earlyOffer_typ c₀, ?_⟩
          rw [hsome]
          refine ⟨_, binder1, binder2, truncated, rfl, ?_,
            truncated_hello hpskNone htruncated hwritten2 hlen, hbinder⟩
          rw [offeredIdentity, hconfig]
          rfl
        · rw [helloMsg_extensions, hasExtension_append, hearlyNone]
          rfl

def retryOk : ClientCall × Except Err ClientAnswer → Bool
  | (.handleHelloRetryRequest _ _, .ok _) => true
  | _ => false

lemma buildClientHello_congr (hconfig : c'.config = c.config)
    (hephemeral : c'.ephemeral = c.ephemeral) (htranscript : c'.transcript = c.transcript)
    (hearly : c'.offerEarlyData = c.offerEarlyData) (rand : Except Err Random)
    (cookie : Option Bytes) : buildClientHello c' rand cookie = buildClientHello c rand cookie := by
  simp only [buildClientHello, clientHelloExtensions, appendPreSharedKey, hconfig, hephemeral,
    htranscript, hearly]

structure Leaves (c c' : ClientHandshaker P) : Prop where
  config : c'.config = c.config
  ephemeral : c'.ephemeral = c.ephemeral
  fresh : c'.phase = .none → c.phase = .none ∧ c'.transcript = c.transcript ∧
    c'.offerEarlyData = c.offerEarlyData ∧ c'.clientHello1Full = c.clientHello1Full
  pending : c'.phase = .afterClientHello → c.phase = .afterClientHello ∧
    c'.clientHello1Full = c.clientHello1Full

lemma Leaves.refl (c : ClientHandshaker P) : Leaves c c :=
  ⟨rfl, rfl, fun h => ⟨h, rfl, rfl, rfl⟩, fun h => ⟨h, rfl⟩⟩

lemma Leaves.trans (h : Leaves c c') (h' : Leaves c' c'') : Leaves c c'' := by
  refine ⟨h'.config.trans h.config, h'.ephemeral.trans h.ephemeral, fun hphase => ?_, fun hphase =>
    ?_⟩
  · obtain ⟨hnone, htranscript', hearly', hkept'⟩ := h'.fresh hphase
    obtain ⟨hnone, htranscript, hearly, hkept⟩ := h.fresh hnone
    exact ⟨hnone, htranscript'.trans htranscript, hearly'.trans hearly, hkept'.trans hkept⟩
  · obtain ⟨hafter, hkept'⟩ := h'.pending hphase
    obtain ⟨hafter, hkept⟩ := h.pending hafter
    exact ⟨hafter, hkept'.trans hkept⟩

lemma Leaves.elsewhere (hconfig : c'.config = c.config) (hephemeral : c'.ephemeral = c.ephemeral)
    (hnone : c'.phase ≠ .none) (hafter : c'.phase ≠ .afterClientHello) :
    Leaves c c' :=
  ⟨hconfig, hephemeral, fun h => absurd h hnone, fun h => absurd h hafter⟩

lemma Leaves.behind (hconfig : c'.config = c.config) (hephemeral : c'.ephemeral = c.ephemeral)
    (hsame : c'.phase = c.phase) (hkept : c'.clientHello1Full = c.clientHello1Full)
    (hphase : c.phase ≠ .none) : Leaves c c' :=
  ⟨hconfig, hephemeral, fun h => absurd (hsame.symm.trans h) hphase, fun h =>
    ⟨hsame.symm.trans h, hkept⟩⟩

lemma acceptEncryptedExtensions_phase (c : ClientHandshaker P) (body : Bytes)
    (exts : List Extension) :
    (acceptEncryptedExtensions c body exts).phase ≠ .none ∧
      (acceptEncryptedExtensions c body exts).phase ≠ .afterClientHello := by
  unfold acceptEncryptedExtensions
  dsimp only
  split <;> exact ⟨nofun, nofun⟩

lemma effect_leaves (h : Effect ⟨fun _ => False, fun _ _ => True⟩ c sent ok c' after)
    (hphase : c.phase ≠ .none) :
    Leaves c c' ∧ c'.phase ≠ .none := by
  cases h with
  | refused => exact ⟨.refl c, hphase⟩
  | helloFailed hnone => exact absurd hnone hphase
  | helloKeysFailed hnone full => exact absurd hnone hphase
  | helloSent hnone build early => exact absurd hnone hphase
  | shareRefused hafter pskMode => exact ⟨.behind rfl rfl rfl rfl hphase, hphase⟩
  | serverHelloFailed hafter pskMode body keys => exact ⟨.elsewhere rfl rfl nofun nofun, nofun⟩
  | serverHelloAccepted hafter handed read offered share l =>
    exact ⟨.elsewhere rfl rfl nofun nofun, nofun⟩
  | retryFailed hafter handed kept read => exact handed.elim
  | retrySent hafter handed kept read build => exact handed.elim
  | extensionsRefused hserver tp => exact ⟨.behind rfl rfl rfl rfl hphase, hphase⟩
  | extensionsAccepted hserver handed read tp proto =>
    have hend := acceptEncryptedExtensions_phase
      { c with peerTransportParams := tp, negotiatedProto := proto }
    exact ⟨.elsewhere rfl rfl (hend _ _).1 (hend _ _).2, (hend _ _).1⟩
  | certificateAccepted hcert handed read => exact ⟨.elsewhere rfl rfl nofun nofun, nofun⟩
  | certificateVerifyAccepted hverify handed check => exact ⟨.elsewhere rfl rfl nofun nofun, nofun⟩
  | finishedFailed hfin body keys => exact ⟨.elsewhere rfl rfl nofun nofun, nofun⟩
  | finishedAccepted hfin handed check l => exact ⟨.elsewhere rfl rfl nofun nofun, nofun⟩
  | ticketSeen sent ok rms => exact ⟨.behind rfl rfl rfl rfl hphase, hphase⟩
  | earlyDiscarded => exact ⟨.behind rfl rfl rfl rfl hphase, hphase⟩

variable {call : ClientCall}

lemma step_none (hphase : c.phase = .none) (hhello : ∀ rand, call ≠ .clientHello rand) :
    ∃ keys, (call.step c).2 = { c with keys := keys } := by
  cases call with
  | clientHello rand => exact absurd rfl (hhello rand)
  | discardEarlyKeys => exact ⟨c.keys.discardEarly, rfl⟩
  | handleNewSessionTicket b =>
    change ∃ keys, (Tls.handleNewSessionTicket c b).2 = _
    unfold Tls.handleNewSessionTicket
    split
    · exact ⟨c.keys, rfl⟩
    split
    · exact ⟨c.keys, rfl⟩
    split
    · exact ⟨c.keys, rfl⟩
    dsimp only
    split <;> exact ⟨_, rfl⟩
  | _ =>
    refine ⟨c.keys, ?_⟩
    change _ = c
    simp [ClientCall.step, answer, handleServerHello, handleHelloRetryRequest,
      handleEncryptedExtensions,
      handleCertificate, handleCertificateVerify, handleServerFinished, handleServerFlight,
        clientFinished, hphase,
      andThen]

lemma clientFinished_leaves (c : ClientHandshaker P) : Leaves c (Tls.clientFinished c).2 := by
  rcases clientFinished_cases c with ⟨e, h⟩ | ⟨hphase, full, -, h⟩
  · rw [h]
    exact .refl c
  · rw [h]
    exact .behind rfl rfl rfl rfl (by rw [hphase]; exact nofun)

lemma step_leaves (c : ClientHandshaker P) (hhello : ∀ rand, call ≠ .clientHello rand)
    (hretry : ∀ b rand, call ≠ .handleHelloRetryRequest b rand) : Leaves c (call.step c).2 := by
  by_cases hphase : c.phase = .none
  · obtain ⟨keys, hkeys⟩ := step_none hphase hhello
    rw [hkeys]
    exact ⟨rfl, rfl, fun h => ⟨h, rfl, rfl, rfl⟩, fun h => ⟨h, rfl⟩⟩
  by_cases hfinished : call = .clientFinished
  · rw [hfinished]
    exact clientFinished_leaves c
  · have hkeeps : Leaves c (call.step c).2 ∧ (call.step c).2.phase ≠ .none :=
      ClientCall.step_keeps_given (I := fun c' => Leaves c c' ∧ c'.phase ≠ .none)
        (fun e h => ⟨h.1.trans (effect_leaves e h.2).1, (effect_leaves e h.2).2⟩) hfinished
        (fun b rand h => hretry b rand h) (fun _ _ => trivial) ⟨.refl c, hphase⟩
    exact hkeeps.1

lemma clientHello_cases (c : ClientHandshaker P) (rand : Except Err Random) :
    (∃ e, Tls.clientHello c rand = (.error e, c)) ∨
      (∃ e c', Tls.clientHello c rand = (.error e, c') ∧ c'.config = c.config ∧
        c'.ephemeral = c.ephemeral ∧ c'.phase = .failed) ∨
      c.phase = .none ∧ ∃ full keys, buildClientHello c rand none = .ok full ∧
        Tls.clientHello c rand =
          (.ok full, { sendClientHello c full with keys := keys }) := by
  unfold Tls.clientHello
  split
  · exact .inl ⟨_, rfl⟩
  rename_i hphase
  cases hbuild : buildClientHello c rand none with
  | error e => exact .inr (.inl ⟨e, _, rfl, rfl, rfl, rfl⟩)
  | ok full =>
    dsimp only [deriveClientEarlyKeys]
    split
    · split
      · exact .inr (.inl ⟨_, _, rfl, rfl, rfl, rfl⟩)
      · exact .inr (.inr ⟨Decidable.not_not.mp hphase, full, _, rfl, rfl⟩)
    · exact .inr (.inr ⟨Decidable.not_not.mp hphase, full, c.keys, rfl, rfl⟩)

lemma handleHelloRetryRequest_cases (c : ClientHandshaker P) (hrr : Bytes)
    (rand : Except Err Random) :
    (∃ e, Tls.handleHelloRetryRequest c hrr rand = (.error e, c)) ∨
      c.phase = .afterClientHello ∧ ∃ hello1 cookie, c.clientHello1Full = some hello1 ∧
        readHelloRetryRequest hrr = .ok cookie ∧
        ((∃ e, Tls.handleHelloRetryRequest c hrr rand =
          (.error e, restartForHelloRetry c hello1 hrr)) ∨
          ∃ ch2, buildClientHello (restartForHelloRetry c hello1 hrr) rand cookie = .ok ch2 ∧
            Tls.handleHelloRetryRequest c hrr rand =
              (.ok ch2, sendClientHello2 (restartForHelloRetry c hello1 hrr) ch2)) := by
  unfold Tls.handleHelloRetryRequest
  split
  · exact .inl ⟨_, rfl⟩
  rename_i hphase
  cases hkept : c.clientHello1Full with
  | none => exact .inl ⟨_, rfl⟩
  | some hello1 =>
    cases hread : readHelloRetryRequest hrr with
    | error e => exact .inl ⟨e, rfl⟩
    | ok cookie =>
      refine .inr ⟨Decidable.not_not.mp hphase, hello1, cookie, rfl, rfl, ?_⟩
      cases hbuild : buildClientHello (restartForHelloRetry c hello1 hrr) rand cookie with
      | error e => exact .inl ⟨e, by simp only [hbuild]⟩
      | ok ch2 => exact .inr ⟨ch2, rfl, by simp only [hbuild]⟩

variable {c₀ : ClientHandshaker P} {log : List (ClientCall × Except Err ClientAnswer)}

def Sent (c₀ : ClientHandshaker P) (log : List (ClientCall × Except Err ClientAnswer))
    (rand : Except Err Random) (ch1 : Bytes) : Prop :=
  (ClientCall.clientHello rand, Except.ok (ClientAnswer.message ch1)) ∈ log ∧
    buildClientHello c₀ rand none = .ok ch1

/-- The second hello as it was built after the retry. -/
structure Answered (c₀ : ClientHandshaker P) (hrr ch1 : Bytes) (rand : Except Err Random)
    (cookie : Option Bytes) (ch2 : Bytes) (c : ClientHandshaker P) : Prop where
  config : c.config = c₀.config
  ephemeral : c.ephemeral = c₀.ephemeral
  offerEarlyData : c.offerEarlyData = false
  transcript : c.transcript = .resetForHelloRetry P ch1 hrr
  read : readHelloRetryRequest hrr = .ok cookie
  built : buildClientHello c rand cookie = .ok ch2

structure Hellos (c₀ : ClientHandshaker P) (log : List (ClientCall × Except Err ClientAnswer))
    (c : ClientHandshaker P) : Prop where
  config : c.config = c₀.config
  ephemeral : c.ephemeral = c₀.ephemeral
  fresh : c.phase = .none → c.transcript = c₀.transcript ∧ c.offerEarlyData = c₀.offerEarlyData ∧
    log.countP retryOk = 0
  pending : c.phase = .afterClientHello → ∀ ch1, c.clientHello1Full = some ch1 →
    log.countP retryOk = 0 ∧ ∃ rand, Sent c₀ log rand ch1
  once : log.countP retryOk ≤ 1
  answered : ∀ hrr rand2 ch2,
    (ClientCall.handleHelloRetryRequest hrr rand2, Except.ok (ClientAnswer.message ch2)) ∈ log →
      ∃ rand1 ch1 cookie c', Sent c₀ log rand1 ch1 ∧ Answered c₀ hrr ch1 rand2 cookie ch2 c'

lemma Sent.append (h : Sent c₀ log rand ch1) (entry : ClientCall × Except Err ClientAnswer) :
    Sent c₀ (log ++ [entry]) rand ch1 :=
  ⟨List.mem_append_left _ h.1, h.2⟩

variable {entry : ClientCall × Except Err ClientAnswer}

lemma Hellos.append (h : Hellos c₀ log c) (hentry : retryOk entry = false)
    (hconfig : c'.config = c.config) (hephemeral : c'.ephemeral = c.ephemeral)
    (hfresh : c'.phase = .none → c.phase = .none ∧ c'.transcript = c.transcript ∧
      c'.offerEarlyData = c.offerEarlyData)
    (hpending : c'.phase = .afterClientHello → ∀ ch1,
      c'.clientHello1Full = some ch1 → log.countP retryOk = 0 ∧ ∃ rand,
        Sent c₀ (log ++ [entry]) rand ch1) : Hellos c₀ (log ++ [entry]) c' := by
  have hcount : (log ++ [entry]).countP retryOk = log.countP retryOk := by
    rw [List.countP_append, List.countP_singleton, hentry]
    rfl
  refine ⟨hconfig.trans h.config, hephemeral.trans h.ephemeral, ?_, ?_, hcount ▸ h.once, ?_⟩
  · intro hphase
    obtain ⟨hnone, htranscript', hearly'⟩ := hfresh hphase
    obtain ⟨htranscript, hearly, hzero⟩ := h.fresh hnone
    exact ⟨htranscript'.trans htranscript, hearly'.trans hearly, hcount.trans hzero⟩
  · rw [hcount]
    exact hpending
  · intro hrr rand2 ch2 hmem
    rcases List.mem_append.mp hmem with hmem | hmem
    · obtain ⟨rand1, ch1, cookie, c'', hsent, hanswered⟩ := h.answered hrr rand2 ch2 hmem
      exact ⟨rand1, ch1, cookie, c'', hsent.append entry, hanswered⟩
    · rw [List.mem_singleton] at hmem
      rw [← hmem] at hentry
      cases hentry

lemma Hellos.leaves (h : Hellos c₀ log c) (hleaves : Leaves c c') (hentry : retryOk entry = false) :
    Hellos c₀ (log ++ [entry]) c' := by
  refine h.append hentry hleaves.config hleaves.ephemeral ?_ ?_
  · intro hphase
    obtain ⟨hnone, htranscript, hearly, -⟩ := hleaves.fresh hphase
    exact ⟨hnone, htranscript, hearly⟩
  · intro hphase ch1 hkept
    obtain ⟨hafter, hsame⟩ := hleaves.pending hphase
    obtain ⟨hzero, rand, hsent⟩ := h.pending hafter ch1 (hsame ▸ hkept)
    exact ⟨hzero, rand, hsent.append entry⟩

lemma Hellos.clientHello (h : Hellos c₀ log c) (rand : Except Err Random) :
    Hellos c₀ (log ++ [(.clientHello rand, (ClientCall.step (.clientHello rand) c).1)])
      (ClientCall.step (.clientHello rand) c).2 := by
  have hstep : ClientCall.step (.clientHello rand) c =
    answer .message (Tls.clientHello c rand) := rfl
  rw [hstep]
  rcases clientHello_cases c rand with ⟨e, hcase⟩ | ⟨e, c', hcase, hconfig, hephemeral, hfailed⟩ |
    ⟨hphase, full, keys, hbuild, hcase⟩
  · rw [hcase]
    exact h.leaves (.refl c) rfl
  · rw [hcase]
    have hleaves : Leaves c c' :=
      .elsewhere hconfig hephemeral (by rw [hfailed]; exact nofun) (by rw [hfailed]; exact nofun)
    exact h.leaves hleaves rfl
  · rw [hcase]
    obtain ⟨htranscript, hearly, hzero⟩ := h.fresh hphase
    refine h.append rfl rfl rfl nofun ?_
    rintro - ch1 ⟨rfl⟩
    refine ⟨hzero, rand, List.mem_append_right _ (List.mem_singleton.mpr rfl), ?_⟩
    rw [← buildClientHello_congr h.config h.ephemeral htranscript hearly]
    exact hbuild

lemma Hellos.retry (h : Hellos c₀ log c) (hrr : Bytes) (rand : Except Err Random) :
    Hellos c₀ (log ++ [(.handleHelloRetryRequest hrr rand,
      (ClientCall.step (.handleHelloRetryRequest hrr rand) c).1)])
      (ClientCall.step (.handleHelloRetryRequest hrr rand) c).2 := by
  have hstep : ClientCall.step (.handleHelloRetryRequest hrr rand) c =
      answer .message (Tls.handleHelloRetryRequest c hrr rand) := rfl
  rw [hstep]
  rcases handleHelloRetryRequest_cases c hrr rand with ⟨e, hcase⟩ | ⟨hphase, ch1, cookie, hkept,
    hread, hcase⟩
  · rw [hcase]
    exact h.leaves (.refl c) rfl
  obtain ⟨hzero, rand1, hsent⟩ := h.pending hphase ch1 hkept
  rcases hcase with ⟨e, hcase⟩ | ⟨ch2, hbuild, hcase⟩
  · rw [hcase]
    have hleaves : Leaves c (restartForHelloRetry c ch1 hrr) :=
      .behind rfl rfl rfl rfl (by rw [hphase]; exact nofun)
    exact h.leaves hleaves rfl
  · rw [hcase]
    have hcount : (log ++
      [(ClientCall.handleHelloRetryRequest hrr rand, Except.ok (ClientAnswer.message ch2))]).countP
        retryOk = 1 := by
      rw [List.countP_append, hzero]
      rfl
    refine ⟨h.config, h.ephemeral, nofun, nofun, Nat.le_of_eq hcount, ?_⟩
    intro hrr' rand2 ch2' hmem
    rcases List.mem_append.mp hmem with hmem | hmem
    · have hpos : 0 < log.countP retryOk := List.countP_pos_iff.mpr ⟨_, hmem, rfl⟩
      omega
    · cases List.mem_singleton.mp hmem
      exact ⟨rand1, ch1, cookie, restartForHelloRetry c ch1 hrr, hsent.append _,
        h.config, h.ephemeral, rfl, rfl, hread, hbuild⟩

lemma hellos_of_run (hnew : newClientHandshakerWithConfig cfg keyPair = .ok c₀)
    (hrun : Run ClientCall.step (fun _ _ => True) c₀ log c) :
    Hellos c₀ log c := by
  refine hrun.invariant ?_ ?_
  · have hfresh := newClientHandshaker_fresh hnew
    refine ⟨rfl, rfl, fun _ => ⟨rfl, rfl, rfl⟩, fun h => ?_, Nat.zero_le _, by simp⟩
    rw [hfresh.phase] at h
    cases h
  · intro log c call h _
    cases call with
    | clientHello rand => exact h.clientHello rand
    | handleHelloRetryRequest b rand => exact h.retry b rand
    | _ => exact h.leaves (step_leaves c (by simp) (by simp)) rfl

/-- In every run at most one HelloRetryRequest is accepted. Its answer revises the first hello as
it may exactly where it has the random of the first; where a PSK is offered, the HelloRetryRequest
is taken to be one message with nothing behind it. -/
theorem hello_retry_discipline (hP : Lawful P) {cfg : ClientConfig P}
    {keyPair : Except Err P.PrivateKey} {c : ClientHandshaker P}
    (hnew : newClientHandshakerWithConfig cfg keyPair = .ok c₀)
    (hrun : Run ClientCall.step (fun _ _ => True) c₀ log c) :
    log.countP retryOk ≤ 1 ∧
      ∀ hrr rand2 ch2, (ClientCall.handleHelloRetryRequest hrr rand2,
        Except.ok (ClientAnswer.message ch2)) ∈ log →
        ∃ rand1 ch1 cookie,
          (ClientCall.clientHello rand1, Except.ok (ClientAnswer.message ch1)) ∈ log ∧
          readHelloRetryRequest hrr = .ok cookie ∧
          ((cfg.resumptionPSK ≠ none → hrr = frame HandshakeType.serverHello (hrr.drop 4)) →
            (SecondHello P cfg.resumptionPSK cookie hrr ch1 ch2 ↔ rand2 = rand1)) := by
  have h := hellos_of_run hnew hrun
  refine ⟨h.once, fun hrr rand2 ch2 hmem => ?_⟩
  obtain ⟨rand1, ch1, cookie, c', hsent, ha⟩ := h.answered hrr rand2 ch2 hmem
  refine ⟨rand1, ch1, cookie, hsent.1, ha.read, fun hwhole => ?_⟩
  have hcfg := (newClientHandshaker_fresh hnew).config
  rw [← hcfg] at hwhole ⊢
  refine secondHello_iff hP ha.config ha.ephemeral ha.offerEarlyData
    (fun hpsk => ?_) hsent.2 ha.built
  have hlen := length_of_readHelloRetryRequest ha.read
  rw [ha.transcript, Transcript.resetForHelloRetry, if_neg (by omega)]
  simp only [Transcript.bytes, List.flatMap_cons, List.flatMap_nil, List.append_nil]
  rw [← hwhole hpsk]

def retryClient : ClientHandshaker toyPrims :=
  okValue (newClientHandshakerWithConfig { sampleClientConfig with
    nextProtos := [[104, 51]], transportParameters := some [1, 2], resumptionPSK := some samplePSK,
    resumptionIdentity := sampleIdentity, earlyData := true } (.ok (5 : UInt8))) (by decide +kernel)

def retryRequest : Bytes :=
  okValue (marshalHandshakeMessage HandshakeType.serverHello (ServerHelloMsg.marshalBody
    ⟨versionTLS12, helloRetryRequestRandom, [], tlsSM4GCMSM3,
      [⟨ExtensionType.cookie, [0, 3, 7, 8, 9]⟩]⟩))
    (by decide +kernel)

def retryCalls (random1 random2 : Bytes) : List ClientCall :=
  [.clientHello (.ok (Random.copy random1)),
    .handleHelloRetryRequest retryRequest (.ok (Random.copy random2))]

theorem hello_retry_discipline_sample :
    let log := (exec ClientCall.step (retryCalls [7] [7]) retryClient).1
    (log.all fun e => e.2.isOk) = true ∧
      retryRequest = frame HandshakeType.serverHello (retryRequest.drop 4) ∧
      log.countP retryOk ≤ 1 ∧
      ∀ hrr rand2 ch2, (ClientCall.handleHelloRetryRequest hrr rand2,
        Except.ok (ClientAnswer.message ch2)) ∈ log →
        ∃ rand1 ch1 cookie,
          (ClientCall.clientHello rand1, Except.ok (ClientAnswer.message ch1)) ∈ log ∧
          readHelloRetryRequest hrr = .ok cookie ∧
          ((some samplePSK ≠ none → hrr = frame HandshakeType.serverHello (hrr.drop 4)) →
            (SecondHello toyPrims (some samplePSK) cookie hrr ch1 ch2 ↔ rand2 = rand1)) :=
  ⟨by decide +kernel, by decide +kernel, hello_retry_discipline toyPrims_lawful
    (eq_okValue _ (by decide +kernel)) (exec_run (allAllowed_true _ _))⟩

def returned : ClientCall × Except Err ClientAnswer → Option Bytes
  | (_, .ok (.message b)) => some b
  | _ => none

/-- The two hellos carry the randoms that were drawn for them. -/
theorem second_random_differs :
    let log := (exec ClientCall.step (retryCalls [7] [8]) retryClient).1
    (log.map fun e => (returned e).bind fun ch => (helloOf ch).map ClientHelloMsg.random) =
      [some (Random.copy [7]), some (Random.copy [8])] ∧ Random.copy [7] ≠ Random.copy [8] := by
  decide +kernel

end Pollux.Tls
