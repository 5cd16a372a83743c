import PolluxGM.ClientRun

/-!
# What a failing client step leaves behind

Three of the steps have an exit that neither leaves the state alone nor makes the handshaker refuse
everything from then on, because a field is written before the last check.
-/
namespace Pollux.Tls

open ClientRun

variable {P : Prims}

def IsHandler : ClientCall → Prop
  | .handleServerHello _ | .handleHelloRetryRequest _ _ | .handleEncryptedExtensions _
  | .handleCertificate _ | .handleCertificateVerify _ | .handleServerFinished _ => True
  | _ => False

def RefusesAll (c : ClientHandshaker P) : Prop :=
  c.phase = .failed ∧ ∀ call, call ≠ ClientCall.discardEarlyKeys → ∃ e, call.step c = (.error e, c)

def Atomic (c c' : ClientHandshaker P) : Prop := RefusesAll c' ∨ c' = c

/-- The exits that write a field and then fail without the failed phase. -/
def LeavesPartial (c : ClientHandshaker P) : ClientCall → Prop
  -- the server selected the offered PSK and its key share is refused
  | .handleServerHello b => c.phase = .afterClientHello ∧ c.pskMode = false ∧
      ∃ body sh e, readServerHello b = .ok (body, sh) ∧ selectsPSK sh = true ∧
        c.config.resumptionPSK.isSome = true ∧ serverShare P c.ephemeral sh = .error e
  -- the retry is well formed and the second ClientHello cannot be written
  | .handleHelloRetryRequest hrr rand => c.phase = .afterClientHello ∧
      ∃ hello1 cookie e, c.clientHello1Full = some hello1 ∧ readHelloRetryRequest hrr = .ok cookie ∧
        buildClientHello (restartForHelloRetry c hello1 hrr) rand cookie = .error e ∧
        restartForHelloRetry c hello1 hrr ≠ c
  -- new transport parameters come with an ALPN answer that is refused
  | .handleEncryptedExtensions b => c.phase = .afterServerHello ∧
      ∃ body ee e, readTyped "EncryptedExtensions" HandshakeType.encryptedExtensions
          EncryptedExtensionsMsg.unmarshalBody b = .ok (body, ee) ∧
        c.config.nextProtos ≠ [] ∧ selectedALPN c.config.nextProtos ee.extensions = .error e ∧
        findExtension ee.extensions ExtensionType.quicTransportParams ∉ [[], c.peerTransportParams]
  | _ => False

variable {c : ClientHandshaker P}

lemma sent_phase_of_run {cfg : ClientConfig P} {keyPair : Except Err P.PrivateKey}
    {c₀ : ClientHandshaker P} {log : List (ClientCall × Except Err ClientAnswer)}
    (hnew : newClientHandshakerWithConfig cfg keyPair = .ok c₀)
    (hrun : Run ClientCall.step (fun _ _ => True) c₀ log c) :
    c.clientFinishedSent = true → c.phase = .afterServerFinished := by
  refine hrun.stateInvariant (I := fun c => c.clientFinishedSent = true →
    c.phase = .afterServerFinished) ?_ ?_
  · intro hsent
    rw [(newClientHandshaker_fresh hnew).clientFinishedSent] at hsent
    cases hsent
  · intro c call hc _
    by_cases hcall : call = .clientFinished
    · subst hcall
      simp only [ClientCall.step, answer]
      rcases clientFinished_cases c with ⟨e, he⟩ | ⟨hphase, full, -, hok⟩
      · rw [he]; exact hc
      · rw [hok]; exact fun _ => hphase
    · refine ClientCall.step_keeps
        (I := fun c => c.clientFinishedSent = true → c.phase = .afterServerFinished) ?_ hcall hc
      intro c c' ok after e hc hsent
      rw [effect_sent e] at hsent
      exact (effect_after_finished e (hc hsent)).1

lemma refusesAll_of_failed (hphase : c.phase = .failed) (hsent : c.clientFinishedSent = false) :
    RefusesAll c := by
  refine ⟨hphase, fun call hcall => ?_⟩
  cases call with
  | clientHello rand => exact ⟨_, by simp [ClientCall.step, answer, clientHello, hphase]; rfl⟩
  | handleServerHello b =>
    exact ⟨_, by simp [ClientCall.step, answer, handleServerHello, hphase]; rfl⟩
  | handleHelloRetryRequest b rand =>
    exact ⟨_, by simp [ClientCall.step, answer, handleHelloRetryRequest, hphase]; rfl⟩
  | handleEncryptedExtensions b =>
    exact ⟨_, by simp [ClientCall.step, answer, handleEncryptedExtensions, hphase]; rfl⟩
  | handleCertificate b =>
    exact ⟨_, by simp [ClientCall.step, answer, handleCertificate, hphase]; rfl⟩
  | handleCertificateVerify b =>
    exact ⟨_, by simp [ClientCall.step, answer, handleCertificateVerify, hphase]; rfl⟩
  | handleServerFinished b =>
    exact ⟨_, by simp [ClientCall.step, answer, handleServerFinished, hphase]; rfl⟩
  | handleServerFlight sh ee cert cv fin =>
    exact ⟨_, by simp [ClientCall.step, answer, handleServerFlight, handleServerHello, hphase]; rfl⟩
  | clientFinished => exact ⟨_, by simp [ClientCall.step, answer, clientFinished, hphase]; rfl⟩
  | handleNewSessionTicket b =>
    exact ⟨_, by simp [ClientCall.step, answer, handleNewSessionTicket, hsent]; rfl⟩
  | discardEarlyKeys => exact absurd rfl hcall

variable {c' : ClientHandshaker P}

lemma Atomic.of_failed {p : ClientPhase}
    (hsent : c.clientFinishedSent = true → c.phase = .afterServerFinished) (hphase : c.phase = p)
    (hp : p ≠ .afterServerFinished) (hfailed : c'.phase = .failed)
    (hsame : c'.clientFinishedSent = c.clientFinishedSent) : Atomic c c' := by
  refine .inl (refusesAll_of_failed hfailed ?_)
  rw [hsame]
  cases h : c.clientFinishedSent with
  | false => rfl
  | true => exact absurd ((hphase.symm.trans (hsent h))) hp

lemma not_atomic (hphase : c'.phase ≠ .failed) (hne : c' ≠ c) : ¬ Atomic c c' := by
  rintro (hall | heq)
  · exact hphase hall.1
  · exact hne heq

variable {b : Bytes} {e : Err}

lemma handleServerHello_atomic_iff
    (hsent : c.clientFinishedSent = true → c.phase = .afterServerFinished)
    (herr : (handleServerHello c b).1 = .error e) :
    Atomic c (handleServerHello c b).2 ↔ ¬ LeavesPartial c (.handleServerHello b) := by
  unfold handleServerHello at herr ⊢
  by_cases hphase : c.phase = .afterClientHello
  swap
  · simp [hphase, Atomic, LeavesPartial]
  rw [if_neg (by simpa using hphase)] at herr ⊢
  rcases hread : readServerHello b with e' | ⟨body, sh⟩
  · simp [hread, Atomic, LeavesPartial]
  simp only [hread] at herr ⊢
  split at herr
  · rename_i hnone
    rw [if_pos hnone]
    refine iff_of_true (.inr rfl) ?_
    rintro ⟨-, -, body', sh', e', hread', hsel, hsome, -⟩
    cases hread.symm.trans hread'
    simp_all
  · rename_i hoffered
    rw [if_neg hoffered]
    rcases hshare : serverShare P c.ephemeral sh with e' | shared
    · -- pskMode is already written when the key share is refused
      by_cases hkeep : c.pskMode = true ∨ selectsPSK sh = false
      · have hsame : (c.pskMode || selectsPSK sh) = c.pskMode := by
          rcases hkeep with h | h <;> simp [h]
        refine iff_of_true (.inr ?_) ?_
        · dsimp only
          rw [hsame]
        · rintro ⟨-, hoff, body', sh', e'', hread', hsel, -⟩
          cases hread.symm.trans hread'
          simp_all
      · obtain ⟨hoff, hsel⟩ : c.pskMode = false ∧ selectsPSK sh = true := by simpa using hkeep
        refine iff_of_false (not_atomic ?_ ?_) ?_
        · simp [hphase]
        · intro heq
          have := congrArg ClientHandshaker.pskMode heq
          simp [hoff, hsel] at this
        · refine not_not_intro ⟨hphase, hoff, body, sh, e', hread, hsel, ?_, hshare⟩
          cases hpsk : c.config.resumptionPSK with
          | none => simp [hsel, hpsk] at hoffered
          | some psk => rfl
    · rw [hshare] at herr
      have hclean : ¬ LeavesPartial c (.handleServerHello b) := by
        rintro ⟨-, -, body', sh', e'', hread', -, -, hbad⟩
        cases hread.symm.trans hread'
        simp [hshare] at hbad
      simp only [acceptServerHello] at herr ⊢
      split at herr
      · exact iff_of_true (.of_failed hsent hphase (by decide) rfl rfl) hclean
      · cases herr

lemma handleHelloRetryRequest_atomic_iff {hrr : Bytes} {rand : Except Err Random}
    (herr : (handleHelloRetryRequest c hrr rand).1 = .error e) :
    Atomic c (handleHelloRetryRequest c hrr rand).2 ↔
      ¬ LeavesPartial c (.handleHelloRetryRequest hrr rand) := by
  unfold handleHelloRetryRequest at herr ⊢
  by_cases hphase : c.phase = .afterClientHello
  swap
  · simp [hphase, Atomic, LeavesPartial]
  rw [if_neg (by simpa using hphase)] at herr ⊢
  rcases hkept : c.clientHello1Full with _ | hello1
  · simp [hkept, Atomic, LeavesPartial]
  rcases hread : readHelloRetryRequest hrr with e' | cookie
  · simp [hkept, hread, Atomic, LeavesPartial]
  simp only [hkept, hread] at herr ⊢
  rcases hbuild : buildClientHello (restartForHelloRetry c hello1 hrr) rand cookie with e' | ch2
  · dsimp only
    by_cases hsame : restartForHelloRetry c hello1 hrr = c
    · refine iff_of_true (.inr hsame) ?_
      rintro ⟨-, hello1', cookie', e'', hkept', -, -, hne⟩
      cases hkept.symm.trans hkept'
      exact hne hsame
    · exact iff_of_false (not_atomic (by simp [restartForHelloRetry, hphase]) hsame)
        (not_not_intro ⟨hphase, hello1, cookie, e', hkept, hread, hbuild, hsame⟩)
  · simp only [hbuild] at herr
    cases herr

lemma handleEncryptedExtensions_atomic_iff (herr : (handleEncryptedExtensions c b).1 = .error e) :
    Atomic c (handleEncryptedExtensions c b).2 ↔
      ¬ LeavesPartial c (.handleEncryptedExtensions b) := by
  unfold handleEncryptedExtensions at herr ⊢
  by_cases hphase : c.phase = .afterServerHello
  swap
  · simp [hphase, Atomic, LeavesPartial]
  rw [if_neg (by simpa using hphase)] at herr ⊢
  rcases hread : readTyped "EncryptedExtensions" HandshakeType.encryptedExtensions
      EncryptedExtensionsMsg.unmarshalBody b with e' | ⟨body, ee⟩
  · simp [hread, Atomic, LeavesPartial]
  simp only [hread] at herr ⊢
  by_cases hprotos : c.config.nextProtos = []
  · simp [hprotos] at herr
  rw [if_neg hprotos] at herr ⊢
  rcases hsel : selectedALPN c.config.nextProtos ee.extensions with e' | proto
  · dsimp only
    by_cases hold : findExtension ee.extensions ExtensionType.quicTransportParams ∈
        [[], c.peerTransportParams]
    · refine iff_of_true (.inr ?_) ?_
      · simp only [List.mem_cons, List.not_mem_nil, or_false] at hold
        rcases hold with h | h <;> simp [h]
      · rintro ⟨-, body', ee', e'', hread', -, -, hnew⟩
        cases hread.symm.trans hread'
        exact hnew hold
    · refine iff_of_false (not_atomic (by simp [hphase]) ?_)
        (not_not_intro ⟨hphase, body, ee, e', hread, hprotos, hsel, hold⟩)
      intro heq
      have := congrArg ClientHandshaker.peerTransportParams heq
      simp only [List.mem_cons, List.not_mem_nil, or_false, not_or] at hold
      simp [hold.1, hold.2] at this
  · simp [hsel] at herr

lemma handleServerFinished_atomic
    (hsent : c.clientFinishedSent = true → c.phase = .afterServerFinished)
    (herr : (handleServerFinished c b).1 = .error e) : Atomic c (handleServerFinished c b).2 := by
  unfold handleServerFinished at herr ⊢
  by_cases hphase : c.phase = .afterCertificateVerify
  swap
  · simp [hphase, Atomic]
  rw [if_neg (by simpa using hphase)] at herr ⊢
  rcases hcheck : checkServerFinished c b with e' | body
  · exact .inr rfl
  simp only [hcheck] at herr ⊢
  split at herr
  · exact .of_failed hsent hphase (by decide) rfl rfl
  · cases herr

lemma handleCertificate_atomic (c : ClientHandshaker P)
    (herr : (handleCertificate c b).1 = .error e) :
    Atomic c (handleCertificate c b).2 := by
  revert herr
  fun_cases handleCertificate c b with
  | case1 | case2 => exact fun _ => .inr rfl
  | case3 => simp

lemma handleCertificateVerify_atomic (c : ClientHandshaker P)
    (herr : (handleCertificateVerify c b).1 = .error e) :
    Atomic c (handleCertificateVerify c b).2 := by
  revert herr
  fun_cases handleCertificateVerify c b with
  | case1 | case2 => exact fun _ => .inr rfl
  | case3 => simp

lemma error_of_answer {α : Type} {f : α → ClientAnswer} {r : Except Err α × ClientHandshaker P}
    (h : (answer f r).1 = .error e) : r.1 = .error e := by
  obtain ⟨_ | a, c⟩ := r
  · simpa [answer, Except.map] using h
  · cases h

/-- A failing handler is atomic exactly when it takes none of the three partial exits. -/
theorem client_step_atomic_iff {cfg : ClientConfig P} {keyPair : Except Err P.PrivateKey}
    {c₀ c : ClientHandshaker P} {log : List (ClientCall × Except Err ClientAnswer)}
    (hnew : newClientHandshakerWithConfig cfg keyPair = .ok c₀)
    (hrun : Run ClientCall.step (fun _ _ => True) c₀ log c)
    {call : ClientCall} (hcall : IsHandler call) {e : Err} (herr : (call.step c).1 = .error e) :
    Atomic c (call.step c).2 ↔ ¬ LeavesPartial c call := by
  have hsent := sent_phase_of_run hnew hrun
  cases call with
  | handleServerHello b => exact handleServerHello_atomic_iff hsent (error_of_answer herr)
  | handleHelloRetryRequest b rand =>
    exact handleHelloRetryRequest_atomic_iff (error_of_answer herr)
  | handleEncryptedExtensions b => exact handleEncryptedExtensions_atomic_iff (error_of_answer herr)
  | handleCertificate b =>
    exact iff_of_true (handleCertificate_atomic c (error_of_answer herr)) id
  | handleCertificateVerify b =>
    exact iff_of_true (handleCertificateVerify_atomic c (error_of_answer herr)) id
  | handleServerFinished b =>
    exact iff_of_true (handleServerFinished_atomic hsent (error_of_answer herr)) id
  | _ => exact hcall.elim

def resumingConfig : ClientConfig toyPrims :=
  { sampleClientConfig with resumptionPSK := some [1, 2, 3], resumptionIdentity := [9] }

def resumingClient : ClientHandshaker toyPrims :=
  okValue (newClientHandshakerWithConfig resumingConfig (.ok (5 : UInt8))) (by decide +kernel)

def helloSentClient : ClientHandshaker toyPrims :=
  (ClientCall.step (.clientHello sampleRandom.clientHello) resumingClient).2

lemma helloSentClient_run :
    ∃ log, Run ClientCall.step (fun _ _ => True) resumingClient log helloSentClient := by
  unfold helloSentClient
  exact ⟨_, .call _ .start trivial⟩

def shareless : Bytes :=
  okValue (marshalHandshakeMessage HandshakeType.serverHello (ServerHelloMsg.marshalBody
    ⟨versionTLS12, Random.copy [8], [], tlsSM4GCMSM3,
      [⟨ExtensionType.supportedVersions, [3, 4]⟩, ⟨ExtensionType.preSharedKey, [0, 0]⟩]⟩))
        (by decide +kernel)

/-- Octets that are no message at all leave the client as it was. -/
theorem client_step_atomic_iff_sample :
    (ClientCall.step (.handleServerHello []) helloSentClient).1 =
        .error (.wrap "tls13gm: read ServerHello"
          (.text "tls13gm: truncated handshake header (have 0 bytes)")) ∧
      Atomic helloSentClient (ClientCall.step (.handleServerHello []) helloSentClient).2 := by
  have herr : (ClientCall.step (.handleServerHello []) helloSentClient).1 =
      .error (.wrap "tls13gm: read ServerHello"
        (.text "tls13gm: truncated handshake header (have 0 bytes)")) := by
    decide +kernel
  have hwhole : ¬ LeavesPartial helloSentClient (.handleServerHello []) := by
    rintro ⟨_, _, body, sh, e, hread, _⟩
    cases hread
  obtain ⟨log, hrun⟩ := helloSentClient_run
  have hhandler : IsHandler (.handleServerHello []) := trivial
  exact ⟨herr, (client_step_atomic_iff (eq_okValue _ (by decide +kernel)) hrun hhandler herr).mpr
    hwhole⟩

/-- The error leaves PSK mode on in a handshaker that still waits for a ServerHello. -/
theorem serverHello_error_keeps_pskMode :
    newClientHandshakerWithConfig resumingConfig (.ok (5 : UInt8)) = .ok resumingClient ∧
    (∃ log, Run ClientCall.step (fun _ _ => True) resumingClient log helloSentClient) ∧
    let r := ClientCall.step (.handleServerHello shareless) helloSentClient
    r.1 = .error (.text "tls13gm: ServerHello missing key_share extension") ∧
      helloSentClient.pskMode = false ∧ r.2.pskMode = true ∧ r.2.phase = .afterClientHello ∧
      ¬ Atomic helloSentClient r.2 := by
  have hfacts : (ClientCall.step (.handleServerHello shareless) helloSentClient).1 =
        .error (.text "tls13gm: ServerHello missing key_share extension") ∧
      helloSentClient.pskMode = false ∧
      (ClientCall.step (.handleServerHello shareless) helloSentClient).2.pskMode = true ∧
      (ClientCall.step (.handleServerHello shareless) helloSentClient).2.phase =
        .afterClientHello := by
    decide +kernel
  obtain ⟨herr, hbefore, hafter, hphase⟩ := hfacts
  refine ⟨eq_okValue _ _, helloSentClient_run, herr, hbefore, hafter, hphase, ?_⟩
  refine not_atomic (by rw [hphase]; decide) fun heq => ?_
  rw [heq, hbefore] at hafter
  cases hafter

end Pollux.Tls
