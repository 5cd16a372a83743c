import PolluxGM.ClientSteps
import PolluxGM.Relay

/-!
# Runs of the client handshaker

The calls may come in any order, with any bytes, also after a failed one. The transcript holds an
initial part of one of the message orders of RFC 8446, provided `ClientFinished` is not called again
after it succeeded.
-/
namespace Pollux.ClientRun

open Tls

variable {P : Prims} {given : Handed} {sent : List Bytes}

inductive ClientCall where
  | clientHello (rand : Except Err Random)
  | handleServerHello (b : Bytes)
  | handleHelloRetryRequest (b : Bytes) (rand : Except Err Random)
  | handleEncryptedExtensions (b : Bytes)
  | handleCertificate (b : Bytes)
  | handleCertificateVerify (b : Bytes)
  | handleServerFinished (b : Bytes)
  | handleServerFlight (serverHello encryptedExt certificate certVerify finished : Bytes)
  | clientFinished
  | handleNewSessionTicket (b : Bytes)
  | discardEarlyKeys

inductive ClientAnswer where
  | done
  | message (b : Bytes)
  | ticket (t : SessionTicket)
  deriving DecidableEq

def answer {α : Type} (f : α → ClientAnswer) (r : Except Err α × ClientHandshaker P) :
    Except Err ClientAnswer × ClientHandshaker P := (r.1.map f, r.2)

def ClientCall.step (call : ClientCall) (c : ClientHandshaker P) :
    Except Err ClientAnswer × ClientHandshaker P :=
  match call with
  | .clientHello rand => answer .message (Tls.clientHello c rand)
  | .handleServerHello b => answer (fun _ => .done) (Tls.handleServerHello c b)
  | .handleHelloRetryRequest b rand => answer .message (Tls.handleHelloRetryRequest c b rand)
  | .handleEncryptedExtensions b =>
    answer (fun _ => .done) (Tls.handleEncryptedExtensions c b)
  | .handleCertificate b => answer (fun _ => .done) (Tls.handleCertificate c b)
  | .handleCertificateVerify b => answer (fun _ => .done) (Tls.handleCertificateVerify c b)
  | .handleServerFinished b => answer (fun _ => .done) (Tls.handleServerFinished c b)
  | .handleServerFlight sh ee cert cv fin =>
    answer (fun _ => .done) (Tls.handleServerFlight c sh ee cert cv fin)
  | .clientFinished => answer .message (Tls.clientFinished c)
  | .handleNewSessionTicket b => answer .ticket (Tls.handleNewSessionTicket c b)
  | .discardEarlyKeys => (.ok .done, { c with keys := c.keys.discardEarly })

/-- The starts of a transcript: a ClientHello, or after a retry message_hash, the
HelloRetryRequest and, unless it could not be written, the second ClientHello. -/
def helloOrders : List (List UInt8) :=
  [[HandshakeType.clientHello],
    [HandshakeType.messageHash, HandshakeType.serverHello, HandshakeType.clientHello],
    [HandshakeType.messageHash, HandshakeType.serverHello]]

def flightOrders : List (List UInt8) :=
  [[HandshakeType.serverHello, HandshakeType.encryptedExtensions, HandshakeType.certificate,
      HandshakeType.certificateVerify, HandshakeType.finished],
    [HandshakeType.serverHello, HandshakeType.encryptedExtensions, HandshakeType.finished]]

def completeOrders : List (List UInt8) :=
  helloOrders.flatMap fun h => flightOrders.map fun f => h ++ f ++ [HandshakeType.finished]

def InOrder (types : List UInt8) : Prop := ∃ order ∈ completeOrders, types <+: order

instance (types : List UInt8) : Decidable (InOrder types) :=
  inferInstanceAs (Decidable (∃ order ∈ completeOrders, types <+: order))

def phaseOrders : ClientPhase → List (List UInt8)
  | .none => [[]]
  | .afterClientHello => helloOrders
  | .afterServerHello => helloOrders.map (· ++ [HandshakeType.serverHello])
  | .afterEncryptedExtensions =>
    helloOrders.map (· ++ [HandshakeType.serverHello, HandshakeType.encryptedExtensions])
  | .afterCertificate =>
    helloOrders.map (· ++ [HandshakeType.serverHello, HandshakeType.encryptedExtensions,
      HandshakeType.certificate])
  | .afterCertificateVerify =>
    helloOrders.map (· ++ [HandshakeType.serverHello, HandshakeType.encryptedExtensions]) ++
      helloOrders.map (· ++ [HandshakeType.serverHello, HandshakeType.encryptedExtensions,
        HandshakeType.certificate, HandshakeType.certificateVerify])
  | .afterServerFinished => helloOrders.flatMap fun h => flightOrders.map fun f => h ++ f
  | .failed => completeOrders.flatMap List.inits

/-- Before the client's Finished the transcript is one of the phase's orders; then it is complete.
-/
def Ordered (c : ClientHandshaker P) : Prop :=
  if c.clientFinishedSent then
    c.phase = .afterServerFinished ∧ c.transcript.types ∈ completeOrders
  else c.transcript.types ∈ phaseOrders c.phase

/-- The messages a step may append, with the phase before and after. -/
def transitions : List (ClientPhase × UInt8 × ClientPhase) :=
  [(.none, HandshakeType.clientHello, .afterClientHello),
    (.none, HandshakeType.clientHello, .failed),
    (.afterClientHello, HandshakeType.serverHello, .afterServerHello),
    (.afterClientHello, HandshakeType.serverHello, .failed),
    (.afterServerHello, HandshakeType.encryptedExtensions, .afterEncryptedExtensions),
    (.afterServerHello, HandshakeType.encryptedExtensions, .afterCertificateVerify),
    (.afterEncryptedExtensions, HandshakeType.certificate, .afterCertificate),
    (.afterCertificate, HandshakeType.certificateVerify, .afterCertificateVerify),
    (.afterCertificateVerify, HandshakeType.finished, .afterServerFinished),
    (.afterCertificateVerify, HandshakeType.finished, .failed)]

lemma transitions_ordered : ∀ t ∈ transitions, ∀ ts ∈ phaseOrders t.1,
    ts ++ [t.2.1] ∈ phaseOrders t.2.2 := by decide +kernel

lemma complete_of_flight : ∀ ts ∈ phaseOrders .afterServerFinished,
    ts ++ [HandshakeType.finished] ∈ completeOrders := by decide

lemma inOrder_of_phase (p : ClientPhase) : ∀ ts ∈ phaseOrders p, InOrder ts := by
  cases p <;> decide +kernel

lemma inOrder_of_complete : ∀ ts ∈ completeOrders, InOrder ts :=
  fun ts h => ⟨ts, h, List.prefix_refl ts⟩

variable {c : ClientHandshaker P}

lemma Ordered.inOrder (hc : Ordered c) : InOrder c.transcript.types := by
  unfold Ordered at hc
  split at hc
  · exact inOrder_of_complete _ hc.2
  · exact inOrder_of_phase _ _ hc

lemma Ordered.before (hc : Ordered c) (h : c.phase ≠ .afterServerFinished) :
    c.clientFinishedSent = false ∧ c.transcript.types ∈ phaseOrders c.phase := by
  unfold Ordered at hc
  split at hc
  · exact absurd hc.1 h
  · rename_i hsent
    exact ⟨by simpa using hsent, hc⟩

lemma Ordered.intro (hsent : c.clientFinishedSent = false)
    (h : c.transcript.types ∈ phaseOrders c.phase) : Ordered c := by
  unfold Ordered
  rw [hsent]
  exact h

lemma Ordered.complete (hsent : c.clientFinishedSent = true)
    (hphase : c.phase = .afterServerFinished) (h : c.transcript.types ∈ completeOrders) :
    Ordered c := by
  unfold Ordered
  rw [if_pos hsent]
  exact ⟨hphase, h⟩

variable {c' : ClientHandshaker P}

lemma Ordered.append (hc : Ordered c) (t : UInt8) (q : ClientPhase) (hphase : c.phase = p)
    (ht : (p, t, q) ∈ transitions) (hsent : c'.clientFinishedSent = c.clientFinishedSent)
    (htypes : c'.transcript.types = c.transcript.types ++ [t]) (hphase' : c'.phase = q) :
    Ordered c' := by
  have hp : p ≠ .afterServerFinished := by
    rintro rfl
    simp [transitions] at ht
  obtain ⟨hs, hts⟩ := hc.before (by rwa [hphase])
  refine .intro (hsent.trans hs) ?_
  rw [htypes, hphase']
  exact transitions_ordered _ ht _ (hphase ▸ hts)

variable {hrr : Bytes} {cookie : Option Bytes}

lemma length_of_readHelloRetryRequest (h : readHelloRetryRequest hrr = .ok cookie) :
    4 ≤ hrr.length := by
  simp only [readHelloRetryRequest, bind_ok, wrapErr_eq_ok] at h
  obtain ⟨⟨typ, body, n⟩, hread, -⟩ := h
  obtain ⟨-, -, hb⟩ := readHandshakeMessage_ok hread
  rw [hb]
  simp only [List.length_append, frame_length]
  omega

lemma restart_types (c : ClientHandshaker P) (hello1 : Bytes)
    (h : readHelloRetryRequest hrr = .ok cookie) :
    (restartForHelloRetry c hello1 hrr).transcript.types =
      [HandshakeType.messageHash, HandshakeType.serverHello] := by
  have hlen := length_of_readHelloRetryRequest h
  simp only [restartForHelloRetry, Transcript.resetForHelloRetry]
  rw [if_neg (by omega)]
  rfl

variable {ok : Bool}

lemma effect_ordered (h : Effect given c sent ok c' after) (hc : Ordered c) : Ordered c' := by
  cases h with
  | refused => exact hc
  | helloFailed hphase =>
    obtain ⟨hs, hts⟩ := hc.before (by simp [hphase])
    refine .intro hs ?_
    have hnil : c.transcript.types = [] := by simpa [hphase, phaseOrders] using hts
    show c.transcript.types ∈ phaseOrders .failed
    rw [hnil]
    decide
  | helloKeysFailed hphase full =>
    exact hc.append HandshakeType.clientHello .failed hphase (by decide) rfl
      (Transcript.addMessage_types _ _ _) rfl
  | helloSent hphase _ early =>
    exact hc.append HandshakeType.clientHello .afterClientHello hphase (by decide) rfl
      (Transcript.addMessage_types _ _ _) rfl
  | shareRefused hphase pskMode =>
    obtain ⟨hs, hts⟩ := hc.before (by simp [hphase])
    exact .intro hs hts
  | serverHelloFailed hphase pskMode body keys =>
    exact hc.append HandshakeType.serverHello .failed hphase (by decide) rfl
      (Transcript.addMessage_types _ _ _) rfl
  | serverHelloAccepted hphase _ _ _ _ l =>
    exact hc.append HandshakeType.serverHello .afterServerHello hphase (by decide) rfl
      (Transcript.addMessage_types _ _ _) rfl
  | retryFailed hphase _ _ read =>
    obtain ⟨hs, -⟩ := hc.before (by simp [hphase])
    refine .intro hs ?_
    rw [restart_types c _ read]
    show _ ∈ phaseOrders c.phase
    rw [hphase]
    decide
  | retrySent hphase _ _ read _ =>
    obtain ⟨hs, -⟩ := hc.before (by simp [hphase])
    refine .intro hs ?_
    simp only [sendClientHello2, Transcript.addMessage_types, restart_types c _ read]
    decide
  | extensionsRefused hphase tp =>
    obtain ⟨hs, hts⟩ := hc.before (by simp [hphase])
    exact .intro hs hts
  | extensionsAccepted hphase _ _ tp proto =>
    cases hpsk : c.pskMode with
    | true =>
      exact hc.append HandshakeType.encryptedExtensions .afterCertificateVerify hphase
        (by decide) rfl (Transcript.addMessage_types _ _ _) (by simp [acceptEncryptedExtensions])
    | false =>
      exact hc.append HandshakeType.encryptedExtensions .afterEncryptedExtensions hphase
        (by decide) rfl (Transcript.addMessage_types _ _ _) (by simp [acceptEncryptedExtensions])
  | certificateAccepted hphase _ _ =>
    exact hc.append HandshakeType.certificate .afterCertificate hphase (by decide) rfl
      (Transcript.addMessage_types _ _ _) rfl
  | certificateVerifyAccepted hphase _ _ =>
    exact hc.append HandshakeType.certificateVerify .afterCertificateVerify hphase (by decide) rfl
      (Transcript.addMessage_types _ _ _) rfl
  | finishedFailed hphase body keys =>
    exact hc.append HandshakeType.finished .failed hphase (by decide) rfl
      (Transcript.addMessage_types _ _ _) rfl
  | finishedAccepted hphase _ _ l =>
    exact hc.append HandshakeType.finished .afterServerFinished hphase (by decide) rfl
      (Transcript.addMessage_types _ _ _) rfl
  | ticketSeen _ ok rms => exact hc
  | earlyDiscarded => exact hc

variable {I : ClientHandshaker P → Prop} {call : ClientCall}

/-- The messages of the server that a call hands in, with their steps. -/
def ClientCall.received : ClientCall → List (UInt8 × Bytes)
  | .handleServerHello b => [(HandshakeType.serverHello, b)]
  | .handleHelloRetryRequest b _ => [(HandshakeType.serverHello, b)]
  | .handleEncryptedExtensions b => [(HandshakeType.encryptedExtensions, b)]
  | .handleCertificate b => [(HandshakeType.certificate, b)]
  | .handleCertificateVerify b => [(HandshakeType.certificateVerify, b)]
  | .handleServerFinished b => [(HandshakeType.finished, b)]
  | .handleServerFlight sh ee cert cv fin =>
    [(HandshakeType.serverHello, sh), (HandshakeType.encryptedExtensions, ee),
      (HandshakeType.certificate, cert),
      (HandshakeType.certificateVerify, cv), (HandshakeType.finished, fin)]
  | _ => []

/-- What an effect keeps is kept by every call but `ClientFinished`. -/
lemma ClientCall.step_keeps_given
    (hI : ∀ {c c' : ClientHandshaker P} {ok : Bool} {after : List Bytes},
      Effect given c [] ok c' after → I c → I c')
    (hcall : call ≠ .clientFinished)
    (hretry : ∀ b rand, call = .handleHelloRetryRequest b rand → given.retry b)
    (hgiven : ∀ m ∈ call.received, given.message m.1 m.2) (hc : I c) : I (call.step c).2 := by
  cases call with
  | clientHello rand => exact hI (clientHello_effect c rand) hc
  | handleServerHello b => exact hI (handleServerHello_effect c b (hgiven _ List.mem_cons_self)) hc
  | handleHelloRetryRequest b rand =>
    exact hI (handleHelloRetryRequest_effect c (hretry b rand rfl) rand) hc
  | handleEncryptedExtensions b =>
    exact hI (handleEncryptedExtensions_effect c b (hgiven _ List.mem_cons_self)) hc
  | handleCertificate b => exact hI (handleCertificate_effect c b (hgiven _ List.mem_cons_self)) hc
  | handleCertificateVerify b =>
    exact hI (handleCertificateVerify_effect c b (hgiven _ List.mem_cons_self)) hc
  | handleServerFinished b =>
    exact hI (handleServerFinished_effect c b (hgiven _ List.mem_cons_self)) hc
  | handleServerFlight sh ee cert cv fin =>
    simp only [ClientCall.received, List.forall_mem_cons] at hgiven
    obtain ⟨hsh, hee, hcert, hcv, hfin, -⟩ := hgiven
    show I (Tls.handleServerFlight c sh ee cert cv fin).2
    refine andThen_state (hI (handleServerHello_effect c sh hsh) hc) fun _ c _ hc => ?_
    refine andThen_state (hI (handleEncryptedExtensions_effect c ee hee) hc) fun _ c _ hc => ?_
    split
    · exact hI (handleServerFinished_effect c fin hfin) hc
    · refine andThen_state (hI (handleCertificate_effect c cert hcert) hc) fun _ c _ hc => ?_
      refine andThen_state (hI (handleCertificateVerify_effect c cv hcv) hc) fun _ c _ hc => ?_
      exact hI (handleServerFinished_effect c fin hfin) hc
  | clientFinished => exact absurd rfl hcall
  | handleNewSessionTicket b => exact hI (handleNewSessionTicket_effect c b) hc
  | discardEarlyKeys => exact hI .earlyDiscarded hc

lemma ClientCall.step_keeps
    (hI : ∀ {c c' : ClientHandshaker P} {ok : Bool} {after : List Bytes},
      Effect anyMessage c [] ok c' after → I c → I c')
    (hcall : call ≠ .clientFinished) (hc : I c) : I (call.step c).2 :=
  ClientCall.step_keeps_given hI hcall (fun _ _ _ => trivial) (fun _ _ => trivial) hc

/-- After the Finished no effect touches what tickets are derived from. -/
lemma effect_after_finished (h : Effect given c sent ok c' after)
    (hphase : c.phase = .afterServerFinished) :
    c'.phase = .afterServerFinished ∧ c'.clientFinishedSent = c.clientFinishedSent ∧
      c'.transcript = c.transcript ∧ c'.keys.masterSecret = c.keys.masterSecret := by
  cases h with
  | refused => exact ⟨hphase, rfl, rfl, rfl⟩
  | ticketSeen => exact ⟨hphase, rfl, rfl, rfl⟩
  | earlyDiscarded => exact ⟨hphase, rfl, rfl, rfl⟩
  | _ h => rw [hphase] at h; cases h

/-- The environment does not ask for a Finished it already has. -/
def FinishedOnce : ClientCall → ClientHandshaker P → Prop
  | .clientFinished, c => c.clientFinishedSent = false
  | _, _ => True

def finishedOk : ClientCall × Except Err ClientAnswer → Bool
  | (.clientFinished, .ok _) => true
  | _ => false

def resumptionSecret (c : ClientHandshaker P) : Except Err Bytes :=
  deriveResumptionMasterSecret P c.keys.masterSecret (c.transcript.sum P)

def TicketFrom (P : Prims) (rms b : Bytes) (t : SessionTicket) : Prop :=
  ∃ msg, NewSessionTicketMsg.unmarshalBody b = .ok msg ∧ t.identity = msg.ticket ∧
    t.ageAdd = msg.ticketAgeAdd ∧ deriveResumptionPSK P rms msg.ticketNonce = .ok t.psk

structure History (log : List (ClientCall × Except Err ClientAnswer)) (c : ClientHandshaker P) :
    Prop where
  ordered : Ordered c
  finished : log.countP finishedOk = if c.clientFinishedSent then 1 else 0
  tickets : ∀ b t, (ClientCall.handleNewSessionTicket b, Except.ok (ClientAnswer.ticket t)) ∈ log →
    c.clientFinishedSent = true ∧ ∃ rms, resumptionSecret c = .ok rms ∧ TicketFrom P rms b t

lemma Ordered.phase_of_sent (hc : Ordered c) (hsent : c.clientFinishedSent = true) :
    c.phase = .afterServerFinished ∧ c.transcript.types ∈ completeOrders := by
  unfold Ordered at hc
  rwa [if_pos hsent] at hc

lemma effect_sent (h : Effect given c sent ok c' after) :
    c'.clientFinishedSent = c.clientFinishedSent := by cases h <;> rfl

lemma finishedOk_of_ne (hcall : call ≠ .clientFinished) (r : Except Err ClientAnswer) :
    finishedOk (call, r) = false := by
  cases call <;> first | rfl | exact absurd rfl hcall

lemma resumptionSecret_stable (hcall : call ≠ .clientFinished)
    (hphase : c.phase = .afterServerFinished) :
    resumptionSecret (call.step c).2 = resumptionSecret c := by
  have hkept := ClientCall.step_keeps (c := c)
    (I := fun c' => c'.phase = .afterServerFinished ∧ c'.transcript = c.transcript ∧
      c'.keys.masterSecret = c.keys.masterSecret)
    (fun e hc => by
      obtain ⟨hp, -, ht, hm⟩ := effect_after_finished e hc.1
      exact ⟨hp, ht.trans hc.2.1, hm.trans hc.2.2⟩)
    hcall ⟨hphase, rfl, rfl⟩
  simp only [resumptionSecret, hkept.2.1, hkept.2.2]

lemma ticket_step (h : (ClientCall.step (.handleNewSessionTicket b) c).1 = .ok (.ticket t)) :
    c.clientFinishedSent = true ∧ ∃ rms, resumptionSecret c = .ok rms ∧ TicketFrom P rms b t := by
  simp only [ClientCall.step, answer] at h
  rcases hcall : Tls.handleNewSessionTicket c b with ⟨e | t', c'⟩
  · rw [hcall] at h
    cases h
  · rw [hcall] at h
    obtain rfl : t' = t := by simpa [Except.map] using h
    obtain ⟨hsent, msg, rms, hmsg, hrms, hpsk, hid, hage, -⟩ := handleNewSessionTicket_ok hcall
    exact ⟨hsent, rms, hrms, msg, hmsg, hid, hage, hpsk⟩

variable {log : List (ClientCall × Except Err ClientAnswer)}

lemma History.other (h : History log c) (hcall : call ≠ .clientFinished) :
    History (log ++ [(call, (call.step c).1)]) (call.step c).2 := by
  have hsent : (call.step c).2.clientFinishedSent = c.clientFinishedSent :=
    ClientCall.step_keeps (I := fun c' => c'.clientFinishedSent = c.clientFinishedSent)
      (fun e hc => (effect_sent e).trans hc) hcall rfl
  refine ⟨ClientCall.step_keeps (fun e hc => effect_ordered e hc) hcall h.ordered, ?_, ?_⟩
  · rw [List.countP_append, h.finished, hsent]
    simp [finishedOk_of_ne hcall]
  · intro b t hmem
    have hnow : c.clientFinishedSent = true ∧
        ∃ rms, resumptionSecret c = .ok rms ∧ TicketFrom P rms b t := by
      rcases List.mem_append.mp hmem with hold | hnew
      · exact h.tickets b t hold
      · simp only [List.mem_singleton, Prod.mk.injEq] at hnew
        obtain ⟨rfl, hres⟩ := hnew
        exact ticket_step hres.symm
    obtain ⟨hs, hrms⟩ := hnow
    rw [hsent, resumptionSecret_stable hcall (h.ordered.phase_of_sent hs).1]
    exact ⟨hs, hrms⟩

lemma History.finish (h : History log c) (hfirst : c.clientFinishedSent = false) :
    History (log ++ [(.clientFinished, (ClientCall.step .clientFinished c).1)])
      (ClientCall.step .clientFinished c).2 := by
  have hnone : ∀ b t, (ClientCall.handleNewSessionTicket b, Except.ok (ClientAnswer.ticket t)) ∉
    log := by
    intro b t hmem
    have := (h.tickets b t hmem).1
    rw [hfirst] at this
    cases this
  simp only [ClientCall.step, answer]
  rcases clientFinished_cases c with ⟨e, he⟩ | ⟨hphase, full, -, hok⟩
  · rw [he]
    refine ⟨h.ordered, ?_, ?_⟩
    · rw [List.countP_append, h.finished]
      simp [Except.map, finishedOk]
    · intro b t hmem
      simp only [List.mem_append, hnone b t, false_or, List.mem_singleton, Prod.mk.injEq,
        reduceCtorEq, false_and] at hmem
  · rw [hok]
    have hts : c.transcript.types ∈ phaseOrders .afterServerFinished := by
      have := h.ordered
      unfold Ordered at this
      rw [if_neg (by simp [hfirst]), hphase] at this
      exact this
    refine ⟨?_, ?_, ?_⟩
    · refine .complete rfl hphase ?_
      simp only [sendClientFinished, Transcript.addMessage_types]
      exact complete_of_flight _ hts
    · rw [List.countP_append, h.finished, hfirst]
      simp [Except.map, finishedOk, sendClientFinished]
    · intro b t hmem
      simp only [List.mem_append, hnone b t, false_or, List.mem_singleton, Prod.mk.injEq,
        reduceCtorEq, false_and] at hmem

lemma history_of_run (hnew : newClientHandshakerWithConfig cfg keyPair = .ok c₀)
    (hrun : Run ClientCall.step FinishedOnce c₀ log c) :
    History log c := by
  refine hrun.invariant ?_ ?_
  · have hfresh := newClientHandshaker_fresh hnew
    refine ⟨.intro hfresh.clientFinishedSent ?_, by simp [hfresh.clientFinishedSent], by simp⟩
    rw [hfresh.transcript, hfresh.phase]
    decide
  · intro log c call h hallowed
    by_cases hcall : call = .clientFinished
    · subst hcall
      exact h.finish hallowed
    · exact h.other hcall

/-- In a run that never asks for the Finished again, the transcript is an initial part of one
message order, `ClientFinished` succeeds at most once, and every ticket comes from one resumption
master secret over the complete transcript, which a server that accepted the Finished over the
same transcript holds as well. -/
theorem client_steps_run_once {cfg : ClientConfig P} {keyPair : Except Err P.PrivateKey}
    {c₀ c : ClientHandshaker P} {log : List (ClientCall × Except Err ClientAnswer)}
    (hnew : newClientHandshakerWithConfig cfg keyPair = .ok c₀)
    (hrun : Run ClientCall.step FinishedOnce c₀ log c) :
    InOrder c.transcript.types ∧ log.countP finishedOk ≤ 1 ∧
      ∃ rms, ∀ b t, (ClientCall.handleNewSessionTicket b, Except.ok (ClientAnswer.ticket t)) ∈ log →
        c.transcript.types ∈ completeOrders ∧ resumptionSecret c = .ok rms ∧ TicketFrom P rms b t ∧
        ∀ (s s' : ServerHandshaker P) (cf : Bytes), handleClientFinished s cf = (.ok (), s') →
          s'.transcript.bytes = c.transcript.bytes → s'.keys.masterSecret = c.keys.masterSecret →
          s'.keys.resumptionMasterSecret = rms := by
  have h := history_of_run hnew hrun
  refine ⟨h.ordered.inOrder, ?_, ?_⟩
  · rw [h.finished]
    split <;> omega
  · rcases hsecret : resumptionSecret c with e | rms
    · refine ⟨[], fun b t hmem => ?_⟩
      obtain ⟨-, rms, hrms, -⟩ := h.tickets b t hmem
      simp [hsecret] at hrms
    · refine ⟨rms, fun b t hmem => ?_⟩
      obtain ⟨hsent, rms', hrms, hticket⟩ := h.tickets b t hmem
      obtain rfl : rms = rms' := by simpa [hsecret] using hrms
      refine ⟨(h.ordered.phase_of_sent hsent).2, rfl, hticket, ?_⟩
      intro s s' cf hcf hbytes hmaster
      have hs := handleClientFinished_secret hcf
      rw [hmaster, Transcript.sum, hbytes] at hs
      exact Except.ok.inj (hs.symm.trans hsecret)

def sampleCalls : List ClientCall :=
  let f := sampleRelayed.flight
  [.clientHello sampleRandom.clientHello,
    .handleServerFlight f.serverHello f.encryptedExt f.certificate f.certVerify f.finished,
    .clientFinished, .handleNewSessionTicket (sampleTicket.drop 4)]

theorem client_steps_run_once_sample :
    let r := exec ClientCall.step sampleCalls sampleClient
    (r.1.all fun e => e.2.isOk) = true ∧
    InOrder r.2.transcript.types ∧ r.1.countP finishedOk ≤ 1 ∧
      ∃ rms, ∀ b t, (ClientCall.handleNewSessionTicket b, Except.ok (ClientAnswer.ticket t)) ∈ r.1 →
        r.2.transcript.types ∈ completeOrders ∧ resumptionSecret r.2 = .ok rms ∧
        TicketFrom toyPrims rms b t ∧
        ∀ (s s' : ServerHandshaker toyPrims) (cf : Bytes), handleClientFinished s cf =
          (.ok (), s') →
          s'.transcript.bytes = r.2.transcript.bytes →
            s'.keys.masterSecret = r.2.keys.masterSecret →
          s'.keys.resumptionMasterSecret = rms :=
  ⟨by decide +kernel,
    client_steps_run_once (eq_okValue _ (by decide +kernel))
      (exec_run ⟨trivial, trivial, (by show _ = false; decide +kernel), trivial, trivial⟩)⟩

def loggedPSK : ClientCall × Except Err ClientAnswer → Option Bytes
  | (_, .ok (.ticket t)) => some t.psk
  | _ => none

/-- A second `ClientFinished` succeeds; the transcript then holds three Finished messages, and the
same ticket message gives another PSK. -/
theorem clientFinished_succeeds_twice :
    newClientHandshakerWithConfig sampleClientConfig (.ok (5 : UInt8)) = .ok sampleClient ∧
    let r := exec ClientCall.step
      (sampleCalls ++ [.clientFinished, .handleNewSessionTicket (sampleTicket.drop 4)]) sampleClient
    (r.1.all fun e => e.2.isOk) = true ∧ r.1.countP finishedOk = 2 ∧
      ¬ InOrder r.2.transcript.types ∧ (r.1.filterMap loggedPSK).length = 2 ∧
      (r.1.filterMap loggedPSK).Nodup :=
  ⟨eq_okValue _ _, by decide +kernel⟩

end Pollux.ClientRun
