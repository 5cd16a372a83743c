import PolluxGM.Flight

/-!
# Runs of the server handshaker

A rejected ClientHello leaves a trace at two groups of exits, which come after a write. In runs that
take none of them, a flight answers the one ClientHello that was accepted, as a fresh handshaker
would have.
-/
namespace Pollux.Tls

variable {P : Prims}

inductive ServerCall where
  | handleClientHello (ch : Bytes) (cb : Callbacks)
  | serverFlight (rand : Except Err Random) (sigRand : Bytes)
  | handleClientFinished (cf : Bytes)
  | newSessionTicket (lifetime : UInt32) (appData : Bytes) (teks : List Bytes) (r : TicketRandom)
  | discardEarlyKeys

inductive ServerAnswer where
  | done
  | flight (f : Flight)
  | message (b : Bytes)
  deriving DecidableEq

variable (s : ServerHandshaker P)

def discardEarlyKeys : ServerHandshaker P := { s with keys := s.keys.discardEarly }

def ServerCall.step (call : ServerCall) (s : ServerHandshaker P) :
    Except Err ServerAnswer × ServerHandshaker P :=
  match call with
  | .handleClientHello ch cb =>
    let r := Tls.handleClientHello s ch cb
    (r.1.map fun _ => .done, r.2)
  | .serverFlight rand sigRand =>
    let r := Tls.serverFlight s rand sigRand
    (r.1.map .flight, r.2)
  | .handleClientFinished cf =>
    let r := Tls.handleClientFinished s cf
    (r.1.map fun _ => .done, r.2)
  | .newSessionTicket lifetime appData teks r =>
    ((newSessionTicketWithData s lifetime appData teks r).map .message, s)
  | .discardEarlyKeys => (.ok .done, Tls.discardEarlyKeys s)

/-- The exits of `HandleClientHello` behind a write: a refused key share when the protocol has
been overwritten, and every failure once the hello is recorded. -/
def LeavesHello (ch : Bytes) (cb : Callbacks) : Prop :=
  s.phase = .none ∧ ∃ body m ks proto, readClientHello ch = .ok (body, m, ks) ∧
    negotiateALPN s.config.nextProtos m.extensions = .ok proto ∧
    ((∃ e, clientShare P ks = .error e ∧ proto.getD s.negotiatedProto ≠ s.negotiatedProto) ∨
      ∃ pub e, clientShare P ks = .ok pub ∧
        (resumeFromClientHello
          (recordClientHello { s with negotiatedProto := proto.getD s.negotiatedProto }
          body pub m.extensions) m cb).1 = .error e)

variable {ch : Bytes} {cb : Callbacks}

lemma handleClientHello_clean {s : ServerHandshaker P} (hclean : ¬ LeavesHello s ch cb) {e : Err}
    (h : (handleClientHello s ch cb).1 = .error e) :
    (handleClientHello s ch cb).2 = s := by
  revert h
  fun_cases handleClientHello s ch cb with
  | case1 | case2 | case3 => exact fun _ => rfl
  | case4 hphase body m ks hread proto hproto _ e' hshare =>
    intro _
    by_cases hsame : proto.getD s.negotiatedProto = s.negotiatedProto
    · change { s with negotiatedProto := proto.getD s.negotiatedProto } = s
      rw [hsame]
    · exact absurd ⟨Decidable.not_not.mp hphase, body, m, ks, proto, hread, hproto,
        .inl ⟨e', hshare, hsame⟩⟩ hclean
  | case5 hphase body m ks hread proto hproto _ pub hshare =>
    intro h
    exact absurd ⟨Decidable.not_not.mp hphase, body, m, ks, proto, hread, hproto,
      .inr ⟨pub, e, hshare, h⟩⟩ hclean

lemma handleClientHello_outOfOrder {s : ServerHandshaker P} (hphase : s.phase ≠ .none) (ch : Bytes)
    (cb : Callbacks) :
    handleClientHello s ch cb = (.error (outOfOrder "HandleClientHello" s.phase.number), s) := by
  rw [handleClientHello, if_pos hphase]

/-- Resumption writes beside phase, transcript and protocol. -/
structure BesideHello (s' : ServerHandshaker P) : Prop where
  phase : s'.phase = s.phase
  transcript : s'.transcript = s.transcript
  negotiatedProto : s'.negotiatedProto = s.negotiatedProto

lemma verifyPSKBinder_beside (m : ClientHelloMsg) (pskExt : Bytes) (teks : List Bytes) :
    BesideHello s (verifyPSKBinder s m pskExt teks).2 := by
  fun_cases verifyPSKBinder s m pskExt teks <;> exact ⟨rfl, rfl, rfl⟩

lemma decideEarlyData_beside (exts : List Extension) (accept : Bytes → Nat → Bool) :
    BesideHello s (decideEarlyData s exts accept).2 := by
  fun_cases decideEarlyData s exts accept <;> exact ⟨rfl, rfl, rfl⟩

lemma resumeFromClientHello_beside (m : ClientHelloMsg) (cb : Callbacks) :
    BesideHello s (resumeFromClientHello s m cb).2 := by
  fun_cases resumeFromClientHello s m cb with
  | case1 | case2 => exact ⟨rfl, rfl, rfl⟩
  | case3 pskExt =>
    refine andThen_state (verifyPSKBinder_beside s m pskExt _) fun _ s₁ _ h => ?_
    have h' := decideEarlyData_beside s₁ m.extensions cb.acceptEarlyData
    exact ⟨h'.phase.trans h.phase, h'.transcript.trans h.transcript,
      h'.negotiatedProto.trans h.negotiatedProto⟩

lemma handleClientHello_eq {s : ServerHandshaker P} {body ks : Bytes} {m : ClientHelloMsg}
    {proto : Option Bytes} {pub : P.PublicKey} (cb : Callbacks) (hphase : s.phase = .none)
    (hread : readClientHello ch = .ok (body, m, ks))
    (hproto : negotiateALPN s.config.nextProtos m.extensions = .ok proto)
    (hshare : clientShare P ks = .ok pub) :
    handleClientHello s ch cb = resumeFromClientHello
      (recordClientHello
        { s with negotiatedProto := proto.getD s.negotiatedProto } body pub m.extensions) m cb := by
  simp only [handleClientHello, hphase, ne_eq, not_true_eq_false, if_false, hread, hproto, hshare]

variable {s' : ServerHandshaker P}

lemma handleClientHello_ok {s : ServerHandshaker P} (h : handleClientHello s ch cb = (.ok (), s')) :
    s.phase = .none ∧ ∃ body m ks proto pub, readClientHello ch = .ok (body, m, ks) ∧
      negotiateALPN s.config.nextProtos m.extensions = .ok proto ∧ clientShare P ks = .ok pub ∧
      resumeFromClientHello
        (recordClientHello { s with negotiatedProto := proto.getD s.negotiatedProto }
        body pub m.extensions) m cb = (.ok (), s') := by
  revert h
  fun_cases handleClientHello s ch cb with
  | case5 hphase body m ks hread proto hproto _ pub hshare =>
    exact fun h => ⟨Decidable.not_not.mp hphase, body, m, ks, proto, pub, hread, hproto, hshare, h⟩
  | _ => nofun

variable {exts : List Extension}

lemma negotiateALPN_good {supported : List Bytes} {proto : Bytes}
    (h : negotiateALPN supported exts = .ok (some proto)) :
    GoodName proto := by
  unfold negotiateALPN at h
  dsimp only at h
  split at h
  · cases h
  · simp only [bind_ok, wrapErr_eq_ok] at h
    obtain ⟨offered, hparse, h⟩ := h
    split at h
    · cases h
    · rename_i p hfind
      obtain rfl : p = proto := by simpa using h
      exact (parseALPN_ok hparse).2.2.1 p (List.mem_of_find?_eq_some hfind)

lemma alpnAnswer_good {s : ServerHandshaker P}
    (h : s.negotiatedProto = [] ∨ GoodName s.negotiatedProto) :
    ∃ exts, alpnAnswer s = .ok exts := by
  unfold alpnAnswer
  split
  · exact ⟨_, rfl⟩
  · rename_i hne
    have hgood := h.resolve_left hne
    have hnames : marshalALPNNames [s.negotiatedProto] =
      .ok ([s.negotiatedProto].flatMap encodeName) :=
      marshalALPNNames_ok.mpr ⟨by simpa using hgood, rfl⟩
    simp only [marshalALPNExtension, hnames, ok_bind, pure_ok]
    exact ⟨_, rfl⟩

variable {α β : Type}

/-- A protocol name that cannot be written is the one failure that does not mark the handshaker
failed. -/
structure FlightKept (r : Except Err α × ServerHandshaker P) : Prop where
  early : r.2.keys.secrets.clientEarlyKeys = s.keys.secrets.clientEarlyKeys
  proto : r.2.negotiatedProto = s.negotiatedProto
  phase : r.2.phase = s.phase ∨ r.2.phase = .failed
  ends : (∃ exts, alpnAnswer s = .ok exts) → ∀ e, r.1 = .error e → r.2.phase = .failed

structure FlightLeaves (r : Except Err α × ServerHandshaker P) : Prop where
  early : r.2.keys.secrets.clientEarlyKeys = s.keys.secrets.clientEarlyKeys
  phase : r.2.phase = s.phase ∨ r.2.phase = .failed ∨ r.1.isOk = true ∧ r.2.phase = .afterFlight
  ends : (∃ exts, alpnAnswer s = .ok exts) → ∀ e, r.1 = .error e → r.2.phase = .failed

section

variable {s : ServerHandshaker P} {r : Except Err α × ServerHandshaker P}
  {next : α → ServerHandshaker P → Except Err β × ServerHandshaker P}

lemma FlightKept.fail (s : ServerHandshaker P) (e : Err) : FlightKept s (s.fail (α := α) e) :=
  ⟨rfl, rfl, .inr rfl, fun _ _ _ => rfl⟩

lemma FlightKept.alpn (h : FlightKept s r) : alpnAnswer r.2 = alpnAnswer s := by
  rw [alpnAnswer, alpnAnswer, h.proto]

lemma FlightKept.andThen (h : FlightKept s r) (hnext : ∀ a s₁, FlightKept s₁ (next a s₁)) :
    FlightKept s (Pollux.andThen r next) := by
  have halpn := h.alpn
  obtain ⟨e | a, s₁⟩ := r
  · exact ⟨h.early, h.proto, h.phase, fun hgood _ _ => h.ends hgood e rfl⟩
  · have h' := hnext a s₁
    refine ⟨h'.early.trans h.early, h'.proto.trans h.proto, ?_, halpn ▸ h'.ends⟩
    rcases h'.phase with hsame | hfailed
    · exact h.phase.imp hsame.trans hsame.trans
    · exact .inr hfailed

lemma FlightKept.leaves (h : FlightKept s r) (hnext : ∀ a s₁, FlightLeaves s₁ (next a s₁)) :
    FlightLeaves s (Pollux.andThen r next) := by
  have halpn := h.alpn
  obtain ⟨e | a, s₁⟩ := r
  · exact ⟨h.early, h.phase.imp_right .inl, fun hgood _ _ => h.ends hgood e rfl⟩
  · have h' := hnext a s₁
    refine ⟨h'.early.trans h.early, ?_, halpn ▸ h'.ends⟩
    rcases h'.phase with hsame | hleft
    · exact (h.phase.imp hsame.trans fun hfailed => .inl (hsame.trans hfailed))
    · exact .inr hleft

end

lemma emit_kept (t : UInt8) (x : Except Err Bytes) : FlightKept s (s.emit t x) := by
  fun_cases ServerHandshaker.emit s t x with
  | case1 => exact .fail s _
  | case2 => exact ⟨rfl, rfl, .inl rfl, by simp⟩

lemma emitServerHello_kept (rand : Except Err Random) : FlightKept s (emitServerHello s rand) := by
  fun_cases emitServerHello s rand with
  | case1 => exact .fail s _
  | case2 => exact emit_kept s _ _

lemma deriveServerHandshake_kept : FlightKept s (deriveServerHandshake s) := by
  fun_cases deriveServerHandshake s with
  | case1 => exact .fail s _
  | case2 _ _ _ _ hkeys => exact ⟨deriveHandshake_early hkeys, rfl, .inr rfl, fun _ _ _ => rfl⟩
  | case3 _ _ _ hkeys => exact ⟨deriveHandshake_early hkeys, rfl, .inl rfl, by simp⟩

lemma emitEncryptedExtensions_kept : FlightKept s (emitEncryptedExtensions s) := by
  fun_cases emitEncryptedExtensions s with
  | case1 e halpn =>
    exact ⟨rfl, rfl, .inl rfl, fun hgood => by cases halpn.symm.trans hgood.choose_spec⟩
  | case2 =>
    have hemit := emit_kept
      { s with acceptedEarlyData := s.acceptedEarlyData || s.keys.secrets.clientEarlyKeys.isSome }
    exact ⟨(hemit _ _).early, (hemit _ _).proto, (hemit _ _).phase, (hemit _ _).ends⟩

lemma emitCertificate_kept (sigRand : Bytes) : FlightKept s (emitCertificate s sigRand) := by
  unfold emitCertificate
  split
  · exact ⟨rfl, rfl, .inl rfl, nofun⟩
  refine (emit_kept s _ _).andThen fun _ s₁ => ?_
  split
  · exact .fail s₁ _
  · exact (emit_kept s₁ _ _).andThen fun _ _ => ⟨rfl, rfl, .inl rfl, nofun⟩

lemma emitServerFinished_kept : FlightKept s (emitServerFinished s) := by
  fun_cases emitServerFinished s with
  | case1 => exact .fail s _
  | case2 => exact emit_kept s _ _

lemma serverFlight_leaves {s : ServerHandshaker P} (hphase : s.phase = .afterClientHello)
    (rand : Except Err Random) (sigRand : Bytes) :
    FlightLeaves s (serverFlight s rand sigRand) := by
  unfold serverFlight
  rw [if_neg (not_not_intro hphase)]
  refine (emitServerHello_kept s rand).leaves fun _ s₁ =>
    (deriveServerHandshake_kept s₁).leaves fun _ s₂ =>
    (emitEncryptedExtensions_kept s₂).leaves fun _ s₃ =>
      (emitCertificate_kept s₃ sigRand).leaves fun _ s₄ =>
    (emitServerFinished_kept s₄).leaves fun _ s₅ => ?_
  fun_cases deriveServerApplication s₅ with
  | case1 _ _ hkeys => exact ⟨deriveApplication_early hkeys, .inr (.inl rfl), fun _ _ _ => rfl⟩
  | case2 _ hkeys => exact ⟨deriveApplication_early hkeys, .inr (.inr ⟨rfl, rfl⟩), by simp⟩

lemma serverFlight_ok_phase {s : ServerHandshaker P} {rand : Except Err Random} {sigRand : Bytes}
    {f : Flight} (h : serverFlight s rand sigRand = (.ok f, s')) :
    s.phase = .afterClientHello ∧ s'.phase = .afterFlight := by
  cases serverFlight_sent h with
  | sent hphase => exact ⟨hphase, rfl⟩

/-- No exit that leaves part of a rejected hello behind. -/
def RejectsClean : ServerCall → ServerHandshaker P → Prop
  | .handleClientHello ch cb, s => ¬ LeavesHello s ch cb
  | _, _ => True

/-- What a fresh handshaker becomes by this hello, up to discarded 0-RTT keys. -/
def FromHello (s₀ s : ServerHandshaker P) (ch : Bytes) (cb : Callbacks) : Prop :=
  ∃ s₁, handleClientHello s₀ ch cb = (.ok (), s₁) ∧ (s = s₁ ∨ s = discardEarlyKeys s₁)

def LastHello (log : List (ServerCall × Except Err ServerAnswer)) (ch : Bytes) (cb : Callbacks) :
    Prop :=
  ∃ before after, log = before ++ (.handleClientHello ch cb, .ok .done) :: after ∧
    ∀ ch' cb' r, (.handleClientHello ch' cb', r) ∈ after →
      r = .error (outOfOrder "HandleClientHello" ServerPhase.afterClientHello.number)

lemma LastHello.append {log : List (ServerCall × Except Err ServerAnswer)} (h : LastHello log ch cb)
    (entry : ServerCall × Except Err ServerAnswer)
    (hentry : ∀ ch' cb' r, entry =
      (.handleClientHello ch' cb', r) →
        r = .error (outOfOrder "HandleClientHello" ServerPhase.afterClientHello.number)) :
    LastHello (log ++ [entry]) ch cb := by
  obtain ⟨before, after, rfl, hafter⟩ := h
  refine ⟨before, after ++ [entry], by simp, ?_⟩
  intro ch' cb' r hmem
  rcases List.mem_append.mp hmem with hold | hnew
  · exact hafter ch' cb' r hold
  · exact hentry ch' cb' r (List.mem_singleton.mp hnew).symm

structure HelloHistory (s₀ : ServerHandshaker P) (log : List (ServerCall × Except Err ServerAnswer))
    (s : ServerHandshaker P) : Prop where
  waiting : s.phase = .none → s = s₀
  answering : s.phase = .afterClientHello → ∃ ch cb, LastHello log ch cb ∧ FromHello s₀ s ch cb

structure FreshServer : Prop where
  phase : s.phase = .none
  negotiatedProto : s.negotiatedProto = []
  earlyKeys : s.keys.secrets.clientEarlyKeys = none
  selectedPSK : s.resumptionSelectedPSK = none
  transcript : s.transcript = .empty

variable {cfg : ServerConfig P} {keyPair : Except Err P.PrivateKey}

lemma newServerHandshaker_fresh {s : ServerHandshaker P}
    (h : newServerHandshakerWithConfig cfg keyPair = .ok s) :
    FreshServer s := by
  simp only [newServerHandshakerWithConfig, bind_ok, pure_inj] at h
  obtain ⟨_, _, _, _, _, _, _, _, _, _, _, _, _, _, rfl⟩ := h
  exact ⟨rfl, rfl, rfl, rfl, rfl⟩

lemma newServerHandshaker_config {s : ServerHandshaker P}
    (h : newServerHandshakerWithConfig cfg keyPair = .ok s) :
    s.config = cfg ∧ cfg.certificate = some s.serverCert ∧ cfg.privateKey = some s.serverKey := by
  simp only [newServerHandshakerWithConfig, bind_ok, need_ok, pure_inj] at h
  obtain ⟨_, -, cert, hcert, key, hkey, _, -, _, -, _, -, _, -, rfl⟩ := h
  exact ⟨rfl, hcert, hkey⟩

lemma FreshServer.discard {s : ServerHandshaker P} (h : FreshServer s) :
    discardEarlyKeys s = s := by
  obtain ⟨_, _, _, _, _, _, ⟨_, _, _, _, _, ⟨_, _, _, _, _, _, _, _, _, _, _⟩⟩, _⟩ := s
  obtain rfl := h.earlyKeys
  rfl

lemma FromHello.alpn {s₀ s : ServerHandshaker P} (hfresh : FreshServer s₀)
    (h : FromHello s₀ s ch cb) :
    ∃ exts, alpnAnswer s = .ok exts := by
  obtain ⟨s₁, hhello, hs⟩ := h
  obtain ⟨-, body, m, ks, proto, pub, -, hproto, -, hresume⟩ := handleClientHello_ok hhello
  have hbeside := (resumeFromClientHello_beside (recordClientHello
    { s₀ with negotiatedProto := proto.getD s₀.negotiatedProto } body pub m.extensions) m
      cb).negotiatedProto
  rw [hresume] at hbeside
  have hsame : s.negotiatedProto = s₁.negotiatedProto := by
    rcases hs with rfl | rfl <;> rfl
  refine alpnAnswer_good ?_
  rw [hsame, hbeside]
  cases proto with
  | none => exact .inl hfresh.negotiatedProto
  | some p => exact .inr (negotiateALPN_good hproto)

lemma handleClientFinished_phase (cf : Bytes) :
    (handleClientFinished s cf).2 = s ∨
      (handleClientFinished s cf).2.phase ∈ [ServerPhase.failed, .afterClientFinished] := by
  fun_cases handleClientFinished s cf with
  | case1 | case2 => exact .inl rfl
  | case3 => exact .inr (by simp [ServerHandshaker.fail])
  | case4 => exact .inr (by simp)

namespace HelloHistory

variable {s₀ s : ServerHandshaker P} {log : List (ServerCall × Except Err ServerAnswer)}

lemma same (h : HelloHistory s₀ log s) {call : ServerCall} (r : Except Err ServerAnswer)
    (hcall : ∀ ch cb, call ≠ .handleClientHello ch cb) :
    HelloHistory s₀ (log ++ [(call, r)]) s := by
  refine ⟨h.waiting, fun hphase => ?_⟩
  obtain ⟨ch, cb, hlast, hfrom⟩ := h.answering hphase
  refine ⟨ch, cb, hlast.append _ ?_, hfrom⟩
  intro ch' cb' r' heq
  exact absurd (congrArg Prod.fst heq) (hcall ch' cb')

lemma left {log' : List (ServerCall × Except Err ServerAnswer)}
    (h : s'.phase ∈ [ServerPhase.afterFlight, .failed, .afterClientFinished]) :
    HelloHistory s₀ log' s' := by
  refine ⟨fun hphase => ?_, fun hphase => ?_⟩
  · simp [hphase] at h
  · simp [hphase] at h

lemma hello (h : HelloHistory s₀ log s) (ch : Bytes) (cb : Callbacks)
    (hclean : ¬ LeavesHello s ch cb) :
    HelloHistory s₀ (log ++
      [(.handleClientHello ch cb, (ServerCall.step (.handleClientHello ch cb) s).1)])
      (handleClientHello s ch cb).2 := by
  by_cases hphase : s.phase = .none
  · obtain rfl := h.waiting hphase
    rcases hr : handleClientHello s ch cb with ⟨e | _, s'⟩
    · have hsame := handleClientHello_clean hclean (e := e) (by rw [hr])
      rw [hr] at hsame
      obtain rfl : s' = s := hsame
      exact ⟨fun _ => rfl, fun hphase' => by simp [hphase] at hphase'⟩
    · obtain ⟨-, body, m, ks, proto, pub, -, -, -, hresume⟩ := handleClientHello_ok hr
      have hnext : s'.phase = .afterClientHello := by
        have hbeside := (resumeFromClientHello_beside (recordClientHello
          { s with negotiatedProto := proto.getD s.negotiatedProto } body pub m.extensions) m
            cb).phase
        rw [hresume] at hbeside
        exact hbeside
      refine ⟨fun hphase' => by simp [hnext] at hphase', fun _ => ⟨ch, cb, ?_, s', hr, .inl rfl⟩⟩
      simp only [ServerCall.step, hr, Except.map]
      exact ⟨log, [], rfl, nofun⟩
  · have hr := handleClientHello_outOfOrder hphase ch cb
    simp only [ServerCall.step, hr, Except.map]
    refine ⟨h.waiting, fun hphase' => ?_⟩
    obtain ⟨ch₁, cb₁, hlast, hfrom⟩ := h.answering hphase'
    refine ⟨ch₁, cb₁, hlast.append _ ?_, hfrom⟩
    rintro ch' cb' r heq
    cases heq
    rw [hphase']

lemma step (hfresh : FreshServer s₀) (h : HelloHistory s₀ log s) (call : ServerCall)
    (hallowed : RejectsClean call s) :
    HelloHistory s₀ (log ++ [(call, (call.step s).1)]) (call.step s).2 := by
  cases call with
  | handleClientHello ch cb => exact h.hello ch cb hallowed
  | serverFlight rand sigRand =>
    by_cases hphase : s.phase = .afterClientHello
    · obtain ⟨ch, cb, -, hfrom⟩ := h.answering hphase
      apply left
      rcases hr : serverFlight s rand sigRand with ⟨e | f, s'⟩
      · have hends := (serverFlight_leaves hphase rand sigRand).ends (hfrom.alpn hfresh) e
          (by rw [hr])
        simp [ServerCall.step, hends]
      · simp [ServerCall.step, hr, (serverFlight_ok_phase hr).2]
    · have hr : serverFlight s rand sigRand =
        (.error (outOfOrder "ServerFlight" s.phase.number), s) := by
        rw [serverFlight, if_pos hphase]
      simp only [ServerCall.step, hr]
      exact h.same _ (by simp)
  | handleClientFinished cf =>
    rcases handleClientFinished_phase s cf with hsame | hleft
    · simp only [ServerCall.step, hsame]
      exact h.same _ (by simp)
    · exact left (List.mem_cons_of_mem _ hleft)
  | newSessionTicket lifetime appData teks r => exact h.same _ (by simp)
  | discardEarlyKeys =>
    refine ⟨fun hphase => ?_, fun hphase => ?_⟩
    · obtain rfl := h.waiting hphase
      exact hfresh.discard
    · obtain ⟨ch, cb, hlast, s₁, hhello, hs⟩ := h.answering hphase
      refine ⟨ch, cb, hlast.append _ (by simp), s₁, hhello, .inr ?_⟩
      rcases hs with rfl | rfl <;> rfl

end HelloHistory

/-- In a run whose rejections are clean, a flight that succeeds answers the last hello in order,
which was accepted, and the state it uses is what a fresh handshaker becomes by that hello alone.
-/
theorem rejected_hello_unanswered {cfg : ServerConfig P} {keyPair : Except Err P.PrivateKey}
    {s₀ s : ServerHandshaker P} {log : List (ServerCall × Except Err ServerAnswer)}
    (hnew : newServerHandshakerWithConfig cfg keyPair = .ok s₀)
    (hrun : Run ServerCall.step RejectsClean s₀ log s)
    {rand : Except Err Random} {sigRand : Bytes} {f : Flight} {s' : ServerHandshaker P}
    (hflight : serverFlight s rand sigRand = (.ok f, s')) :
    ∃ ch cb, LastHello log ch cb ∧ FromHello s₀ s ch cb := by
  have hfresh := newServerHandshaker_fresh hnew
  have h : HelloHistory s₀ log s := by
    refine hrun.invariant (I := HelloHistory s₀) ⟨fun _ => rfl, fun hphase => ?_⟩
      fun log s call h hallowed => h.step hfresh call hallowed
    simp [hfresh.phase] at hphase
  exact h.answering (serverFlight_ok_phase hflight).1

lemma not_leaves_of_ok {s : ServerHandshaker P} (h : handleClientHello s ch cb = (.ok (), s')) :
    ¬ LeavesHello s ch cb := by
  obtain ⟨-, body, m, ks, proto, pub, hread, hproto, hshare, hresume⟩ := handleClientHello_ok h
  rintro ⟨-, body', m', ks', proto', hread', hproto', hexit⟩
  cases hread.symm.trans hread'
  cases hproto.symm.trans hproto'
  rcases hexit with ⟨e, hshare', -⟩ | ⟨pub', e, hshare', herror⟩
  · cases hshare.symm.trans hshare'
  · cases hshare.symm.trans hshare'
    rw [hresume] at herror
    cases herror

def sampleHellos : List ServerCall :=
  [.handleClientHello [] sampleCallbacks,
    .handleClientHello sampleRelayed.clientHello sampleCallbacks]

def sampleAnswering : ServerHandshaker toyPrims :=
  (exec ServerCall.step sampleHellos sampleServer).2

lemma sampleHellos_clean : AllAllowed ServerCall.step RejectsClean sampleHellos sampleServer := by
  refine ⟨?_, not_leaves_of_ok (eq_of_fst_ok (by decide +kernel)), trivial⟩
  rintro ⟨-, body, m, ks, proto, hread, -⟩
  cases hread

theorem rejected_hello_unanswered_sample :
    (serverFlight sampleAnswering sampleRandom.serverHello []).1.isOk = true ∧
      ∃ ch cb, LastHello (exec ServerCall.step sampleHellos sampleServer).1 ch cb ∧
        FromHello sampleServer sampleAnswering ch cb := by
  have hok : (serverFlight sampleAnswering sampleRandom.serverHello []).1.toOption.isSome =
    true := by decide +kernel
  refine ⟨by decide +kernel, ?_⟩
  have hnew : newServerHandshakerWithConfig sampleServerConfig (.ok (6 : UInt8)) =
    .ok sampleServer :=
    eq_okValue _ _
  have hrun : Run ServerCall.step RejectsClean sampleServer
    (exec ServerCall.step sampleHellos sampleServer).1
      sampleAnswering := exec_run sampleHellos_clean
  exact rejected_hello_unanswered hnew hrun
    (eq_of_fst_ok (eq_okValue _ hok))

/-- The hello of a resuming client with one bit of its binder changed. -/
def forgedHello : Bytes := sampleResumption.dropLast ++ [1]

/-- The binder is refused, and the flight is sent all the same. -/
theorem forged_hello_is_answered :
    newServerHandshakerWithConfig sampleServerConfig (.ok (6 : UInt8)) = .ok sampleServer ∧
    let r := handleClientHello sampleServer forgedHello resumingCallbacks
    r.1 = .error (.text "tls13gm: PSK binder verification failed") ∧ r.2.phase = .afterClientHello ∧
      (serverFlight r.2 sampleRandom.serverHello []).1.isOk = true :=
  ⟨eq_okValue _ _, by decide +kernel⟩

end Pollux.Tls
