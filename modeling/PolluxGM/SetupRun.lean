import PolluxGM.Authentication

/-!
# Runs of the client setup

The connection feeds the setup with arbitrary bytes at arbitrary levels until a call fails; the
handshaker inside may be called directly as well. A HelloRetryRequest reported by a direct
`HandleServerHello` is not a failure.
-/
namespace Pollux.SetupRun

open Tls ClientRun CryptoSetup Authentication

variable {P : Prims} {given : Handed} {sent : List Bytes}

variable {T : Type}

def eventData : Event T → Option Bytes
  | .writeInitialData data => some data
  | .writeHandshakeData data => some data
  | _ => none

/-- The handshake messages that have been queued for the connection. -/
def queued (g : ClientSetup P T) : List Bytes := g.events.filterMap eventData

structure Sound (given : Handed) (sent : List Bytes) (g : ClientSetup P T) : Prop where
  progress : Progress given sent g.clientHs
  announced : .handshakeComplete ∈ g.events → Completed g.clientHs

structure Safe (given : Handed) (sent : List Bytes) (g : ClientSetup P T) : Prop where
  authenticated : Completed g.clientHs → Authenticated given sent g.clientHs
  announced : .handshakeComplete ∈ g.events → Completed g.clientHs

/-- What a step from `g` sends it queues, and it keeps the evidence. -/
def Keeps {α : Type} (given : Handed) (sent : List Bytes) (g : ClientSetup P T)
    (r : Except Err α × ClientSetup P T) : Prop :=
  ∃ new, queued r.2 = queued g ++ new ∧ (∀ a, r.1 = .ok a → Sound given (sent ++ new) r.2) ∧
    Safe given (sent ++ new) r.2

variable {g g' : ClientSetup P T}

lemma Sound.safe (h : Sound given sent g) : Safe given sent g :=
  ⟨h.progress.authenticated, h.announced⟩

variable {α : Type}

lemma Sound.sends {new : List Bytes} (h : Sound given (sent ++ new) g')
    (hnew : queued g' = queued g ++ new) (a : α) :
    Keeps given sent g ((.ok a : Except Err α), g') := ⟨new, hnew, fun _ _ => h, h.safe⟩

lemma Sound.ok (h : Sound given sent g') (hsame : queued g' = queued g) (a : α) :
    Keeps given sent g ((.ok a : Except Err α), g') := by
  rw [← List.append_nil sent] at h
  exact h.sends (by rw [hsame, List.append_nil]) a

lemma Safe.error (h : Safe given sent g') (hsame : queued g' = queued g) (e : Err) :
    Keeps given sent g ((.error e : Except Err α), g') :=
  ⟨[], by rw [hsame, List.append_nil], nofun, by rwa [List.append_nil]⟩

variable {β : Type} {r : Except Err α × ClientSetup P T}

lemma keeps_andThen {next : α → ClientSetup P T → Except Err β × ClientSetup P T}
    (hr : Keeps given sent g r)
    (hnext : ∀ a g' sent', r = (.ok a, g') → Sound given sent' g' →
      Keeps given sent' g' (next a g')) : Keeps given sent g (andThen r next) := by
  obtain ⟨new, hnew, hsound, hsafe⟩ := hr
  obtain ⟨_ | a, g'⟩ := r
  · exact ⟨new, hnew, nofun, hsafe⟩
  · obtain ⟨more, hmore, hkept⟩ := hnext a g' _ rfl (hsound a rfl)
    refine ⟨new ++ more, ?_, ?_⟩
    · rw [andThen_ok, hmore, show queued g' = queued g ++ new from hnew, List.append_assoc]
    · rwa [List.append_assoc] at hkept

lemma Sound.of_same (h : Sound given sent g) (hclient : g'.clientHs = g.clientHs)
    (hevents : g'.events = g.events) : Sound given sent g' := by
  refine ⟨hclient ▸ h.progress, fun hmem => ?_⟩
  rw [hclient]
  exact h.announced (hevents ▸ hmem)

variable {ev : Event T}

lemma Sound.enqueue (h : Sound given sent g) (hev : ev ≠ .handshakeComplete) :
    Sound given sent (g.enqueue ev) := by
  refine ⟨h.progress, fun hmem => h.announced ?_⟩
  rcases List.mem_append.mp hmem with hold | hnew
  · exact hold
  · exact absurd (List.mem_singleton.mp hnew).symm hev

@[simp] lemma queued_enqueue (g : ClientSetup P T) (ev : Event T) :
    queued (g.enqueue ev) = queued g ++ (eventData ev).toList := by
  cases hev : eventData ev <;> simp [queued, ClientSetup.enqueue, hev]

lemma Sound.okEnqueue (h : Sound given sent g') (hsame : queued g' = queued g)
    (hev : ev ≠ .handshakeComplete) (hdata : eventData ev = none) :
    Keeps given sent g ((.ok () : Except Err Unit), g'.enqueue ev) :=
  (h.enqueue hev).ok (by simp [hsame, hdata]) ()

/-- A step of the handshaker inside, before what it sends is queued. -/
lemma Sound.effect {after : List Bytes} (h : Sound given sent g)
    {r : Except Err α × ClientHandshaker P} (he : Effect given g.clientHs sent r.1.isOk r.2 after) :
    (∀ a, r.1 = .ok a → Sound given after (g.onClient r).2) ∧
      Safe given after (g.onClient r).2 := by
  have hannounced : .handshakeComplete ∈ g.events → Completed r.2 :=
    fun hmem => effect_completed he (h.announced hmem)
  refine ⟨fun a ha => ⟨?_, hannounced⟩, effect_authenticated he h.progress, hannounced⟩
  have hok : r.1.isOk = true := by
    rw [ha]
    rfl
  exact effect_progress he h.progress (.inl hok)

lemma Sound.onClient (h : Sound given sent g) {r : Except Err α × ClientHandshaker P}
    (he : Effect given g.clientHs sent r.1.isOk r.2 sent) : Keeps given sent g (g.onClient r) := by
  obtain ⟨hsound, hsafe⟩ := h.effect he
  obtain ⟨_ | a, c⟩ := r
  · exact hsafe.error rfl _
  · exact (hsound a rfl).ok rfl a

/-- The message that a step of the handshaker returns is queued next. -/
lemma keeps_sending {r : Except Err Bytes × ClientHandshaker P}
    {next : Bytes → ClientSetup P T → Except Err Unit × ClientSetup P T}
    (hstep : (∀ b, r.1 = .ok b → Sound given (written sent r.1) (g.onClient r).2) ∧
      Safe given (written sent r.1) (g.onClient r).2)
    (hnext : ∀ b, r.1 = .ok b → Sound given (sent ++ [b]) (g.onClient r).2 → ∃ g',
      next b (g.onClient r).2 = (.ok (), g') ∧ queued g' = queued g ++ [b] ∧
        Sound given (sent ++ [b]) g') : Keeps given sent g (andThen (g.onClient r) next) := by
  obtain ⟨_ | b, c⟩ := r
  · exact hstep.2.error rfl _
  · obtain ⟨g', heq, hqueued, hsound⟩ := hnext b rfl (hstep.1 b rfl)
    rw [ClientSetup.onClient, andThen_ok]
    exact heq ▸ hsound.sends hqueued ()

lemma wrapErr_isOk (context : String) (x : Except Err α) : (wrapErr context x).isOk = x.isOk := by
  cases x <;> rfl

lemma wrapErr_written (context : String) (x : Except Err Bytes) :
    written sent (wrapErr context x) = written sent x := by
  cases x <;> rfl

lemma Sound.discardEarlyKeys (h : Sound given sent g) : Sound given sent g.discardEarlyKeys :=
  ⟨effect_progress .earlyDiscarded h.progress (.inl rfl),
    fun hmem => effect_completed
      (show Effect given g.clientHs sent true _ sent from .earlyDiscarded) (h.announced hmem)⟩

lemma Sound.discardEarly (h : Sound given sent g) :
    Sound given sent g.discardEarlyKeys.discard0RTTCodecs := h.discardEarlyKeys.of_same rfl rfl

variable (unmarshal : Bytes → Except Err T)

lemma startHandshake_keeps (h : Sound given sent g) (rand : Except Err Random) :
    Keeps given sent g (startHandshake unmarshal g rand) := by
  unfold startHandshake
  refine keeps_sending (h.effect ?_) fun ch _ hsound => ?_
  · rw [wrapErr_isOk, wrapErr_written]
    exact clientHello_effect g.clientHs rand
  · have hsent := hsound.enqueue (show Event.writeInitialData ch ≠ .handshakeComplete from nofun)
    dsimp only
    split
    · exact ⟨_, rfl, by simp [eventData]; rfl, hsent⟩
    · split
      · exact ⟨_, rfl, by simp [eventData]; rfl, hsent.enqueue nofun⟩
      · exact ⟨_, rfl, queued_enqueue _ _, hsent.discardEarly⟩

lemma installHandshakeKeys_keeps (h : Sound given sent g) :
    Keeps given sent g (installHandshakeKeys g) := by
  fun_cases installHandshakeKeys g with
  | case1 | case2 => exact h.safe.error rfl _
  | case3 => exact Sound.okEnqueue (h.of_same rfl rfl) rfl (by simp) rfl

lemma install1RTTKeys_keeps (h : Sound given sent g) : Keeps given sent g (install1RTTKeys g) := by
  fun_cases install1RTTKeys g with
  | case1 => exact h.safe.error rfl _
  | case2 => exact Sound.okEnqueue (h.of_same rfl rfl) rfl (by simp) rfl

lemma emitPeerTransportParameters_keeps (h : Sound given sent g') (hsame : queued g' = queued g)
    (raw : Bytes) :
    Keeps given sent g (emitPeerTransportParameters unmarshal g' raw) := by
  have hraw : Sound given sent { g' with peerParamsRaw := raw } := ⟨h.progress, h.announced⟩
  fun_cases emitPeerTransportParameters unmarshal g' raw with
  | case1 => exact h.ok hsame _
  | case2 => exact hraw.safe.error hsame _
  | case3 => exact hraw.okEnqueue hsame (by simp) rfl

lemma clientFinished_effect (h : Sound given sent g) :
    ((∀ cf, (clientFinished g.clientHs).1 = .ok cf →
        Sound given (written sent (clientFinished g.clientHs).1)
          (g.onClient (clientFinished g.clientHs)).2) ∧
      Safe given (written sent (clientFinished g.clientHs).1)
        (g.onClient (clientFinished g.clientHs)).2) ∧
    ∀ cf, (clientFinished g.clientHs).1 = .ok cf → Completed (clientFinished g.clientHs).2 := by
  rcases clientFinished_cases g.clientHs with ⟨e, heq⟩ | ⟨hphase, full, hbuild, heq⟩
  · rw [heq]
    exact ⟨⟨nofun, h.safe⟩, nofun⟩
  · rw [heq]
    have hcompleted : Completed (sendClientFinished g.clientHs full) := ⟨hphase, rfl⟩
    have hsound : Sound given (sent ++ [full])
      { g with clientHs := sendClientFinished g.clientHs full } :=
      ⟨sendClientFinished_progress h.progress hphase hbuild, fun _ => hcompleted⟩
    exact ⟨⟨fun _ _ => hsound, hsound.safe⟩, fun _ _ => hcompleted⟩

lemma completeClientFlight_keeps (h : Sound given sent g) :
    Keeps given sent g (completeClientFlight g) := by
  refine keeps_andThen (install1RTTKeys_keeps h) fun _ g₁ _ _ h₁ => ?_
  obtain ⟨hstep, hdone⟩ := clientFinished_effect h₁
  refine keeps_sending hstep fun cf hcf hsound =>
    ⟨_, rfl, ?_, hsound.progress, fun _ => hdone cf hcf⟩
  simp [queued, eventData, ClientSetup.enqueue, ClientSetup.onClient]

variable {b body : Bytes}

lemma readServerHello_not_retry (h : readServerHello b = .ok (body, sh)) :
    ∃ e, readHelloRetryRequest b = .error e := by
  rcases hretry : readHelloRetryRequest b with e | cookie
  · exact ⟨e, rfl⟩
  exfalso
  simp only [readServerHello, readTyped, bind_ok, reject_ok, wrapErr_eq_ok, pure_inj] at h
  obtain ⟨_, ⟨⟨_, _, _⟩, hread, _, _, sh', hsh, rfl⟩, _, _, _, hrandom, _, _, _⟩ := h
  simp only [readHelloRetryRequest, bind_ok, reject_ok, wrapErr_eq_ok] at hretry
  obtain ⟨⟨_, _, _⟩, hread', _, _, msg, hmsg, _, hretryRandom, _⟩ := hretry
  cases hread.symm.trans hread'
  cases hsh.symm.trans hmsg
  exact hretryRandom hrandom

variable {c c' : ClientHandshaker P} {e : Err}

/-- Three ways to refuse a ServerHello: untouched, at the key share, and failed. -/
lemma handleServerHello_error (h : handleServerHello c b = (.error e, c')) :
    c' = c ∨
      (∃ body sh, readServerHello b = .ok (body, sh) ∧ serverShare P c.ephemeral sh = .error e ∧
        c' = { c with pskMode := c.pskMode || selectsPSK sh }) ∨
      c.phase = .afterClientHello ∧ c'.phase = .failed ∧
        c'.clientFinishedSent = c.clientFinishedSent := by
  revert h
  fun_cases handleServerHello c b with
  | case1 | case2 | case3 => exact fun h => .inl (congrArg Prod.snd h).symm
  | case4 _ body sh hread _ _ e' hshare =>
    intro h
    obtain rfl := Except.error.inj (congrArg Prod.fst h)
    exact .inr (.inl ⟨body, sh, hread, hshare, (congrArg Prod.snd h).symm⟩)
  | case5 hphase =>
    fun_cases acceptServerHello with
    | case1 =>
      intro h
      obtain rfl := congrArg Prod.snd h
      exact .inr (.inr ⟨Decidable.not_not.mp hphase, rfl, rfl⟩)
    | case2 => simp

/-- The handshaker is as before, or the bytes are refused as a retry as well. -/
lemma retry_refused (h : handleServerHello c b = (.error e, c')) :
    c' = c ∨ ∀ rand, ∃ e', handleHelloRetryRequest c' b rand = (.error e', c') := by
  rcases handleServerHello_error h with hsame | ⟨_, _, hread, -, -⟩ | ⟨-, hfailed, -⟩
  · exact .inl hsame
  · obtain ⟨e', hretry⟩ := readServerHello_not_retry hread
    refine .inr fun rand => ?_
    fun_cases handleHelloRetryRequest c' b rand with
    | case1 | case2 | case3 => exact ⟨_, rfl⟩
    | case4 _ _ _ _ hcookie | case5 _ _ _ _ hcookie => cases hretry.symm.trans hcookie
  · refine .inr fun rand => ?_
    unfold handleHelloRetryRequest
    rw [if_pos (by simp [hfailed])]
    exact ⟨_, rfl⟩

variable {msg : Bytes}

lemma handleInitial_keeps (h : Sound given sent g) (msgType : UInt8)
    (hgiven : msgType = HandshakeType.serverHello → given.message msgType msg ∧ given.retry msg)
    (rand : Except Err Random) :
    Keeps given sent g (handleInitial g msgType msg rand) := by
  by_cases htype : msgType = HandshakeType.serverHello
  case neg =>
    rw [handleInitial, if_pos htype]
    exact h.safe.error rfl _
  obtain ⟨hmessage, hretried⟩ := hgiven htype
  rw [htype] at hmessage
  have hkeeps := h.effect (handleServerHello_effect g.clientHs msg hmessage)
  fun_cases handleInitial g msgType msg rand with
  | case1 hother => exact absurd htype hother
  | case2 _ c heq =>
    rw [heq] at hkeeps
    exact installHandshakeKeys_keeps (hkeeps.1 () rfl)
  | case3 _ e c heq =>
    rw [heq] at hkeeps
    rcases retry_refused heq with rfl | hrefused
    · refine keeps_sending (h.effect (handleHelloRetryRequest_effect _ hretried rand)) fun ch2 _
        h' => ?_
      split
      · exact ⟨_, rfl, by simp [eventData]; rfl, (h'.enqueue (by simp)).enqueue (by simp)⟩
      · exact ⟨_, rfl, queued_enqueue _ _, h'.enqueue (by simp)⟩
    · obtain ⟨e', hretry⟩ := hrefused rand
      rw [hretry]
      exact hkeeps.2.error rfl e'
  | case4 _ e c heq =>
    rw [heq] at hkeeps
    exact hkeeps.2.error rfl _

lemma handleExtensions_keeps (h : Sound given sent g)
    (hgiven : given.message HandshakeType.encryptedExtensions msg) :
    Keeps given sent g (handleExtensions unmarshal g msg) := by
  refine keeps_andThen (h.onClient (handleEncryptedExtensions_effect g.clientHs msg hgiven)) fun _
    g' _ _ h' => ?_
  dsimp only
  split
  · have hdiscarded := h'.discardEarly.enqueue
      (show Event.discard0RTTKeys ≠ .handshakeComplete from nofun)
    exact emitPeerTransportParameters_keeps unmarshal hdiscarded (by simp [eventData]; rfl) _
  · exact emitPeerTransportParameters_keeps unmarshal h' rfl _

lemma handleTicket_keeps (h : Sound given sent g) (msg : Bytes) :
    Keeps given sent g (handleTicket g msg) := by
  refine keeps_andThen (h.onClient ?_) fun t g' _ _ h' => ?_
  · rw [wrapErr_isOk]
    exact handleNewSessionTicket_effect g.clientHs (msg.drop 4)
  · refine Sound.ok ?_ rfl ()
    exact h'.of_same rfl rfl

lemma handleOneClient_keeps (h : Sound given sent g) (msgType : UInt8)
    (hmessage : given.message msgType msg)
    (hretry : msgType = HandshakeType.serverHello → given.retry msg) (encLevel : EncryptionLevel)
    (rand : Except Err Random) :
    Keeps given sent g (handleOneClient unmarshal g msgType msg encLevel rand) := by
  fun_cases handleOneClient unmarshal g msgType msg encLevel rand with
  | case1 => exact handleInitial_keeps h msgType (fun htype => ⟨hmessage, hretry htype⟩) rand
  | case2 htype => exact handleExtensions_keeps unmarshal h (htype ▸ hmessage)
  | case3 _ htype => exact h.onClient (handleCertificate_effect g.clientHs msg (htype ▸ hmessage))
  | case4 _ _ htype =>
    exact h.onClient (handleCertificateVerify_effect g.clientHs msg (htype ▸ hmessage))
  | case5 _ _ _ htype =>
    exact keeps_andThen (h.onClient (handleServerFinished_effect g.clientHs msg (htype ▸ hmessage)))
      fun _ _ _ _ h' => completeClientFlight_keeps h'
  | case7 => exact handleTicket_keeps h msg
  | case6 | case8 | case9 => exact h.safe.error rfl _

/-- The messages of a stream, by the lengths in their headers. -/
def messagesIn : Nat → Bytes → List (UInt8 × Bytes)
  | rounds + 1, t :: x :: y :: z :: rest =>
    let n := x.toNat * 65536 + y.toNat * 256 + z.toNat
    (t, frame t (rest.take n)) :: messagesIn rounds (rest.drop n)
  | _, _ => []

lemma messagesIn_read (h : readHandshakeMessage data = .ok (t, body, n)) (rounds : Nat) :
    messagesIn (rounds + 1) data = (t, frame t body) :: messagesIn rounds (data.drop n) := by
  unfold readHandshakeMessage at h
  split at h
  · dsimp only at h
    split at h
    · cases h
    · cases h
      rw [messagesIn, Nat.add_comm 4, List.drop_succ_cons, List.drop_succ_cons, List.drop_succ_cons,
        List.drop_succ_cons]
  · cases h

lemma take_message (h : readHandshakeMessage data = .ok (t, body, n)) :
    data.take n = frame t body := by
  obtain ⟨hn, -, hdata⟩ := readHandshakeMessage_ok h
  have hlen : (frame t body).length = n := by rw [frame_length, hn]
  rw [hdata, List.take_left' hlen]

/-- Everything received may be handed in, a ServerHello also as a retry. -/
def Covers (given : Handed) (received : List (UInt8 × Bytes)) : Prop :=
  ∀ m ∈ received, given.message m.1 m.2 ∧ (m.1 = HandshakeType.serverHello → given.retry m.2)

lemma handleMessage_keeps (h : Sound given sent g) (data : Bytes)
    (hcovers : Covers given (messagesIn data.length data)) (encLevel : EncryptionLevel)
    (rand : Except Err Random) :
    Keeps given sent g (handleMessage unmarshal g data encLevel rand) := by
  unfold handleMessage
  revert hcovers
  generalize data.length = rounds
  intro hcovers
  induction rounds generalizing data g sent with
  | zero => exact h.ok rfl _
  | succ rounds ih =>
    unfold handleMessages
    split
    · exact h.ok rfl _
    · split
      · exact h.safe.error rfl _
      · rename_i msgType body n hread
        rw [messagesIn_read hread, Covers, List.forall_mem_cons] at hcovers
        rw [take_message hread]
        exact keeps_andThen
          (handleOneClient_keeps unmarshal h msgType hcovers.1.1 hcovers.1.2 encLevel rand)
          fun _ g' _ _ h' => ih h' (data.drop n) hcovers.2

lemma serverShare_ne_retry (ephemeral : P.PrivateKey) (sh : ServerHelloMsg) :
    serverShare P ephemeral sh ≠ .error .helloRetryRequest := by
  have hwrap : ∀ {α : Type} (context : String) (x : Except Err α),
    wrapErr context x ≠ .error .helloRetryRequest := by
    rintro α context (_ | _) <;> simp [wrapErr]
  intro h
  simp only [serverShare, bind_error, reject_error, hwrap, false_or, and_false, exists_false,
    reduceCtorEq] at h

lemma handleServerHello_retry (hc : Progress given sent c)
    (h : handleServerHello c b = (.error .helloRetryRequest, c')) :
    Progress given sent c' := by
  rcases handleServerHello_error h with rfl | ⟨_, _, -, hshare, -⟩ | ⟨hphase, hfailed, hdone⟩
  · exact hc
  · exact absurd hshare (serverShare_ne_retry _ _)
  · simp only [Progress, hphase] at hc
    simp only [Progress, hfailed, hdone]
    exact hc.2.2.2

lemma handler_progress (hc : Progress given sent c) {r : Except Err Unit × ClientHandshaker P}
    (he : Effect given c sent r.1.isOk r.2 sent)
    (hrefuses : c.phase = .afterClientHello → r.2 = c) : Progress given sent r.2 := by
  by_cases hphase : c.phase = .afterClientHello
  · exact (hrefuses hphase).symm ▸ hc
  · exact effect_progress he hc (.inr hphase)

variable {sh ee cert cv fin : Bytes}

lemma handleServerFlight_progress
    (hgiven : ∀ m ∈ (ClientCall.handleServerFlight sh ee cert cv fin).received,
      given.message m.1 m.2)
    (hsh : Progress given sent (handleServerHello c sh).2) :
    Progress given sent (handleServerFlight c sh ee cert cv fin).2 := by
  simp only [ClientCall.received, List.forall_mem_cons] at hgiven
  obtain ⟨-, hee, hcert, hcv, hfin, -⟩ := hgiven
  have hfinished : ∀ c :
    ClientHandshaker P, Progress given sent c →
      Progress given sent (handleServerFinished c fin).2 :=
    fun c hc => handler_progress hc (handleServerFinished_effect c fin hfin)
      fun hphase => by simp [handleServerFinished, hphase]
  refine andThen_state hsh fun _ c₁ _ h₁ => ?_
  refine andThen_state (handler_progress h₁ (handleEncryptedExtensions_effect c₁ ee hee)
    fun hphase => by simp [handleEncryptedExtensions, hphase]) fun _ c₂ _ h₂ => ?_
  split
  · exact hfinished c₂ h₂
  refine andThen_state (handler_progress h₂ (handleCertificate_effect c₂ cert hcert)
    fun hphase => by simp [handleCertificate, hphase]) fun _ c₃ _ h₃ => ?_
  refine andThen_state (handler_progress h₃ (handleCertificateVerify_effect c₃ cv hcv)
    fun hphase => by simp [handleCertificateVerify, hphase]) fun _ c₄ _ h₄ => ?_
  exact hfinished c₄ h₄

/-- The messages sent when a direct call returns one to its caller. -/
def answered (sent : List Bytes) : Except Err ClientAnswer → List Bytes
  | .ok (.message b) => sent ++ [b]
  | _ => sent

lemma call_effect (call : ClientCall) (c : ClientHandshaker P) (hfinished : call ≠ .clientFinished)
    (hflight : ∀ sh ee cert cv fin, call ≠ .handleServerFlight sh ee cert cv fin)
    (hcovers : Covers given call.received) :
    Effect given c sent (call.step c).1.isOk (call.step c).2 (answered sent (call.step c).1) := by
  have hunit {α : Type} (f : α → ClientAnswer) (hf : ∀ a, answered sent (.ok (f a)) = sent)
      (r : Except Err α × ClientHandshaker P) (h : Effect given c sent r.1.isOk r.2 sent) :
      Effect given c sent (answer f r).1.isOk (answer f r).2 (answered sent (answer f r).1) := by
    rcases r with ⟨_ | a, _⟩
    · exact h
    · exact (hf a).symm ▸ h
  have hmessage (r : Except Err Bytes × ClientHandshaker P)
    (h : Effect given c sent r.1.isOk r.2 (written sent r.1)) :
      Effect given c sent (answer .message r).1.isOk (answer .message r).2
        (answered sent (answer .message r).1) := by
    rcases r with ⟨_ | _, _⟩ <;> exact h
  have hdone := hunit (α := Unit) (fun _ => .done) fun _ => rfl
  cases call with
  | clientHello rand => exact hmessage _ (clientHello_effect c rand)
  | handleServerHello b =>
    exact hdone _ (handleServerHello_effect c b (hcovers _ List.mem_cons_self).1)
  | handleHelloRetryRequest b rand =>
    exact hmessage _ (handleHelloRetryRequest_effect c ((hcovers _ List.mem_cons_self).2 rfl) rand)
  | handleEncryptedExtensions b =>
    exact hdone _ (handleEncryptedExtensions_effect c b (hcovers _ List.mem_cons_self).1)
  | handleCertificate b =>
    exact hdone _ (handleCertificate_effect c b (hcovers _ List.mem_cons_self).1)
  | handleCertificateVerify b =>
    exact hdone _ (handleCertificateVerify_effect c b (hcovers _ List.mem_cons_self).1)
  | handleServerFinished b =>
    exact hdone _ (handleServerFinished_effect c b (hcovers _ List.mem_cons_self).1)
  | handleServerFlight sh ee cert cv fin => exact absurd rfl (hflight sh ee cert cv fin)
  | clientFinished => exact absurd rfl hfinished
  | handleNewSessionTicket b => exact hunit _ (fun _ => rfl) _ (handleNewSessionTicket_effect c b)
  | discardEarlyKeys => exact .earlyDiscarded

inductive SetupCall where
  | startHandshake (rand : Except Err Random)
  | handleMessage (data : Bytes) (encLevel : EncryptionLevel) (rand : Except Err Random)
  | direct (call : ClientCall)

def SetupCall.step (unmarshal : Bytes → Except Err T) (call : SetupCall) (g : ClientSetup P T) :
    Except Err ClientAnswer × ClientSetup P T :=
  match call with
  | .startHandshake rand =>
    let r := CryptoSetup.startHandshake unmarshal g rand
    (r.1.map fun _ => .done, r.2)
  | .handleMessage data encLevel rand =>
    let r := CryptoSetup.handleMessage unmarshal g data encLevel rand
    (r.1.map fun _ => .done, r.2)
  | .direct call => g.onClient (call.step g.clientHs)

def SetupCall.reportsRetry : SetupCall → Bool
  | .direct (.handleServerHello _) => true
  | .direct (.handleServerFlight ..) => true
  | _ => false

/-- The messages of the server that a call hands in. -/
def SetupCall.received : SetupCall → List (UInt8 × Bytes)
  | .startHandshake _ => []
  | .handleMessage data _ _ => messagesIn data.length data
  | .direct call => call.received

/-- The call went well, or reported a HelloRetryRequest. -/
def GoesOn (call : SetupCall) (g : ClientSetup P T) : Prop :=
  (call.step unmarshal g).1.isOk = true ∨
    call.reportsRetry = true ∧ (call.step unmarshal g).1 = .error .helloRetryRequest

/-- What has passed between the client and its peer, oldest first. -/
structure Wire where
  received : List (UInt8 × Bytes)
  sent : List Bytes

/-- The messages sent after a call. -/
def sentAfter (sent : List Bytes) (g : ClientSetup P T)
    (r : Except Err ClientAnswer × ClientSetup P T) : List Bytes :=
  answered sent r.1 ++ (queued r.2).drop (queued g).length

def SetupCall.note (call : SetupCall) (g : ClientSetup P T)
    (r : Except Err ClientAnswer × ClientSetup P T) (w : Wire) :
    Wire := ⟨w.received ++ call.received, sentAfter w.sent g r⟩

/-- A step of the setup with the traffic beside it. -/
def SetupCall.stepOn (call : SetupCall) (x : ClientSetup P T × Wire) :
    Except Err ClientAnswer × (ClientSetup P T × Wire) :=
  watched (SetupCall.step unmarshal) SetupCall.note call x

/-- A call of the setup itself: what it sends, it queues. -/
lemma Keeps.done (h : Keeps given sent g r) :
    ((r.1.map fun _ => ClientAnswer.done).isOk = true →
      Sound given (sentAfter sent g (r.1.map fun _ => .done, r.2)) r.2) ∧
      Safe given (sentAfter sent g (r.1.map fun _ => .done, r.2)) r.2 := by
  obtain ⟨new, hnew, hsound, hsafe⟩ := h
  have hafter : sentAfter sent g (r.1.map fun _ => ClientAnswer.done, r.2) = sent ++ new := by
    rw [sentAfter, hnew, List.drop_left]
    cases r.1 <;> rfl
  rw [hafter]
  refine ⟨fun hok => ?_, hsafe⟩
  obtain ⟨_ | a, _⟩ := r
  · cases hok
  · exact hsound a rfl

/-- A flight keeps the evidence once its ServerHello has gone well or reported a retry, and is
safe in any case. -/
lemma serverFlight_keeps (hc : Progress given sent c)
    (hgiven : ∀ m ∈ (ClientCall.handleServerFlight sh ee cert cv fin).received,
      given.message m.1 m.2) : ((handleServerFlight c sh ee cert cv fin).1.isOk = true ∨
        (handleServerFlight c sh ee cert cv fin).1 = .error .helloRetryRequest →
      Progress given sent (handleServerFlight c sh ee cert cv fin).2) ∧
    (Completed (handleServerFlight c sh ee cert cv fin).2 →
      Authenticated given sent (handleServerFlight c sh ee cert cv fin).2) := by
  have heffect : Effect given c sent _ _ sent :=
    handleServerHello_effect c sh (hgiven _ List.mem_cons_self)
  rcases hsh : handleServerHello c sh with ⟨e | _, c'⟩
  · have hflight : handleServerFlight c sh ee cert cv fin = (.error e, c') := by
      simp only [handleServerFlight, hsh, andThen_error]
    rw [hsh] at heffect
    rw [hflight]
    refine ⟨?_, effect_authenticated heffect hc⟩
    rintro (hok | hretry)
    · cases hok
    · cases hretry
      exact handleServerHello_retry hc hsh
  · rw [hsh] at heffect
    have hprogress := handleServerFlight_progress (c := c) hgiven
      (by rw [hsh]; exact effect_progress heffect hc (.inl rfl))
    exact ⟨fun _ => hprogress, hprogress.authenticated⟩

lemma direct_keeps (h : Sound given sent g) (call : ClientCall)
    (hcovers : Covers given call.received) :
    Safe given (answered sent (call.step g.clientHs).1) (g.onClient (call.step g.clientHs)).2 ∧
      ((call.step g.clientHs).1.isOk = true ∨ (SetupCall.direct call).reportsRetry = true ∧
          (call.step g.clientHs).1 = .error .helloRetryRequest →
        Sound given (answered sent (call.step g.clientHs).1)
          (g.onClient (call.step g.clientHs)).2) := by
  by_cases hfinished : call = .clientFinished
  · subst hfinished
    obtain ⟨⟨hsound, hsafe⟩, -⟩ := clientFinished_effect h
    simp only [ClientCall.step, answer, SetupCall.reportsRetry, Bool.false_eq_true, false_and,
      or_false]
    rcases hr : clientFinished g.clientHs with ⟨_ | cf, c'⟩
    · rw [hr] at hsafe
      refine ⟨hsafe, ?_⟩
      rintro ⟨⟩
    · rw [hr] at hsound hsafe
      exact ⟨hsafe, fun _ => hsound cf rfl⟩
  have hannounced : .handshakeComplete ∈ g.events → Completed (call.step g.clientHs).2 :=
    fun hmem => ClientCall.step_keeps (I := Completed) effect_completed hfinished (h.announced hmem)
  by_cases hflight : ∃ sh ee cert cv fin, call = .handleServerFlight sh ee cert cv fin
  · obtain ⟨sh, ee, cert, cv, fin, rfl⟩ := hflight
    obtain ⟨hprogress, hauth⟩ := serverFlight_keeps h.progress fun m hm => (hcovers m hm).1
    simp only [ClientCall.step, answer] at hannounced ⊢
    rcases hr : handleServerFlight g.clientHs sh ee cert cv fin with ⟨e | _, c'⟩
    · rw [hr] at hprogress hauth hannounced
      refine ⟨⟨hauth, hannounced⟩, ?_⟩
      rintro (hok | ⟨_, hretry⟩)
      · cases hok
      · exact ⟨hprogress (.inr (congrArg Except.error (Except.error.inj hretry))), hannounced⟩
    · rw [hr] at hprogress hauth hannounced
      exact ⟨⟨hauth, hannounced⟩, fun _ => ⟨hprogress (.inl rfl), hannounced⟩⟩
  obtain ⟨hsound, hsafe⟩ := h.effect (call_effect call g.clientHs hfinished
    (fun sh ee cert cv fin heq => hflight ⟨sh, ee, cert, cv, fin, heq⟩) hcovers)
  refine ⟨hsafe, ?_⟩
  rintro (hok | ⟨hreports, hretry⟩)
  · rcases hr : (call.step g.clientHs).1 with _ | a
    · rw [hr] at hok
      cases hok
    · rw [← hr]
      exact hsound a hr
  · cases call with
    | handleServerHello b =>
      refine ⟨?_, hannounced⟩
      rcases hr : handleServerHello g.clientHs b with ⟨e | _, c'⟩
      · simp only [ClientCall.step, answer, hr] at hretry ⊢
        obtain rfl : e = .helloRetryRequest := Except.error.inj hretry
        exact handleServerHello_retry h.progress hr
      · simp only [ClientCall.step, answer, hr] at hretry
        cases hretry
    | handleServerFlight sh ee cert cv fin => exact absurd ⟨sh, ee, cert, cv, fin, rfl⟩ hflight
    | _ => cases hreports

lemma setupCall_keeps (h : Sound given sent g) (call : SetupCall)
    (hcovers : Covers given call.received) :
    Safe given (sentAfter sent g (call.step unmarshal g)) (call.step unmarshal g).2 ∧
      (GoesOn unmarshal call g →
        Sound given (sentAfter sent g (call.step unmarshal g)) (call.step unmarshal g).2) := by
  cases call with
  | startHandshake rand =>
    obtain ⟨hsound, hsafe⟩ := (startHandshake_keeps unmarshal h rand).done
    exact ⟨hsafe, fun hgoes => hsound (hgoes.resolve_right fun hretry => nomatch hretry.1)⟩
  | handleMessage data encLevel rand =>
    obtain ⟨hsound, hsafe⟩ := (handleMessage_keeps unmarshal h data hcovers encLevel rand).done
    exact ⟨hsafe, fun hgoes => hsound (hgoes.resolve_right fun hretry => nomatch hretry.1)⟩
  | direct call =>
    obtain ⟨hsafe, hsound⟩ := direct_keeps h call hcovers
    have hafter : sentAfter sent g (SetupCall.step unmarshal (.direct call) g) =
        answered sent (call.step g.clientHs).1 := by
      rw [sentAfter, show queued (SetupCall.step unmarshal (.direct call) g).2 = queued g from rfl,
        List.drop_length, List.append_nil]
      rfl
    rw [hafter]
    exact ⟨hsafe, hsound⟩

lemma newGMCryptoSetupClient_sound
    (h : newGMCryptoSetupClient T connID cfg tp keyPair = .ok g) : Sound given [] g := by
  simp only [newGMCryptoSetupClient, bind_ok, pure_inj] at h
  obtain ⟨hs, hnew, _, _, _, _, rfl⟩ := h
  have hfresh := newClientHandshaker_fresh hnew
  refine ⟨?_, nofun⟩
  simp [Progress, hfresh.phase, hfresh.transcript, hfresh.pskMode, hfresh.clientFinishedSent,
    Transcript.empty]

def Wire.handed (w : Wire) : Handed :=
  ⟨fun b => (HandshakeType.serverHello, b) ∈ w.received, fun typ b => (typ, b) ∈ w.received⟩

lemma Wire.covers (w : Wire) : Covers w.handed w.received := by
  intro m hm
  refine ⟨hm, fun htype => ?_⟩
  rw [Wire.handed, ← htype]
  exact hm

lemma covers_append {old new : List (UInt8 × Bytes)} :
    Covers given (old ++ new) ↔ Covers given old ∧ Covers given new :=
  List.forall_mem_append

/-- In every run, and after a last call that may fail, the completion event is only there when the
client has checked the server Finished and sent its own, and then the transcript and the checks
are those of an authenticated handshake: every message of the server in it was received in the
run, and its own are those sent. -/
theorem completed_client_authenticated (unmarshal : Bytes → Except Err T) {connID : Bytes}
    {cfg : ClientConfig P} {tp : Option Bytes} {keyPair : Except Err P.PrivateKey}
    {g₀ : ClientSetup P T} (hnew : newGMCryptoSetupClient T connID cfg tp keyPair = .ok g₀)
    {x : ClientSetup P T × Wire} {log : List (SetupCall × Except Err ClientAnswer)}
    (hrun : Run (SetupCall.stepOn unmarshal) (fun call x => GoesOn unmarshal call x.1)
    (g₀, ⟨[], []⟩) log x) (last : SetupCall) :
    ∀ y, y = x ∨ y = (last.stepOn unmarshal x).2 →
      (.handshakeComplete ∈ y.1.events → Completed y.1.clientHs) ∧
        (Completed y.1.clientHs → Authenticated y.2.handed y.2.sent y.1.clientHs) := by
  have hsound : ∀ given, Covers given x.2.received → Sound given x.2.sent x.1 := by
    refine hrun.stateInvariant (I := fun x => ∀ given,
      Covers given x.2.received → Sound given x.2.sent x.1)
        (fun _ _ => newGMCryptoSetupClient_sound hnew) ?_
    intro x call h hgoes given hcovers
    obtain ⟨hold, hcall⟩ := covers_append.mp hcovers
    exact (setupCall_keeps unmarshal (h given hold) call hcall).2 hgoes
  rintro y (rfl | rfl)
  · exact ⟨(hsound _ y.2.covers).announced, (hsound _ y.2.covers).progress.authenticated⟩
  · obtain ⟨hold, hcall⟩ := covers_append.mp (last.stepOn unmarshal x).2.2.covers
    have hsafe := (setupCall_keeps unmarshal (hsound _ hold) last hcall).1
    exact ⟨hsafe.announced, hsafe.authenticated⟩

def sampleUnmarshal : Bytes → Except Err Unit := fun _ => .ok ()

def sampleSetup : ClientSetup toyPrims Unit :=
  okValue (newGMCryptoSetupClient Unit [1] sampleClientConfig none (.ok (5 : UInt8)))
    (by decide +kernel)

def sampleStream : List SetupCall :=
  let f := sampleRelayed.flight
  [.startHandshake sampleRandom.clientHello,
    .handleMessage f.serverHello .initial (.ok (Random.copy [9])),
    .handleMessage (f.encryptedExt ++ f.certificate ++ f.certVerify) .handshake
      (.ok (Random.copy [9]))]

def sampleLast : SetupCall :=
  .handleMessage sampleRelayed.flight.finished .handshake (.ok (Random.copy [9]))

def sampleBefore : ClientSetup toyPrims Unit × Wire :=
  (exec (SetupCall.stepOn sampleUnmarshal) sampleStream (sampleSetup, ⟨[], []⟩)).2

lemma sampleBefore_run :
    Run (SetupCall.stepOn sampleUnmarshal) (fun call x => GoesOn sampleUnmarshal call x.1)
      (sampleSetup, ⟨[], []⟩)
      (exec (SetupCall.stepOn sampleUnmarshal) sampleStream (sampleSetup, ⟨[], []⟩)).1
        sampleBefore :=
  exec_run ⟨.inl (by decide +kernel), .inl (by decide +kernel), .inl (by decide +kernel), trivial⟩

theorem completed_client_authenticated_sample :
    let y := (sampleLast.stepOn sampleUnmarshal sampleBefore).2
    .handshakeComplete ∈ y.1.events ∧
      (y.2.received.map Prod.fst = [2, 8, 11, 15, 20] ∧ y.2.sent.length = 2) ∧
      Authenticated y.2.handed y.2.sent y.1.clientHs := by
  have hmem : .handshakeComplete ∈ (sampleLast.stepOn sampleUnmarshal sampleBefore).2.1.events := by
    decide +kernel
  have hnew : newGMCryptoSetupClient Unit [1] sampleClientConfig none (.ok (5 : UInt8)) =
    .ok sampleSetup :=
    eq_okValue _ _
  have h := completed_client_authenticated sampleUnmarshal hnew sampleBefore_run sampleLast
    (sampleLast.stepOn sampleUnmarshal sampleBefore).2 (.inr rfl)
  exact ⟨hmem, by decide +kernel, h.2 (h.1 hmem)⟩

end Pollux.SetupRun
