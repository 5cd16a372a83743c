import PolluxGM.EarlyCodecs
import PolluxGM.Flight

/-!
# When a server opens 1-RTT packets

The server has its 1-RTT keys from the ClientHello on. That it reads with them only after the
client's Finished rests on one flag and the phases of the handshaker. A history keeps every message
that was dispatched.
-/
namespace Pollux.ServerGate

open Tls QuicServer
open CryptoSetup (EncryptionLevel Event handleMessages)

variable {P : Prims} {T : Type}

section

variable {σ : Type}

/-- Each message with the state it met and whether it was accepted. -/
def dispatched (handleOne : UInt8 → Bytes → σ → Except Err Unit × σ) :
    Nat → Bytes → σ → List (Bytes × σ × Bool)
  | 0, _, _ => []
  | rounds + 1, data, g =>
    if data = [] then []
    else match readHandshakeMessage data with
      | .error _ => []
      | .ok (msgType, _, n) =>
        match handleOne msgType (data.take n) g with
        | (.error _, _) => [(data.take n, g, false)]
        | (.ok (), g') => (data.take n, g, true) :: dispatched handleOne rounds (data.drop n) g'

/-- What every message keeps with the log, a call keeps with its messages. -/
lemma handleMessages_logged {handleOne : UInt8 → Bytes → σ → Except Err Unit × σ}
    {encLevel : EncryptionLevel} {I : List (Bytes × σ × Bool) → σ → Prop}
    (hone : ∀ log g msgType msg,
      I log g → I (log ++ [(msg, g, (handleOne msgType msg g).1.isOk)]) (handleOne msgType msg g).2)
    (rounds : Nat) (data : Bytes) {log : List (Bytes × σ × Bool)} {g : σ} (h : I log g) :
    I (log ++ dispatched handleOne rounds data g)
      (handleMessages handleOne encLevel rounds data g).2 := by
  induction rounds generalizing data log g with
  | zero =>
    rw [dispatched, List.append_nil]
    exact h
  | succ rounds ih =>
    unfold dispatched handleMessages
    by_cases hdata : data = []
    · rw [if_pos hdata, if_pos hdata, List.append_nil]
      exact h
    rw [if_neg hdata, if_neg hdata]
    rcases readHandshakeMessage data with e | ⟨msgType, _, n⟩
    · rw [List.append_nil]
      exact h
    dsimp only
    have hkept := hone log g msgType (data.take n) h
    generalize handleOne msgType (data.take n) g = r at hkept ⊢
    obtain ⟨e | _, g'⟩ := r
    · exact hkept
    · have hrest := ih (data.drop n) hkept
      rw [List.append_assoc] at hrest
      exact hrest

end

structure Dispatched (P : Prims) where
  encLevel : EncryptionLevel
  msg : Bytes
  before : ServerHandshaker P
  accepted : Bool

structure Input where
  data : Bytes
  encLevel : EncryptionLevel
  answers : Answers

variable (h : List (Dispatched P)) (w : Wire T) (i : Input) (g : ServerSetup P T)

def Input.step : Except Err Unit × ServerSetup P T := handleMessage w g i.data i.encLevel i.answers

def Dispatched.of (encLevel : EncryptionLevel) (x : Bytes × ServerSetup P T × Bool) :
    Dispatched P :=
  ⟨encLevel, x.1, x.2.1.serverHs, x.2.2⟩

def Input.note (_ : Except Err Unit × ServerSetup P T) (h : List (Dispatched P)) :
    List (Dispatched P) :=
  h ++ (dispatched (fun msgType msg g => handleOneServer w g msgType msg i.encLevel i.answers)
    i.data.length i.data g).map (.of i.encLevel)

/-- The flight is out, and the transcript runs through the server Finished. -/
def FlightFrom (body : Bytes) (s : ServerHandshaker P) : Prop :=
  ∃ s₀ rand sigRand f, s₀.transcript = Transcript.empty.addMessage HandshakeType.clientHello body ∧
    FlightSent s₀ rand sigRand f s

/-- The flight answers a dispatched ClientHello. -/
def FlightAnswered (s : ServerHandshaker P) : Prop :=
  ∃ d ∈ h, d.encLevel = .initial ∧ ∃ body m ks, readClientHello d.msg = .ok (body, m, ks) ∧
    FlightFrom body s

/-- A client Finished at the Handshake level whose verify_data is over that transcript. -/
structure FinishedVerified (d : Dispatched P) : Prop where
  level : d.encLevel = .handshake
  accepted : d.accepted = true
  answered : FlightAnswered h d.before
  verified : ∃ body n fin, readHandshakeMessage d.msg = .ok (HandshakeType.finished, body, n) ∧
    FinishedMsg.unmarshalBody body = .ok fin ∧
    expectedVerifyData P d.before.keys.clientHSTraffic (d.before.transcript.sum P) =
      .ok fin.verifyData

def isGate : Event T → Bool
  | .received1RTTReadKeys | .handshakeComplete => true
  | _ => false

structure Gated : Prop where
  events : g.events.filter isGate =
    if g.handshakeDone then [.received1RTTReadKeys, .handshakeComplete] else []
  done : g.handshakeDone = true → g.serverHs.phase = .afterClientFinished ∧ ∃ d ∈ h,
    FinishedVerified h d
  waiting : g.serverHs.phase = .none → g.serverHs.transcript = .empty
  answered : g.serverHs.phase = .afterFlight → FlightAnswered h g.serverHs

lemma FlightAnswered.mono {h h' : List (Dispatched P)} (hle : ∀ d ∈ h, d ∈ h')
    {s : ServerHandshaker P} (hs : FlightAnswered h s) : FlightAnswered h' s := by
  obtain ⟨d, hd, hrest⟩ := hs
  exact ⟨d, hle d hd, hrest⟩

lemma FinishedVerified.mono {h h' : List (Dispatched P)} (hle : ∀ d ∈ h, d ∈ h') {d : Dispatched P}
    (hd : FinishedVerified h d) : FinishedVerified h' d :=
  ⟨hd.level, hd.accepted, hd.answered.mono hle, hd.verified⟩

structure GateKept (g' : ServerSetup P T) : Prop where
  done : g'.handshakeDone = g.handshakeDone
  events : g'.events.filter isGate = g.events.filter isGate

lemma GateKept.refl : GateKept g g := ⟨rfl, rfl⟩

lemma GateKept.trans {g g' g'' : ServerSetup P T} (h : GateKept g g') (h' : GateKept g' g'') :
    GateKept g g'' :=
  ⟨h'.done.trans h.done, h'.events.trans h.events⟩

lemma enqueue_gate {ev : Event T} (hev : isGate ev = false) : GateKept g (g.enqueue ev) := by
  refine ⟨rfl, ?_⟩
  rw [ServerSetup.enqueue, List.filter_append, List.filter_cons_of_neg (by simp [hev])]
  exact List.append_nil _

/-- Past the handshaker, a setup only queues events and stores keys. -/
structure SetupKept (g' : ServerSetup P T) : Prop where
  gate : GateKept g g'
  server : g'.serverHs = g.serverHs

lemma SetupKept.trans {g g' g'' : ServerSetup P T} (h : SetupKept g g') (h' : SetupKept g' g'') :
    SetupKept g g'' :=
  ⟨h.gate.trans h'.gate, h'.server.trans h.server⟩

lemma installHandshakeKeys_kept : SetupKept g (installHandshakeKeys g).2 := by
  have hannounced : SetupKept g (if g.serverHs.keys.secrets.clientEarlyKeys.isSome = true then
      g.enqueue .received0RTTReadKeys else g) := by
    split
    · exact ⟨enqueue_gate g rfl, rfl⟩
    · exact ⟨.refl g, rfl⟩
  fun_cases installHandshakeKeys g with
  | case1 | case2 => exact hannounced
  | case3 =>
    have hstored (g : ServerSetup P T) (sealer opener : Option KeyMaterial) :
        SetupKept g ({ g with handshakeSealer := sealer, handshakeOpener := opener }.enqueue
          .receivedHandshakeReadKeys) :=
      ⟨⟨rfl, (enqueue_gate { g with handshakeSealer := sealer, handshakeOpener := opener }
        rfl).events⟩, rfl⟩
    exact hannounced.trans (hstored _ _ _)

lemma install1RTTKeys_kept : SetupKept g (install1RTTKeys g).2 := by
  fun_cases install1RTTKeys g <;> exact ⟨⟨rfl, rfl⟩, rfl⟩

lemma emitPeerTransportParameters_kept (raw : Bytes) :
    SetupKept g (emitPeerTransportParameters w g raw).2 := by
  fun_cases emitPeerTransportParameters w g raw with
  | case1 | case2 => exact ⟨.refl g, rfl⟩
  | case3 => exact ⟨enqueue_gate g rfl, rfl⟩

lemma admitEarlyData_gate : GateKept g (admitEarlyData w g) := by
  fun_cases admitEarlyData w g <;> exact ⟨rfl, rfl⟩

lemma admitEarlyData_server :
    (admitEarlyData w g).serverHs.phase = g.serverHs.phase ∧
      (admitEarlyData w g).serverHs.transcript = g.serverHs.transcript := by
  fun_cases admitEarlyData w g <;> exact ⟨rfl, rfl⟩

/-- After a ClientHello in order the gate is shut, and the handshaker is at its start, stuck, or
has sent the flight that answers the hello. -/
structure HelloLeaves (msg : Bytes) (g g' : ServerSetup P T) : Prop where
  gate : GateKept g g'
  waiting : g'.serverHs.phase = .none → g'.serverHs.transcript = .empty
  unfinished : g'.serverHs.phase ≠ .afterClientFinished
  answered : g'.serverHs.phase = .afterFlight →
    ∃ body m ks, readClientHello msg = .ok (body, m, ks) ∧ FlightFrom body g'.serverHs

lemma HelloLeaves.kept {msg : Bytes} {g g' g'' : ServerSetup P T} (h : HelloLeaves msg g g')
    (hkept : SetupKept g' g'') : HelloLeaves msg g g'' := by
  refine ⟨h.gate.trans hkept.gate, ?_, ?_, ?_⟩
  all_goals rw [hkept.server]
  · exact h.waiting
  · exact h.unfinished
  · exact h.answered

structure HelloRecorded (body : Bytes) (g g' : ServerSetup P T) : Prop where
  gate : GateKept g g'
  phase : g'.serverHs.phase = .afterClientHello
  transcript : g'.serverHs.transcript = Transcript.empty.addMessage HandshakeType.clientHello body

lemma HelloRecorded.kept {body : Bytes} {g g' g'' : ServerSetup P T} (h : HelloRecorded body g g')
    (hkept : SetupKept g' g'') : HelloRecorded body g g'' := by
  refine ⟨h.gate.trans hkept.gate, ?_, ?_⟩
  all_goals rw [hkept.server]
  · exact h.phase
  · exact h.transcript

lemma stuck_leaves {msg : Bytes} {g g' : ServerSetup P T} (hgate : GateKept g g')
    (hphase : g'.serverHs.phase = .afterClientHello ∨ g'.serverHs.phase = .failed) :
    HelloLeaves msg g g' := by
  refine ⟨hgate, ?_, ?_, ?_⟩
  all_goals
    intro hs
    rcases hphase with hphase | hphase
    · cases hphase.symm.trans hs
    · cases hphase.symm.trans hs

lemma emitServerFlight_leaves {msg body ks : Bytes} {m : ClientHelloMsg} {g g' : ServerSetup P T}
    (hread : readClientHello msg = .ok (body, m, ks)) (h : HelloRecorded body g g') (a : Answers) :
    HelloLeaves msg g (emitServerFlight g' a).2 := by
  refine andThen_state ?_ fun f g₁ _ h₁ => ?_
  · have hleaves := (serverFlight_leaves h.phase a.rand a.sigRand).phase
    rcases hflight : serverFlight g'.serverHs a.rand a.sigRand with ⟨e | f, s⟩
    · refine stuck_leaves ⟨h.gate.done, h.gate.events⟩ ?_
      rw [hflight, h.phase] at hleaves
      rcases hleaves with hsame | hfailed | ⟨hok, -⟩
      · exact .inl hsame
      · exact .inr hfailed
      · cases hok
    · have hafter : s.phase = .afterFlight := (serverFlight_ok_phase hflight).2
      refine ⟨⟨h.gate.done, h.gate.events⟩, ?_, ?_, fun _ => ?_⟩
      · intro hnone
        cases hafter.symm.trans hnone
      · intro hfinished
        cases hafter.symm.trans hfinished
      · exact ⟨body, m, ks, hread, g'.serverHs, a.rand, a.sigRand, f, h.transcript,
          serverFlight_sent hflight⟩
  -- the handshaker is done; what follows only stores keys and queues events
  refine andThen_state (h₁.kept (installHandshakeKeys_kept g₁)) fun _ g₂ _ h₂ => ?_
  refine andThen_state (h₂.kept (install1RTTKeys_kept g₂)) fun _ g₃ _ h₃ => ?_
  exact h₃.kept ⟨(enqueue_gate g₃ rfl).trans (enqueue_gate _ rfl), rfl⟩

lemma handleClientHello_start (s : ServerHandshaker P) (ch : Bytes) (cb : Callbacks)
    (hphase : s.phase = .none) :
    (handleClientHello s ch cb).2.phase = .none ∧
      (handleClientHello s ch cb).2.transcript = s.transcript ∨
      (handleClientHello s ch cb).2.phase = .afterClientHello := by
  fun_cases handleClientHello s ch cb with
  | case5 => exact .inr (resumeFromClientHello_beside _ _ _).phase
  | _ => exact .inl ⟨hphase, rfl⟩

lemma admitEarlyData_recorded {g : ServerSetup P T} {msg : Bytes} {cb : Callbacks}
    {s : ServerHandshaker P} (hempty : g.serverHs.transcript = .empty)
    (hhello : handleClientHello g.serverHs msg cb = (.ok (), s)) :
    ∃ body m ks, readClientHello msg = .ok (body, m, ks) ∧
      HelloRecorded body g (admitEarlyData w { g with serverHs := s }) := by
  obtain ⟨-, body, m, ks, proto, pub, hread, -, -, hresume⟩ := handleClientHello_ok hhello
  have hbeside := resumeFromClientHello_beside (recordClientHello
    { g.serverHs with negotiatedProto := proto.getD g.serverHs.negotiatedProto } body pub
      m.extensions) m cb
  rw [hresume] at hbeside
  have hgate := admitEarlyData_gate w { g with serverHs := s }
  obtain ⟨hphase, htranscript⟩ := admitEarlyData_server w { g with serverHs := s }
  refine ⟨body, m, ks, hread, ⟨hgate.done, hgate.events⟩, hphase.trans hbeside.phase, ?_⟩
  rw [htranscript, ← hempty]
  exact hbeside.transcript

lemma handleHello_leaves (msg : Bytes) (a : Answers) (hphase : g.serverHs.phase = .none)
    (hempty : g.serverHs.transcript = .empty) : HelloLeaves msg g (handleHello w g msg a).2 := by
  refine andThen_state ?_ fun _ g₁ hok _ => ?_
  · rcases handleClientHello_start g.serverHs msg a.callbacks hphase with ⟨hnone, hsame⟩ | hstuck
    · refine ⟨⟨rfl, rfl⟩, fun _ => hsame.trans hempty, ?_, ?_⟩
      all_goals
        intro hs
        cases hnone.symm.trans hs
    · exact stuck_leaves ⟨rfl, rfl⟩ (.inl hstuck)
  · obtain rfl := congrArg Prod.snd hok
    have hhello : handleClientHello g.serverHs msg a.callbacks =
        (.ok (), (handleClientHello g.serverHs msg a.callbacks).2) :=
          eq_of_fst_ok (congrArg (·.1) hok)
    obtain ⟨body, m, ks, hread, hrecorded⟩ := admitEarlyData_recorded w hempty hhello
    have hparams := emitPeerTransportParameters_kept w
      (admitEarlyData w (g.onServer (handleClientHello g.serverHs msg a.callbacks)).2)
      (admitEarlyData w (g.onServer
        (handleClientHello g.serverHs msg a.callbacks)).2).serverHs.peerTransportParams
    refine andThen_state
      (stuck_leaves (hrecorded.kept hparams).gate (.inl (hrecorded.kept hparams).phase))
      fun _ g₂ hok₂ _ => ?_
    rw [hok₂] at hparams
    exact emitServerFlight_leaves hread (hrecorded.kept hparams) a

lemma checkClientFinished_verified {s : ServerHandshaker P} {cf body : Bytes}
    (h : checkClientFinished s cf = .ok body) :
    ∃ n fin, readHandshakeMessage cf = .ok (HandshakeType.finished, body, n) ∧
      FinishedMsg.unmarshalBody body = .ok fin ∧
      expectedVerifyData P s.keys.clientHSTraffic (s.transcript.sum P) = .ok fin.verifyData := by
  simp only [checkClientFinished, bind_ok, reject_ok, wrapErr_eq_ok, pure_inj] at h
  obtain ⟨⟨typ, body', n⟩, hread, _, htype, fin, hfin, expected, hexpected, _, hmatch, rfl⟩ := h
  obtain rfl := Decidable.not_not.mp htype
  obtain rfl := Decidable.not_not.mp hmatch
  exact ⟨n, fin, hread, hfin, hexpected⟩

lemma handleClientFinished_error {s s' : ServerHandshaker P} {cf : Bytes} {e : Err}
    (h : handleClientFinished s cf = (.error e, s')) :
    s' = s ∨ s.phase = .afterFlight ∧ s'.phase = .failed := by
  revert h
  fun_cases handleClientFinished s cf with
  | case1 | case2 => exact fun h => .inl (congrArg Prod.snd h).symm
  | case3 hphase =>
    intro h
    obtain rfl := congrArg Prod.snd h
    exact .inr ⟨Decidable.not_not.mp hphase, rfl⟩
  | case4 => simp

namespace Gated

variable {h : List (Dispatched P)} {g : ServerSetup P T} (hg : Gated h g)
include hg

lemma same (d : Dispatched P) : Gated (h ++ [d]) g where
  events := hg.events
  done hdone := by
    obtain ⟨hphase, d', hd', hverified⟩ := hg.done hdone
    exact ⟨hphase, d', List.mem_append_left _ hd', hverified.mono fun _ => List.mem_append_left _⟩
  waiting := hg.waiting
  answered hflight := (hg.answered hflight).mono fun _ => List.mem_append_left _

lemma shut (hphase : g.serverHs.phase ≠ .afterClientFinished) : g.handshakeDone = false := by
  cases hdone : g.handshakeDone with
  | false => rfl
  | true => exact absurd (hg.done hdone).1 hphase

lemma hello (w : Wire T) (msg : Bytes) (a : Answers) :
    Gated (h ++ [⟨.initial, msg, g.serverHs, (handleHello w g msg a).1.isOk⟩])
      (handleHello w g msg a).2 := by
  by_cases hphase : g.serverHs.phase = .none
  · have hleaves := handleHello_leaves w g msg a hphase (hg.waiting hphase)
    have hshut := hg.shut (by rw [hphase]; nofun)
    refine ⟨?_, ?_, hleaves.waiting, ?_⟩
    · rw [hleaves.gate.done, hleaves.gate.events]
      exact hg.events
    · intro hdone
      rw [hleaves.gate.done, hshut] at hdone
      cases hdone
    · intro hflight
      exact ⟨_, List.mem_append_right _ List.mem_cons_self, rfl, hleaves.answered hflight⟩
  · have hrefused : (handleHello w g msg a).2 = g := by
      unfold handleHello
      rw [handleClientHello_outOfOrder hphase]
      rfl
    rw [hrefused]
    exact hg.same _

lemma finished (msg : Bytes) :
    Gated (h ++ [⟨.handshake, msg, g.serverHs, (handleClientFinished g.serverHs msg).1.isOk⟩])
      (andThen (g.onServer (handleClientFinished g.serverHs msg)) fun _ g =>
        ((.ok () : Except Err Unit), completeServer g)).2 := by
  rcases hfinished : handleClientFinished g.serverHs msg with ⟨e | _, s⟩
  · rcases handleClientFinished_error hfinished with rfl | ⟨hphase, hfailed⟩
    · exact hg.same _
    · have hshut := hg.shut (by rw [hphase]; nofun)
      refine ⟨hg.events, ?_, ?_, ?_⟩
      · intro hdone
        cases hshut.symm.trans hdone
      all_goals
        change s.phase = _ → _
        rw [hfailed]
        nofun
  · obtain ⟨hphase, body, rms, hcheck, -, rfl⟩ := handleClientFinished_ok hfinished
    have hshut := hg.shut (by rw [hphase]; nofun)
    have hevents := hg.events
    rw [hshut] at hevents
    refine ⟨?_, fun _ => ⟨rfl, _, List.mem_append_right _ List.mem_cons_self, ?_⟩, nofun, nofun⟩
    · change ((g.events ++ [_]) ++ [_]).filter isGate = _
      rw [List.filter_append, List.filter_append, hevents]
      rfl
    · obtain ⟨n, fin, hread, hfin, hexpected⟩ := checkClientFinished_verified hcheck
      exact ⟨rfl, rfl, (hg.answered hphase).mono fun _ => List.mem_append_left _, body, n, fin,
        hread, hfin, hexpected⟩

lemma handleOneServer (w : Wire T) (msgType : UInt8) (msg : Bytes) (encLevel : EncryptionLevel)
    (a : Answers) :
    Gated (h ++ [⟨encLevel, msg, g.serverHs,
      (QuicServer.handleOneServer w g msgType msg encLevel a).1.isOk⟩])
      (QuicServer.handleOneServer w g msgType msg encLevel a).2 := by
  fun_cases QuicServer.handleOneServer w g msgType msg encLevel a with
  | case2 => exact hg.hello w msg a
  | case4 =>
    have hfinished := hg.finished msg
    generalize handleClientFinished g.serverHs msg = r at hfinished ⊢
    obtain ⟨_ | _, s⟩ := r
    · exact hfinished
    · exact hfinished
  | _ => exact hg.same _

lemma step (w : Wire T) (i : Input) : Gated (i.note w g (i.step w g) h) (i.step w g).2 := by
  have hstart : Gated (h ++ ([] : List (Bytes × ServerSetup P T × Bool)).map (.of i.encLevel))
    g := by
    rw [List.map_nil, List.append_nil]
    exact hg
  refine handleMessages_logged (I :=
    fun log g => Gated (h ++ log.map (Dispatched.of i.encLevel)) g) ?_ _ _ hstart
  intro log g' msgType msg hg'
  rw [List.map_append, ← List.append_assoc]
  exact hg'.handleOneServer w msgType msg i.encLevel i.answers

end Gated

lemma newGMCryptoSetupServer_gated {w : Wire T} {connID : Bytes} {cfg : ServerConfig P}
    {tp : Option T} {allow0RTT : Bool} {keyPair : Except Err P.PrivateKey} {g : ServerSetup P T}
    (h : newGMCryptoSetupServer w connID cfg tp allow0RTT keyPair = .ok g) : Gated [] g := by
  simp only [newGMCryptoSetupServer, bind_ok, pure_inj] at h
  obtain ⟨hs, hnew, _, -, _, -, rfl⟩ := h
  have hfresh := newServerHandshaker_fresh hnew
  refine ⟨rfl, ?_, fun _ => hfresh.transcript, ?_⟩
  · intro hdone
    cases hdone
  · intro hflight
    cases hfresh.phase.symm.trans hflight

/-- The opener is handed out and the end of the handshake announced, once and in order, only after
a verified client Finished. -/
theorem opener_after_finished (w : Wire T) {connID : Bytes} {cfg : ServerConfig P} {tp : Option T}
    {allow0RTT : Bool} {keyPair : Except Err P.PrivateKey} {g₀ : ServerSetup P T}
    (hnew : newGMCryptoSetupServer w connID cfg tp allow0RTT keyPair = .ok g₀)
    {log : List (Input × Except Err Unit)} {x : ServerSetup P T × List (Dispatched P)}
    (hrun : Run (watched (Input.step w) (Input.note w)) (fun _ _ => True) (g₀, []) log x) :
    (x.1.events.filter isGate = [] ∨ x.1.events.filter isGate =
      [.received1RTTReadKeys, .handshakeComplete]) ∧
      ((∃ aead, x.1.get1RTTOpener = .ok aead) ∨ .received1RTTReadKeys ∈ x.1.events ∨
        .handshakeComplete ∈ x.1.events → ∃ d ∈ x.2, FinishedVerified x.2 d) := by
  have hgated : Gated x.2 x.1 :=
    hrun.stateInvariant (I := fun x => Gated x.2 x.1) (newGMCryptoSetupServer_gated hnew)
      fun x i hx _ => hx.step w i
  cases hdone : x.1.handshakeDone with
  | true =>
    have hevents := hgated.events
    rw [hdone] at hevents
    exact ⟨.inr hevents, fun _ => (hgated.done hdone).2⟩
  | false =>
    have hevents := hgated.events
    rw [hdone] at hevents
    refine ⟨.inl hevents, ?_⟩
    rintro (⟨aead, hopener⟩ | hmem | hmem)
    · rw [ServerSetup.get1RTTOpener, hdone] at hopener
      split at hopener
      · cases hopener
      · cases hopener
    all_goals
      have hgate := List.mem_filter (p := isGate).mpr ⟨hmem, rfl⟩
      rw [hevents] at hgate
      cases hgate

def sampleServerSetup : ServerSetup toyPrims Unit :=
  okValue (newGMCryptoSetupServer sampleWire [1] sampleServerConfig none false (.ok (6 : UInt8)))
    (by decide +kernel)

def sampleInputs : List Input :=
  [⟨sampleRelayed.clientHello, .initial, sampleAnswers⟩,
    ⟨sampleRelayed.clientFinished, .handshake, sampleAnswers⟩]

def sampleServed :
    List (Input × Except Err Unit) × ServerSetup toyPrims Unit × List (Dispatched toyPrims) :=
  exec (watched (Input.step sampleWire) (Input.note sampleWire)) sampleInputs (sampleServerSetup,
    [])

theorem opener_after_finished_sample :
    sampleServed.2.1.get1RTTOpener.isOk = true ∧
      sampleServed.2.1.events.filter isGate = [.received1RTTReadKeys, .handshakeComplete] ∧
      ∃ d ∈ sampleServed.2.2, FinishedVerified sampleServed.2.2 d := by
  have hnew : newGMCryptoSetupServer sampleWire [1] sampleServerConfig none false
      (.ok (6 : UInt8)) = .ok sampleServerSetup := eq_okValue _ (by decide +kernel)
  have hrun : Run (watched (Input.step sampleWire) (Input.note sampleWire)) (fun _ _ => True)
      (sampleServerSetup, []) sampleServed.1 sampleServed.2 := exec_run (allAllowed_true _ _)
  have hmem : Event.handshakeComplete ∈ sampleServed.2.1.events := by decide +kernel
  exact ⟨by decide +kernel, by decide +kernel,
    (opener_after_finished sampleWire hnew hrun).2 (.inr (.inr hmem))⟩

end Pollux.ServerGate
