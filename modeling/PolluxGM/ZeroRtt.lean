import PolluxGM.Listener
import PolluxGM.HelloExchange

/-!
# Early data is accepted once

The age that the cache compares with its limit is computed from the ClientHello alone, so nothing
but the memory of the digest stands between a replay and its acceptance.
-/
namespace Pollux.ZeroRtt

open Tls QuicListener

variable {P : Prims}

def helloTicket (hello : Bytes) : Option Bytes :=
  match readClientHello hello with
  | .error _ => none
  | .ok (_, m, _) =>
    match readPreSharedKey (findExtension m.extensions ExtensionType.preSharedKey) with
    | .error _ => none
    | .ok (identity, _) => some identity.identity

def openedBy (P : Prims) (key hello : Bytes) : Option TicketData :=
  (helloTicket hello).bind fun ticket =>
    tryTicketKey P ((ticket.drop 1).take 12) (ticket.drop 13) key

/-- The ticket opens under no more than one of the keys. -/
def OpensOnce (P : Prims) (keys : List Bytes) (hello : Bytes) : Prop :=
  ∀ key ∈ keys, ∀ key' ∈ keys, (openedBy P key hello).isSome →
    (openedBy P key' hello).isSome → key = key'

instance (keys : List Bytes) (hello : Bytes) : Decidable (OpensOnce P keys hello) :=
  inferInstanceAs (Decidable (∀ key ∈ keys, ∀ key' ∈ keys, _ → _ → key = key'))

variable {hello : Bytes}

lemma OpensOnce.mono (h : OpensOnce P keys' hello) (hsub : ∀ key ∈ keys, key ∈ keys') :
    OpensOnce P keys hello := by
  intro key hkey key' hkey'
  exact h key (hsub key hkey) key' (hsub key' hkey')

variable {teks : List Bytes}

lemma decrypt_opened (h : decryptSessionTicketWithData P teks ticket = .ok d) :
    ∃ key ∈ teks, tryTicketKey P ((ticket.drop 1).take 12) (ticket.drop 13) key = some d := by
  simp only [decryptSessionTicketWithData, bind_ok, need_ok] at h
  obtain ⟨_, -, _, -, _, -, hfound⟩ := h
  exact List.exists_of_findSome?_eq_some hfound

variable {s s' : ServerHandshaker P} {accept : Bytes → Nat → Bool}

lemma decideEarlyData_asked (h : decideEarlyData s exts accept = (.ok (), s'))
    (hnone : s.keys.secrets.clientEarlyKeys = none)
    (hsome : s'.keys.secrets.clientEarlyKeys.isSome = true) :
    ∃ psk age, earlyDataQuery s = some (psk, age) ∧ accept psk age = true ∧
      decideEarlyData s exts (fun _ _ => false) =
        (.ok (), { s with clientOfferedEarlyData := true }) := by
  unfold decideEarlyData at h ⊢
  split at h
  · cases h
    rw [hnone] at hsome
    cases hsome
  rename_i hoffers
  rw [if_neg hoffers]
  dsimp only at h ⊢
  split at h
  · cases h
    rw [hnone] at hsome
    cases hsome
  rename_i psk age hquery
  split at h
  · cases h
    rw [hnone] at hsome
    cases hsome
  · rename_i haccept
    exact ⟨psk, age, hquery, by simpa using haccept, by simp only [if_true]⟩

variable {m : ClientHelloMsg} {psk : Bytes}

lemma verifyPSKBinder_opened (h : verifyPSKBinder s m pskExt teks = (.ok (), s'))
    (hnone : s.resumptionSelectedPSK = none) (hpsk : s'.resumptionSelectedPSK = some psk) :
    ∃ identity binder d, readPreSharedKey pskExt = .ok (identity, binder) ∧
      decryptSessionTicketWithData P teks identity.identity = .ok d ∧ d.psk = psk := by
  unfold verifyPSKBinder at h
  split at h
  · cases congrArg Prod.fst h
  split at h
  · cases congrArg Prod.fst h
  rename_i identity binder hoffer
  split at h
  · cases h
    rw [hnone] at hpsk
    cases hpsk
  rename_i d hdecrypt
  dsimp only at h
  split at h
  · cases congrArg Prod.fst h
  · cases h
    exact ⟨identity, binder, d, hoffer, hdecrypt, Option.some.inj hpsk⟩

lemma earlyDataQuery_selected (h : earlyDataQuery s = some (psk, age)) :
    s.resumptionSelectedPSK = some psk := by
  unfold earlyDataQuery at h
  split at h
  · cases h
  · rename_i psk' hselected
    split at h
    · cases h
      exact hselected
    · cases h

/-- Resumption with a yes of the acceptor runs as with a no up to the question. -/
lemma resume_asked (hselected : s.resumptionSelectedPSK = none)
    (hearly : s.keys.secrets.clientEarlyKeys = none)
    (h : resumeFromClientHello s m ⟨teks, accept⟩ = (.ok (), s'))
    (hsome : s'.keys.secrets.clientEarlyKeys.isSome = true) :
    ∃ s₁ psk age, resumeFromClientHello s m ⟨teks, fun _ _ => false⟩ =
        (.ok (), { s₁ with clientOfferedEarlyData := true }) ∧ earlyDataQuery s₁ = some (psk, age) ∧
      accept psk age = true ∧ s'.resumptionSelectedPSK = some psk ∧
      ∃ identity binder d,
        readPreSharedKey (findExtension m.extensions ExtensionType.preSharedKey) =
          .ok (identity, binder) ∧
        decryptSessionTicketWithData P teks identity.identity = .ok d ∧ d.psk = psk := by
  unfold resumeFromClientHello at h ⊢
  dsimp only at h ⊢
  split at h
  · cases h
    rw [hearly] at hsome
    cases hsome
  rename_i hoffered
  rw [if_neg hoffered]
  split at h
  · cases h
    rw [hearly] at hsome
    cases hsome
  rename_i hmodes
  rw [if_neg hmodes]
  obtain ⟨_, s₁, hverify, hdecide⟩ := andThen_eq_ok.mp h
  have hearly₁ : s₁.keys.secrets.clientEarlyKeys = none := by
    obtain ⟨appData, age, selected, rfl, -⟩ := Tls.verifyPSKBinder_ok hverify hselected
    exact hearly
  obtain ⟨psk, age, hquery, haccept, hdecline⟩ := decideEarlyData_asked hdecide hearly₁ hsome
  have hselected₁ := earlyDataQuery_selected hquery
  have hkept := Tls.decideEarlyData_selected s₁ m.extensions accept
  rw [hdecide, hselected₁] at hkept
  rw [hverify, andThen_ok, hdecline]
  exact ⟨s₁, psk, age, rfl, hquery, haccept, hkept,
    verifyPSKBinder_opened hverify hselected hselected₁⟩

lemma hello_asked (hs : FreshServer s) (h : handleClientHello s hello ⟨teks, accept⟩ = (.ok (), s'))
    (hsome : s'.keys.secrets.clientEarlyKeys.isSome = true) :
    ∃ psk age, acceptorQuery s hello teks = some (psk, age) ∧ accept psk age = true ∧
      s'.resumptionSelectedPSK = some psk ∧
      ∃ key ∈ teks, ∃ d, openedBy P key hello = some d ∧ d.psk = psk := by
  obtain ⟨hphase, body, m, ks, proto, pub, hread, hproto, hshare, hresume⟩ := handleClientHello_ok h
  have hasked := resume_asked (s :=
    recordClientHello { s with negotiatedProto := proto.getD s.negotiatedProto } body
    pub m.extensions) hs.selectedPSK hs.earlyKeys hresume hsome
  obtain ⟨s₁, psk, age, hdry, hquery, haccept, hselected, identity, binder, d, hoffer, hdecrypt,
    hd⟩ := hasked
  obtain ⟨key, hkey, hopened⟩ := decrypt_opened hdecrypt
  refine ⟨psk, age, ?_, haccept, hselected, key, hkey, d, ?_, hd⟩
  · simp only [acceptorQuery, handleClientHello_eq _ hphase hread hproto hshare, hdry, if_true]
    exact hquery
  · simp only [openedBy, helloTicket, hread, hoffer, Option.bind_some]
    exact hopened

variable {cache : AntiReplayCache} {rand : Except Err Random} {sigRand : Bytes}

lemma serve_accepted {w : Waiting P} (hs : FreshServer w.handshaker)
    (h : accepts0RTT (w.serve cache now rand sigRand) = true) :
    ∃ psk age, acceptorQuery w.handshaker w.hello w.ticketKeys = some (psk, age) ∧
      (earlyDataAcceptor P cache now psk age).1 = true ∧
      (w.serve cache now rand sigRand).2.resumptionSelectedPSK = some psk ∧
      ∃ key ∈ w.ticketKeys, ∃ d, openedBy P key w.hello = some d ∧ d.psk = psk := by
  generalize hserved : w.serve cache now rand sigRand = r at h ⊢
  obtain ⟨_ | f, s'⟩ := r
  · cases h
  have hearly : s'.keys.secrets.clientEarlyKeys.isSome = true := (Bool.and_eq_true_iff.mp h).1
  obtain ⟨_, s₁, hhello, hflight⟩ := andThen_eq_ok.mp hserved
  dsimp only at hflight
  split at hflight
  · cases congrArg Prod.fst hflight
  have hsent := serverFlight_sent hflight
  rw [hsent.earlyKeys] at hearly
  have hkept : admitEarlyData w.connection s₁ = s₁ := by
    unfold admitEarlyData at hearly ⊢
    split at hearly
    · cases hearly
    · rename_i hadmit
      rw [if_neg hadmit]
  rw [hkept] at hearly hsent
  obtain ⟨psk, age, hquery, haccept, hselected, hopened⟩ := hello_asked hs hhello hearly
  exact ⟨psk, age, hquery, haccept, hsent.selectedPSK.trans hselected, hopened⟩

@[simp] lemma cacheAfter_window (w : Waiting P) (cache : AntiReplayCache) (now : Int) :
    (w.cacheAfter cache now).window = cache.window := by
  unfold Waiting.cacheAfter
  split
  · rfl
  · exact AntiReplayCache.check_window _ _ _ _

lemma cacheAfter_keeps {w : Waiting P} (h : cache.expiry digest = some e)
    (hlive : unixNano now < e) : (w.cacheAfter cache now).expiry digest = some e := by
  unfold Waiting.cacheAfter
  split
  · exact h
  · exact AntiReplayCache.check_keeps h hlive

/-- Every acceptance is remembered until its window is over. -/
structure Sound (l : Listener P) : Prop where
  fresh : ∀ w ∈ l.waiting, FreshServer w.handshaker
  keys : ∀ w ∈ l.waiting, ∀ key ∈ w.ticketKeys, key ∈ l.ticketKeys
  recovered : ∀ a ∈ l.accepted, ∃ key ∈ l.ticketKeys, ∃ d, openedBy P key a.hello = some d ∧
    d.psk = a.psk
  remembered : ∀ a ∈ l.accepted, l.clock < a.time + l.cache.window →
    l.cache.expiry (P.sm3 a.psk) = some (a.time + l.cache.window)
  once : (∀ a ∈ l.accepted, OpensOnce P l.ticketKeys a.hello) →
    (l.accepted.map Acceptance.hello).Nodup

lemma listen_sound
    (h : listen cfg fresh now = .ok l) : Sound l := by
  simp only [QuicListener.listen, bind_ok, pure_inj] at h
  obtain ⟨_, -, _, -, _, -, _, -, rotator, -, rfl⟩ := h
  exact ⟨by simp, by simp, by simp, by simp, by simp⟩

lemma Sound.later (h : Sound l) (ht : l.clock ≤ t) : Sound { l with clock := t } where
  fresh := h.fresh
  keys := h.keys
  recovered := h.recovered
  remembered a ha hlive := h.remembered a ha (Int.lt_of_le_of_lt ht hlive)
  once := h.once

lemma Sound.takeKeys (h : Sound l) {now later : Int} (fresh : Except Err Bytes)
    (hnow : l.clock ≤ now) (hlater : now ≤ later) : Sound (l.takeKeys now later fresh).2 where
  fresh := h.fresh
  keys w hw key hkey := List.mem_append_right _ (h.keys w hw key hkey)
  recovered a ha := by
    obtain ⟨key, hkey, hopened⟩ := h.recovered a ha
    exact ⟨key, List.mem_append_right _ hkey, hopened⟩
  remembered a ha hlive := h.remembered a ha (Int.lt_of_le_of_lt (Int.le_trans hnow hlater) hlive)
  once hkeys := h.once fun a ha => (hkeys a ha).mono fun _ hkey => List.mem_append_right _ hkey

lemma Sound.await (h : Sound l) {w : Waiting P} (hfresh : FreshServer w.handshaker)
    (hkeys : ∀ key ∈ w.ticketKeys, key ∈ l.ticketKeys) : Sound (l.await w) where
  fresh w' hw' := by
    rcases List.mem_append.mp hw' with hold | hnew
    · exact h.fresh w' hold
    · rw [List.mem_singleton.mp hnew]
      exact hfresh
  keys w' hw' := by
    rcases List.mem_append.mp hw' with hold | hnew
    · exact h.keys w' hold
    · rw [List.mem_singleton.mp hnew]
      exact hkeys
  recovered := h.recovered
  remembered := h.remembered
  once := h.once

section

variable {l : Listener P} (h : Sound l) {i : Nat} {w : Waiting P} (hw : l.waiting[i]? = some w)
  {now : Int} (hnow : l.clock ≤ now) (hrep : Representable now l.cache.window)
include h

omit h in
lemma window_nonneg (cache : AntiReplayCache) : 0 ≤ cache.window := by
  cases cache with
  | rejecting => exact Int.le_refl 0
  | memory c => exact Int.le_of_lt c.window_pos

omit h in
include hrep in
lemma nano_now : unixNano now = now := by
  have hwindow := window_nonneg l.cache
  exact unixNano_eq hrep.1 (by have := hrep.2; omega)

omit h in
include hrep in
lemma nano_expiry : unixNano (now + l.cache.window) = now + l.cache.window := by
  have hwindow := window_nonneg l.cache
  exact unixNano_eq (by have := hrep.1; omega) hrep.2

include hnow hrep in
lemma still_remembered (ha : a ∈ l.accepted) (hlive : now < a.time + l.cache.window) :
    (w.cacheAfter l.cache now).expiry (P.sm3 a.psk) = some (a.time + l.cache.window) := by
  apply cacheAfter_keeps
  · exact h.remembered a ha (Int.lt_of_le_of_lt hnow hlive)
  · rw [nano_now hrep]
    exact hlive

include hw hnow hrep in
/-- A hello that is accepted now was not accepted before. -/
lemma accepted_new
    (htimely : ∀ a ∈ l.accepted, a.hello = w.hello → now < a.time + l.cache.window ∨
      ∀ key ∈ w.ticketKeys, openedBy P key w.hello = none)
    (haccepts : accepts0RTT (w.serve l.cache now rand sigRand) = true)
    (hkeys : ∀ a ∈ l.accepted, OpensOnce P l.ticketKeys a.hello) :
    w.hello ∉ l.accepted.map Acceptance.hello := by
  intro hmem
  obtain ⟨a, ha, hsame⟩ := List.mem_map.mp hmem
  have hwaits := List.mem_of_getElem? hw
  obtain ⟨psk, age, -, haccept, -, key, hkey, d, hopened, hd⟩ :=
    serve_accepted (h.fresh w hwaits) haccepts
  obtain ⟨key', hkey', d', hopened', hd'⟩ := h.recovered a ha
  rw [hsame] at hopened'
  -- both acceptances used the one key that opens the ticket, hence the same PSK
  have hone := hkeys a ha
  rw [hsame] at hone
  have hkeyEq : key = key' :=
    hone key (h.keys w hwaits key hkey) key' hkey' (by rw [hopened]; rfl) (by rw [hopened']; rfl)
  subst hkeyEq
  obtain rfl := Option.some.inj (hopened.symm.trans hopened')
  rcases htimely a ha hsame with hlive | hgone
  · have hexpiry := h.remembered a ha (Int.lt_of_le_of_lt hnow hlive)
    rw [← hd', hd] at hexpiry
    have hdead := (AntiReplayCache.check_admits haccept).1 _ hexpiry
    rw [nano_now hrep] at hdead
    omega
  · rw [hgone key hkey] at hopened
    cases hopened

include hw hnow hrep in
lemma Sound.answered (rand : Except Err Random) (sigRand : Bytes)
    (htimely : ∀ a ∈ l.accepted, a.hello = w.hello →
      now < a.time + l.cache.window ∨ ∀ key ∈ w.ticketKeys, openedBy P key w.hello = none) :
    Sound (l.answered i w now (w.serve l.cache now rand sigRand)) := by
  have hwaits := List.mem_of_getElem? hw
  cases haccepts : accepts0RTT (w.serve l.cache now rand sigRand) with
  | false =>
    simp only [Listener.answered, haccepts, Bool.false_eq_true, if_false]
    constructor
    · exact fun w' hw' => h.fresh w' (List.mem_of_mem_eraseIdx hw')
    · exact fun w' hw' => h.keys w' (List.mem_of_mem_eraseIdx hw')
    · exact h.recovered
    · intro a ha hlive
      rw [cacheAfter_window] at hlive ⊢
      exact still_remembered h hnow hrep ha hlive
    · exact h.once
  | true =>
    obtain ⟨psk, age, hquery, haccept, hselected, key, hkey, d, hopened, hd⟩ :=
      serve_accepted (h.fresh w hwaits) haccepts
    simp only [Listener.answered, haccepts, if_true, hselected, Option.getD_some]
    constructor
    · exact fun w' hw' => h.fresh w' (List.mem_of_mem_eraseIdx hw')
    · exact fun w' hw' => h.keys w' (List.mem_of_mem_eraseIdx hw')
    · intro a ha
      rcases List.mem_cons.mp ha with rfl | hold
      · exact ⟨key, h.keys w hwaits key hkey, d, hopened, hd⟩
      · exact h.recovered a hold
    · intro a ha hlive
      rw [cacheAfter_window] at hlive ⊢
      rcases List.mem_cons.mp ha with rfl | hold
      · have hrecorded := (AntiReplayCache.check_admits haccept).2
        rw [nano_expiry hrep] at hrecorded
        simp only [Waiting.cacheAfter, hquery]
        exact hrecorded
      · exact still_remembered h hnow hrep hold hlive
    · intro hkeys
      have hold : ∀ a ∈ l.accepted, OpensOnce P l.ticketKeys a.hello :=
        fun a ha => hkeys a (List.mem_cons_of_mem _ ha)
      exact List.nodup_cons.mpr ⟨accepted_new h hw hnow hrep htimely haccepts hold, h.once hold⟩

end

/-- No accepted hello is answered again once its window is over, unless its ticket no longer
opens, and the expiries can be represented. -/
def Timely : Event P → Listener P → Prop
  | .answer i now _ _, l => Representable now l.cache.window ∧ ∀ w ∈ l.waiting[i]?,
    ∀ a ∈ l.accepted,
      a.hello = w.hello → now < a.time + l.cache.window ∨ ∀ key ∈ w.ticketKeys,
        openedBy P key w.hello = none
  | _, _ => True

instance : (e : Event P) → (l : Listener P) → Decidable (Timely e l)
  | .issue _ _ _, _ => .isTrue trivial
  | .arrive _ _ _ _ _, _ => .isTrue trivial
  | .answer _ _ _ _, _ => inferInstanceAs (Decidable (_ ∧ _))

def InOrder (e : Event P) (l : Listener P) : Prop := e.inOrder l.clock

instance (e : Event P) (l : Listener P) : Decidable (InOrder e l) :=
  inferInstanceAs (Decidable (e.inOrder l.clock))

lemma step_sound {l : Listener P} (e : Event P) (h : Sound l) (horder : InOrder e l)
    (htimely : Timely e l) :
    Sound (step e l).2 := by
  cases e with
  | issue now later fresh => exact h.takeKeys fresh horder.1 horder.2
  | arrive c hello now later fresh =>
    have hlater : l.clock ≤ later := Int.le_trans horder.1 horder.2
    unfold step
    dsimp only
    split
    · exact h.later hlater
    · rename_i s hnew
      have hfresh := newServerHandshaker_fresh hnew
      split
      · exact (h.takeKeys fresh horder.1 horder.2).await hfresh fun _ hkey =>
          List.mem_append_left _ hkey
      · exact (h.later hlater).await hfresh (by simp)
  | answer i now rand sigRand =>
    unfold step
    dsimp only
    split
    · exact h.later horder
    · rename_i w hw
      exact h.answered hw horder htimely.1 rand sigRand (htimely.2 w hw)

/-- In every run in which no accepted hello comes back after the window of the cache while its
ticket still opens, no hello is accepted for 0-RTT twice. -/
theorem early_data_accepted_once {cfg : QuicServerConfig P} {fresh : Except Err Bytes} {start : Int}
    {l₀ l : Listener P} {log : List (Event P × Except Err (Option Flight))}
    (hlisten : listen cfg fresh start = .ok l₀)
    (hrun : Run step (fun e l => InOrder e l ∧ Timely e l) l₀ log l)
    (hkeys : ∀ a ∈ l.accepted, OpensOnce P l.ticketKeys a.hello) :
    (l.accepted.map Acceptance.hello).Nodup := by
  have hsound : Sound l := by
    apply hrun.stateInvariant (listen_sound hlisten)
    intro l e h hallowed
    exact step_sound e h hallowed.1 hallowed.2
  exact hsound.once hkeys

def sampleProto : Bytes := [104, 51]

/-- A cache that remembers for one microsecond and admits no older tickets. -/
def sampleListenerConfig : QuicServerConfig toyPrims where
  certificate := some [15, 1]
  privateKey := some (5 : UInt8)
  nextProtos := [sampleProto]
  sessionTicketKey := zeros 16
  allowEarlyData := true
  antiReplay := some (newAntiReplayCache 1000 1000)

def noRandomness : Except Err Bytes := .error (.text "rand: no randomness")

def sampleListener : Listener toyPrims :=
  okValue (listen sampleListenerConfig noRandomness 0) (by decide +kernel)

def sampleEarlyClient : ClientHandshaker toyPrims :=
  okValue (newClientHandshakerWithConfig
    { sampleResumingConfig with nextProtos := [sampleProto], earlyData := true } (.ok (5 : UInt8)))
      (by decide +kernel)

def sampleEarlyHello : Bytes :=
  okValue (clientHello sampleEarlyClient sampleRandom.clientHello).1 (by decide +kernel)

def sampleConnection : Connection toyPrims where
  dcid := [1]
  transportParameters := none
  keyPair := .ok (6 : UInt8)
  readPeerParams _ := .ok ()
  validFor0RTT _ := true

def helloAt (t : Int) : List (Event toyPrims) :=
  [.arrive sampleConnection sampleEarlyHello t t noRandomness,
    .answer 0 t sampleRandom.serverHello []]

/-- The acceptance, and a replay in the last nanosecond of the window. -/
def promptReplay : List (Event toyPrims) := helloAt 0 ++ helloAt 999

theorem early_data_accepted_once_sample :
    (exec step promptReplay sampleListener).2.accepted.length = 1 ∧
      ((exec step promptReplay sampleListener).2.accepted.map Acceptance.hello).Nodup := by
  have hlisten : listen sampleListenerConfig noRandomness 0 = .ok sampleListener := eq_okValue _ _
  have hallowed : AllAllowed step (fun e l => InOrder e l ∧
    Timely e l) promptReplay sampleListener := by
    decide +kernel
  refine ⟨by decide +kernel, early_data_accepted_once hlisten (exec_run hallowed) ?_⟩
  decide +kernel

def lateReplay : List (Event toyPrims) := helloAt 0 ++ helloAt 1000

/-- The same hello is accepted again when the window is over. -/
theorem late_replay_accepted :
    sampleListenerConfig.allowEarlyData = true ∧
      sampleListenerConfig.antiReplay = some (newAntiReplayCache 1000 1000) ∧
      listen sampleListenerConfig noRandomness 0 = .ok sampleListener ∧
      Run step InOrder sampleListener (exec step lateReplay sampleListener).1
        (exec step lateReplay sampleListener).2 ∧
      (exec step lateReplay sampleListener).2.accepted.map (fun a => (a.hello, a.time)) =
        [(sampleEarlyHello, 1000), (sampleEarlyHello, 0)] ∧
      ¬ ((exec step lateReplay sampleListener).2.accepted.map Acceptance.hello).Nodup := by
  have hallowed : AllAllowed step InOrder lateReplay sampleListener := by decide +kernel
  exact ⟨rfl, rfl, eq_okValue _ _, exec_run hallowed, by decide +kernel, by decide +kernel⟩

end Pollux.ZeroRtt
