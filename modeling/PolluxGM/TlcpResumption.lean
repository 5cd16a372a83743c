import PolluxGM.TlcpFrames

/-!
# Resumption and authentication

A resumed handshake looks at no certificate: what it authenticates is decided by every handshake
that has put a session into the cache. Those that share a cache are run one after another, each with
the answers the cache gave it.
-/
namespace Pollux.Tlcp

open Recency TlcpSession

variable {P : Prims} {config : EngineConfig} {env : Surroundings} {c : Conn} {α : Type}

def putOf : CacheCall → Option (Bytes × SessionState)
  | .put key cs => some (key, cs)
  | _ => none

def getOf : CacheCall → Option Bytes
  | .get key => some key
  | _ => none

/-- What a connection has put into the cache, and the keys it has looked up. -/
structure Result where
  peerCertificates : List Bytes
  session : Option SessionState
  didResume : Bool
  puts : List (Bytes × SessionState)
  gets : List Bytes

def result (c : Conn) : Result :=
  ⟨c.peerCertificates, c.session, c.didResume, c.cacheCalls.filterMap putOf,
    c.cacheCalls.filterMap getOf⟩

/-- Most of a handshake neither resumes a session nor makes one. -/
structure SameResult (c c' : Conn) : Prop where
  same : result c' = result c

instance : IsPreorder Conn SameResult where
  refl _ := ⟨rfl⟩
  trans _ _ _ h h' := ⟨h'.same.trans h.same⟩

lemma SameResult.of_outcome {c c' : Conn} (h : outcome c' = outcome c) : SameResult c c' :=
  ⟨congrArg (fun o : Outcome => Result.mk o.peerCertificates o.session o.didResume
    (o.cacheCalls.filterMap putOf) (o.cacheCalls.filterMap getOf)) h⟩

variable {m : Cmd Err Conn α}

lemma wrote_same (hm : Keeps Wrote m) : Keeps SameResult m := fun c => .of_outcome (hm c).outcome

lemma read_same (hm : Keeps HasRead m) : Keeps SameResult m := fun c => .of_outcome (hm c).outcome

/-- A handshake that has put no session into the cache yet. -/
def underway (certs : List Bytes) (s : Option SessionState) (gets : List Bytes) : Result :=
  ⟨certs, s, false, [], gets⟩

/-- What `m` makes of the result `r`. A failure has put nothing into the cache. -/
def Follows (r : Result) (m : Cmd Err Conn α) (Q : α → Result → Prop) : Prop :=
  ∀ c, result c = r → Triple m c (fun a c' => Q a (result c')) fun _ c' => (result c').puts = []

variable {certs g : List Bytes} {s : Option SessionState} {sess : SessionState}

namespace Follows

variable {β : Type} {k : α → Cmd Err Conn β} {Q Q' : α → Result → Prop}
  {R : β → Result → Prop} {r : Result} {f : Conn → Conn} {e : Result → Result} {key : Bytes}

lemma mono (hm : Follows r m Q) (h : ∀ a r', Q a r' → Q' a r') : Follows r m Q' :=
  fun c hc => Triple.mono (hm c hc) (fun a _ => h a _) fun _ _ => id

lemma bind (hm : Follows r m Q) (hk : ∀ a r', Q a r' → Follows r' (k a) R) :
    Follows r (m >>= k) R :=
  fun c hc => (hm c hc).bind fun a c' ha => hk a _ ha c' rfl

lemma pure {a : α} (h : Q a r) : Follows r (Pure.pure a) Q := by
  rintro c rfl
  exact Triple.pure h

lemma kept (hm : Keeps SameResult m) :
    Follows (underway certs s g) m fun _ r => r = underway certs s g := by
  refine fun c h => Triple.mono (hm.triple c) (fun _ c' h' => h'.same.trans h) fun _ c' h' => ?_
  rw [h'.same, h]
  rfl

lemma keep (hm : Keeps SameResult m) (hk : ∀ a, Follows (underway certs s g) (k a) R) :
    Follows (underway certs s g) (m >>= k) R := by
  refine (kept hm).bind fun a r h => ?_
  rw [h]
  exact hk a

lemma wrote (hm : Keeps Wrote m) (hk : ∀ a, Follows (underway certs s g) (k a) R) :
    Follows (underway certs s g) (m >>= k) R := keep (wrote_same hm) hk

lemma read (hm : Keeps HasRead m) (hk : ∀ a, Follows (underway certs s g) (k a) R) :
    Follows (underway certs s g) (m >>= k) R := keep (read_same hm) hk

lemma lift {x : Except Err α} (hk : ∀ a, x = .ok a → Follows (underway certs s g) (k a) R) :
    Follows (underway certs s g) (Cmd.lift x >>= k) R := by
  intro c h
  refine Triple.bind (Q := fun a c' => result c' = underway certs s g ∧ x = .ok a)
    (Triple.lift (fun a hx => ⟨h, hx⟩) fun _ _ => ?_) fun a c' ha => hk a ha.2 c' ha.1
  rw [h]
  rfl

lemma refuse {bad : Prop} [Decidable bad] {e : Err} {k : Unit → Cmd Err Conn β}
    (hk : ¬ bad → Follows (underway certs s g) (k ()) R) :
    Follows (underway certs s g) (Cmd.refuse bad e >>= k) R := by
  intro c h
  refine Triple.bind (Q := fun _ c' => result c' = underway certs s g ∧ ¬ bad)
    (Triple.refuse (fun hok => ⟨h, hok⟩) fun _ => ?_) fun _ c' ha => hk ha.2 c' ha.1
  rw [h]
  rfl

lemma ask {f : Conn → α} (hk : ∀ c, result c = r → Follows r (k (f c)) R) :
    Follows r (Cmd.ask f >>= k) R := fun c h => hk c h c h

lemma set {Q : Unit → Result → Prop} (hf : ∀ c, result (f c) = e (result c)) (h : Q () (e r)) :
    Follows r (Cmd.update f) Q := by
  rintro c rfl
  refine Triple.update ?_
  rw [hf]
  exact h

lemma update {k : Unit → Cmd Err Conn β} (hf : ∀ c, result (f c) = e (result c))
    (hk : Follows (e r) (k ()) R) : Follows r (Cmd.update f >>= k) R := by
  rintro c rfl
  exact hk _ (hf c)

lemma present {k : Unit → Cmd Err Conn β} {certs' : List Bytes}
    (hk : Follows (underway certs' s g) (k ()) R) :
    Follows (underway certs s g) (Cmd.update (fun c => { c with peerCertificates := certs' }) >>= k)
      R :=
  update (e := fun r => { r with peerCertificates := certs' }) (fun _ => rfl) hk

lemma get {k : Unit → Cmd Err Conn β} (hk : Follows (underway certs s (g ++ [key])) (k ()) R) :
    Follows (underway certs s g) (noteCache (.get key) >>= k) R :=
  update (e := fun r => { r with gets := r.gets ++ [key] })
    (fun _ => by simp [result, putOf, getOf]) hk

lemma put {Q : Unit → Result → Prop} (h : Q () { r with puts := r.puts ++ [(key, sess)] }) :
    Follows r (noteCache (.put key sess)) Q :=
  set (e := fun r => { r with puts := r.puts ++ [(key, sess)] })
    (fun _ => by simp [result, putOf, getOf]) h

lemma resume {Q : Unit → Result → Prop} (h : Q () ⟨certs, s, true, [], g⟩) :
    Follows (underway certs s g) (Cmd.update fun c => { c with didResume := true }) Q :=
  set (e := fun r => { r with didResume := true }) (fun _ => rfl) h

end Follows

open Follows

variable (suite : CipherSuite) (clientHello hello : ClientHelloMsg) (serverHello : ServerHelloMsg)
  (transcript : Bytes)

lemma establishKeys_same (masterSecret clientRandom serverRandom : Bytes) :
    Keeps SameResult (establishKeys P suite masterSecret clientRandom serverRandom) :=
  (Keeps.ask _).bind fun _ => (Keeps.lift _).bind fun _ => Keeps.update fun _ => ⟨rfl⟩

/-- The checks of `verifyServer` have passed on certificates of these octets. -/
def ServerVerified (P : Prims) (config : EngineConfig) (certs : List Bytes) : Prop :=
  ∃ server : ServerIdentity,
  server.certificates = certs ∧ P.parseCertificate (certs.getD 0 []) = .ok server.signCert ∧
    P.parseCertificate (certs.getD 1 []) = .ok server.encCert ∧
      verifyServer P config server = .ok ()

inductive ClientDone (P : Prims) (config : EngineConfig) (env : Surroundings) : Result → Prop where
  | resumed {sess : SessionState} (hlookup : env.lookup (clientKey config env) = some sess) :
      ClientDone P config env ⟨sess.peerCertificates, some sess, true, [], [clientKey config env]⟩
  | full {certs : List Bytes} {ps : List (Bytes × SessionState)} {g : List Bytes}
      (hverified : config.insecureSkipVerify = false → ServerVerified P config certs)
      (hputs : ∀ e ∈ ps, (e.1 = tlcpSessionKeyHex e.2.sessionID ∨ e.1 = clientKey config env) ∧
        e.2.peerCertificates = certs) : ClientDone P config env ⟨certs, none, false, ps, g⟩

lemma loadSession_follows :
    Follows (underway [] none []) (loadSession config env) fun _ r => ∃ s g, r = underway [] s g ∧
      ∀ sess ∈ s, g = [clientKey config env] ∧ env.lookup (clientKey config env) = some sess := by
  unfold loadSession
  split
  · refine get ?_
    split
    · exact pure ⟨none, _, rfl, nofun⟩
    · rename_i sess hlookup
      split
      · refine set (e := fun r => { r with session := some sess }) (fun _ => rfl)
          ⟨some sess, _, rfl, ?_⟩
        intro sess' hs
        cases hs
        exact ⟨rfl, hlookup⟩
      · exact pure ⟨none, _, rfl, nofun⟩
  · exact pure ⟨none, [], rfl, nofun⟩

lemma receiveServerHello_same : Keeps SameResult (receiveServerHello P config hello) := by
  refine (read_same (readMessage_read _ _)).bind fun _ => (Keeps.refuse _ _).bind fun _ => ?_
  refine (Keeps.update fun _ => ⟨rfl⟩).bind fun _ => (Keeps.lift _).bind fun _ =>
    (Keeps.refuse _ _).bind fun _ => ?_
  refine (Keeps.refuse _ _).bind fun _ => (Keeps.update fun _ => ⟨rfl⟩).bind fun _ => ?_
  exact (Keeps.refuse _ _).bind fun _ => (Keeps.update fun _ => ⟨rfl⟩).bind fun _ => Keeps.pure _

lemma readServerCertificates_follows :
    Follows (underway [] none g) (readServerCertificates P transcript) fun x r =>
      r = underway x.1.certificates none g ∧
        P.parseCertificate (x.1.certificates.getD 0 []) = .ok x.1.signCert ∧
        P.parseCertificate (x.1.certificates.getD 1 []) = .ok x.1.encCert :=
  read (readMessage_read _ _) fun _ => present <| lift fun _ henc => lift fun _ hsign =>
    pure ⟨rfl, (certificateKey_ok hsign).1, (certificateKey_ok henc).1⟩

lemma readServerHelloDone_same : Keeps SameResult (readServerHelloDone P transcript) := by
  refine (read_same (readHandshake_read _)).bind fun next => ?_
  dsimp only
  split
  · exact (Keeps.lift _).bind fun _ => (read_same (readMessage_read _ _)).bind fun _ => Keeps.pure _
  · exact (Keeps.lift _).bind fun _ => Keeps.pure _

lemma readServerFlight_follows :
    Follows (underway [] none g) (readServerFlight P config suite hello serverHello transcript)
      fun x r =>
      r = underway x.2.1.certificates none g ∧
        (config.insecureSkipVerify = false → ServerVerified P config x.2.1.certificates) := by
  unfold readServerFlight
  refine (readServerCertificates_follows transcript).bind fun server r h => ?_
  obtain ⟨rfl, hsign, henc⟩ := h
  refine lift fun _ _ => read (readMessage_read _ _) fun _ => lift fun _ _ => ?_
  dsimp only
  split
  · refine lift fun _ hverify => keep (readServerHelloDone_same _) fun _ => ?_
    exact pure ⟨rfl, fun _ => ⟨server.1, rfl, hsign, henc, hverify⟩⟩
  · rename_i hinsecure
    refine keep (readServerHelloDone_same _) fun _ => ?_
    exact pure ⟨rfl, fun hsecure => absurd hsecure hinsecure⟩

lemma clientFullHandshake_follows :
    Follows (underway [] s g) (clientFullHandshake P config env suite hello serverHello transcript)
      fun _ => ClientDone P config env := by
  unfold clientFullHandshake
  refine update (e := fun r => { r with session := none }) (fun _ => rfl) ?_
  refine (readServerFlight_follows suite hello serverHello transcript).bind fun flight r h => ?_
  obtain ⟨rfl, hverified⟩ := h
  refine wrote (sendClientFlight_wrote _ _ _ _ _ _ _ _) fun _ =>
    keep (establishKeys_same _ _ _ _) fun _ => ?_
  refine wrote startBuffering_wrote fun _ => wrote (sendFinished_wrote _ _ _) fun _ => ?_
  refine read (readFinished_read _ _ _ _) fun _ => ?_
  unfold createNewClientSession
  split
  · refine ask fun c h => (put (Q := fun _ r => r = _) rfl).bind fun _ r h₁ => put ?_
    rw [h₁]
    refine .full hverified ?_
    have hcerts : c.peerCertificates = flight.2.1.certificates := congrArg Result.peerCertificates h
    intro e he
    rcases List.mem_cons.mp he with rfl | he
    · exact ⟨.inl rfl, hcerts⟩
    · cases List.mem_singleton.mp he
      exact ⟨.inr rfl, hcerts⟩
  · exact pure (.full hverified nofun)

lemma clientResumeHandshake_follows (sess : SessionState) :
    Follows (underway [] s g) (clientResumeHandshake P suite hello serverHello transcript sess)
      fun _ r =>
      r = underway sess.peerCertificates s g := by
  unfold clientResumeHandshake
  refine present (keep (establishKeys_same _ _ _ _) fun _ =>
    read (readFinished_read _ _ _ _) fun _ => ?_)
  exact wrote startBuffering_wrote fun _ => wrote (sendFinished_wrote _ _ _) fun _ => pure rfl

lemma discardSession_puts (c : Conn) :
    (result (discardSession config env c)).puts = (result c).puts := by
  unfold discardSession
  split
  · simp [result, putOf]
  · rfl

lemma clientHandshakeReal_follows :
    Follows (underway [] none []) (clientHandshakeReal P config env) fun _ r =>
      ClientDone P config env r ∧
      ¬ (config.serverName = [] ∧ config.insecureSkipVerify = false) := by
  unfold clientHandshakeReal
  refine refuse fun hname => loadSession_follows.bind fun _ r h => ?_
  obtain ⟨s, g, rfl, hlookup⟩ := h
  refine wrote sendClientHello_wrote fun hello =>
    keep (receiveServerHello_same _) fun serverHello => ?_
  refine ask fun c h => ?_
  rcases hoffered : serverResumedSession serverHello.1 c with _ | sess
  · exact (clientFullHandshake_follows _ _ _ _).mono fun _ _ hdone => ⟨hdone, hname⟩
  · have hresume : Follows
      (underway [] s g) (Cmd.onError (clientResumeHandshake P serverHello.2.2 hello.1 serverHello.1
        (hello.2 ++ serverHello.2.1) sess) (discardSession config env)) fun _ r =>
        r = underway sess.peerCertificates s g := by
      refine fun c h => (clientResumeHandshake_follows _ _ _ _ sess c h).onError fun _ c' hfail =>
        ?_
      rw [discardSession_puts]
      exact hfail
    refine hresume.bind fun _ r h₁ => ?_
    have hs : s = some sess := by
      rw [← (Option.filter_eq_some_iff.mp hoffered).1]
      exact (congrArg Result.session h).symm
    obtain ⟨rfl, hfound⟩ := hlookup sess hs
    rw [h₁, hs]
    exact resume ⟨.resumed hfound, hname⟩

/-- The certificates of a client that was asked for them have passed the checks. -/
def ClientChecked (P : Prims) (config : EngineConfig) (certs : List Bytes) : Prop :=
  config.requestClientCert = true →
  ∃ suite client, parseClientCertificates P certs = .ok client ∧
    checkClientAuth P config suite client = .ok ()

inductive ServerDone (P : Prims) (config : EngineConfig) (env : Surroundings) : Result → Prop where
  | resumed {sess : SessionState} {sessionID : Bytes}
    (hlookup : env.lookup (tlcpSessionKeyHex sessionID) = some sess) :
      ServerDone P config env ⟨sess.peerCertificates, none, true, [], [tlcpSessionKeyHex sessionID]⟩
  | full {certs : List Bytes} {ps : List (Bytes × SessionState)} {g : List Bytes}
    (hchecked : ClientChecked P config certs)
      (hputs : ∀ e ∈ ps, e.1 = tlcpSessionKeyHex e.2.sessionID ∧ e.2.peerCertificates = certs) :
      ServerDone P config env ⟨certs, none, false, ps, g⟩

lemma receiveClientHello_same : Keeps SameResult (receiveClientHello P config) := by
  refine (read_same (readMessage_read _ _)).bind fun _ => (Keeps.refuse _ _).bind fun _ => ?_
  refine (Keeps.update fun _ => ⟨rfl⟩).bind fun _ => (Keeps.lift _).bind fun _ => ?_
  exact (Keeps.update fun _ => ⟨rfl⟩).bind fun _ => Keeps.pure _

lemma lookupResumedSession_follows (suite : CipherSuite) :
    Follows (underway [] none []) (lookupResumedSession config env clientHello suite) fun found r =>
      ∃ g, r = underway [] none g ∧ ∀ sess ∈ found, g = [tlcpSessionKeyHex clientHello.sessionID] ∧
        env.lookup (tlcpSessionKeyHex clientHello.sessionID) = some sess := by
  unfold lookupResumedSession
  split
  · exact pure ⟨_, rfl, nofun⟩
  · refine get (ask fun _ _ => ?_)
    exact pure ⟨_, rfl, fun _ hs => ⟨rfl, (Option.filter_eq_some_iff.mp hs).1⟩⟩

lemma readClientCertificate_follows :
    Follows (underway [] none g) (readClientCertificate P config suite transcript) fun _ r =>
      ∃ certs, r = underway certs none g ∧ ClientChecked P config certs :=
  read (readMessage_read _ _) fun _ => present <| lift fun client hparsed => lift fun _ hauth =>
    pure ⟨_, rfl, fun _ => ⟨suite, client, hparsed, hauth⟩⟩

lemma readCertificateVerify_same (sigType : SigType) (client : ClientIdentity)
    (transcript : Bytes) :
    Keeps SameResult (readCertificateVerify P sigType client transcript) := by
  unfold readCertificateVerify
  split
  · exact Keeps.pure _
  · exact (read_same (readMessage_read _ _)).bind fun _ => (Keeps.lift _).bind fun _ => Keeps.pure _

lemma readClientFlight_follows (keys : ServerKeys) {wantClientCert : Bool} (sigType : SigType)
    (state : Option ECDHEServerKeyExchange)
    (hwant : config.requestClientCert = true → wantClientCert = true) :
    Follows (underway [] none g)
      (readClientFlight P config keys suite wantClientCert sigType state clientHello serverHello
        transcript)
      fun _ r => ∃ certs, r = underway certs none g ∧ ClientChecked P config certs := by
  unfold readClientFlight
  split
  · refine (readClientCertificate_follows suite transcript).bind fun x r h => ?_
    obtain ⟨certs, rfl, hchecked⟩ := h
    refine read (readMessage_read _ _) fun _ => lift fun _ _ =>
      keep (readCertificateVerify_same _ _ _) fun _ => ?_
    exact pure ⟨certs, rfl, hchecked⟩
  · rename_i hunasked
    refine keep (Keeps.pure _) fun _ => read (readMessage_read _ _) fun _ => lift fun _ _ => ?_
    refine keep (readCertificateVerify_same _ _ _) fun _ => ?_
    exact pure ⟨[], rfl, fun hrequest => absurd (hwant hrequest) hunasked⟩

lemma serverFullHandshake_follows (keys : ServerKeys) (chData : Bytes) :
    Follows (underway [] none g) (serverFullHandshake P config env keys suite clientHello chData)
      fun _ => ServerDone P config env := by
  unfold serverFullHandshake
  refine wrote (drawRandom_wrote _) fun _ => wrote (onRand_wrote _) fun _ => ?_
  refine wrote (sendServerFlight_wrote _ _ _ _ _ _) fun _ => ?_
  refine (readClientFlight_follows _ _ _ _ _ _ _ fun hrequest => by rw [hrequest]; rfl).bind fun _ r
    h => ?_
  obtain ⟨certs, rfl, hchecked⟩ := h
  refine keep (establishKeys_same _ _ _ _) fun _ => read (readFinished_read _ _ _ _) fun _ => ?_
  refine wrote startBuffering_wrote fun _ => wrote (sendFinished_wrote _ _ _) fun _ => ?_
  unfold createNewServerSession
  split
  · refine ask fun c h => put (.full hchecked ?_)
    intro e he
    cases List.mem_singleton.mp he
    exact ⟨rfl, congrArg Result.peerCertificates h⟩
  · exact pure (.full hchecked nofun)

lemma serverResumeHandshake_follows (chData : Bytes) (sess : SessionState) :
    Follows (underway [] none g) (serverResumeHandshake P env suite clientHello chData sess) fun _
      r =>
      r = underway sess.peerCertificates none g := by
  unfold serverResumeHandshake
  refine wrote (drawRandom_wrote _) fun _ => wrote startBuffering_wrote fun _ => ?_
  refine wrote (writeHandshakeRecord_wrote _ _) fun _ => wrote flush_wrote fun _ => present ?_
  refine keep (establishKeys_same _ _ _ _) fun _ => wrote (sendFinished_wrote _ _ _) fun _ => ?_
  exact read (readFinished_read _ _ _ _) fun _ => pure rfl

lemma serverHandshakeReal_follows :
    Follows (underway [] none []) (serverHandshakeReal P config env) fun _ =>
      ServerDone P config env := by
  unfold serverHandshakeReal
  refine lift fun _ _ => keep receiveClientHello_same fun clientHello => ?_
  refine (lookupResumedSession_follows _ _).bind fun found r h => ?_
  obtain ⟨g, rfl, hfound⟩ := h
  cases found with
  | none => exact serverFullHandshake_follows _ _ _ _
  | some sess =>
    refine (serverResumeHandshake_follows _ _ _ sess).bind fun _ r h => ?_
    obtain ⟨rfl, hlookup⟩ := hfound sess rfl
    rw [h]
    exact resume (.resumed hlookup)

lemma driver_follows (isClient : Bool) (incoming : List Arrival)
    (writeResults : List (Option NetErr)) (rand : Bytes) :
    Triple (driver P config env) (newTLCPConn isClient incoming writeResults rand) (fun _ c =>
      if isClient then ClientDone P config env (result c) ∧
        ¬ (config.serverName = [] ∧ config.insecureSkipVerify = false)
      else ServerDone P config env (result c)) fun _ c => (result c).puts = [] := by
  cases isClient with
  | true => exact clientHandshakeReal_follows _ rfl
  | false => exact serverHandshakeReal_follows _ rfl

lemma sendFailureAlert_same (P : Prims) (c : Conn) : result (sendFailureAlert P c) = result c :=
  ((wrote_same flush_wrote) _).same.trans ((wrote_same (writeRecord_wrote _ _ _)) c).same

lemma handshake_follows (isClient : Bool) (incoming : List Arrival)
    (writeResults : List (Option NetErr)) (rand : Bytes) :
    Triple (handshake P config env) (newTLCPConn isClient incoming writeResults rand) (fun _ c =>
      if isClient then ClientDone P config env (result c) ∧
        ¬ (config.serverName = [] ∧ config.insecureSkipVerify = false)
      else ServerDone P config env (result c)) fun _ c => (result c).puts = [] := by
  refine handshake_first rfl rfl
    (Triple.mono (driver_follows isClient incoming writeResults rand) ?_ ?_)
  · intro _ c hdone
    rw [← ((wrote_same flush_wrote) c).same] at hdone
    exact hdone
  · intro e c hfail
    rw [sendFailureAlert_same]
    exact hfail

/-- A connection with all it meets: the answers of the cache, the clock, the transport. -/
structure Attempt where
  isClient : Bool
  config : Config
  remoteAddr : Bytes
  lookup : Bytes → Option SessionState
  helloTime : Nat
  lookupTime : Int
  createdTime : Int
  incoming : List Arrival
  writeResults : List (Option NetErr)
  rand : Bytes

namespace Attempt

variable (P : Prims) (lower : Bytes → Bytes) (a : Attempt)

def surroundings : Surroundings :=
  ⟨a.remoteAddr, a.lookup, lower, a.helloTime, a.lookupTime, a.createdTime⟩

def handshake : Except Err Unit × Conn :=
  let fresh := newTLCPConn a.isClient a.incoming a.writeResults a.rand
  match configToNative a.config a.isClient with
  | .error e => (.error e, fresh)
  | .ok native => Tlcp.handshake P native (a.surroundings lower) fresh

def puts : List (Bytes × SessionState) := (result (a.handshake P lower).2).puts

end Attempt

section

variable {lower : Bytes → Bytes} {a : Attempt}

lemma Attempt.native {c : Conn} (h : a.handshake P lower = (.ok (), c)) :
    ∃ native, configToNative a.config a.isClient = .ok native ∧
      Tlcp.handshake P native
        (a.surroundings lower) (newTLCPConn a.isClient a.incoming a.writeResults a.rand) =
          (.ok (), c) := by
  unfold Attempt.handshake at h
  dsimp only at h
  split at h
  · cases h
  · rename_i native hnative
    exact ⟨native, hnative, h⟩

lemma Attempt.completed {c : Conn} (h : a.handshake P lower = (.ok (), c)) :
    ∃ native, configToNative a.config a.isClient = .ok native ∧
      if a.isClient then ClientDone P native (a.surroundings lower) (result c) ∧
        ¬ (native.serverName = [] ∧ native.insecureSkipVerify = false)
      else ServerDone P native (a.surroundings lower) (result c) := by
  obtain ⟨native, hnative, hrun⟩ := Attempt.native h
  exact ⟨native, hnative, (handshake_follows _ _ _ _).ok hrun⟩

lemma Attempt.failed {e : Err} {c : Conn} (h : a.handshake P lower = (.error e, c)) :
    (result c).puts = [] := by
  unfold Attempt.handshake at h
  dsimp only at h
  split at h
  · cases h
    rfl
  · exact (handshake_follows _ _ _ _).error h

end

/-- The types under which a client has to show a certificate. -/
def requires : ClientAuthType → Bool
  | .requireAnyClientCert | .requireAndVerifyClientCert => true
  | _ => false

/-- The types under which a certificate that is shown is verified. -/
def verifies : ClientAuthType → Bool
  | .verifyClientCertIfGiven | .requireAndVerifyClientCert => true
  | _ => false

/-- The certificates are what the client authentication of this server demands. -/
structure Satisfies (P : Prims) (config : Config) (certs : List Bytes) : Prop where
  shown : requires config.clientAuth = true → certs ≠ []
  verified : verifies config.clientAuth = true → ∀ der ∈ certs.head?, ∃ cert,
    P.parseCertificate der = .ok cert ∧
    P.verifyCertificate cert ⟨config.clientCACertificates, [], [], .clientAuth⟩ = .ok ()

/-- The earlier server demanded at least as much as this one. -/
structure AsStrict (earlier config : Config) : Prop where
  requires : requires config.clientAuth = true → requires earlier.clientAuth = true
  verifies : verifies config.clientAuth = true →
    verifies earlier.clientAuth = true ∧ earlier.clientCACertificates = config.clientCACertificates

lemma Satisfies.as_strict {earlier config : Config} {certs : List Bytes}
    (h : Satisfies P earlier certs) (hstrict : AsStrict earlier config) :
    Satisfies P config certs where
  shown := fun hrequires => h.shown (hstrict.requires hrequires)
  verified := by
    intro hverifies
    obtain ⟨hearlier, hroots⟩ := hstrict.verifies hverifies
    rw [← hroots]
    exact h.verified hearlier

variable {isClient : Bool} {client : ClientIdentity}

section

variable {given : Config} {native : EngineConfig} {certs : List Bytes}

lemma configToNative_ok (h : configToNative given isClient = .ok native) :
    native.serverName = given.serverName ∧ native.insecureSkipVerify = given.insecureSkipVerify ∧
      (isClient = false → ClientAuthType.requestClientCert.code ≤ given.clientAuth.code →
        native.requestClientCert = true ∧ native.clientAuth = given.clientAuth ∧
          (ClientAuthType.verifyClientCertIfGiven.code ≤ given.clientAuth.code →
            native.clientRoots = some given.clientCACertificates)) := by
  unfold configToNative at h
  simp only [bind_ok, reject_ok] at h
  obtain ⟨_, _, h⟩ := h
  split at h
  · cases h
  · simp only [bind_ok, reject_ok, pure_ok] at h
    obtain ⟨_, _, _, _, h⟩ := h
    cases h
    refine ⟨rfl, rfl, ?_⟩
    rintro rfl hasks
    simp [hasks]

lemma native_clientAuth (h : configToNative given false = .ok native)
    (hdemands : requires given.clientAuth = true ∨ verifies given.clientAuth = true) :
    native.requestClientCert = true ∧ native.clientAuth = given.clientAuth ∧
      (verifies given.clientAuth = true →
        native.clientRoots = some given.clientCACertificates) := by
  have hasks : ClientAuthType.requestClientCert.code ≤ given.clientAuth.code := by
    cases hauth : given.clientAuth <;> simp [hauth, requires, verifies] at hdemands <;> decide
  obtain ⟨hrequest, hauth, hroots⟩ := (configToNative_ok h).2.2 rfl hasks
  refine ⟨hrequest, hauth, fun hverifies => hroots ?_⟩
  cases hauth : given.clientAuth <;> simp [hauth, verifies] at hverifies <;> decide

lemma presentedKey_ok {context refusal : String} {der : Option Bytes}
    {x : Option (Certificate × Bytes)} (h : presentedKey P context refusal der = .ok x) :
    (der = none → x = none) ∧
      ∀ d ∈ der, ∃ y, x = some y ∧ P.parseCertificate d = .ok y.1 ∧ y.1.publicKey = some y.2 := by
  cases der with
  | none =>
    cases h
    exact ⟨fun _ => rfl, nofun⟩
  | some d =>
    refine ⟨fun hnone => absurd hnone (Option.some_ne_none d), ?_⟩
    rintro _ ⟨⟩
    cases hkey : certificateKey P context refusal d with
    | error e =>
      rw [presentedKey, hkey] at h
      cases h
    | ok y =>
      rw [presentedKey, hkey] at h
      cases h
      exact ⟨y, rfl, certificateKey_ok hkey⟩

lemma parseClientCertificates_ok (h : parseClientCertificates P certs = .ok client) :
    (certs = [] → client.sign = none) ∧
      ∀ der ∈ certs.head?, ∃ x, client.sign = some x ∧ P.parseCertificate der = .ok x.1 ∧
        x.1.publicKey = some x.2 := by
  unfold parseClientCertificates at h
  simp only [bind_ok, pure_ok] at h
  obtain ⟨sign, hsign, enc, _, h⟩ := h
  cases h
  obtain ⟨hnone, hsome⟩ := presentedKey_ok hsign
  rw [← List.head?_eq_getElem?] at hnone hsome
  exact ⟨fun hempty => hnone (by rw [hempty]; rfl), hsome⟩

lemma checkClientAuth_ok {suite : CipherSuite}
    (h : checkClientAuth P native suite client = .ok ()) :
    (requires native.clientAuth = true → client.sign ≠ none) ∧
      ∀ roots ∈ native.clientRoots, ∀ x ∈ client.sign,
        P.verifyCertificate x.1 ⟨roots, [], [], .clientAuth⟩ = .ok () := by
  unfold checkClientAuth at h
  simp only [bind_ok, reject_ok] at h
  obtain ⟨_, _, _, hshown, h⟩ := h
  constructor
  · intro hrequires hnone
    refine hshown ⟨?_, hnone⟩
    cases hauth : native.clientAuth <;> simp [hauth, requires] at hrequires ⊢
  · intro roots hroots x hx
    rw [hroots] at h
    simp only [bind_ok, reject_ok] at h
    obtain ⟨_, _, h⟩ := h
    rw [hx] at h
    exact wrapErr_ok.mp h

lemma ClientChecked.satisfies (h : ClientChecked P native certs)
    (hnative : configToNative given false = .ok native) :
    Satisfies P given certs where
  shown := by
    intro hrequires hempty
    obtain ⟨hrequest, hauth, _⟩ := native_clientAuth hnative (.inl hrequires)
    obtain ⟨suite, client, hparse, hcheck⟩ := h hrequest
    rw [← hauth] at hrequires
    exact (checkClientAuth_ok hcheck).1 hrequires ((parseClientCertificates_ok hparse).1 hempty)
  verified := by
    intro hverifies der hder
    obtain ⟨hrequest, _, hroots⟩ := native_clientAuth hnative (.inr hverifies)
    obtain ⟨suite, client, hparse, hcheck⟩ := h hrequest
    obtain ⟨x, hsign, hcert, _⟩ := (parseClientCertificates_ok hparse).2 der hder
    exact ⟨x.1, hcert, (checkClientAuth_ok hcheck).2 _ (hroots hverifies) x hsign⟩

end

/-- Two states of one session object; a cache may have wiped its secret. -/
def SameSession (s s' : SessionState) : Prop :=
  { s with masterSecret := [] } = { s' with masterSecret := [] }

lemma SameSession.peerCertificates {s s' : SessionState} (h : SameSession s s') :
    s.peerCertificates = s'.peerCertificates := by
  have hcerts := congrArg SessionState.peerCertificates h
  exact hcerts

/-- What a cache promises: a session it returns was put under that key. -/
def Backs (puts : List (Bytes × SessionState)) (lookup : Bytes → Option SessionState) : Prop :=
  ∀ key, ∀ sess ∈ lookup key, ∃ stored, (key, stored) ∈ puts ∧ SameSession sess stored

/-- A full handshake of `b` has put this session under the key. -/
def Created (P : Prims) (lower : Bytes → Bytes) (b : Attempt) (key : Bytes) (sess : SessionState) :
    Prop :=
  ∃ d stored, b.handshake P lower = (.ok (), d) ∧ d.didResume = false ∧
    (key, stored) ∈ (result d).puts ∧ SameSession sess stored

section

variable (P : Prims) (lower : Bytes → Bytes)

/-- Connections complete one after another; a cached answer comes from those before. -/
def step (a : Attempt) (history : List Attempt) : (Except Err Unit × Conn) × List Attempt :=
  (a.handshake P lower, history ++ [a])

def Served (a : Attempt) (history : List Attempt) : Prop :=
  Backs (history.flatMap (·.puts P lower)) a.lookup

/-- No client has put sessions where this server looks for them, nor a server that demanded less;
and no client that skips verification where this client looks. -/
def Separated (a : Attempt) (history : List Attempt) : Prop :=
  (a.isClient = false → ∀ b ∈ history, b.puts P lower ≠ [] → b.isClient = false ∧
    AsStrict b.config a.config) ∧
    (a.isClient = true → a.config.insecureSkipVerify = false → ∀ b ∈ history, b.puts P lower ≠ [] →
      b.isClient = true → b.config.insecureSkipVerify = false)

/-- The session is what this connection found at the only place where it looked. -/
def Found (a : Attempt) (c : Conn) (key : Bytes) (sess : SessionState) : Prop :=
  (result c).gets = [key] ∧ a.lookup key = some sess ∧ c.peerCertificates = sess.peerCertificates

/-- Whoever resumes a session relies on a full handshake of its own side that checked what it
would have checked itself. The client looks under the name of the server. -/
structure Authenticated (a : Attempt) (history : List Attempt) (c : Conn) : Prop where
  server : a.isClient = false → ∃ sessionID sess b, Found a c (tlcpSessionKeyHex sessionID) sess ∧
    b ∈ history ∧ b.isClient = false ∧ Created P lower b (tlcpSessionKeyHex sessionID) sess ∧
    Satisfies P a.config sess.peerCertificates
  client : a.isClient = true → a.config.insecureSkipVerify = false → ∃ sess b native,
    Found a c (sniTag ++ lower a.config.serverName) sess ∧ c.session = some sess ∧ b ∈ history ∧
      b.isClient = true ∧
    Created P lower b (sniTag ++ lower a.config.serverName) sess ∧
      lower b.config.serverName = lower a.config.serverName ∧
        configToNative b.config true = .ok native ∧
    ServerVerified P native sess.peerCertificates

end

variable {history : List Attempt} {allowed : Attempt → List Attempt → Prop}

section

variable {lower : Bytes → Bytes} {a b : Attempt} {key : Bytes} {stored : SessionState}

lemma put_completed (h : (key, stored) ∈ b.puts P lower) :
    ∃ d, b.handshake P lower = (.ok (), d) ∧ (key, stored) ∈ (result d).puts := by
  unfold Attempt.puts at h
  generalize hr : b.handshake P lower = r at h
  obtain ⟨e | _, d⟩ := r
  · rw [Attempt.failed hr] at h
    exact absurd h List.not_mem_nil
  · exact ⟨d, rfl, h⟩

lemma put_by_server (hside : b.isClient = false) (h : (key, stored) ∈ b.puts P lower)
    (hsame : SameSession sess stored) :
    Created P lower b key sess ∧ key = tlcpSessionKeyHex stored.sessionID ∧
      Satisfies P b.config stored.peerCertificates := by
  obtain ⟨d, hok, hput⟩ := put_completed h
  obtain ⟨native, hnative, hdone⟩ := Attempt.completed hok
  rw [hside] at hnative hdone
  rw [if_neg (by decide)] at hdone
  generalize hr : result d = r at hdone hput
  cases hdone with
  | resumed _ => exact absurd hput List.not_mem_nil
  | full hchecked hputs =>
    obtain ⟨hkey, hcerts⟩ := hputs _ hput
    have hcreated : Created P lower b key sess :=
      ⟨d, stored, hok, congrArg Result.didResume hr, by rw [hr]; exact hput, hsame⟩
    refine ⟨hcreated, hkey, ?_⟩
    rw [hcerts]
    exact hchecked.satisfies hnative

lemma put_by_client (hside : b.isClient = true) (h : (key, stored) ∈ b.puts P lower)
    (hsame : SameSession sess stored) (hsecure : b.config.insecureSkipVerify = false) :
    Created P lower b key sess ∧
      (key = tlcpSessionKeyHex stored.sessionID ∨ key = sniTag ++ lower b.config.serverName) ∧
      ∃ native, configToNative b.config true = .ok native ∧
        ServerVerified P native stored.peerCertificates := by
  obtain ⟨d, hok, hput⟩ := put_completed h
  obtain ⟨native, hnative, hdone⟩ := Attempt.completed hok
  rw [hside] at hnative hdone
  rw [if_pos rfl] at hdone
  obtain ⟨hdone, hname⟩ := hdone
  obtain ⟨hserverName, hskip, _⟩ := configToNative_ok hnative
  rw [hskip, hserverName] at hname
  generalize hr : result d = r at hdone hput
  cases hdone with
  | resumed _ => exact absurd hput List.not_mem_nil
  | full hverified hputs =>
    obtain ⟨hkey, hcerts⟩ := hputs _ hput
    have hcreated : Created P lower b key sess :=
      ⟨d, stored, hok, congrArg Result.didResume hr, by rw [hr]; exact hput, hsame⟩
    refine ⟨hcreated, ?_, native, hnative, ?_⟩
    · refine hkey.imp id fun hkey => hkey.trans ?_
      unfold clientKey sessionCacheKey
      rw [hserverName, if_neg fun hempty => hname ⟨hempty, hsecure⟩]
      rfl
    · rw [hcerts]
      exact hverified (hskip.trans hsecure)

lemma hex_ne_sni (sessionID name : Bytes) : tlcpSessionKeyHex sessionID ≠ sniTag ++ name := by
  cases sessionID with
  | nil => exact fun h => by cases h
  | cons x rest =>
    intro h
    have hdigits : ∀ n < 16, hexDigit n ≠ 115 := by decide
    have hlt := UInt8.toNat_lt x
    exact hdigits (x.toNat / 16) (by omega) (List.cons.inj h).1

lemma resumed_by_server {c : Conn} (hside : a.isClient = false)
    (hok : a.handshake P lower = (.ok (), c)) (hresumed : c.didResume = true) :
    ∃ sessionID sess, Found a c (tlcpSessionKeyHex sessionID) sess := by
  obtain ⟨native, _, hdone⟩ := Attempt.completed hok
  rw [hside, if_neg (by decide)] at hdone
  generalize hr : result c = r at hdone
  cases hdone with
  | resumed hlookup =>
    exact ⟨_, _, congrArg Result.gets hr, hlookup, congrArg Result.peerCertificates hr⟩
  | full _ _ => cases hresumed.symm.trans (congrArg Result.didResume hr)

lemma resumed_by_client {c : Conn} (hside : a.isClient = true)
    (hsecure : a.config.insecureSkipVerify = false) (hok : a.handshake P lower = (.ok (), c))
    (hresumed : c.didResume = true) :
    ∃ sess, Found a c (sniTag ++ lower a.config.serverName) sess ∧ c.session = some sess := by
  obtain ⟨native, hnative, hdone⟩ := Attempt.completed hok
  rw [hside] at hnative hdone
  rw [if_pos rfl] at hdone
  obtain ⟨hdone, hname⟩ := hdone
  obtain ⟨hserverName, hskip, _⟩ := configToNative_ok hnative
  rw [hskip, hserverName] at hname
  have hkey : clientKey native (a.surroundings lower) = sniTag ++ lower a.config.serverName := by
    unfold clientKey sessionCacheKey
    rw [hserverName, if_neg fun hempty => hname ⟨hempty, hsecure⟩]
    rfl
  generalize hr : result c = r at hdone
  cases hdone with
  | @resumed sess hlookup =>
    rw [hkey] at hlookup hr
    exact ⟨sess, ⟨congrArg Result.gets hr, hlookup, congrArg Result.peerCertificates hr⟩,
      congrArg Result.session hr⟩
  | full _ _ => cases hresumed.symm.trans (congrArg Result.didResume hr)

/-- The entry that was found was backed by a put of an earlier connection. -/
lemma Served.origin (h : Served P lower a history) (hlookup : a.lookup key = some sess) :
    ∃ b ∈ history, ∃ stored, (key, stored) ∈ b.puts P lower ∧ SameSession sess stored := by
  obtain ⟨stored, hput, hsame⟩ := h key sess hlookup
  obtain ⟨b, hb, hput⟩ := List.mem_flatMap.mp hput
  exact ⟨b, hb, stored, hput, hsame⟩

lemma Served.authenticated {c : Conn} (h : Served P lower a history)
    (hseparated : Separated P lower a history) (hok : a.handshake P lower = (.ok (), c))
    (hresumed : c.didResume = true) :
    Authenticated P lower a history c where
  server := by
    intro hside
    obtain ⟨sessionID, sess, hfound⟩ := resumed_by_server hside hok hresumed
    obtain ⟨b, hb, stored, hput, hsame⟩ := h.origin hfound.2.1
    obtain ⟨hbside, hstrict⟩ := hseparated.1 hside b hb (List.ne_nil_of_mem hput)
    obtain ⟨hcreated, _, hsatisfies⟩ := put_by_server hbside hput hsame
    refine ⟨sessionID, sess, b, hfound, hb, hbside, hcreated, ?_⟩
    rw [hsame.peerCertificates]
    exact hsatisfies.as_strict hstrict
  client := by
    intro hside hsecure
    obtain ⟨sess, hfound, hsession⟩ := resumed_by_client hside hsecure hok hresumed
    obtain ⟨b, hb, stored, hput, hsame⟩ := h.origin hfound.2.1
    cases hbside : b.isClient with
    | false =>
      -- A server stores under hexadecimal keys only.
      obtain ⟨_, hkey, _⟩ := put_by_server hbside hput hsame
      exact absurd hkey.symm (hex_ne_sni _ _)
    | true =>
      have hbsecure := hseparated.2 hside hsecure b hb (List.ne_nil_of_mem hput) hbside
      obtain ⟨hcreated, hkey, native, hnative, hverified⟩ :=
        put_by_client hbside hput hsame hbsecure
      have hname : lower a.config.serverName = lower b.config.serverName := by
        rcases hkey with hkey | hkey
        · exact absurd hkey.symm (hex_ne_sni _ _)
        · exact List.append_cancel_left hkey
      refine ⟨sess, b, native, hfound, hsession, hb, hbside, hcreated, hname.symm, hnative, ?_⟩
      rw [hsame.peerCertificates]
      exact hverified

/-- What was asked of a step held of the history it was made in. -/
lemma run_permitted {log : List (Attempt × (Except Err Unit × Conn))}
    (h : Run (step P lower) allowed [] log history) :
    ∀ before a after, history = before ++ a :: after → allowed a before := by
  refine h.stateInvariant (I := fun history => ∀ before a after, history = before ++ a :: after →
    allowed a before) ?_ ?_
  · intro before a after hsplit
    exact absurd hsplit.symm (by simp)
  · intro history x ih hx before a after hsplit
    rcases List.eq_nil_or_concat after with rfl | ⟨after, y, rfl⟩
    · obtain ⟨rfl, hlast⟩ := List.append_inj' hsplit rfl
      cases hlast
      exact hx
    · rw [List.concat_eq_append, ← List.cons_append, ← List.append_assoc] at hsplit
      exact ih before a after (List.append_inj' hsplit rfl).1

/-- Resumption never weakens authentication, as long as every connection finds in the cache only
what connections of its own side and of its own strictness have put there. -/
theorem resumption_authenticated {log : List (Attempt × (Except Err Unit × Conn))}
    {history before after : List Attempt} {c : Conn}
    (hrun : Run (step P lower) (fun a h => Served P lower a h ∧ Separated P lower a h)
    [] log history)
    (hsplit : history = before ++ a :: after) (hok : a.handshake P lower = (.ok (), c))
    (hresumed : c.didResume = true) :
    Authenticated P lower a before c := by
  obtain ⟨hserved, hseparated⟩ := run_permitted hrun before a after hsplit
  exact hserved.authenticated hseparated hok hresumed

end

variable {i : Nat} {cs : SessionState}

section

variable {lower : Bytes → Bytes}

def notePut (lower : Bytes → Bytes) :
    Call → Store → Option SessionState × Store → List (Bytes × SessionState) →
    List (Bytes × SessionState)
  | .put key r, s, _, puts => puts ++ (s.heap[r]?).toList.map fun cs => (key, cs)
  | .clientSession remoteAddr serverName cs, _, _, puts =>
    puts ++ [(tlcpSessionKeyHex cs.sessionID, cs),
      (sessionCacheKey lower remoteAddr serverName, cs)]
  | _, _, _, puts => puts

def Known : Call → Store × List (Bytes × SessionState) → Prop
  | .put _ r, x => r < x.1.heap.length
  | _, _ => True

/-- Every entry refers to an object that was put under its key. -/
def Backed (s : Store) (puts : List (Bytes × SessionState)) : Prop :=
  ∀ e ∈ s.cache.order, ∃ cs stored,
  s.heap[e.2]? = some cs ∧ (e.1, stored) ∈ puts ∧ SameSession cs stored

variable {s : Store} {puts : List (Bytes × SessionState)}

lemma Backed.mono (h : Backed s puts) (more : List (Bytes × SessionState)) :
    Backed s (puts ++ more) := by
  intro e he
  obtain ⟨cs, stored, hheap, hput, hsame⟩ := h e he
  exact ⟨cs, stored, hheap, List.mem_append_left _ hput, hsame⟩

lemma Backed.append (h : Backed s puts) (more : List SessionState) :
    Backed { s with heap := s.heap ++ more } puts := by
  intro e he
  obtain ⟨cs, stored, hheap, hput, hsame⟩ := h e he
  refine ⟨cs, stored, ?_, hput, hsame⟩
  obtain ⟨hlt, _⟩ := List.getElem?_eq_some_iff.mp hheap
  exact (List.getElem?_append_left hlt).trans hheap

/-- An object that is wiped is still the same session. -/
lemma wipes_heap (h : s.heap[i]? = some cs) (refs : List Nat) :
    ∃ cs', (refs.foldl Store.wipe s).heap[i]? = some cs' ∧ SameSession cs' cs := by
  induction refs generalizing s cs with
  | nil => exact ⟨cs, h, rfl⟩
  | cons r refs ih =>
    by_cases hr : r = i
    · have hwiped : (s.wipe r).heap[i]? = some cs.wiped := by simp [Store.wipe, hr, h]
      obtain ⟨cs', hcs', hsame⟩ := ih hwiped
      exact ⟨cs', hcs', hsame⟩
    · exact ih (by simp [Store.wipe, hr, h])

lemma Backed.wipes (h : Backed s puts) (refs : List Nat) :
    Backed (refs.foldl Store.wipe s) puts := by
  intro e he
  rw [Store.foldl_wipe_cache] at he
  obtain ⟨cs, stored, hheap, hput, hsame⟩ := h e he
  obtain ⟨cs', hheap', hsame'⟩ := wipes_heap hheap refs
  exact ⟨cs', stored, hheap', hput, Eq.trans hsame' hsame⟩

lemma put_heap (key : Bytes) (r : Nat) (h : s.heap[i]? = some cs) :
    ∃ cs', (s.put key r).heap[i]? = some cs' ∧ SameSession cs' cs := by
  rw [Store.put_eq]
  exact wipes_heap (s := { s with cache := s.cache.store key r }) h _

lemma Backed.store (h : Backed s puts) {key : Bytes} {r : Nat} {stored : SessionState}
    (hheap : s.heap[r]? = some cs) (hput : (key, stored) ∈ puts) (hsame : SameSession cs stored) :
    Backed { s with cache := s.cache.store key r } puts := by
  intro e he
  rcases mem_store he with rfl | ⟨hmem, _⟩
  · exact ⟨cs, stored, hheap, hput, hsame⟩
  · exact h e hmem

lemma Backed.put (h : Backed s puts) {key : Bytes} {r : Nat} {stored : SessionState}
    (hheap : s.heap[r]? = some cs) (hput : (key, stored) ∈ puts) (hsame : SameSession cs stored) :
    Backed (s.put key r) puts := by
  rw [Store.put_eq]
  exact (h.store hheap hput hsame).wipes _

lemma Backed.step {call : Call} (h : Backed s puts) (hknown : Known call (s, puts)) :
    Backed (call.step lower s).2 (notePut lower call s (call.step lower s) puts) := by
  cases call with
  | make cs => exact h.append [cs]
  | get key =>
    change Backed (s.get key).2 puts
    unfold Store.get
    cases hfind : find key s.cache.order with
    | none => exact h
    | some r =>
      obtain ⟨cs, stored, hheap, hput, hsame⟩ := h _ (find_mem hfind)
      obtain ⟨hlt, _⟩ := List.getElem?_eq_some_iff.mp hheap
      exact (h.append _).store ((List.getElem?_append_left hlt).trans hheap) hput hsame
  | put key r =>
    obtain ⟨cs, hheap⟩ : ∃ cs, s.heap[r]? = some cs := ⟨_, List.getElem?_eq_getElem hknown⟩
    change Backed (s.put key r) (puts ++ (s.heap[r]?).toList.map fun cs => (key, cs))
    rw [hheap]
    exact (h.mono _).put hheap (by simp) rfl
  | delete key =>
    change Backed (s.delete key) puts
    unfold Store.delete
    cases hfind : find key s.cache.order with
    | none => exact h
    | some old => exact fun e he => h.wipes [old] e (mem_without.mp he).1
  | clientSession remoteAddr serverName cs =>
    -- The object is put twice; the first `Put` may have wiped what it referred to before.
    let more := [(tlcpSessionKeyHex cs.sessionID, cs),
      (sessionCacheKey lower remoteAddr serverName, cs)]
    have hbase : Backed (s.alloc cs) (puts ++ more) := (h.mono more).append [cs]
    have hmade : (s.alloc cs).heap[s.heap.length]? = some cs := by simp [Store.alloc]
    obtain ⟨cs', hstill, hsame⟩ := put_heap (tlcpSessionKeyHex cs.sessionID) s.heap.length hmade
    have hfirst := hbase.put hmade (List.mem_append_right puts List.mem_cons_self) rfl
    exact hfirst.put hstill (List.mem_append_right puts (List.mem_cons_of_mem _ List.mem_cons_self))
      hsame

/-- Whatever is done with the cache, a session that it returns was put under that key. -/
theorem lru_backs (lower : Bytes → Bytes) {capacity : Int} {log : List (Call × Option SessionState)}
    {x : Store × List (Bytes × SessionState)}
    (h : Run (watched (Call.step lower) (notePut lower)) Known
      (⟨[], newLRUSessionCache capacity⟩, []) log x) : Backs x.2 fun key => (x.1.get key).1 := by
  have hbacked : Backed x.1 x.2 :=
    h.stateInvariant (I := fun x : Store × List (Bytes × SessionState) => Backed x.1 x.2)
      (fun _ he => absurd he List.not_mem_nil) fun x call hx hknown => hx.step hknown
  intro key sess hsess
  change sess ∈ (x.1.get key).1 at hsess
  unfold Store.get at hsess
  split at hsess
  · cases hsess
  · rename_i r hfind
    obtain ⟨cs, stored, hheap, hput, hsame⟩ := hbacked _ (find_mem hfind)
    cases hheap.symm.trans hsess
    exact ⟨stored, hput, hsame⟩

theorem lru_backs_put :
    let x := (exec (watched (Call.step id) (notePut id)) overwriteAndEvict
      (⟨[], newLRUSessionCache 2⟩, [])).2
    ((x.1.get [2]).1 = none ∧ (x.1.get [1]).1 = some (sampleSession [1] 3)) ∧
      ∃ stored, ([1], stored) ∈ x.2 ∧ SameSession (sampleSession [1] 3) stored := by
  intro x
  have hget : (x.1.get [1]).1 = some (sampleSession [1] 3) := by decide
  have hallowed : AllAllowed (watched (Call.step id) (notePut id)) Known overwriteAndEvict
    (⟨[], newLRUSessionCache 2⟩, []) :=
    ⟨trivial, Nat.lt_add_one 0, trivial, Nat.lt_add_one 1, trivial, Nat.lt_add_one 2, trivial,
      Nat.lt_add_one 3, trivial⟩
  exact ⟨⟨by decide, hget⟩, lru_backs id (exec_run hallowed) _ _ hget⟩

end

variable {first second : Attempt}

lemma run_two {lower : Bytes → Bytes} (hfirst : allowed first [])
    (hsecond : allowed second [first]) : ∃ log, Run (step P lower) allowed [] log [first, second] :=
  ⟨_, (Run.start.call first hfirst).call second hsecond⟩

def firstPut (puts : List (Bytes × SessionState)) (key : Bytes) : Option SessionState :=
  (puts.find? fun e => e.1 = key).map Prod.snd

lemma firstPut_backs (puts : List (Bytes × SessionState)) : Backs puts (firstPut puts) := by
  intro key sess hsess
  obtain ⟨e, hfind, rfl⟩ := Option.map_eq_some_iff.mp hsess
  have hkey : e.1 = key := by simpa using List.find?_some hfind
  exact ⟨e.2, hkey ▸ List.mem_of_find?_eq_some hfind, rfl⟩

def keyPair (k : UInt8) : KeyPair := ⟨[[k]], ⟨"*sm2.PrivateKey", true, [k]⟩, true, true⟩

def openConfig : Config where
  version := ""
  cipherSuites := [suiteECC_SM2_SM4_GCM_SM3]
  serverName := [115]
  insecureSkipVerify := false
  sessionCache := true
  signCertificate := some (keyPair 1)
  encCertificate := some (keyPair 2)
  clientAuth := .noClientCert
  clientCACertificates := []
  signRootCertificates := [⟨[1], some [1]⟩]
  encRootCertificates := [⟨[2], some [2]⟩]

def strictConfig : Config :=
  { openConfig with
    clientAuth := .requireAndVerifyClientCert, clientCACertificates := [⟨[1], some [1]⟩] }

/-- A client that trusts another root; `careless` does not look. -/
def doubting : Config :=
  { openConfig with signRootCertificates := [⟨[9], some [9]⟩], encRootCertificates := [] }

def careless : Config := { doubting with insecureSkipVerify := true }

def party (config : Config) (isClient : Bool) (cached : Option SessionState) : Party :=
  ⟨(configToNative config isClient).toOption.getD sampleConfig, sampleEnv cached⟩

/-- One side with a peer of the open configuration; both have the first session of the cache. -/
def attempt (isClient : Bool) (config : Config) (puts : List (Bytes × SessionState)) : Attempt :=
  let cached := puts.head?.map Prod.snd
  let toClient := (exchanged (party config true cached) (party openConfig false cached) 2).1
  let toServer := (exchanged (party openConfig true cached) (party config false cached) 2).2
  { isClient := isClient
    config := config
    remoteAddr := [1]
    lookup := firstPut puts
    helloTime := 0
    lookupTime := 0
    createdTime := 0
    incoming := if isClient then toClient else toServer
    writeResults := []
    rand := zeros 200 }

def sampleFirst (isClient : Bool) (config : Config) : Attempt := attempt isClient config []

def sampleSecond (first : Attempt) (isClient : Bool) (config : Config) : Attempt :=
  attempt isClient config (first.puts toyTlcpPrims id)

lemma sampleFirst_served (isClient : Bool) (config : Config) :
    Served toyTlcpPrims id (sampleFirst isClient config) [] := firstPut_backs []

lemma sampleSecond_served (first : Attempt) (isClient : Bool) (config : Config) :
    Served toyTlcpPrims id (sampleSecond first isClient config) [first] := by
  have hputs : [first].flatMap (·.puts toyTlcpPrims id) = first.puts toyTlcpPrims id :=
    List.append_nil _
  unfold Served
  rw [hputs]
  exact firstPut_backs _

theorem resumption_authenticated_strict :
    let first := sampleFirst false strictConfig
    let second := sampleSecond first false strictConfig
    let r := second.handshake toyTlcpPrims id
    r.1 = .ok () ∧ r.2.didResume = true ∧ Authenticated toyTlcpPrims id second [first] r.2 := by
  intro first second r
  have hran : r.1 = .ok () ∧ r.2.didResume = true := by decide +kernel
  have hfirst : Separated toyTlcpPrims id first [] :=
    ⟨fun _ _ hb => absurd hb List.not_mem_nil, fun _ _ _ hb => absurd hb List.not_mem_nil⟩
  have hsecond : Separated toyTlcpPrims id second [first] := by
    refine ⟨fun _ b hb _ => ?_, fun hside => absurd hside (by decide)⟩
    rw [List.mem_singleton.mp hb]
    exact ⟨rfl, id, fun hverifies => ⟨hverifies, rfl⟩⟩
  have hrun : ∃ log, Run (step toyTlcpPrims id) (fun a h => Served toyTlcpPrims id a h ∧
      Separated toyTlcpPrims id a h) [] log [first, second] :=
    run_two ⟨sampleFirst_served false strictConfig, hfirst⟩
      ⟨sampleSecond_served first false strictConfig, hsecond⟩
  obtain ⟨log, hrun⟩ := hrun
  exact ⟨hran.1, hran.2, resumption_authenticated hrun rfl (eq_of_fst_ok hran.1) hran.2⟩

/-- The second connection of a run resumes, and is not authenticated. -/
def Weakened (first second : Attempt) : Prop :=
  (∃ log, Run (step toyTlcpPrims id) (Served toyTlcpPrims id) [] log [first, second]) ∧
    (second.handshake toyTlcpPrims id).1 = .ok () ∧
      (second.handshake toyTlcpPrims id).2.didResume = true ∧
    ¬ Authenticated toyTlcpPrims id second [first] (second.handshake toyTlcpPrims id).2

def Resumes (a : Attempt) (certs : List Bytes) : Prop :=
  (a.handshake toyTlcpPrims id).1 = .ok () ∧ (a.handshake toyTlcpPrims id).2.didResume = true ∧
    (a.handshake toyTlcpPrims id).2.peerCertificates = certs

instance Resumes.decidable (a : Attempt) (certs : List Bytes) : Decidable (Resumes a certs) :=
  inferInstanceAs (Decidable (_ ∧ _ ∧ _))

lemma Weakened.of_samples {isClient' : Bool} {config config' : Config} {certs : List Bytes}
    (hfirst : first = sampleFirst isClient config)
    (hsecond : second = sampleSecond first isClient' config') (hran : Resumes second certs)
    (hnot : ¬ Authenticated toyTlcpPrims id second [first] (second.handshake toyTlcpPrims id).2) :
    Weakened first second := by
  refine ⟨run_two ?_ ?_, hran.1, hran.2.1, hnot⟩
  · rw [hfirst]
    exact sampleFirst_served isClient config
  · rw [hsecond]
    exact sampleSecond_served first isClient' config'

lemma careless_unverified {native : EngineConfig}
    (hnative : configToNative careless true = .ok native) :
    ¬ ServerVerified toyTlcpPrims native [[1], [2]] := by
  rintro ⟨server, _, hsign, _, hverify⟩
  have hrootCAs : (configToNative careless true).toOption.map EngineConfig.rootCAs =
    some [[9]] := by decide +kernel
  rw [hnative] at hrootCAs
  have hroot : native.rootCAs = [[9]] := Option.some.inj hrootCAs
  simp only [verifyServer, bind_ok, wrapErr_ok, reject_ok, hroot] at hverify
  obtain ⟨roots, hroots, _, _, intermediates, _, _, hcert, _⟩ := hverify
  cases hroots
  rw [← Except.ok.inj hsign] at hcert
  have hrefused : toyTlcpPrims.verifyCertificate ⟨[1], some [1]⟩
      ⟨[⟨[9], some [9]⟩], intermediates, native.serverName, .serverAuth⟩ =
        .error (.text "x509: unknown authority") := rfl
  cases hrefused.symm.trans hcert

/-- A server that demands a verified certificate resumes a session made without one; a client that
verifies resumes a session whose server was never verified; and a server resumes a session that a
client made with some other server. -/
theorem resumption_weakens_authentication :
    (let first := sampleFirst false openConfig; Weakened first
      (sampleSecond first false strictConfig)) ∧
    (let first := sampleFirst true careless; Weakened first (sampleSecond first true doubting)) ∧
    (let first := sampleFirst true openConfig; Weakened first
      (sampleSecond first false strictConfig)) := by
  have hopen : Resumes (sampleSecond (sampleFirst false openConfig) false strictConfig) [] := by
    decide +kernel
  have hcareless : Resumes (sampleSecond (sampleFirst true careless) true doubting) [[1], [2]] := by
    decide +kernel
  have hother : Resumes (sampleSecond (sampleFirst true openConfig) false strictConfig) [[1],
    [2]] := by decide +kernel
  refine ⟨.of_samples rfl rfl hopen fun h => ?_, .of_samples rfl rfl hcareless fun h => ?_,
    .of_samples rfl rfl hother fun h => ?_⟩
  · obtain ⟨_, sess, _, ⟨_, _, hcerts⟩, _, _, _, hsatisfies⟩ := h.server rfl
    exact hsatisfies.shown rfl (hcerts.symm.trans hopen.2.2)
  · obtain ⟨sess, b, native, ⟨_, _, hcerts⟩, _, hb, _, _, _, hnative, hverified⟩ := h.client rfl rfl
    rw [List.mem_singleton.mp hb] at hnative
    rw [← hcerts, hcareless.2.2] at hverified
    exact careless_unverified hnative hverified
  · obtain ⟨_, _, b, _, hb, hside, _⟩ := h.server rfl
    rw [List.mem_singleton.mp hb] at hside
    cases hside

end Pollux.Tlcp
