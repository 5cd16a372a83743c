import PolluxGM.TlcpFlights

/-!
# The two sides of a handshake

Everything that a client and a server know at the end of a handshake that went through,
full or resumed, put together from the flights.
-/
namespace Pollux.Tlcp

open TlcpSession

variable {P : Prims} {config : EngineConfig} {env : Surroundings}

/-- Once the Finished of the peer has been read, the matter is settled. -/
def Settles (c d : Conn) : Prop := ∀ start, Opening start (readSide c) → Settled start (readSide d)

lemma serverFlight_unfinished (f : ServerFlight) : MessageType.finished ∉ f.types := by
  unfold ServerFlight.types
  cases f.request.isSome <;> decide

lemma clientFlight_unfinished (f : ClientFlight) : MessageType.finished ∉ f.types := by
  unfold ClientFlight.types
  cases f.certificate.isSome <;> cases f.verify.isSome <;> decide

/-- How the client has come to its master secret in a full handshake. -/
structure ClientExchange (P : Prims) (config : EngineConfig) (a : Account)
    (f : ServerFlight × ClientFlight) : Prop where
  made : ∃ pms encPub ephPub, ServerRead P a.suite a.clientRandom a.serverRandom encPub ephPub f.1 ∧
    ClientSent P config a.suite encPub ephPub pms f.2 ∧
    a.masterSecret = tlcpMasterFromPreMaster P.toRecordPrims pms a.clientRandom a.serverRandom

structure ClientRest (P : Prims) (config : EngineConfig) (suite : CipherSuite)
    (clientRandom serverRandom ch sh : Bytes) (a : Account) (m : Script) (c d : Conn) : Prop where
  suite : a.suite = suite
  clientRandom : a.clientRandom = clientRandom
  serverRandom : a.serverRandom = serverRandom
  clientHello : m.clientHello = ch
  serverHello : m.serverHello = sh
  follows : a.Follows m
  passes : Passes c d (m.serverFlight ++ [m.serverFinished])
  sent : a.sent = (m.clientFlight ++ [m.clientFinished]).flatten
  finished : FinishedMsg.marshal
    ⟨finishedSum P clientFinishedLabel a.masterSecret a.clientFinished⟩ = .ok m.clientFinished
  exchange : ∀ f ∈ m.flights, ClientExchange P config a f
  keyed : ∃ writeSpec, Keyed P a.suite a.masterSecret a.clientRandom a.serverRandom writeSpec d ∧
    d.outHalf.current = some writeSpec
  settles : Settles c d

structure Held (P : Prims) (isClient : Bool) (a : Account) (c : Conn) : Prop where
  isClient : c.isClient = isClient
  cipherSuite : c.cipherSuite = a.suite.id
  didResume : c.didResume = a.resumed
  keyed : ∃ writeSpec, Keyed P a.suite a.masterSecret a.clientRandom a.serverRandom writeSpec c ∧
    c.outHalf.current = some writeSpec

variable {sess : SessionState} {e : Conn}

section

variable {suite : CipherSuite} {hello : ClientHelloMsg} {serverHello : ServerHelloMsg}
  {ch sh : Bytes} {a : Account} {c d : Conn}

lemma clientResumeAccount_told (hch : Says [MessageType.clientHello] [ch])
    (hsh : Says [MessageType.serverHello] [sh])
    (h : clientResumeAccount P suite hello serverHello (ch ++ sh) sess c = (.ok a, d)) :
    a.resumed = true ∧ ∃ m,
      ClientRest P config suite hello.random serverHello.random ch sh a m c d := by
  unfold clientResumeAccount at h
  obtain ⟨_, c₁, hupdate, h⟩ := bind_eq_ok.mp h
  have hreads₁ := update_reads hupdate rfl ⟨rfl, rfl, rfl⟩
  obtain ⟨_, c₂, hkeys, h⟩ := bind_eq_ok.mp h
  obtain ⟨writeSpec, hkeyed, hnext, hpass₂, _, hstage⟩ := establishKeys_told hkeys
  obtain ⟨_, c₃, hread, h⟩ := bind_eq_ok.mp h
  obtain ⟨sfin, _, hsfin, rfl, hpass₃, hread₃, hsettle⟩ := readFinished_told hread
  obtain ⟨_, c₄, hbuffer, h⟩ := bind_eq_ok.mp h
  have hquiet₄ := startBuffering_quiet.step hbuffer
  obtain ⟨_, c₅, hsend, h⟩ := bind_eq_ok.mp h
  obtain ⟨cfin, hmarshal, hcfin, rfl, hwrote₅, hcurrent⟩ := sendFinished_told hsend
  cases h
  have hpass := (hpass₃.trans hquiet₄.reads.toPasses).trans (wrote_reads hwrote₅).toPasses
  refine ⟨rfl, ⟨ch, sh, none, cfin, sfin⟩, ?_⟩
  exact
    { suite := rfl
      clientRandom := rfl
      serverRandom := rfl
      clientHello := rfl
      serverHello := rfl
      follows := ⟨hch.append hcfin, hsh.append hsfin, rfl,
        by simp [Script.opening, Script.serverFlight, Script.clientFlight],
        by simp [Script.opening, Script.serverFlight, Script.clientFlight]⟩
      passes := (hreads₁.toPasses.trans hpass₂).trans hpass
      sent := by simp [Script.clientFlight]
      finished := hmarshal
      exchange := by simp
      keyed := ⟨writeSpec, hkeyed.passes hpass,
        by rw [hcurrent, hquiet₄.outHalf, hread₃.outHalf, hnext]⟩
      settles := by
        intro start hc
        rw [hwrote₅.readSide, hquiet₄.readSide]
        exact hsettle start (hstage start (hreads₁.opens (by simp) start hc)) }

lemma createNewClientSession_quiet (serverHello : ServerHelloMsg) (masterSecret : Bytes) :
    Keeps Quiet (createNewClientSession config env serverHello masterSecret) := by
  unfold createNewClientSession
  split
  · exact (Keeps.ask _).bind fun _ => (noteCache_quiet _).bind fun _ => noteCache_quiet _
  · exact Keeps.pure _

lemma clientFullAccount_told (hch : Says [MessageType.clientHello] [ch])
    (hsh : Says [MessageType.serverHello] [sh])
    (h : clientFullAccount P config env suite hello serverHello (ch ++ sh) c = (.ok a, d)) :
    a.resumed = false ∧ ∃ m,
      ClientRest P config suite hello.random serverHello.random ch sh a m c d := by
  unfold clientFullAccount at h
  obtain ⟨_, c₁, hupdate, h⟩ := bind_eq_ok.mp h
  have hreads₁ := update_reads hupdate rfl ⟨rfl, rfl, rfl⟩
  obtain ⟨⟨sigType, server, ephPub, asked, _⟩, c₂, hflight, h⟩ := bind_eq_ok.mp h
  obtain ⟨sf, hreads₂, rfl, _, hsf, hserverRead⟩ := readServerFlight_told hflight
  obtain ⟨⟨masterSecret, _⟩, c₃, hflight', h⟩ := bind_eq_ok.mp h
  obtain ⟨cf, pms, _, rfl, hcf, hclientSent, hmaster⟩ := sendClientFlight_told hflight'
  have hreads₃ := wrote_reads ((sendClientFlight_wrote _ _ _ _ _ _ _ _).step hflight')
  obtain ⟨_, c₄, hkeys, h⟩ := bind_eq_ok.mp h
  obtain ⟨writeSpec, hkeyed, hnext, hpass₄, _, hstage⟩ := establishKeys_told hkeys
  obtain ⟨_, c₅, hbuffer, h⟩ := bind_eq_ok.mp h
  have hquiet₅ := startBuffering_quiet.step hbuffer
  obtain ⟨_, c₆, hsend, h⟩ := bind_eq_ok.mp h
  obtain ⟨cfin, hmarshal, hcfin, rfl, hwrote₆, hcurrent⟩ := sendFinished_told hsend
  obtain ⟨_, c₇, hread, h⟩ := bind_eq_ok.mp h
  obtain ⟨sfin, _, hsfin, _, hpass₇, hread₇, hsettle⟩ := readFinished_told hread
  obtain ⟨_, c₈, hsession, h⟩ := bind_eq_ok.mp h
  have hquiet₈ := (createNewClientSession_quiet serverHello masterSecret).step hsession
  cases h
  have hpass := ((hquiet₅.reads.trans (wrote_reads hwrote₆)).toPasses.trans hpass₇).trans
    hquiet₈.reads.toPasses
  refine ⟨rfl, ⟨ch, sh, some (sf, cf), cfin, sfin⟩, ?_⟩
  exact
    { suite := rfl
      clientRandom := rfl
      serverRandom := rfl
      clientHello := rfl
      serverHello := rfl
      follows := ⟨hch.append (hcf.append hcfin), hsh.append (hsf.append hsfin), rfl,
        by simp [Script.opening, Script.serverFlight, Script.clientFlight],
        by simp [Script.opening, Script.serverFlight, Script.clientFlight]⟩
      passes := (hreads₁.trans hreads₂).toPasses.trans ((hreads₃.toPasses.trans hpass₄).trans hpass)
      sent := by simp [Script.clientFlight]
      finished := hmarshal
      exchange := by
        intro f hf
        cases hf
        exact ⟨pms, server.encPub, ephPub, hserverRead, hclientSent, hmaster⟩
      keyed := ⟨writeSpec, hkeyed.passes hpass,
        by rw [hquiet₈.outHalf, hread₇.outHalf, hcurrent, hquiet₅.outHalf, hnext]⟩
      settles := by
        intro start hc
        have hopening :=
          (hreads₁.trans hreads₂).opens (hsf.unfinished (serverFlight_unfinished sf)) start hc
        have hstaged := hstage start (hreads₃.opens (by simp) start hopening)
        rw [← hquiet₅.readSide, ← hwrote₆.readSide] at hstaged
        rw [hquiet₈.readSide]
        exact hsettle start hstaged }

lemma loadSession_quiet : Keeps Quiet (loadSession config env) := by
  unfold loadSession
  split
  · refine (noteCache_quiet _).bind fun _ => ?_
    split
    · exact Keeps.pure _
    split
    · exact Keeps.update fun _ => ⟨rfl, rfl, rfl, rfl, rfl, rfl⟩
    · exact Keeps.pure _
  · exact Keeps.pure _

lemma offered_ne_nil (config : EngineConfig) : offered config ≠ [] := by
  unfold offered
  split
  · decide
  · assumption

structure ClientSide (P : Prims) (config : EngineConfig) (a : Account) (m : Script) (c : Conn) :
    Prop where
  follows : a.Follows m
  received : received c = m.fromServer
  sent : a.sent = m.fromClient.flatten
  hello : ∃ hello : ClientHelloMsg, hello.marshal = .ok m.clientHello ∧
    ClientHelloMsg.Encodable hello ∧
    hello.cipherSuites = offered config ∧ a.clientRandom = hello.random
  serverHello : ∃ serverHello, ServerHelloMsg.unmarshal m.serverHello = some serverHello ∧
    tlcpLookupCipherSuite serverHello.cipherSuite = some a.suite ∧
      serverHello.cipherSuite ∈ offered config ∧
    a.serverRandom = serverHello.random
  finished : FinishedMsg.marshal
    ⟨finishedSum P clientFinishedLabel a.masterSecret a.clientFinished⟩ = .ok m.clientFinished
  exchange : ∀ f ∈ m.flights, ClientExchange P config a f
  held : Held P true a c

lemma lookup_id {id : UInt16} (h : tlcpLookupCipherSuite id = some suite) : suite.id = id := by
  simpa using List.find?_some h

lemma received_append (h : Hears c d ms) : received d = received c ++ ms := by
  obtain ⟨es, hreads, rfl⟩ := h
  rw [received, hreads, List.filterMap_append]
  rfl

lemma ClientRest.side {m : Script}
    (hrest : ClientRest P config suite hello.random serverHello.random ch sh a m c e)
    (hmarshal : hello.marshal = .ok ch) (hencodable : ClientHelloMsg.Encodable hello)
    (hsuites : hello.cipherSuites = offered config)
    (hparse : ServerHelloMsg.unmarshal sh = some serverHello)
    (hsuite : tlcpLookupCipherSuite serverHello.cipherSuite = some suite)
    (hoffer : serverHello.cipherSuite ∈ offered config) (hreceived : received c = [sh])
    (hcipher : c.cipherSuite = serverHello.cipherSuite) (hrole : c.isClient = true)
    (hd : d = { e with didResume := a.resumed }) :
    ClientSide P config { a with sent := ch ++ a.sent } m d := by
  subst hd
  obtain ⟨writeSpec, hkeyed, hcurrent⟩ := hrest.keyed
  have hall : received e = [sh] ++ (m.serverFlight ++ [m.serverFinished]) := by
    rw [received_append hrest.passes.hears, hreceived]
  exact
    { follows := ⟨hrest.follows.client, hrest.follows.server, hrest.follows.resumed,
        hrest.follows.clientFinished, hrest.follows.serverFinished⟩
      received := by
        rw [Script.fromServer, hrest.serverHello]
        exact hall
      sent := by rw [Script.fromClient, List.flatten_cons, ← hrest.sent, hrest.clientHello]
      hello := ⟨hello, by rw [hrest.clientHello, hmarshal], hencodable, hsuites, hrest.clientRandom⟩
      serverHello := ⟨serverHello,
        by rw [hrest.serverHello, hparse], by rw [hsuite, hrest.suite], hoffer, hrest.serverRandom⟩
      finished := hrest.finished
      exchange := fun f hf => ⟨(hrest.exchange f hf).made⟩
      held :=
        { isClient := hrest.passes.steady.isClient.trans hrole
          cipherSuite := by
            change e.cipherSuite = a.suite.id
            rw [hrest.passes.steady.cipherSuite, hcipher, hrest.suite, lookup_id hsuite]
          didResume := rfl
          keyed := ⟨writeSpec, ⟨hkeyed.specs⟩, hcurrent⟩ } }

lemma clientAccount_told (hrole : c.isClient = true) (hfresh : received c = [])
    (hresume : c.didResume = false) (h : clientAccount P config env c = (.ok a, d)) :
    ∃ m, ClientSide P config a m d ∧ Settles c d := by
  unfold clientAccount at h
  obtain ⟨_, _, hrefuse, h⟩ := bind_eq_ok.mp h
  obtain ⟨_, rfl⟩ := refuse_eq_ok.mp hrefuse
  obtain ⟨_, c₁, hload, h⟩ := bind_eq_ok.mp h
  have hquiet₁ := loadSession_quiet.step hload
  obtain ⟨⟨hello, ch⟩, c₂, hsend, h⟩ := bind_eq_ok.mp h
  obtain ⟨hmarshal, hencodable, hsuites⟩ := sendClientHello_told hsend
  have hreads := hquiet₁.reads.trans (wrote_reads (sendClientHello_wrote.step hsend))
  obtain ⟨⟨serverHello, sh, suite⟩, c₃, hreceive, h⟩ := bind_eq_ok.mp h
  obtain ⟨hparse, hsh, hhears, hopens, hsuite, hoffer, hrole₃, hcipher, hresume₃⟩ :=
    receiveServerHello_told hreceive
  have hch := clientHello_spoken hmarshal
  rw [hsuites, if_neg (offered_ne_nil config)] at hoffer
  have hreceived : received c₃ = [sh] := by
    rw [received_append (hreads.hears.trans hhears), hfresh]
    rfl
  have hrole' : c₃.isClient = true := by rw [hrole₃, hreads.steady.isClient, hrole]
  have hopen (start : List Arrival) :=
    (hreads.opens.trans hopens) (hsh.unfinished (by decide)) start
  obtain ⟨resumed, _, hask, h⟩ := bind_eq_ok.mp h
  obtain ⟨_, rfl⟩ := ask_eq_ok.mp hask
  cases resumed with
  | none =>
    obtain ⟨a₀, c₄, hfull, h⟩ := bind_eq_ok.mp h
    cases h
    obtain ⟨hfalse, m, hrest⟩ := clientFullAccount_told hch hsh hfull
    have hresumed : d.didResume = a₀.resumed := by
      rw [hrest.passes.steady.didResume, hresume₃, hreads.steady.didResume, hresume, hfalse]
    exact ⟨m, hrest.side hmarshal hencodable hsuites hparse hsuite hoffer hreceived hcipher hrole'
      (by rw [← hresumed]), fun start hc => hrest.settles start (hopen start hc)⟩
  | some sess =>
    simp only [bind_eq_ok, onError_eq_ok, update_eq_ok, pure_eq_ok] at h
    obtain ⟨a₀, c₄, hresumed, _, _, rfl, rfl, rfl⟩ := h
    obtain ⟨htrue, m, hrest⟩ := clientResumeAccount_told hch hsh hresumed
    exact ⟨m, hrest.side hmarshal hencodable hsuites hparse hsuite hoffer hreceived hcipher hrole'
      (by rw [htrue]), fun start hc => hrest.settles start (hopen start hc)⟩

end

/-- How the server has come to its master secret after the hellos. -/
structure ServerExchange (P : Prims) (config : EngineConfig) (a : Account)
    (certificates : List Bytes) (hellos : Bytes) (f : ServerFlight × ClientFlight) : Prop where
  asked : f.2.certificate.isSome = (config.requestClientCert || a.suite.ecdhe)
  made : ∃ keys sigType state client pms, serverKeys config = some keys ∧
    tlcpSigTypeForSuite a.suite.id = .ok sigType ∧
    ServerSent P keys a.suite a.clientRandom a.serverRandom state f.1 ∧
    ClientRead P config keys a.suite sigType state (hellos ++ f.1.messages.flatten) pms certificates
      client f.2 ∧
    a.masterSecret = tlcpMasterFromPreMaster P.toRecordPrims pms a.clientRandom a.serverRandom

structure ServerRest (P : Prims) (config : EngineConfig) (suite : CipherSuite)
    (clientRandom ch : Bytes) (a : Account) (m : Script) (c d : Conn) : Prop where
  suite : a.suite = suite
  clientRandom : a.clientRandom = clientRandom
  clientHello : m.clientHello = ch
  serverHello : ∃ serverHello : ServerHelloMsg, serverHello.marshal = .ok m.serverHello ∧
    ServerHelloMsg.Encodable serverHello ∧ serverHello.cipherSuite = a.suite.id ∧
      a.serverRandom = serverHello.random
  follows : a.Follows m
  passes : Passes c d (m.clientFlight ++ [m.clientFinished])
  sent : a.sent = m.fromServer.flatten
  finished : FinishedMsg.unmarshal m.clientFinished =
    some ⟨finishedSum P clientFinishedLabel a.masterSecret a.clientFinished⟩
  exchange : ∀ f ∈ m.flights,
    ServerExchange P config a d.peerCertificates (m.clientHello ++ m.serverHello) f
  keyed : ∃ writeSpec, Keyed P a.suite a.masterSecret a.clientRandom a.serverRandom writeSpec d ∧
    d.outHalf.current = some writeSpec
  settles : Settles c d

section

variable {suite : CipherSuite} {clientHello : ClientHelloMsg} {ch : Bytes} {a : Account}
  {c d : Conn}

lemma serverResumeAccount_told (hch : Says [MessageType.clientHello] [ch])
    (h : serverResumeAccount P env suite clientHello ch sess c = (.ok a, d)) :
    a.resumed = true ∧ ∃ m, ServerRest P config suite clientHello.random ch a m c d := by
  unfold serverResumeAccount at h
  obtain ⟨random, c₁, hrandom, h⟩ := bind_eq_ok.mp h
  have hreads₁ := wrote_reads ((drawRandom_wrote _).step hrandom)
  obtain ⟨_, c₂, hbuffer, h⟩ := bind_eq_ok.mp h
  have hreads₂ := hreads₁.trans (startBuffering_quiet.step hbuffer).reads
  obtain ⟨_, c₃, hhello, h⟩ := bind_eq_ok.mp h
  obtain ⟨sh, hmarshal, rfl⟩ := writeHandshakeRecord_told hhello
  have hreads₃ := hreads₂.trans (wrote_reads ((writeHandshakeRecord_wrote _ _).step hhello))
  obtain ⟨_, c₄, hflush, h⟩ := bind_eq_ok.mp h
  have hreads₄ := hreads₃.trans (wrote_reads (flush_wrote.step hflush))
  obtain ⟨_, c₅, hupdate, h⟩ := bind_eq_ok.mp h
  have hreads := hreads₄.trans (update_reads hupdate rfl ⟨rfl, rfl, rfl⟩)
  obtain ⟨_, c₆, hkeys, h⟩ := bind_eq_ok.mp h
  obtain ⟨writeSpec, hkeyed, hnext, hpass₆, _, hstage⟩ := establishKeys_told hkeys
  obtain ⟨_, c₇, hsend, h⟩ := bind_eq_ok.mp h
  obtain ⟨sfin, _, hsfin, rfl, hwrote₇, hcurrent⟩ := sendFinished_told hsend
  obtain ⟨_, c₈, hread, h⟩ := bind_eq_ok.mp h
  obtain ⟨cfin, hverified, hcfin, _, hpass₈, hread₈, hsettle⟩ := readFinished_told hread
  cases h
  have hpass := (wrote_reads hwrote₇).toPasses.trans hpass₈
  refine ⟨rfl, ⟨ch, sh, none, cfin, sfin⟩, ?_⟩
  exact
    { suite := rfl
      clientRandom := rfl
      clientHello := rfl
      serverHello := ⟨_, hmarshal, serverHello_encodable (drawRandom_length hrandom) _ _, rfl, rfl⟩
      follows := ⟨hch.append hcfin, (serverHello_spoken hmarshal).append hsfin, rfl,
        by simp [Script.opening, Script.serverFlight, Script.clientFlight],
        by simp [Script.opening, Script.serverFlight, Script.clientFlight]⟩
      passes := (hreads.toPasses.trans hpass₆).trans hpass
      sent := by simp [Script.fromServer, Script.serverFlight]
      finished := hverified
      exchange := by simp
      keyed := ⟨writeSpec, hkeyed.passes hpass, by rw [hread₈.outHalf, hcurrent, hnext]⟩
      settles := by
        intro start hc
        have hstaged := hstage start (hreads.opens (by simp) start hc)
        rw [← hwrote₇.readSide] at hstaged
        exact hsettle start hstaged }

lemma createNewServerSession_quiet (serverHello : ServerHelloMsg) (masterSecret : Bytes) :
    Keeps Quiet (createNewServerSession config env serverHello masterSecret) := by
  unfold createNewServerSession
  split
  · exact (Keeps.ask _).bind fun _ => noteCache_quiet _
  · exact Keeps.pure _

lemma serverFullAccount_told (hkeys : serverKeys config = some keys)
    (hfresh : c.peerCertificates = []) (hch : Says [MessageType.clientHello] [ch])
    (h : serverFullAccount P config env keys suite clientHello ch c = (.ok a, d)) :
    a.resumed = false ∧ ∃ m, ServerRest P config suite clientHello.random ch a m c d := by
  unfold serverFullAccount at h
  obtain ⟨random, c₁, hrandom, h⟩ := bind_eq_ok.mp h
  have hwrote₁ := (drawRandom_wrote _).step hrandom
  obtain ⟨sessionID, c₂, hsessionID, h⟩ := bind_eq_ok.mp h
  have hwrote₂ := (onRand_wrote _).step hsessionID
  obtain ⟨⟨sigType, state, _⟩, c₃, hflight, h⟩ := bind_eq_ok.mp h
  obtain ⟨sh, sf, hmarshal, rfl, hwant, hsf, hsig, hserverSent⟩ := sendServerFlight_told hflight
  have hwrote₃ := (sendServerFlight_wrote _ _ _ _ _ _).step hflight
  have hfresh₃ : c₃.peerCertificates = [] := by
    have hsame := (hwrote₃.outcome.trans hwrote₂.outcome).trans hwrote₁.outcome
    rw [← hfresh]
    exact congrArg Outcome.peerCertificates hsame
  obtain ⟨⟨masterSecret, _⟩, c₄, hflight', h⟩ := bind_eq_ok.mp h
  obtain ⟨cf, client, pms, hasked, hreads₄, rfl, hcf, hclientRead, hmaster⟩ :=
    readClientFlight_told hfresh₃ hflight'
  have hreads := ((wrote_reads hwrote₁).trans
    ((wrote_reads hwrote₂).trans (wrote_reads hwrote₃))).trans hreads₄
  obtain ⟨_, c₅, hkeys', h⟩ := bind_eq_ok.mp h
  obtain ⟨writeSpec, hkeyed, hnext, hpass₅, houtcome₅, hstage⟩ := establishKeys_told hkeys'
  obtain ⟨_, c₆, hread, h⟩ := bind_eq_ok.mp h
  obtain ⟨cfin, hverified, hcfin, rfl, hpass₆, hread₆, hsettle⟩ := readFinished_told hread
  obtain ⟨_, c₇, hbuffer, h⟩ := bind_eq_ok.mp h
  have hquiet₇ := startBuffering_quiet.step hbuffer
  obtain ⟨_, c₈, hsend, h⟩ := bind_eq_ok.mp h
  obtain ⟨sfin, _, hsfin, rfl, hwrote₈, hcurrent⟩ := sendFinished_told hsend
  obtain ⟨_, c₉, hsession, h⟩ := bind_eq_ok.mp h
  have hquiet₉ := (createNewServerSession_quiet _ masterSecret).step hsession
  cases h
  have hpass := ((hpass₆.trans hquiet₇.reads.toPasses).trans (wrote_reads hwrote₈).toPasses).trans
    hquiet₉.reads.toPasses
  have hpeer : d.peerCertificates = c₄.peerCertificates := by
    rw [hquiet₉.peerCertificates]
    exact congrArg Outcome.peerCertificates
      (((hwrote₈.outcome.trans (startBuffering_wrote.step hbuffer).outcome).trans
      hread₆.outcome).trans houtcome₅)
  have hclientRead' : ClientRead P config keys suite sigType state
      (ch ++ sh ++ sf.messages.flatten) pms d.peerCertificates client cf := by
    rw [hpeer, List.append_assoc]
    exact hclientRead
  refine ⟨rfl, ⟨ch, sh, some (sf, cf), cfin, sfin⟩, ?_⟩
  exact
    { suite := rfl
      clientRandom := rfl
      clientHello := rfl
      serverHello := ⟨_, hmarshal, serverHello_encodable (drawRandom_length hrandom) _ _, rfl, rfl⟩
      follows := ⟨hch.append (hcf.append hcfin), hsf.append hsfin, rfl,
        by simp [Script.opening, Script.serverFlight, Script.clientFlight],
        by simp [Script.opening, Script.serverFlight, Script.clientFlight]⟩
      passes := hreads.toPasses.trans (hpass₅.trans hpass)
      sent := by
        rw [List.drop_left, List.drop_left]
        simp [Script.fromServer, Script.serverFlight]
      finished := hverified
      exchange := by
        intro f hf
        cases hf
        exact ⟨hasked, keys, sigType, state, client, pms, hkeys, hsig, hserverSent, hclientRead',
          hmaster⟩
      keyed := ⟨writeSpec, hkeyed.passes hpass,
        by rw [hquiet₉.outHalf, hcurrent, hquiet₇.outHalf, hread₆.outHalf, hnext]⟩
      settles := by
        intro start hc
        rw [hquiet₉.readSide, hwrote₈.readSide, hquiet₇.readSide]
        exact hsettle start
          (hstage start (hreads.opens (hcf.unfinished (clientFlight_unfinished cf)) start hc)) }

lemma lookupResumedSession_quiet (clientHello : ClientHelloMsg) (suite : CipherSuite) :
    Keeps Quiet (lookupResumedSession config env clientHello suite) := by
  unfold lookupResumedSession
  split
  · exact Keeps.pure _
  · exact (noteCache_quiet _).bind fun _ => (Keeps.ask _).bind fun _ => Keeps.pure _

structure ServerSide (P : Prims) (config : EngineConfig) (a : Account) (m : Script) (c : Conn) :
    Prop where
  follows : a.Follows m
  received : received c = m.fromClient
  sent : a.sent = m.fromServer.flatten
  hello : ∃ clientHello, ClientHelloMsg.unmarshal m.clientHello = some clientHello ∧
    tlcpMutualCipherSuite config.cipherSuites clientHello.cipherSuites = some a.suite ∧
      a.clientRandom = clientHello.random
  serverHello : ∃ serverHello : ServerHelloMsg, serverHello.marshal = .ok m.serverHello ∧
    ServerHelloMsg.Encodable serverHello ∧ serverHello.cipherSuite = a.suite.id ∧
      a.serverRandom = serverHello.random
  finished : FinishedMsg.unmarshal m.clientFinished =
    some ⟨finishedSum P clientFinishedLabel a.masterSecret a.clientFinished⟩
  exchange : ∀ f ∈ m.flights,
    ServerExchange P config a c.peerCertificates (m.clientHello ++ m.serverHello) f
  held : Held P false a c

lemma ServerRest.side (hrest : ServerRest P config suite clientHello.random ch a m c e)
    (hparse : ClientHelloMsg.unmarshal ch = some clientHello)
    (hsuite : tlcpMutualCipherSuite config.cipherSuites clientHello.cipherSuites = some suite)
    (hreceived : received c = [ch]) (hcipher : c.cipherSuite = suite.id)
    (hrole : c.isClient = false) (hd : d = { e with didResume := a.resumed }) :
    ServerSide P config a m d := by
  subst hd
  obtain ⟨writeSpec, hkeyed, hcurrent⟩ := hrest.keyed
  have hall : received e = [ch] ++ (m.clientFlight ++ [m.clientFinished]) := by
    rw [received_append hrest.passes.hears, hreceived]
  exact
    { follows := hrest.follows
      received := by
        rw [Script.fromClient, hrest.clientHello]
        exact hall
      sent := hrest.sent
      hello := ⟨clientHello,
        by rw [hrest.clientHello, hparse], by rw [hsuite, hrest.suite], hrest.clientRandom⟩
      serverHello := hrest.serverHello
      finished := hrest.finished
      exchange := hrest.exchange
      held :=
        { isClient := hrest.passes.steady.isClient.trans hrole
          cipherSuite := by
            change e.cipherSuite = a.suite.id
            rw [hrest.passes.steady.cipherSuite, hcipher, hrest.suite]
          didResume := rfl
          keyed := ⟨writeSpec, ⟨hkeyed.specs⟩, hcurrent⟩ } }

lemma serverAccount_told (hrole : c.isClient = false) (hfresh : received c = [])
    (hresume : c.didResume = false) (hpeer : c.peerCertificates = [])
    (h : serverAccount P config env c = (.ok a, d)) :
    ∃ m, ServerSide P config a m d ∧ Settles c d := by
  unfold serverAccount at h
  obtain ⟨keys, _, hlift, h⟩ := bind_eq_ok.mp h
  obtain ⟨hneed, rfl⟩ := lift_eq_ok.mp hlift
  have hkeys := (need_ok _ _ _).mp hneed
  obtain ⟨⟨clientHello, ch, suite⟩, c₁, hreceive, h⟩ := bind_eq_ok.mp h
  obtain ⟨hparse, hch, hhears, hopens, hsuite, hrole₁, hcipher, hresume₁, hpeer₁⟩ :=
    receiveClientHello_told hreceive
  obtain ⟨found, c₂, hlookup, h⟩ := bind_eq_ok.mp h
  have hquiet₂ := (lookupResumedSession_quiet clientHello suite).step hlookup
  have hreceived : received c₂ = [ch] := by
    rw [received_append (hhears.trans hquiet₂.reads.hears), hfresh]
    rfl
  have hopen (start : List Arrival) :=
    (hopens.trans hquiet₂.reads.opens) (hch.unfinished (by decide)) start
  have hcipher₂ : c₂.cipherSuite = suite.id := hquiet₂.steady.cipherSuite.trans hcipher
  have hrole₂ : c₂.isClient = false := by rw [hquiet₂.steady.isClient, hrole₁, hrole]
  cases found with
  | none =>
    have hpeer₂ : c₂.peerCertificates = [] := by rw [hquiet₂.peerCertificates, hpeer₁, hpeer]
    obtain ⟨hfalse, m, hrest⟩ := serverFullAccount_told hkeys hpeer₂ hch h
    have hresumed : d.didResume = a.resumed := by
      rw [hrest.passes.steady.didResume, hquiet₂.steady.didResume, hresume₁, hresume, hfalse]
    exact ⟨m, hrest.side hparse hsuite hreceived hcipher₂ hrole₂ (by rw [← hresumed]),
      fun start hc => hrest.settles start (hopen start hc)⟩
  | some sess =>
    simp only [bind_eq_ok, update_eq_ok, pure_eq_ok] at h
    obtain ⟨a₀, c₃, hresumed, _, _, rfl, rfl, rfl⟩ := h
    obtain ⟨htrue, m, hrest⟩ := serverResumeAccount_told hch hresumed
    exact ⟨m, hrest.side hparse hsuite hreceived hcipher₂ hrole₂ (by rw [htrue]),
      fun start hc => hrest.settles start (hopen start hc)⟩

end

variable {u : Unit} {incoming : List Arrival} {writeResults : List (Option NetErr)} {rand : Bytes}

section

variable {a : Account} {m : Script} {c d : Conn}

def account (P : Prims) (config : EngineConfig) (env : Surroundings) (c : Conn) :
    Except Err Account :=
  if c.isClient then (clientAccount P config env c).1 else (serverAccount P config env c).1

def settle (c : Conn) : Conn :=
  { (Conn.flush c).2 with buffering := false, handshakeStatus := true }

lemma handshake_driver (hstatus : c.handshakeStatus = false) (herr : c.handshakeErr = none)
    (h : handshake P config env c = (.ok u, d)) :
    ∃ e, driver P config env c = (.ok (), e) ∧ d = settle e := by
  unfold handshake at h
  rw [if_neg (by simp [hstatus]), herr] at h
  generalize driver P config env c = r at h
  obtain ⟨_ | _, e⟩ := r
  · cases h
  · cases h
    exact ⟨e, rfl, rfl⟩

lemma settle_received (c : Conn) : received (settle c) = received c :=
  congrArg (fun s => s.reads.filterMap messageIn) (flush_wrote c).readSide

lemma settle_settled (c : Conn) :
    Settled start (readSide (settle c)) ↔ Settled start (readSide c) :=
  iff_of_eq (congrArg (Settled start) (flush_wrote c).readSide)

lemma settle_peer (c : Conn) : (settle c).peerCertificates = c.peerCertificates :=
  congrArg Outcome.peerCertificates (flush_wrote c).outcome

lemma Held.settle {isClient : Bool} (h : Held P isClient a c) : Held P isClient a (settle c) := by
  obtain ⟨writeSpec, hkeyed, hcurrent⟩ := h.keyed
  have hpass := (wrote_reads (flush_wrote c)).toPasses
  refine ⟨hpass.steady.isClient.trans h.isClient, hpass.steady.cipherSuite.trans h.cipherSuite,
    hpass.steady.didResume.trans h.didResume, writeSpec, ⟨(hkeyed.passes hpass).specs⟩, ?_⟩
  exact (flush_sent c).current.trans hcurrent

lemma client_handshake
    (h : handshake P config env (newTLCPConn true incoming writeResults rand) = (.ok u, d)) :
    ∃ a m, account P config env (newTLCPConn true incoming writeResults rand) = .ok a ∧
      ClientSide P config a m d ∧ Settled incoming (readSide d) := by
  obtain ⟨e, hdriver, rfl⟩ := handshake_driver rfl rfl h
  have hclient : clientHandshakeReal P config env (newTLCPConn true incoming writeResults rand) =
    (.ok (), e) := hdriver
  obtain ⟨a, haccount⟩ := client_tells.ok hclient
  obtain ⟨m, hside, hsettles⟩ := clientAccount_told rfl rfl rfl haccount
  refine ⟨a, m, congrArg Prod.fst haccount, ?_,
    (settle_settled e).mpr (hsettles incoming (.initial _ _ _ _))⟩
  exact { hside with received := (settle_received e).trans hside.received
                     held := hside.held.settle }

lemma server_handshake
    (h : handshake P config env (newTLCPConn false incoming writeResults rand) = (.ok u, d)) :
    ∃ a m, account P config env (newTLCPConn false incoming writeResults rand) = .ok a ∧
      ServerSide P config a m d ∧ Settled incoming (readSide d) := by
  obtain ⟨e, hdriver, rfl⟩ := handshake_driver rfl rfl h
  have hserver : serverHandshakeReal P config env (newTLCPConn false incoming writeResults rand) =
    (.ok (), e) := hdriver
  obtain ⟨a, haccount⟩ := server_tells.ok hserver
  obtain ⟨m, hside, hsettles⟩ := serverAccount_told rfl rfl rfl rfl haccount
  refine ⟨a, m, congrArg Prod.fst haccount, ?_,
    (settle_settled e).mpr (hsettles incoming (.initial _ _ _ _))⟩
  exact
    { hside with
      received := (settle_received e).trans hside.received
      exchange := by
        rw [settle_peer]
        exact hside.exchange
      held := hside.held.settle }

end

end Pollux.Tlcp
