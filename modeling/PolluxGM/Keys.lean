import PolluxGM.KeySchedule

/-!
# The key derivations both handshakers perform

Client and server derive the Handshake keys after the ServerHello and the Application keys after the
server Finished, in the same order. A failing derivation leaves its own target nil and keeps what
was assigned before it.
-/
namespace Pollux.Tls

/-- The derived secrets; an empty one is a nil slice. -/
structure Keys where
  handshakeSecret : Bytes := []
  masterSecret : Bytes := []
  resumptionMasterSecret : Bytes := []
  clientHSTraffic : Bytes := []
  serverHSTraffic : Bytes := []
  secrets : HandshakeSecrets := {}
  deriving DecidableEq

variable (P : Prims)

variable (k : Keys)

/-- Handshake secret, traffic secrets and packet keys over the transcript through the ServerHello.
-/
def Keys.deriveHandshake (psk sharedSecret transcriptHash : Bytes) : Except Err Unit × Keys :=
  match deriveEarlySecret P psk with
  | .error e => (.error (.wrap "tls13gm: derive early secret" e), k)
  | .ok earlySecret =>
  match deriveHandshakeSecret P earlySecret sharedSecret with
  | .error e => (.error e, { k with handshakeSecret := [] })
  | .ok handshakeSecret =>
  let k := { k with handshakeSecret := handshakeSecret }
  match deriveSecret P handshakeSecret Label.clientHSTraffic transcriptHash with
  | .error e => (.error e, { k with clientHSTraffic := [] })
  | .ok clientHSTraffic =>
  let k := { k with clientHSTraffic := clientHSTraffic }
  match deriveSecret P handshakeSecret Label.serverHSTraffic transcriptHash with
  | .error e => (.error e, { k with serverHSTraffic := [] })
  | .ok serverHSTraffic =>
  let k := { k with serverHSTraffic := serverHSTraffic }
  match deriveQUICPacketKeys P clientHSTraffic with
  | .error e => (.error e, { k with secrets := { k.secrets with clientHandshakeKeys := none } })
  | .ok clientKeys =>
  let k := { k with secrets := { k.secrets with clientHandshakeKeys := some clientKeys } }
  match deriveQUICPacketKeys P serverHSTraffic with
  | .error e => (.error e, { k with secrets := { k.secrets with serverHandshakeKeys := none } })
  | .ok serverKeys =>
  (.ok (), { k with secrets := { k.secrets with
    serverHandshakeKeys := some serverKeys
    clientHandshakeTrafficSecret := clientHSTraffic
    serverHandshakeTrafficSecret := serverHSTraffic } })

/-- Master secret, traffic secrets and 1-RTT keys over the transcript through the server Finished.
-/
def Keys.deriveApplication (transcriptHash : Bytes) : Except Err Unit × Keys :=
  match deriveMasterSecret P k.handshakeSecret with
  | .error e => (.error e, { k with masterSecret := [] })
  | .ok masterSecret =>
  let k := { k with masterSecret := masterSecret }
  match deriveSecret P masterSecret Label.clientAPTraffic transcriptHash with
  | .error e => (.error e, k)
  | .ok cAP =>
  match deriveSecret P masterSecret Label.serverAPTraffic transcriptHash with
  | .error e => (.error e, k)
  | .ok sAP =>
  let k := { k with secrets := { k.secrets with
    clientApplicationTrafficSecret := cAP
    serverApplicationTrafficSecret := sAP } }
  match deriveQUICPacketKeys P cAP with
  | .error e => (.error e, { k with secrets := { k.secrets with clientApplicationKeys := none } })
  | .ok clientKeys =>
  let k := { k with secrets := { k.secrets with clientApplicationKeys := some clientKeys } }
  match deriveQUICPacketKeys P sAP with
  | .error e => (.error e, { k with secrets := { k.secrets with serverApplicationKeys := none } })
  | .ok serverKeys =>
  (.ok (), { k with secrets := { k.secrets with serverApplicationKeys := some serverKeys } })

def Keys.setEarly (early : Option QUICPacketKeys) : Keys :=
  { k with secrets := { k.secrets with clientEarlyKeys := early } }

def Keys.discardEarly : Keys := k.setEarly none

def zeroBytes (b : Bytes) : Bytes := List.replicate b.length 0

/-- The slices become nil; the pointer to the key set stays. -/
def zeroPacketKeys (_ : QUICPacketKeys) : QUICPacketKeys := ⟨[], [], []⟩

/-- The traffic secrets belong to the transport and are kept. -/
def zeroSecrets (s : HandshakeSecrets) : HandshakeSecrets :=
  { s with
    clientInitialKeys := s.clientInitialKeys.map zeroPacketKeys
    serverInitialKeys := s.serverInitialKeys.map zeroPacketKeys
    clientEarlyKeys := s.clientEarlyKeys.map zeroPacketKeys
    clientHandshakeKeys := s.clientHandshakeKeys.map zeroPacketKeys
    serverHandshakeKeys := s.serverHandshakeKeys.map zeroPacketKeys
    clientApplicationKeys := s.clientApplicationKeys.map zeroPacketKeys
    serverApplicationKeys := s.serverApplicationKeys.map zeroPacketKeys }

def Keys.zero : Keys where
  handshakeSecret := zeroBytes k.handshakeSecret
  masterSecret := zeroBytes k.masterSecret
  resumptionMasterSecret := zeroBytes k.resumptionMasterSecret
  clientHSTraffic := zeroBytes k.clientHSTraffic
  serverHSTraffic := zeroBytes k.serverHSTraffic
  secrets := zeroSecrets k.secrets

structure HandshakeLevel (psk sharedSecret transcriptHash : Bytes) where
  earlySecret : Bytes
  handshakeSecret : Bytes
  clientHSTraffic : Bytes
  serverHSTraffic : Bytes
  clientKeys : QUICPacketKeys
  serverKeys : QUICPacketKeys
  early_eq : deriveEarlySecret P psk = .ok earlySecret
  handshake_eq : deriveHandshakeSecret P earlySecret sharedSecret = .ok handshakeSecret
  client_eq : deriveSecret P handshakeSecret Label.clientHSTraffic transcriptHash =
    .ok clientHSTraffic
  server_eq : deriveSecret P handshakeSecret Label.serverHSTraffic transcriptHash =
    .ok serverHSTraffic
  clientKeys_eq : deriveQUICPacketKeys P clientHSTraffic = .ok clientKeys
  serverKeys_eq : deriveQUICPacketKeys P serverHSTraffic = .ok serverKeys

def Keys.withHandshake {P : Prims} {psk shared hash : Bytes}
    (l : HandshakeLevel P psk shared hash) : Keys :=
  { k with
    handshakeSecret := l.handshakeSecret
    clientHSTraffic := l.clientHSTraffic
    serverHSTraffic := l.serverHSTraffic
    secrets := { k.secrets with
      clientHandshakeKeys := some l.clientKeys
      serverHandshakeKeys := some l.serverKeys
      clientHandshakeTrafficSecret := l.clientHSTraffic
      serverHandshakeTrafficSecret := l.serverHSTraffic } }

structure ApplicationLevel (handshakeSecret transcriptHash : Bytes) where
  masterSecret : Bytes
  clientAPTraffic : Bytes
  serverAPTraffic : Bytes
  clientKeys : QUICPacketKeys
  serverKeys : QUICPacketKeys
  master_eq : deriveMasterSecret P handshakeSecret = .ok masterSecret
  client_eq : deriveSecret P masterSecret Label.clientAPTraffic transcriptHash = .ok clientAPTraffic
  server_eq : deriveSecret P masterSecret Label.serverAPTraffic transcriptHash = .ok serverAPTraffic
  clientKeys_eq : deriveQUICPacketKeys P clientAPTraffic = .ok clientKeys
  serverKeys_eq : deriveQUICPacketKeys P serverAPTraffic = .ok serverKeys

def Keys.withApplication {P : Prims} {hs hash : Bytes} (l : ApplicationLevel P hs hash) : Keys :=
  { k with
    masterSecret := l.masterSecret
    secrets := { k.secrets with
      clientApplicationTrafficSecret := l.clientAPTraffic
      serverApplicationTrafficSecret := l.serverAPTraffic
      clientApplicationKeys := some l.clientKeys
      serverApplicationKeys := some l.serverKeys } }

variable {P}

variable {psk shared hash : Bytes}

lemma HandshakeLevel.unique (l m : HandshakeLevel P psk shared hash) : l = m := by
  obtain ⟨e, h, c, s, ck, sk, he, hh, hc, hs, hck, hsk⟩ := l
  obtain ⟨e', h', c', s', ck', sk', he', hh', hc', hs', hck', hsk'⟩ := m
  obtain rfl : e = e' := by simpa [he] using he'
  obtain rfl : h = h' := by simpa [hh] using hh'
  obtain rfl : c = c' := by simpa [hc] using hc'
  obtain rfl : s = s' := by simpa [hs] using hs'
  obtain rfl : ck = ck' := by simpa [hck] using hck'
  obtain rfl : sk = sk' := by simpa [hsk] using hsk'
  rfl

lemma ApplicationLevel.unique (l m : ApplicationLevel P hs hash) : l = m := by
  obtain ⟨a, c, s, ck, sk, ha, hc, hs, hck, hsk⟩ := l
  obtain ⟨a', c', s', ck', sk', ha', hc', hs', hck', hsk'⟩ := m
  obtain rfl : a = a' := by simpa [ha] using ha'
  obtain rfl : c = c' := by simpa [hc] using hc'
  obtain rfl : s = s' := by simpa [hs] using hs'
  obtain rfl : ck = ck' := by simpa [hck] using hck'
  obtain rfl : sk = sk' := by simpa [hsk] using hsk'
  rfl

variable {k k' : Keys}

lemma deriveHandshake_ok (h : k.deriveHandshake P psk shared hash = (.ok (), k')) :
    ∃ l : HandshakeLevel P psk shared hash, k' = k.withHandshake l := by
  revert h
  fun_cases Keys.deriveHandshake P k psk shared hash with
  | case7 early he hs hh _ c hc _ s hs' _ ck hck _ sk hsk =>
    exact fun h => ⟨⟨early, hs, c, s, ck, sk, he, hh, hc, hs', hck, hsk⟩,
      (congrArg Prod.snd h).symm⟩
  | _ => nofun

lemma deriveHandshake_of_level (k : Keys) (l : HandshakeLevel P psk shared hash) :
    k.deriveHandshake P psk shared hash = (.ok (), k.withHandshake l) := by
  simp only [Keys.deriveHandshake, l.early_eq, l.handshake_eq, l.client_eq, l.server_eq,
    l.clientKeys_eq, l.serverKeys_eq, Keys.withHandshake]

lemma deriveApplication_ok (h : k.deriveApplication P hash = (.ok (), k')) :
    ∃ l : ApplicationLevel P k.handshakeSecret hash, k' = k.withApplication l := by
  revert h
  fun_cases Keys.deriveApplication P k hash with
  | case6 m hm _ c hc s hs _ ck hck _ sk hsk =>
    exact fun h => ⟨⟨m, c, s, ck, sk, hm, hc, hs, hck, hsk⟩, (congrArg Prod.snd h).symm⟩
  | _ => nofun

lemma deriveApplication_of_level (k : Keys) (l : ApplicationLevel P k.handshakeSecret hash) :
    k.deriveApplication P hash = (.ok (), k.withApplication l) := by
  simp only [Keys.deriveApplication, l.master_eq, l.client_eq, l.server_eq, l.clientKeys_eq,
    l.serverKeys_eq, Keys.withApplication]

lemma deriveHandshake_early (h : k.deriveHandshake P psk shared hash = (r, k')) :
    k'.secrets.clientEarlyKeys = k.secrets.clientEarlyKeys := by
  obtain rfl := congrArg Prod.snd h
  fun_cases Keys.deriveHandshake P k psk shared hash <;> rfl

lemma deriveApplication_early (h : k.deriveApplication P hash = (r, k')) :
    k'.secrets.clientEarlyKeys = k.secrets.clientEarlyKeys := by
  obtain rfl := congrArg Prod.snd h
  fun_cases Keys.deriveApplication P k hash <;> rfl

end Pollux.Tls
