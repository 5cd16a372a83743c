import PolluxGM.TlcpResumption
import PolluxGM.TlcpSides

/-!
# What a server has seen of its client

What `configToNative` makes of the client authentication of the public configuration is enforced on
the client's Certificate, and the signing key has signed the transcript.
-/
namespace Pollux.Tlcp

variable {P : Prims} {lower : Bytes → Bytes} {a : Attempt} {c : Conn}

lemma sigType_eq {id : UInt16} {sigType : SigType} (h : tlcpSigTypeForSuite id = .ok sigType) :
    sigType = .eccSM3 := by
  unfold tlcpSigTypeForSuite at h
  split at h
  · exact (Except.ok.inj h).symm
  · cases h

lemma verified_eccSM3 (h : tlcpVerifyHandshakeSignature P .eccSM3 publicKey tbs sig = .ok ()) :
    P.verifyASN1WithSM2 publicKey tbs sig = true := by
  have hverified := (reject_ok _ _ _).mp h
  simpa using hverified

/-- A CertificateVerify of this key was checked over everything from the ClientHello to the
ClientKeyExchange; the Finished came after it. -/
structure Proven (P : Prims) (acc : Account) (c : Conn) (pub : Bytes) : Prop where
  script : ∃ m flight cc cke cv v, acc.Follows m ∧ received c = m.fromClient ∧
    acc.sent = m.fromServer.flatten ∧
    m.flights = some (flight, ⟨some cc, cke, some cv⟩) ∧
      CertificateMsg.unmarshal cc = some ⟨c.peerCertificates⟩ ∧
    CertificateVerifyMsg.unmarshal cv = some v ∧
    P.verifyASN1WithSM2 pub
      (P.sm3 (m.clientHello ++ m.serverHello ++ flight.messages.flatten ++ cc ++ cke)) v.signature =
        true

section

variable {native : EngineConfig} {acc : Account} {m : Script}

lemma full_handshake (h : ServerSide P native acc m c) (hfull : c.didResume = false) :
    ∃ f client, m.flights = some f ∧ f.2.certificate.isSome =
      (native.requestClientCert || acc.suite.ecdhe) ∧
      Presented P native acc.suite f.2.certificate c.peerCertificates client ∧
      ∀ x ∈ client.sign, ∃ data ∈ f.2.verify, ∃ v, CertificateVerifyMsg.unmarshal data = some v ∧
        P.verifyASN1WithSM2 x.2 (P.sm3 (m.clientHello ++ m.serverHello ++ f.1.messages.flatten ++
          f.2.certificate.toList.flatten ++ f.2.keyExchange)) v.signature = true := by
  have hnone : m.flights.isNone = false := by rw [← h.follows.resumed, ← h.held.didResume, hfull]
  obtain ⟨f, hf⟩ := Option.isSome_iff_exists.mp (by simpa using hnone)
  obtain ⟨hasked, keys, sigType, state, client, pms, _, hsig, _, hread, _⟩ := h.exchange f hf
  obtain rfl := sigType_eq hsig
  refine ⟨f, client, hf, hasked, hread.presented, ?_⟩
  intro x hx
  obtain ⟨data, hdata, v, hparse, hverify⟩ := hread.verified x hx
  exact ⟨data, hdata, v, hparse, verified_eccSM3 hverify⟩

end

/-- The demands on the client's certificate that a full handshake has met. -/
theorem client_certificate_enforced (hserver : a.isClient = false)
    (hok : a.handshake P lower = (.ok (), c)) (hfull : c.didResume = false) :
    (requires a.config.clientAuth = true → c.peerCertificates ≠ []) ∧
    ∀ der ∈ c.peerCertificates.head?, ∃ cert pub, P.parseCertificate der = .ok cert ∧
      cert.publicKey = some pub ∧ (verifies a.config.clientAuth = true →
        P.verifyCertificate cert ⟨a.config.clientCACertificates, [], [], .clientAuth⟩ = .ok ()) ∧
      ∃ native acc, configToNative a.config false = .ok native ∧
        account P native (a.surroundings lower)
          (newTLCPConn false a.incoming a.writeResults a.rand) = .ok acc ∧
        Proven P acc c pub := by
  obtain ⟨native, hnative, hrun⟩ := Attempt.native hok
  rw [hserver] at hnative hrun
  obtain ⟨acc, m, haccount, hside, _⟩ := server_handshake hrun
  obtain ⟨⟨sf, ⟨cert, cke, verify⟩⟩, client, hflights, hasked, hpresented, hproof⟩ :=
    full_handshake hside hfull
  dsimp only at hasked hpresented hproof
  constructor
  · intro hrequires hempty
    obtain ⟨hrequest, hauth, _⟩ := native_clientAuth hnative (.inl hrequires)
    rw [hrequest, Bool.true_or] at hasked
    obtain ⟨data, rfl⟩ := Option.isSome_iff_exists.mp hasked
    obtain ⟨_, hparse, hcheck⟩ := hpresented.parsed data rfl
    rw [← hauth] at hrequires
    exact (checkClientAuth_ok hcheck).1 hrequires ((parseClientCertificates_ok hparse).1 hempty)
  · intro der hder
    cases cert with
    | none =>
      rw [(hpresented.absent rfl).1] at hder
      exact absurd hder (Option.not_mem_none der)
    | some cc =>
      obtain ⟨hmessage, hparse, hcheck⟩ := hpresented.parsed cc rfl
      obtain ⟨⟨x, pub⟩, hsign, hcert, hpub⟩ := (parseClientCertificates_ok hparse).2 der hder
      obtain ⟨cv, hcv, v, hv, hverify⟩ := hproof _ hsign
      refine ⟨x, pub, hcert, hpub, ?_, native, acc, hnative, haccount, m, sf, cc, cke, cv, v,
        hside.follows, hside.received, hside.sent, ?_, hmessage, hv, by simpa using hverify⟩
      · intro hverifies
        obtain ⟨_, _, hroots⟩ := native_clientAuth hnative (.inr hverifies)
        exact (checkClientAuth_ok hcheck).2 _ (hroots hverifies) _ hsign
      · rw [hflights, hcv]

theorem client_certificate_enforced_strict :
    let r := (sampleFirst false strictConfig).handshake toyTlcpPrims id
    r.1 = .ok () ∧ r.2.didResume = false ∧ r.2.peerCertificates ≠ [] := by
  intro r
  have hok : r = (.ok (), r.2) := eq_of_fst_ok (by decide +kernel)
  have hfull : r.2.didResume = false := by decide +kernel
  exact ⟨congrArg Prod.fst hok, hfull, (client_certificate_enforced rfl hok hfull).1 rfl⟩

end Pollux.Tlcp
