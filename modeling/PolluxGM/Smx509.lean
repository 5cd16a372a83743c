import PolluxGM.Bytes

/-!
# Verifying certificates

`Verify` of `verify.go` and the pool of `certpool.go`. A chain that `crypto/x509` or gmsm accepts
ends in the roots they were given, or in the system roots when they were given none.
-/
namespace Pollux.Smx509

inductive Err where
  | text (message : String)
  | wrap (context : String) (cause : Err)
  | join (first second : Err)
  | responseError (status : Int)
  deriving DecidableEq

abbrev OID := List Nat

/-- A key behind an interface value; the pointer may be nil. -/
inductive PublicKey where
  | ecdsa (sm2 : Bool) (point : Bytes)
  | nilECDSA
  | other
  deriving DecidableEq

def isSM2PublicKey : PublicKey → Bool
  | .ecdsa sm2 _ => sm2
  | _ => false

structure Certificate where
  raw : Bytes
  serialNumber : Int
  rawTBSCertificate : Bytes
  rawSubjectPublicKeyInfo : Bytes
  rawSubject : Bytes
  rawIssuer : Bytes
  publicKey : PublicKey
  signature : Bytes
  notBefore : Int
  notAfter : Int
  extKeyUsage : List Int
  unknownExtKeyUsage : List OID
  deriving DecidableEq

def maxSharedExtKeyUsage : Int := 13

/-- The usages that only gmsm knows are dropped. -/
def toStdCertificate (smCert : Certificate) : Certificate :=
  { smCert with
    extKeyUsage := smCert.extKeyUsage.filter fun ku => 0 ≤ ku ∧ ku ≤ maxSharedExtKeyUsage }

def parseCertificate (smParse stdParse : Bytes → Except Err Certificate) (der : Bytes) :
    Except Err Certificate :=
  match smParse der, stdParse der with
  | .ok smCert, _ => .ok (toStdCertificate smCert)
  | .error _, .ok stdCert => .ok stdCert
  | .error smErr, .error stdErr =>
    .error (.wrap "smx509: failed to parse certificate: " (.join smErr stdErr))

/-- The encodings are copied when a certificate is added. -/
structure CertPool where
  certs : List Certificate
  raw : List Bytes
  raw_eq : raw = certs.map Certificate.raw

def newCertPool : CertPool := ⟨[], [], rfl⟩

def CertPool.addCert (p : CertPool) : Option Certificate → CertPool
  | none => p
  | some cert => ⟨p.certs ++ [cert], p.raw ++ [cert.raw], by simp [p.raw_eq]⟩

def CertPool.len (p : CertPool) : Nat := p.certs.length

def CertPool.contains (p : CertPool) (cert : Certificate) : Bool := p.raw.contains cert.raw

abbrev Chain := List Bytes

/-- What a backend is asked. Only the standard library takes a time. -/
structure BackendOptions where
  dnsName : String
  keyUsages : List Int
  currentTime : Int
  roots : Option (List Certificate)
  intermediates : Option (List Certificate)

structure Backends where
  checkSignatureFrom : Certificate → Certificate → Except Err Unit
  stdVerify : Certificate → BackendOptions → Except Err (List Chain)
  smParse : Bytes → Except Err Certificate
  smVerify : Certificate → BackendOptions → Except Err (List Chain)
  systemRoots : List Bytes
  rfc3339 : Int → String

def EndsIn (chain : Chain) (anchors : List Bytes) : Prop :=
  ∃ last ∈ anchors, chain.getLast? = some last

variable (B : Backends) (cert : Certificate)

def Backends.anchors (o : BackendOptions) : List Bytes :=
  match o.roots with
  | none => B.systemRoots
  | some roots => roots.map Certificate.raw

structure Backends.Lawful : Prop where
  parse : ∀ der cert, B.smParse der = .ok cert → cert.raw = der
  std : ∀ cert o chains, B.stdVerify cert o = .ok chains → ∀ chain ∈ chains,
    EndsIn chain (B.anchors o)
  sm : ∀ cert o chains, B.smVerify cert o = .ok chains → ∀ chain ∈ chains,
    EndsIn chain (B.anchors o)

structure VerifyOptions where
  dnsName : String
  roots : Option CertPool
  intermediates : Option CertPool
  keyUsages : List Int
  currentTime : Int

def errNoCertChain : Err := .text "smx509: no valid certificate chain"

def errSelfSignedLeaf : Err := .text "smx509: certificate is self-signed but not in root pool"

def VerifyOptions.trusts (opts : VerifyOptions) (cert : Certificate) : Bool :=
  match opts.roots with
  | none => false
  | some pool => pool.contains cert

def sharedUsage (ku : Int) : Except Err Int := do
  reject (ku < 0 ∨ maxSharedExtKeyUsage < ku)
    (.text s!"smx509: key usage {ku} outside shared ExtKeyUsage range 0..{maxSharedExtKeyUsage}")
  return ku

def parsePool (pool : CertPool) : List Certificate :=
  pool.raw.filterMap fun der => (B.smParse der).toOption

/-- The roots for gmsm. An empty pool is left out. -/
def smRoots : Option CertPool → Except Err (Option (List Certificate))
  | none => pure none
  | some pool =>
    if pool.len = 0 then pure none
    else do
      reject (parsePool B pool = []) (.text "smx509: no SM2-parseable certificates in Roots pool")
      return some (parsePool B pool)

def smIntermediates (pool : Option CertPool) : Option (List Certificate) :=
  (pool.filter fun p => p.len ≠ 0).map (parsePool B)

/-- gmsm knows no reference time, so it is applied to the leaf here. -/
def checkValidity (now : Int) (cert : Certificate) : Except Err Unit := do
  let current := B.rfc3339 now
  let notBefore := B.rfc3339 cert.notBefore
  let notAfter := B.rfc3339 cert.notAfter
  reject (now ≠ 0 ∧ now < cert.notBefore)
    (.text s!"smx509: certificate is not valid yet (current {current}, not before {notBefore})")
  reject (now ≠ 0 ∧ cert.notAfter < now)
    (.text s!"smx509: certificate is expired (current {current}, not after {notAfter})")

/-- Both verifications return the chains that the source counts and drops. -/
def verifySM2 (opts : VerifyOptions) : Except Err (List Chain) := do
  let smCert ← (B.smParse cert.raw).mapError (.wrap "smx509: parse SM2 cert: ")
  let keyUsages ← opts.keyUsages.mapM sharedUsage
  let roots ← smRoots B opts.roots
  let chains ← B.smVerify smCert ⟨opts.dnsName, keyUsages, 0, roots,
    smIntermediates B opts.intermediates⟩
  reject (chains = []) errNoCertChain
  checkValidity B opts.currentTime smCert
  return chains

def stdOptions (opts : VerifyOptions) : BackendOptions :=
  ⟨opts.dnsName, opts.keyUsages, opts.currentTime, opts.roots.map CertPool.certs,
    opts.intermediates.map CertPool.certs⟩

def verifyChains (cert : Option Certificate) (opts : VerifyOptions) : Except Err (List Chain) := do
  let cert ← need (.text "smx509: nil certificate") cert
  reject ((B.checkSignatureFrom cert cert).isOk ∧ opts.trusts cert = false) errSelfSignedLeaf
  reject (isSM2PublicKey cert.publicKey ∧ cert.rawSubject = cert.rawIssuer ∧
    opts.trusts cert = false) errSelfSignedLeaf
  match B.stdVerify cert (stdOptions opts) with
  | .ok (chain :: chains) => return chain :: chains
  | .ok [] => if isSM2PublicKey cert.publicKey then verifySM2 B cert opts else .error errNoCertChain
  | .error e => if isSM2PublicKey cert.publicKey then verifySM2 B cert opts else .error e

def verify (cert : Option Certificate) (opts : VerifyOptions) : Except Err Unit := do
  let _ ← verifyChains B cert opts

def Accepted (opts : VerifyOptions) (chain : Chain) : Prop :=
  ∃ chains, verifyChains B (some cert) opts = .ok chains ∧ chain ∈ chains

/-- A certificate that is verified has a chain to the pool. -/
def Anchored (opts : VerifyOptions) (pool : CertPool) : Prop :=
  verify B (some cert) opts = .ok () → ∃ chain, Accepted B cert opts chain ∧ EndsIn chain pool.raw

section

variable {B : Backends} {cert : Certificate} {opts : VerifyOptions} {chains : List Chain}

lemma verifyChains_ok (h : verifyChains B (some cert) opts = .ok chains) :
    chains ≠ [] ∧ B.stdVerify cert (stdOptions opts) = .ok chains ∨
      isSM2PublicKey cert.publicKey = true ∧
        ¬ (cert.rawSubject = cert.rawIssuer ∧ opts.trusts cert = false) ∧
          verifySM2 B cert opts = .ok chains := by
  simp only [verifyChains, need_some, ok_bind, bind_ok, reject_ok] at h
  obtain ⟨_, _, _, hself, h⟩ := h
  split at h
  · rename_i chain rest hstd
    cases h
    exact .inl ⟨List.cons_ne_nil _ _, hstd⟩
  · split at h
    · rename_i hsm2
      exact .inr ⟨hsm2, fun hissued => hself ⟨hsm2, hissued⟩, h⟩
    · cases h
  · split at h
    · rename_i hsm2
      exact .inr ⟨hsm2, fun hissued => hself ⟨hsm2, hissued⟩, h⟩
    · cases h

def Shared (ku : Int) : Prop := 0 ≤ ku ∧ ku ≤ maxSharedExtKeyUsage

lemma sharedUsage_ok {ku ku' : Int} : sharedUsage ku = .ok ku' ↔ Shared ku ∧ ku = ku' := by
  simp only [sharedUsage, bind_ok, reject_ok, pure_inj, Shared]
  constructor
  · rintro ⟨_, hrange, rfl⟩
    exact ⟨by omega, rfl⟩
  · rintro ⟨hrange, rfl⟩
    exact ⟨(), by omega, rfl⟩

lemma usages_shared {usages : List Int} (h : ∀ ku ∈ usages, Shared ku) :
    usages.mapM sharedUsage = .ok usages := by
  induction usages with
  | nil => rfl
  | cons ku usages ih =>
    have hfirst : sharedUsage ku = .ok ku := sharedUsage_ok.mpr ⟨h ku List.mem_cons_self, rfl⟩
    rw [List.mapM_cons, hfirst, ok_bind, ih fun x hx => h x (List.mem_cons_of_mem ku hx)]
    rfl

lemma verifySM2_ok (h : verifySM2 B cert opts = .ok chains) :
    chains ≠ [] ∧ (∀ ku ∈ opts.keyUsages, Shared ku) ∧
      ∃ smCert roots o, smRoots B opts.roots = .ok roots ∧ o.roots = roots ∧
        B.smVerify smCert o = .ok chains := by
  simp only [verifySM2, bind_ok, reject_ok, pure_inj] at h
  obtain ⟨smCert, _, keyUsages, husages, roots, hroots, accepted, haccepted, _, hne, _, _, rfl⟩ := h
  have hshared := (mapM_ok husages).imp fun _ _ hku => sharedUsage_ok.mp hku
  exact ⟨hne, ((List.forall₂_and_left _ _).mp hshared).1, smCert, roots, _, hroots, rfl, haccepted⟩

lemma parsePool_raw (hB : B.Lawful) {pool : CertPool} {c : Certificate} (h : c ∈ parsePool B pool) :
    c.raw ∈ pool.raw := by
  obtain ⟨der, hder, hparse⟩ := List.mem_filterMap.mp h
  rw [hB.parse der c (toOption_eq_some.mp hparse)]
  exact hder

end

/-- The pool is not empty, or gmsm is not asked, or has no say. -/
def Dependable (opts : VerifyOptions) (pool : CertPool) : Prop :=
  0 < pool.len ∨ isSM2PublicKey cert.publicKey = false ∨ cert.rawSubject = cert.rawIssuer ∨
    ∃ ku ∈ opts.keyUsages, ¬ Shared ku

lemma anchored_of_dependable {B : Backends} (hB : B.Lawful) {cert : Certificate}
    {opts : VerifyOptions} {pool : CertPool} (hpool : opts.roots = some pool)
    (h : Dependable cert opts pool) : Anchored B cert opts pool := by
  intro hverify
  simp only [verify, bind_ok] at hverify
  obtain ⟨chains, hchains, _⟩ := hverify
  -- Every accepted chain ends in the pool, and there is one.
  have hends : chains ≠ [] ∧ ∀ chain ∈ chains, EndsIn chain pool.raw := by
    rcases verifyChains_ok hchains with ⟨hne, hstd⟩ | ⟨hsm2, hissued, hsm⟩
    · refine ⟨hne, fun chain hchain => ?_⟩
      have hanchors := hB.std _ _ _ hstd chain hchain
      rw [Backends.anchors, stdOptions, hpool, Option.map_some] at hanchors
      rw [pool.raw_eq]
      exact hanchors
    · obtain ⟨hne, husages, smCert, roots, o, hroots, rfl, haccepted⟩ := verifySM2_ok hsm
      have hlen : pool.len ≠ 0 := by
        intro hzero
        rcases h with hpos | hnot | hself | ⟨ku, hku, hforeign⟩
        · omega
        · cases hsm2.symm.trans hnot
        · have hraw : pool.raw = [] := by
            rw [pool.raw_eq, List.eq_nil_of_length_eq_zero hzero, List.map_nil]
          exact hissued ⟨hself, by simp [VerifyOptions.trusts, hpool, CertPool.contains, hraw]⟩
        · exact hforeign (husages ku hku)
      simp only [smRoots, hpool, if_neg hlen, bind_ok, reject_ok, pure_inj] at hroots
      obtain ⟨_, _, hroots⟩ := hroots
      refine ⟨hne, fun chain hchain => ?_⟩
      obtain ⟨last, hlast, hend⟩ := hB.sm _ _ _ haccepted chain hchain
      rw [Backends.anchors, ← hroots] at hlast
      obtain ⟨c, hc, rfl⟩ := List.mem_map.mp hlast
      exact ⟨c.raw, parsePool_raw hB hc, hend⟩
  obtain ⟨chain, rest, rfl⟩ := List.exists_cons_of_ne_nil hends.1
  exact ⟨chain, ⟨_, hchains, List.mem_cons_self⟩, hends.2 chain List.mem_cons_self⟩

/-- gmsm accepts any certificate by the root of the host, and nothing by roots it is given. -/
def systemHost (validAt : Int) : Backends where
  checkSignatureFrom _ _ := .error (.text "x509: cannot verify signature")
  stdVerify _ _ := .error (.text "x509: certificate signed by unknown authority")
  smParse der := .ok ⟨der, 1, [], [], [], [], .ecdsa true [], [], validAt, validAt, [], []⟩
  smVerify cert o := match o.roots with
    | none => .ok [[cert.raw, [0]]]
    | some _ => .error (.text "x509: certificate signed by unknown authority")
  systemRoots := [[0]]
  rfc3339 _ := ""

lemma systemHost_lawful (validAt : Int) : (systemHost validAt).Lawful where
  parse := by
    intro der cert h
    cases h
    rfl
  std := by
    intro cert o chains h
    cases h
  sm := by
    intro cert o chains h chain hchain
    cases hroots : o.roots with
    | none =>
      simp only [systemHost, hroots, Except.ok.injEq] at h
      subst h
      rw [List.mem_singleton.mp hchain, Backends.anchors, hroots]
      exact ⟨[0], List.mem_singleton_self _, rfl⟩
    | some roots =>
      simp only [systemHost, hroots] at h
      cases h

lemma systemHost_accepts {cert : Certificate} {opts : VerifyOptions} {pool : CertPool}
    (hpool : opts.roots = some pool) (h : ¬ Dependable cert opts pool) :
    verify (systemHost opts.currentTime) (some cert) opts = .ok () := by
  simp only [Dependable, not_or, not_exists, not_and, not_not, Nat.not_lt, Nat.le_zero] at h
  obtain ⟨hlen, hsm2, hself, husages⟩ := h
  rw [Bool.not_eq_false] at hsm2
  have husages := usages_shared husages
  have hroots : smRoots (systemHost opts.currentTime) opts.roots = .ok none := by
    rw [hpool, smRoots, if_pos hlen]
    rfl
  have hsm : verifySM2 (systemHost opts.currentTime) cert opts = .ok [[cert.raw, [0]]] := by
    simp only [verifySM2, husages, hroots, ok_bind]
    simp [systemHost, Except.mapError, checkValidity]
  have hchains : verifyChains (systemHost opts.currentTime) (some cert) opts =
    .ok [[cert.raw, [0]]] := by
    rw [← hsm]
    simp [verifyChains, systemHost, Except.isOk, Except.toBool, hself, hsm2]
  rw [verify, hchains]
  rfl

/-- Only an empty pool is not kept to: in its place gmsm takes the roots of the host. -/
theorem anchored_iff_dependable (cert : Certificate) (opts : VerifyOptions) (pool : CertPool) :
    (∀ B : Backends, B.Lawful → Anchored B cert { opts with roots := some pool } pool) ↔
      Dependable cert { opts with roots := some pool } pool := by
  constructor
  · intro hall
    by_contra hnot
    have hverify := systemHost_accepts rfl hnot
    obtain ⟨chain, _, last, hlast, _⟩ := hall _ (systemHost_lawful _) hverify
    have hlen : pool.len = 0 := by
      by_contra hne
      exact hnot (.inl (Nat.pos_of_ne_zero hne))
    rw [pool.raw_eq, List.eq_nil_of_length_eq_zero hlen] at hlast
    cases hlast
  · exact fun h B hB => anchored_of_dependable hB rfl h

def issuedCert : Certificate := ⟨[1], 1, [], [], [1], [2], .ecdsa true [], [], 0, 0, [], []⟩

theorem empty_pool_trusts_host :
    (systemHost 0).Lawful ∧
      verify (systemHost 0) (some issuedCert) ⟨"", some newCertPool, none, [], 0⟩ = .ok () ∧
      ¬ Anchored (systemHost 0) issuedCert ⟨"", some newCertPool, none, [], 0⟩ newCertPool := by
  have hverify : verify (systemHost 0) (some issuedCert) ⟨"", some newCertPool, none, [], 0⟩ =
    .ok () := by decide
  refine ⟨systemHost_lawful 0, hverify, fun hanchored => ?_⟩
  obtain ⟨chain, _, last, hlast, _⟩ := hanchored hverify
  cases hlast

end Pollux.Smx509
