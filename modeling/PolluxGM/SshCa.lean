import Mathlib.Algebra.Ring.Int.Defs
import Mathlib.Algebra.Ring.Nat
import Mathlib.Logic.Unique
import PolluxGM.Bytes

/-!
# The SSH certificate authority

`SignCertificate` and `ValidateCertificate` of `signer.go`. A Go map is a list of pairs in which
every name stands once; nothing but the first error depends on its order. What comes from libraries
is a primitive, `CheckCert` of `x/crypto` included: which critical options it lets pass beside those
that it is told to support differs between versions.
-/
namespace Pollux.SshCa

inductive Err where
  | text (message : String)
  | wrap (context : String) (cause : Err)
  deriving DecidableEq

/-- A public key: its type, its wire form, and its size if it is RSA. -/
structure PublicKey where
  type : String
  marshal : Bytes
  rsaBits : Option Nat
  deriving DecidableEq

structure Permissions where
  permitX11Forwarding : Bool
  permitAgentForwarding : Bool
  permitPortForwarding : Bool
  permitPTY : Bool
  permitUserRC : Bool
  sourceAddresses : List String

def userCert : Int := 1

def hostCert : Int := 2

def certTypeName (t : Int) : String :=
  if t = userCert then "user" else if t = hostCert then "host" else "unknown"

structure CertificateRequest where
  type : Int
  key : Option PublicKey
  keyID : String
  validPrincipals : List String
  validAfter : Nat
  validBefore : Nat
  criticalOptions : List (String × String)
  extensions : List (String × String)
  permissions : Option Permissions

structure SSHCertificate where
  nonce : Bytes
  key : PublicKey
  serial : Nat
  certType : Nat
  keyId : String
  validPrincipals : List String
  validAfter : Nat
  validBefore : Nat
  criticalOptions : List (String × String)
  extensions : List (String × String)
  signatureKey : PublicKey
  signature : Option Bytes
  deriving DecidableEq

def maxUint64 : Nat := 2 ^ 64 - 1

/-- What `CheckCert` asks: options, principal, time and signature. -/
def Checked (bytesForSigning : SSHCertificate → Bytes) (verify : PublicKey → Bytes → Bytes → Bool)
    (passing : List String) (clock : Int) (principal : String) (cert : SSHCertificate) : Prop :=
  (∀ opt ∈ cert.criticalOptions, opt.1 ∈ passing) ∧
  (cert.validPrincipals = [] ∨ principal ∈ cert.validPrincipals) ∧
  (cert.validAfter : Int) ≤ clock ∧ (cert.validBefore = maxUint64 ∨ clock < cert.validBefore) ∧
  verify cert.signatureKey (bytesForSigning { cert with signature := none })
    (cert.signature.getD []) = true

instance (bytesForSigning : SSHCertificate → Bytes) (verify : PublicKey → Bytes → Bytes → Bool)
    (passing : List String) (clock : Int) (principal : String) (cert : SSHCertificate) :
    Decidable (Checked bytesForSigning verify passing clock principal cert) := by
  unfold Checked
  infer_instance

structure Primitives where
  /-- The network in its own form, and whether the address is that of the network. -/
  parseCIDR : String → Option (String × Bool)
  parseIP : String → Bool
  bytesForSigning : SSHCertificate → Bytes
  verify : PublicKey → Bytes → Bytes → Bool
  checkCert : (supported : List String) → (clock : Int) →
    (principal : String) → SSHCertificate → Except Err Unit
  /-- The options that pass unsupported. -/
  exempt : List String
  quote : String → String
  durationText : Int → String
  parseCIDR_comma : ∀ s, ',' ∈ s.toList → parseCIDR s = none
  parseIP_comma : ∀ s, ',' ∈ s.toList → parseIP s = false
  checkCert_ok : ∀ supported clock principal cert,
    checkCert supported clock principal cert = .ok () ↔
    Checked bytesForSigning verify (exempt ++ supported) clock principal cert

/-- `ssh.Signer`. What it signs verifies under its public key. -/
structure Signer (P : Primitives) where
  publicKey : PublicKey
  sign : Bytes → Except Err Bytes
  correct : ∀ b s, sign b = .ok s → P.verify publicKey b s = true

def minRSAKeyBits : Nat := 2048

/-- The types on the list that `AllowedKeyTypes` holds by default. -/
def allowedKeyTypes : List String :=
  ["ssh-ed25519", "ecdsa-sha2-nistp256", "ecdsa-sha2-nistp384", "ecdsa-sha2-nistp521", "ssh-rsa"]

variable {cs : List Char} {name value : String} {m options : List (String × String)}
  {req : CertificateRequest} {maxDuration now : Int} {cert : SSHCertificate}

section

variable (P : Primitives) (allowed : List String)

def validateKeyType (key : PublicKey) : Except Err Unit := do
  let type := P.quote key.type
  reject (key.type ∉ allowed) (.text s!"公钥类型 {type} 不在允许列表内,拒绝签发")
  let bits := key.rsaBits.getD minRSAKeyBits
  reject (key.type = "ssh-rsa" ∧ bits < minRSAKeyBits)
    (.text s!"RSA 公钥 {bits} 位低于最小要求 {minRSAKeyBits} 位,拒绝签发")

def isPrincipalChar (ch : Char) : Bool :=
  ('a' ≤ ch && ch ≤ 'z') || ('A' ≤ ch && ch ≤ 'Z') || ('0' ≤ ch && ch ≤ '9') || ch = '.' || ch =
    '_' || ch = '-'

def validatePrincipal (principal : String) : Except Err Unit := do
  let shown := P.quote principal
  reject (principal = "") (.text "主体不能为空字符串")
  reject (1024 < principal.utf8ByteSize) (.text s!"主体 {shown} 超过最大长度 1024")
  principal.toList.forM fun ch => do
    let bad := P.quote (String.singleton ch)
    reject (isPrincipalChar ch = false) (.text s!"主体 {shown} 含非法字符 {bad}（仅允许字母数字 . _ -）")

def validatePrincipals (principals : List String) : Except Err Unit := do
  reject (principals = []) (.text "主体列表不能为空")
  principals.forM (validatePrincipal P)

def validateSourceAddress (addr : String) : Except Err Unit := do
  reject (addr = "") (.text "源地址不能为空字符串（OpenSSH 会拒绝整个 source-address 列表）")
  match P.parseCIDR addr with
  | some (network, isNetwork) =>
    let shown := P.quote addr
    reject (isNetwork = false) (.text s!"源地址 {shown} 的 CIDR 主机位非零（OpenSSH 要求全零，如 {network}），请规范化")
  | none => reject (P.parseIP addr = false) (.text s!"无效的源地址: {addr}")

def validateSourceAddresses (addresses : List String) : Except Err Unit :=
  addresses.forM (validateSourceAddress P)

/-- The loop of `splitCommaList`. A last piece that is empty is left out. -/
def splitPieces (cur : List Char) : List Char → List String
  | [] => if cur = [] then [] else [String.ofList cur]
  | c :: cs => if c = ',' then String.ofList cur :: splitPieces [] cs
    else splitPieces (cur ++ [c]) cs

def splitCommaList (s : String) : List String := splitPieces [] s.toList

def joinAddresses (addresses : List String) : String := String.intercalate "," addresses

def criticalOptionForceCommand : String := "force-command"

def sourceAddress : String := "source-address"

/-- Store under a name, in place of what was there. -/
def store (name value : String) (m : List (String × String)) : List (String × String) :=
  m.filter (fun entry => entry.1 ≠ name) ++ [(name, value)]

/-- What both the issuing and the validating side ask of an option. -/
def checkOption (name value unknown : String) : Except Err Unit :=
  if name = criticalOptionForceCommand then reject (value = "") (.text "force-command 值不能为空")
  else if name = sourceAddress then (validateSourceAddresses P (splitCommaList value)).mapError
    (.wrap "source-address 值非法: ")
  else .error (.text unknown)

def maxInt64 : Nat := 2 ^ 63 - 1

def uint64 (n : Int) : Nat := (n % 2 ^ 64).toNat

structure CertificateSigner where
  signer : Signer P
  certType : Int
  maxDuration : Int

structure KeyPair where
  privateKey : Option (Signer P)

def second : Int := 1000000000

def newCertificateSigner (keyPair : Option (KeyPair P)) (certType maxDuration : Int) :
    Except Err (CertificateSigner P) := do
  let pair ← need (.text "密钥对不能为空") keyPair
  let key ← need (.text "私钥不能为空") pair.privateKey
  reject (certType ≠ userCert ∧ certType ≠ hostCert)
    (.text s!"certType 必须是 UserCert 或 HostCert, got {certType}")
  let given := P.durationText maxDuration
  reject (maxDuration ≤ 0) (.text s!"maxDuration 必须为正时长(零值会使有效期上限守卫失效, got {given})")
  (validateKeyType P allowed key.publicKey).mapError (.wrap "CA 密钥不满足要求: ")
  return ⟨key, certType, maxDuration⟩

def CertificateRequest.addresses (req : CertificateRequest) : List String :=
  (req.permissions.map Permissions.sourceAddresses).getD []

def validateRequest (s : CertificateSigner P) (req : CertificateRequest) : Except Err PublicKey :=
  do
  let asked := certTypeName req.type
  let own := certTypeName s.certType
  reject (req.type ≠ 0 ∧ req.type ≠ s.certType) (.text s!"证书请求 Type({asked})与签名器类型({own})不一致")
  let key ← need (.text "公钥不能为空") req.key
  validateKeyType P allowed key
  reject (req.keyID = "") (.text "密钥 ID 不能为空")
  validatePrincipals P req.validPrincipals
  let after := req.validAfter
  reject (maxInt64 < req.validAfter) (.text s!"证书生效时间 {after} 超出 int64 可表示范围")
  let before := req.validBefore
  reject (maxInt64 < req.validBefore) (.text s!"证书过期时间 {before} 超出 int64 可表示范围")
  validateSourceAddresses P req.addresses
  return key

def addCriticalOption (options : List (String × String)) (opt : String × String) :
    Except Err (List (String × String)) := do
  let name := P.quote opt.1
  checkOption P opt.1 opt.2 s!"未识别的 critical option {name}，拒绝签发"
  return store opt.1 opt.2 options

/-- The type of the certificate is not looked at. -/
def buildCriticalOptions (req : CertificateRequest) : Except Err (List (String × String)) := do
  let options ← req.criticalOptions.foldlM (addCriticalOption P) []
  if req.addresses = [] then return options
  else do
    validateSourceAddresses P req.addresses
    return store sourceAddress (joinAddresses req.addresses) options

def allowedUserExtensions : List String :=
  ["permit-X11-forwarding", "permit-agent-forwarding", "permit-port-forwarding", "permit-pty",
    "permit-user-rc"]

def addExtension (extensions : List (String × String)) (ext : String × String) :
    Except Err (List (String × String)) := do
  let name := P.quote ext.1
  reject (ext.1 ∉ allowedUserExtensions) (.text s!"未识别的扩展 {name},拒绝签发")
  return store ext.1 ext.2 extensions

def Permissions.permits (p : Permissions) : List String :=
  [(p.permitX11Forwarding, "permit-X11-forwarding"),
    (p.permitAgentForwarding, "permit-agent-forwarding"),
    (p.permitPortForwarding, "permit-port-forwarding"), (p.permitPTY, "permit-pty"),
    (p.permitUserRC, "permit-user-rc")].filterMap fun e => if e.1 then some e.2 else none

def buildExtensions (s : CertificateSigner P) (req : CertificateRequest) :
    Except Err (List (String × String)) := do
  if s.certType = hostCert then
    let count := req.extensions.length
    reject (req.extensions ≠ []) (.text s!"host 证书不允许携带扩展(收到 {count} 项),拒绝签发")
    return []
  else
    let extensions ← req.extensions.foldlM (addExtension P) []
    let permits := (req.permissions.map Permissions.permits).getD []
    return permits.foldl (fun m name => store name "" m) extensions

/-- The time in seconds, and two random strings. -/
structure Surroundings where
  now : Int
  serial : Except Err Bytes
  nonce : Except Err Bytes

/-- The top bit of the eight octets is cleared. -/
def generateCertSerial (random : Except Err Bytes) : Except Err Nat := do
  let buf ← random.mapError (.wrap "生成证书序列号失败: ")
  return buf.foldl (fun n b => n * 256 + b.toNat) 0 % 2 ^ 63

/-- `SignCert`: the nonce and the key of the CA are part of what is signed. -/
def signCert (nonce : Except Err Bytes) (signer : Signer P) (cert : SSHCertificate) :
    Except Err SSHCertificate := do
  let nonce ← nonce
  let cert := { cert with nonce := nonce, signatureKey := signer.publicKey, signature := none }
  let signature ← signer.sign (P.bytesForSigning cert)
  return { cert with signature := some signature }

/-- `Certificate` beside the fields of the SSH certificate. -/
structure Certificate where
  certificate : SSHCertificate
  type : Int
  keyID : String
  validPrincipals : List String
  validAfter : Int
  validBefore : Int
  deriving DecidableEq

/-- `SignCertificate` on the request of its caller. The times that are filled in are locals. -/
def signRequest (s : CertificateSigner P) (env : Surroundings) :
    StateT CertificateRequest (Except Err) Certificate := do
  let req ← get
  let key ← (validateRequest P allowed s req).mapError (Err.wrap "请求验证失败: ")
  let now := uint64 env.now
  let maxSeconds := (s.maxDuration / second).toNat
  let validAfter := if req.validAfter = 0 then now else req.validAfter
  let validBefore := if req.validBefore = 0 then (now + maxSeconds) % 2 ^ 64 else req.validBefore
  reject (validBefore ≤ validAfter) (Err.text "证书过期时间必须大于生效时间")
  let length := validBefore - validAfter
  let limit := P.durationText s.maxDuration
  reject (0 < s.maxDuration ∧ maxSeconds < length) (Err.text s!"证书有效期 {length} 秒超过最大值 {limit}")
  let serial ← generateCertSerial env.serial
  let options ← (buildCriticalOptions P (← get)).mapError (Err.wrap "请求验证失败: ")
  let extensions ← (buildExtensions P s (← get)).mapError (Err.wrap "请求验证失败: ")
  let cert ← (signCert P env.nonce s.signer ⟨[], key, serial, uint64 s.certType % 2 ^ 32, req.keyID,
    req.validPrincipals,
    validAfter, validBefore, options, extensions, s.signer.publicKey, none⟩).mapError
      (Err.wrap "签名证书失败: ")
  return ⟨cert, s.certType, req.keyID, req.validPrincipals, validAfter, validBefore⟩

def signCertificate (s : CertificateSigner P) (env : Surroundings)
    (req : Option CertificateRequest) : Except Err Certificate := do
  let req ← need (.wrap "请求验证失败: " (.text "证书请求不能为空")) req
  let signed ← (signRequest P allowed s env).run req
  return signed.1

structure Authority where
  userSigner : CertificateSigner P
  hostSigner : CertificateSigner P
  maxDuration : Int

def newAuthority (userKeyPair hostKeyPair : Option (KeyPair P)) (maxDuration : Int) :
    Except Err (Authority P) := do
  reject (userKeyPair.isNone = true) (.text "用户密钥对不能为空")
  reject (hostKeyPair.isNone = true) (.text "主机密钥对不能为空")
  let userSigner ← (newCertificateSigner P allowed userKeyPair userCert maxDuration).mapError
    (.wrap "创建用户证书签名器失败: ")
  let hostSigner ← (newCertificateSigner P allowed hostKeyPair hostCert maxDuration).mapError
    (.wrap "创建主机证书签名器失败: ")
  return ⟨userSigner, hostSigner, maxDuration⟩

def certClockSkew : Int := 60

/-- The clock for `CheckCert`, moved by the skew outside the validity. -/
def shimClock (cert : SSHCertificate) (now : Int) : Int :=
  if uint64 now < cert.validAfter then now + certClockSkew
  else if cert.validBefore ≠ maxUint64 ∧ cert.validBefore ≤ uint64 now then now - certClockSkew
  else now

/-- Of an authority without a revocation query. -/
def validateCertificate (a : Authority P) (now : Int) (cert : Option SSHCertificate) :
    Except Err Unit := do
  let cert ← need (.text "证书不能为空") cert
  let checkKey := if (cert.certType : Int) = userCert then a.userSigner.signer.publicKey
    else a.hostSigner.signer.publicKey
  let given := cert.signatureKey.type
  let own := checkKey.type
  reject (cert.signatureKey.type ≠ checkKey.type) (.text s!"证书签名密钥类型不匹配: {given} != {own}")
  reject (cert.signatureKey.marshal ≠ checkKey.marshal) (.text "证书签名 CA 公钥与本服务 CA 不一致")
  reject (cert.signature = none) (.text "证书缺少 CA 签名")
  (P.checkCert [criticalOptionForceCommand] (shimClock cert now)
    (cert.validPrincipals.headD "") cert).mapError (.wrap "证书校验失败: ")
  let names := String.intercalate " " (cert.criticalOptions.map fun opt => P.quote opt.1)
  reject ((cert.certType : Int) = hostCert ∧ cert.criticalOptions ≠ [])
    (.text s!"host 证书不允许携带 critical option: [{names}]")
  if (cert.certType : Int) = userCert then
    cert.criticalOptions.forM fun opt => do
      let name := P.quote opt.1
      checkOption P opt.1 opt.2 s!"未识别的 critical option {name}，拒绝证书"
  else return ()

lemma forM_ok {α ε : Type} {f : α → Except ε Unit} {xs : List α} :
    xs.forM f = .ok () ↔ ∀ x ∈ xs, f x = .ok () := by
  induction xs with
  | nil => exact iff_of_true rfl (by intro x hx; cases hx)
  | cons x xs ih =>
    have hcons : (x :: xs).forM f = (f x >>= fun _ => xs.forM f) := rfl
    rw [hcons, bind_ok, List.forall_mem_cons, ← ih]
    constructor
    · rintro ⟨_, hx, hxs⟩
      exact ⟨hx, hxs⟩
    · rintro ⟨hx, hxs⟩
      exact ⟨(), hx, hxs⟩

lemma splitPieces_comma (h : ',' ∉ cs) (cur rest : List Char) :
    splitPieces cur (cs ++ ',' :: rest) = String.ofList (cur ++ cs) :: splitPieces [] rest := by
  induction cs generalizing cur with
  | nil => simp [splitPieces]
  | cons c cs ih =>
    rw [List.mem_cons, not_or] at h
    rw [List.cons_append, splitPieces, if_neg fun hc => h.1 hc.symm, ih h.2]
    simp

lemma splitPieces_last (h : ',' ∉ cs) (cur : List Char) (hne : cur ++ cs ≠ []) :
    splitPieces cur cs = [String.ofList (cur ++ cs)] := by
  induction cs generalizing cur with
  | nil =>
    rw [List.append_nil] at hne ⊢
    rw [splitPieces, if_neg hne]
  | cons c cs ih =>
    rw [List.mem_cons, not_or] at h
    rw [splitPieces, if_neg fun hc => h.1 hc.symm, ih h.2]
    · simp
    · simp

lemma split_join {addresses : List String} (h : ∀ a ∈ addresses, a ≠ "" ∧ ',' ∉ a.toList) :
    splitCommaList (joinAddresses addresses) = addresses := by
  unfold splitCommaList joinAddresses
  induction addresses with
  | nil => rfl
  | cons a rest ih =>
    obtain ⟨hne, hcomma⟩ := h a List.mem_cons_self
    have hlist : a.toList ≠ [] := by simpa using hne
    cases rest with
    | nil =>
      rw [String.toList_intercalate, List.map_singleton, List.intercalate_singleton,
        splitPieces_last hcomma [] hlist]
      simp
    | cons b rest =>
      have hrest := ih fun x hx => h x (List.mem_cons_of_mem a hx)
      rw [String.toList_intercalate, show ",".toList = [','] from rfl] at hrest
      rw [String.toList_intercalate, List.map_cons, List.map_cons, List.intercalate_cons_cons,
        List.append_assoc]
      rw [show ",".toList = [','] from rfl, List.singleton_append, splitPieces_comma hcomma]
      rw [← List.map_cons, hrest]
      simp

lemma validateSourceAddress_ok {P : Primitives} {addr : String}
    (h : validateSourceAddress P addr = .ok ()) :
    addr ≠ "" ∧ ',' ∉ addr.toList := by
  simp only [validateSourceAddress, bind_ok, reject_ok] at h
  obtain ⟨_, hne, h⟩ := h
  refine ⟨hne, fun hcomma => ?_⟩
  rw [P.parseCIDR_comma addr hcomma] at h
  have hip := (reject_ok _ _ _).mp h
  exact hip (P.parseIP_comma addr hcomma)

lemma joined_valid {P : Primitives} {addresses : List String}
    (h : validateSourceAddresses P addresses = .ok ()) :
    validateSourceAddresses P (splitCommaList (joinAddresses addresses)) = .ok () := by
  have hall := forM_ok.mp h
  rw [split_join fun a ha => validateSourceAddress_ok (hall a ha)]
  exact h

def Accepted (P : Primitives) (opt : String × String) : Prop :=
  (opt.1 = criticalOptionForceCommand ∧ opt.2 ≠ "") ∨
    (opt.1 = sourceAddress ∧ validateSourceAddresses P (splitCommaList opt.2) = .ok ())

lemma checkOption_ok {P : Primitives} {unknown : String} :
    checkOption P name value unknown = .ok () ↔ Accepted P (name, value) := by
  unfold checkOption Accepted
  by_cases hforce : name = criticalOptionForceCommand
  · have hsource : name ≠ sourceAddress := by
      rw [hforce]
      decide
    simp [hforce, show criticalOptionForceCommand ≠ sourceAddress by decide]
  · by_cases hsource : name = sourceAddress
    · simp [hsource, show sourceAddress ≠ criticalOptionForceCommand by decide]
    · simp [hforce, hsource]

lemma mem_store {opt : String × String} (h : opt ∈ store name value m) :
    opt ∈ m ∨ opt = (name, value) := by
  rcases List.mem_append.mp h with hold | hnew
  · exact .inl (List.mem_of_mem_filter hold)
  · exact .inr (List.mem_singleton.mp hnew)

lemma store_names (name value key : String) (m : List (String × String)) :
    key ∈ (store name value m).map Prod.fst ↔ key = name ∨ key ∈ m.map Prod.fst := by
  by_cases hkey : key = name
  · simp [store, hkey]
  · simp [store, hkey]

/-- The options that a request asks for, by name. -/
def CertificateRequest.AsksFor (req : CertificateRequest) (name : String) : Prop :=
  name ∈ req.criticalOptions.map Prod.fst ∨ (name = sourceAddress ∧ req.addresses ≠ [])

lemma foldlM_options {P : Primitives} {opts : List (String × String)}
    (h : opts.foldlM (addCriticalOption P) m = .ok options) (hm : ∀ opt ∈ m, Accepted P opt) :
    (∀ opt ∈ options, Accepted P opt) ∧
    ∀ name, name ∈ options.map Prod.fst ↔ name ∈ opts.map Prod.fst ∨ name ∈ m.map Prod.fst := by
  induction opts generalizing m with
  | nil =>
    cases h
    exact ⟨hm, by simp⟩
  | cons opt opts ih =>
    simp only [List.foldlM_cons, addCriticalOption, bind_ok, pure_inj] at h
    obtain ⟨m', ⟨_, hcheck, rfl⟩, h⟩ := h
    have hstored : ∀ o ∈ store opt.1 opt.2 m, Accepted P o := by
      intro o ho
      rcases mem_store ho with hold | rfl
      · exact hm o hold
      · exact checkOption_ok.mp hcheck
    obtain ⟨hall, hnames⟩ := ih h hstored
    refine ⟨hall, fun name => ?_⟩
    rw [hnames, store_names, List.map_cons, List.mem_cons]
    tauto

/-- Every issued option was accepted, and the names are those asked for. -/
lemma buildCriticalOptions_ok {P : Primitives} (h : buildCriticalOptions P req = .ok options) :
    (∀ opt ∈ options, Accepted P opt) ∧ ∀ name, name ∈ options.map Prod.fst ↔ req.AsksFor name := by
  simp only [buildCriticalOptions, bind_ok] at h
  obtain ⟨given, hgiven, h⟩ := h
  obtain ⟨hall, hnames⟩ := foldlM_options hgiven (by intro opt hopt; cases hopt)
  simp only [List.map_nil, List.not_mem_nil, or_false] at hnames
  by_cases haddresses : req.addresses = []
  · rw [if_pos haddresses] at h
    cases h
    exact ⟨hall, fun name => by simp [CertificateRequest.AsksFor, hnames, haddresses]⟩
  · simp only [if_neg haddresses, bind_ok, pure_inj] at h
    obtain ⟨_, hvalid, rfl⟩ := h
    refine ⟨?_, fun name => ?_⟩
    · intro opt hopt
      rcases mem_store hopt with hold | rfl
      · exact hall opt hold
      · exact .inr ⟨rfl, joined_valid hvalid⟩
    · rw [store_names, hnames, CertificateRequest.AsksFor]
      tauto

lemma no_options_iff {P : Primitives} (h : buildCriticalOptions P req = .ok options) :
    options = [] ↔ req.criticalOptions = [] ∧ req.addresses = [] := by
  obtain ⟨_, hnames⟩ := buildCriticalOptions_ok h
  constructor
  · rintro rfl
    refine ⟨List.eq_nil_iff_forall_not_mem.mpr fun opt hopt => ?_, by_contra fun hne => ?_⟩
    · exact absurd ((hnames opt.1).mpr (.inl (List.mem_map_of_mem hopt))) List.not_mem_nil
    · exact absurd ((hnames sourceAddress).mpr (.inr ⟨rfl, hne⟩)) List.not_mem_nil
  · rintro ⟨hoptions, haddresses⟩
    refine List.eq_nil_iff_forall_not_mem.mpr fun opt hopt => ?_
    have hasked := (hnames opt.1).mp (List.mem_map_of_mem hopt)
    simp [CertificateRequest.AsksFor, hoptions, haddresses] at hasked

/-- What a signed request becomes. -/
structure Issued (P : Primitives) (s : CertificateSigner P) (env : Surroundings)
    (req : CertificateRequest) (cert : SSHCertificate) : Prop where
  options : buildCriticalOptions P req = .ok cert.criticalOptions
  principals : cert.validPrincipals = req.validPrincipals
  type : cert.certType = uint64 s.certType % 2 ^ 32
  key : cert.signatureKey = s.signer.publicKey
  asked : req.validBefore ≤ maxInt64
  before : cert.validBefore =
    if req.validBefore = 0 then (uint64 env.now + (s.maxDuration / second).toNat) % 2 ^ 64
      else req.validBefore
  order : cert.validAfter < cert.validBefore
  length : 0 < s.maxDuration → cert.validBefore - cert.validAfter ≤ (s.maxDuration / second).toNat
  signature : ∃ sig, cert.signature = some sig ∧
    P.verify s.signer.publicKey (P.bytesForSigning { cert with signature := none }) sig = true

lemma validateRequest_before {P : Primitives} {allowed : List String} {s : CertificateSigner P}
    {key : PublicKey} (h : validateRequest P allowed s req = .ok key) :
    req.validBefore ≤ maxInt64 := by
  simp only [validateRequest, bind_ok, reject_ok] at h
  obtain ⟨_, _, _, _, _, _, _, _, _, _, _, _, _, hbefore, _⟩ := h
  exact Nat.not_lt.mp hbefore

/-- The request is as it was when its certificate is there. -/
lemma signRequest_ok {P : Primitives} {allowed : List String} {s : CertificateSigner P}
    {env : Surroundings} {req req' : CertificateRequest} {c : Certificate}
    (h : (signRequest P allowed s env).run req = .ok (c, req')) :
    req' = req ∧ Issued P s env req c.certificate := by
  simp only [signRequest, signCert, StateT.run_bind, StateT.run_get, StateT.run_monadLift,
    StateT.run_pure, monadLift_self, bind_ok, mapError_ok, reject_ok, pure_inj, Prod.mk.injEq] at h
  obtain ⟨_, rfl, _, ⟨key, hkey, rfl⟩, _, ⟨_, hafter, rfl⟩, _, ⟨_, hlength, rfl⟩, _,
    ⟨serial, _, rfl⟩, _, rfl,
    _, ⟨options, hoptions, rfl⟩, _, rfl, _, ⟨extensions, _, rfl⟩, _,
      ⟨_, ⟨nonce, _, sig, hsig, rfl⟩, rfl⟩, rfl, rfl⟩ := h
  exact ⟨rfl, hoptions, rfl, rfl, rfl, validateRequest_before hkey, rfl, Nat.not_le.mp hafter,
    fun hmax => Nat.not_lt.mp fun hlong => hlength ⟨hmax, hlong⟩, sig, rfl,
      s.signer.correct _ sig hsig⟩

lemma signCertificate_ok {P : Primitives} {allowed : List String} {s : CertificateSigner P}
    {env : Surroundings} {req : CertificateRequest} {c : Certificate}
    (h : signCertificate P allowed s env (some req) = .ok c) :
    Issued P s env req c.certificate := by
  simp only [signCertificate, bind_ok, need_ok, pure_inj, Option.some.injEq] at h
  obtain ⟨_, rfl, _, hsigned, rfl⟩ := h
  exact (signRequest_ok hsigned).2

lemma Issued.before_lt {P : Primitives} {s : CertificateSigner P} {env : Surroundings}
    (h : Issued P s env req cert) :
    cert.validBefore < 2 ^ 64 := by
  have hasked := h.asked
  unfold maxInt64 at hasked
  rw [h.before]
  split
  · exact Nat.mod_lt _ (by decide)
  · omega

lemma newCertificateSigner_type {P : Primitives} {allowed : List String}
    {keyPair : Option (KeyPair P)} {certType : Int} {s : CertificateSigner P}
    (h : newCertificateSigner P allowed keyPair certType maxDuration = .ok s) :
    s.certType = certType := by
  simp only [newCertificateSigner, bind_ok, pure_inj] at h
  obtain ⟨_, _, _, _, _, _, _, _, _, _, rfl⟩ := h
  rfl

def Authority.signerFor {P : Primitives} (a : Authority P) (host : Bool) : CertificateSigner P :=
  if host then a.hostSigner else a.userSigner

lemma newAuthority_types {P : Primitives} {allowed : List String}
    {userKeyPair hostKeyPair : Option (KeyPair P)} {a : Authority P}
    (h : newAuthority P allowed userKeyPair hostKeyPair maxDuration = .ok a) :
    a.userSigner.certType = userCert ∧ a.hostSigner.certType = hostCert := by
  simp only [newAuthority, bind_ok, mapError_ok, pure_inj] at h
  obtain ⟨_, _, _, _, user, huser, host, hhost, rfl⟩ := h
  exact ⟨newCertificateSigner_type huser, newCertificateSigner_type hhost⟩

lemma shimClock_inside (hafter : (cert.validAfter : Int) ≤ now) (hbefore : now < cert.validBefore)
    (hsize : cert.validBefore < 2 ^ 64) : shimClock cert now = now := by
  have hnow : (uint64 now : Int) = now := by
    unfold uint64
    omega
  unfold shimClock
  rw [if_neg (by omega), if_neg (by omega)]

/-- `CheckCert` takes an issued certificate unless a source address stands in its way. -/
lemma checkCert_issued {P : Primitives} {s : CertificateSigner P} {env : Surroundings}
    (h : Issued P s env req cert) (hafter : (cert.validAfter : Int) ≤ now)
    (hbefore : now < cert.validBefore) :
    P.checkCert [criticalOptionForceCommand] now (cert.validPrincipals.headD "") cert = .ok () ↔
      sourceAddress ∈ P.exempt ∨ ¬ req.AsksFor sourceAddress := by
  obtain ⟨sig, hsig, hverify⟩ := h.signature
  rw [← h.key] at hverify
  obtain ⟨hall, hnames⟩ := buildCriticalOptions_ok h.options
  rw [P.checkCert_ok, Checked, ← hnames]
  constructor
  · rintro ⟨hoptions, _⟩
    rw [or_iff_not_imp_right, not_not, List.mem_map]
    rintro ⟨opt, hopt, hname⟩
    have hpassing := hoptions opt hopt
    rw [hname, List.mem_append, List.mem_singleton] at hpassing
    exact hpassing.resolve_right (by decide)
  · intro hsource
    refine ⟨fun opt hopt => ?_, ?_, hafter, .inr hbefore, ?_⟩
    · rw [List.mem_append, List.mem_singleton]
      rcases hall opt hopt with ⟨hname, _⟩ | ⟨hname, _⟩
      · exact .inr hname
      · exact .inl (hname ▸ hsource.resolve_right (not_not.mpr (hname ▸ List.mem_map_of_mem hopt)))
    · cases cert.validPrincipals <;> simp
    · rw [hsig]
      exact hverify

def Authority.checkKey {P : Primitives} (a : Authority P) (cert : SSHCertificate) : PublicKey :=
  if (cert.certType : Int) = userCert then a.userSigner.signer.publicKey
    else a.hostSigner.signer.publicKey

lemma validateCertificate_ok {P : Primitives} {a : Authority P} :
    validateCertificate P a now (some cert) = .ok () ↔
      (cert.signatureKey.type = (a.checkKey cert).type ∧ cert.signatureKey.marshal =
        (a.checkKey cert).marshal) ∧
      cert.signature ≠ none ∧
      P.checkCert [criticalOptionForceCommand] (shimClock cert now)
        (cert.validPrincipals.headD "") cert = .ok () ∧
      ((cert.certType : Int) = hostCert → cert.criticalOptions = []) ∧
      ((cert.certType : Int) = userCert → ∀ opt ∈ cert.criticalOptions, Accepted P opt) := by
  have hloop : ((if (cert.certType : Int) = userCert then cert.criticalOptions.forM fun opt =>
        checkOption P opt.1 opt.2 s!"未识别的 critical option {P.quote opt.1}，拒绝证书" else Except.ok ()) =
          .ok ()) ↔
      ((cert.certType : Int) = userCert → ∀ opt ∈ cert.criticalOptions, Accepted P opt) := by
    split
    · rename_i htype
      simp only [forM_ok, checkOption_ok, htype, true_implies]
    · rename_i htype
      simp only [htype, false_implies]
  simp only [validateCertificate, need_some, ok_bind, bind_ok, reject_ok, mapError_ok, pure_ok,
    ne_eq, not_not,
    not_and, hloop, Authority.checkKey, and_assoc, Unique.exists_iff, PUnit.default_eq_unit]

/-- A certificate that the authority issues is accepted by it for as long as it is valid exactly
when two things hold. It is a user certificate, or the request for a host certificate asked
neither for a critical option nor for source addresses; and `CheckCert` lets source addresses
pass, or the request asked for none. -/
theorem issued_accepted_iff (P : Primitives) (allowed : List String)
    {userKeyPair hostKeyPair : Option (KeyPair P)} {maxDuration : Int} {a : Authority P}
    (ha : newAuthority P allowed userKeyPair hostKeyPair maxDuration = .ok a) (host : Bool)
    (env : Surroundings) {req : CertificateRequest} {c : Certificate}
    (hsign : signCertificate P allowed (a.signerFor host) env (some req) = .ok c) {now : Int}
    (hafter : (c.certificate.validAfter : Int) ≤ now) (hbefore : now < c.certificate.validBefore) :
    validateCertificate P a now (some c.certificate) = .ok () ↔
      (host = false ∨ req.criticalOptions = [] ∧ req.addresses = []) ∧
      (sourceAddress ∈ P.exempt ∨ ¬ req.AsksFor sourceAddress) := by
  have hissued := signCertificate_ok hsign
  obtain ⟨hall, _⟩ := buildCriticalOptions_ok hissued.options
  obtain ⟨sig, hsig, _⟩ := hissued.signature
  obtain ⟨huser, hhost⟩ := newAuthority_types ha
  have htype : (c.certificate.certType : Int) = if host then hostCert else userCert := by
    rw [hissued.type, Authority.signerFor]
    cases host with
    | false =>
      rw [if_neg Bool.false_ne_true, huser]
      decide
    | true =>
      rw [if_pos rfl, hhost]
      decide
  have hkey : c.certificate.signatureKey = a.checkKey c.certificate := by
    rw [hissued.key, Authority.checkKey, Authority.signerFor, htype]
    cases host <;> rfl
  rw [validateCertificate_ok, ← hkey, shimClock_inside hafter hbefore hissued.before_lt, hsig,
    checkCert_issued hissued hafter hbefore, no_options_iff hissued.options, htype]
  cases host with
  | false =>
    simp only [ne_eq, reduceCtorEq, not_false_eq_true, and_self, true_and, true_or,
      Bool.false_eq_true, if_false]
    exact and_iff_left ⟨fun hno => absurd hno (by decide), fun _ => hall⟩
  | true =>
    simp [show hostCert ≠ userCert by decide]
    tauto

end

def tenNetwork : String := "10.0.0.0/8"

/-- `CheckCert` without exemptions, as in `x/crypto` v0.58.0. -/
def toyPrimitives : Primitives where
  parseCIDR s := if s = tenNetwork then some (tenNetwork, true) else none
  parseIP _ := false
  bytesForSigning _ := []
  verify _ _ signature := signature = [1]
  checkCert supported clock principal cert :=
    if Checked (fun _ =>
      []) (fun _ _ signature => signature = [1]) supported clock principal cert then .ok ()
    else .error (.text (if cert.validBefore ≤ clock then "ssh: cert has expired"
      else "ssh: cert refused"))
  exempt := []
  quote s := s
  durationText _ := "24h0m0s"
  parseCIDR_comma := by
    intro s hs
    apply if_neg
    rintro rfl
    revert hs
    decide
  parseIP_comma := by
    intro s _
    rfl
  checkCert_ok := by
    intro supported clock principal cert
    rw [List.nil_append]
    split <;> simp [*]

def toySigner (type : String) : Signer toyPrimitives where
  publicKey := ⟨type, [7], none⟩
  sign _ := .ok [1]
  correct := by
    intro b s h
    cases h
    rfl

def toyKeyPair : KeyPair toyPrimitives := ⟨some (toySigner "ssh-ed25519")⟩

def toyAuthority : Authority toyPrimitives :=
  ⟨⟨toySigner "ssh-ed25519", userCert, 86400 * second⟩,
    ⟨toySigner "ssh-ed25519", hostCert, 86400 * second⟩, 86400 * second⟩

lemma toyAuthority_new :
    newAuthority toyPrimitives allowedKeyTypes (some toyKeyPair) (some toyKeyPair)
      (86400 * second) = .ok toyAuthority := by
  rfl

def requesting (options : List (String × String)) (addresses : List String) : CertificateRequest :=
  ⟨0, some ⟨"ssh-ed25519", [9], none⟩, "web", ["web"], 0, 0, options, [],
    some ⟨false, false, false, false, false, addresses⟩⟩

def toySurroundings : Surroundings := ⟨1000, .ok [0, 0, 0, 0, 0, 0, 0, 5], .ok [3]⟩

def issuedWith (certType : Nat) (options : List (String × String)) : Certificate :=
  ⟨⟨[3], ⟨"ssh-ed25519", [9], none⟩, 5, certType, "web", ["web"], 1000, 87400, options, [],
    ⟨"ssh-ed25519", [7], none⟩, some [1]⟩, certType, "web", ["web"], 1000, 87400⟩

def onlyUptime : List (String × String) := [(criticalOptionForceCommand, "uptime")]

theorem issued_accepted_user :
    signCertificate toyPrimitives allowedKeyTypes (toyAuthority.signerFor false) toySurroundings
      (some (requesting onlyUptime [])) = .ok (issuedWith 1 onlyUptime) ∧
    validateCertificate toyPrimitives toyAuthority 2000
      (some (issuedWith 1 onlyUptime).certificate) = .ok () := by
  have hsign : signCertificate toyPrimitives allowedKeyTypes
    (toyAuthority.signerFor false) toySurroundings
      (some (requesting onlyUptime [])) = .ok (issuedWith 1 onlyUptime) := by decide +kernel
  have hafter : ((issuedWith 1 onlyUptime).certificate.validAfter : Int) ≤ 2000 := by decide
  have hnone : ¬ (requesting onlyUptime []).AsksFor sourceAddress := by
    rintro (hname | ⟨_, hne⟩)
    · revert hname
      decide
    · exact hne rfl
  have hiff := issued_accepted_iff toyPrimitives allowedKeyTypes toyAuthority_new false
    toySurroundings hsign hafter (by decide)
  exact ⟨hsign, hiff.mpr ⟨.inl rfl, .inr hnone⟩⟩

/-- The host signer issues the same request, `CheckCert` takes it, and the authority turns it
down. -/
theorem host_option_rejected :
    newAuthority toyPrimitives allowedKeyTypes (some toyKeyPair) (some toyKeyPair)
      (86400 * second) = .ok toyAuthority ∧
    signCertificate toyPrimitives allowedKeyTypes (toyAuthority.signerFor true) toySurroundings
      (some (requesting onlyUptime [])) = .ok (issuedWith 2 onlyUptime) ∧
    toyPrimitives.checkCert [criticalOptionForceCommand] 2000 "web"
      (issuedWith 2 onlyUptime).certificate = .ok () ∧
    validateCertificate toyPrimitives toyAuthority 2000
      (some (issuedWith 2 onlyUptime).certificate) =
      .error (.text "host 证书不允许携带 critical option: [force-command]") :=
  ⟨toyAuthority_new, by decide +kernel, by decide +kernel, by decide +kernel⟩

end Pollux.SshCa
