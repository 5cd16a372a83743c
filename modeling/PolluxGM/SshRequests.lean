import PolluxGM.SshCa

/-!
# What an SSH certificate keeps of its request

The source addresses and the lifetime of a request against those of the certificate that
`SignCertificate` issues for it, and the tolerance of `ValidateCertificate` for clocks that
differ.
-/
namespace Pollux.SshCa

variable {P : Primitives} {allowed : List String} {s : CertificateSigner P} {env : Surroundings}
  {req : CertificateRequest} {c : Certificate} {cert : SSHCertificate} {now : Int}

/-- Splitting at every comma, with empty pieces kept. -/
def splitAll (cur : List Char) : List Char → List String
  | [] => [String.ofList cur]
  | c :: cs => if c = ',' then String.ofList cur :: splitAll [] cs else splitAll (cur ++ [c]) cs

/-- Every piece is an address, or a network without host bits. -/
def UsableList (P : Primitives) (list : String) : Prop :=
  splitAll [] list.toList ≠ [] ∧ ∀ piece ∈ splitAll [] list.toList, piece ≠ "" ∧
    (P.parseIP piece = true ∨ ∃ network, P.parseCIDR piece = some (network, true))

lemma validateSourceAddress_usable {addr : String} (h : validateSourceAddress P addr = .ok ()) :
    addr ≠ "" ∧ (P.parseIP addr = true ∨ ∃ network, P.parseCIDR addr = some (network, true)) := by
  simp only [validateSourceAddress, bind_ok, reject_ok] at h
  obtain ⟨_, hne, h⟩ := h
  refine ⟨hne, ?_⟩
  split at h
  · rename_i network isNetwork hcidr
    rw [reject_ok, Bool.not_eq_false] at h
    exact .inr ⟨network, h ▸ hcidr⟩
  · rw [reject_ok, Bool.not_eq_false] at h
    exact .inl h

lemma splitAll_ne_nil (cur cs : List Char) : splitAll cur cs ≠ [] := by
  induction cs generalizing cur with
  | nil => exact List.cons_ne_nil _ _
  | cons c cs ih =>
    rw [splitAll]
    split
    · exact List.cons_ne_nil _ _
    · exact ih _

/-- `splitCommaList` only leaves out the empty piece behind a last comma; `last` is the character
before `cs`. -/
lemma splitAll_eq (cur cs : List Char) (last : Char) (hlast : last = ',' ↔ cur = []) :
    splitAll cur cs = splitPieces cur cs ++ if cs.getLastD last = ',' then [""] else [] := by
  induction cs generalizing cur last with
  | nil =>
    by_cases hcur : cur = []
    · simp [splitAll, splitPieces, hlast.mpr hcur, hcur]
    · simp [splitAll, splitPieces, hcur, hlast]
  | cons c cs ih =>
    rw [splitAll, splitPieces, List.getLastD_cons]
    split
    · rename_i hc
      rw [ih [] c (iff_of_true hc rfl), List.cons_append]
    · rename_i hc
      exact ih (cur ++ [c]) c (iff_of_false hc (by simp))

lemma joined_end {addresses : List String} (hne : addresses ≠ [])
    (h : ∀ a ∈ addresses, a ≠ "" ∧ ',' ∉ a.toList) :
    ∃ last, (joinAddresses addresses).toList.getLast? = some last ∧ last ≠ ',' := by
  unfold joinAddresses
  induction addresses with
  | nil => exact absurd rfl hne
  | cons a rest ih =>
    rw [String.toList_intercalate]
    cases rest with
    | nil =>
      obtain ⟨hnonempty, hcomma⟩ := h a List.mem_cons_self
      have hlist : a.toList ≠ [] := by simpa using hnonempty
      refine ⟨a.toList.getLast hlist, ?_, fun hlast => hcomma (hlast ▸ List.getLast_mem hlist)⟩
      rw [List.map_singleton, List.intercalate_singleton, List.getLast?_eq_some_getLast hlist]
    | cons b rest =>
      obtain ⟨last, hlast, hother⟩ := ih (List.cons_ne_nil b rest) fun x hx =>
        h x (List.mem_cons_of_mem a hx)
      rw [String.toList_intercalate] at hlast
      refine ⟨last, ?_, hother⟩
      rw [List.map_cons, List.map_cons, List.intercalate_cons_cons, ← List.map_cons,
        List.getLast?_append, hlast]
      rfl

/-- Where several source-address options are given, the last one counts. -/
def CertificateRequest.sourceAddressOption (req : CertificateRequest) : Option String :=
  (req.criticalOptions.reverse.find? fun opt => opt.1 = sourceAddress).map Prod.snd

lemma foldlM_last {name value : String} {opts m options : List (String × String)}
    (h : opts.foldlM (addCriticalOption P) m = .ok options) (hmem : (name, value) ∈ options) :
    (opts.reverse.find? fun opt => opt.1 = name) = some (name, value) ∨
      (opts.reverse.find? fun opt => opt.1 = name) = none ∧ (name, value) ∈ m := by
  induction opts generalizing m with
  | nil =>
    cases h
    exact .inr ⟨rfl, hmem⟩
  | cons opt opts ih =>
    simp only [List.foldlM_cons, addCriticalOption, bind_ok, pure_inj] at h
    obtain ⟨_, ⟨_, _, rfl⟩, h⟩ := h
    rw [List.reverse_cons, List.find?_append]
    rcases ih h with hlater | ⟨hnone, hstored⟩
    · rw [hlater]
      exact .inl rfl
    · rw [hnone, Option.none_or]
      -- the option itself counts when it has the name, and leaves `m` alone otherwise
      by_cases hname : opt.1 = name
      · have hopt : (name, value) = opt := by simpa [store, hname, Prod.ext_iff] using hstored
        simp [← hopt]
      · refine .inr ⟨by simp [hname], ?_⟩
        rcases mem_store hstored with hold | hnew
        · exact hold
        · exact absurd (congrArg Prod.fst hnew).symm hname

/-- The addresses of the permissions are issued when there are any. -/
lemma issued_list {options : List (String × String)} {list : String}
    (h : buildCriticalOptions P req = .ok options) (hlist : (sourceAddress, list) ∈ options) :
    (req.addresses = [] ∧ req.sourceAddressOption = some list) ∨
      (req.addresses ≠ [] ∧ ∃ last, list.toList.getLast? = some last ∧ last ≠ ',') := by
  simp only [buildCriticalOptions, bind_ok] at h
  obtain ⟨given, hgiven, h⟩ := h
  by_cases haddresses : req.addresses = []
  · rw [if_pos haddresses] at h
    cases h
    refine .inl ⟨haddresses, ?_⟩
    rcases foldlM_last hgiven hlist with hlast | ⟨_, hnil⟩
    · rw [CertificateRequest.sourceAddressOption, hlast]
      rfl
    · cases hnil
  · simp only [if_neg haddresses, bind_ok, pure_inj] at h
    obtain ⟨_, hvalid, rfl⟩ := h
    have hjoined : list = joinAddresses req.addresses := by simpa [store] using hlist
    rw [hjoined]
    exact .inr ⟨haddresses, joined_end haddresses fun a ha =>
      validateSourceAddress_ok (forM_ok.mp hvalid a ha)⟩

lemma usable_iff_end {list : String}
    (hvalid : validateSourceAddresses P (splitCommaList list) = .ok ()) :
    UsableList P list ↔ ∃ last, list.toList.getLast? = some last ∧ last ≠ ',' := by
  have hsplit := splitAll_eq [] list.toList ',' (iff_of_true rfl rfl)
  have hend : (∃ last, list.toList.getLast? = some last ∧ last ≠ ',') ↔
    list.toList.getLastD ',' ≠ ',' := by
    rw [List.getLastD_eq_getLast?]
    cases list.toList.getLast? <;> simp
  rw [hend, UsableList]
  constructor
  · rintro ⟨_, hall⟩ hcomma
    rw [hsplit, if_pos hcomma] at hall
    exact (hall "" (List.mem_append_right _ List.mem_cons_self)).1 rfl
  · intro hcomma
    refine ⟨splitAll_ne_nil _ _, fun piece hpiece => ?_⟩
    rw [hsplit, if_neg hcomma, List.append_nil] at hpiece
    exact validateSourceAddress_usable (forM_ok.mp hvalid piece hpiece)

/-- An issued list of source addresses can be used exactly when the request gave addresses in its
permissions, or a source-address option that is not empty and does not end in a comma. -/
theorem issued_list_usable_iff (P : Primitives) (allowed : List String) (s : CertificateSigner P)
    (env : Surroundings) {req : CertificateRequest} {c : Certificate}
    (h : signCertificate P allowed s env (some req) = .ok c) {list : String}
    (hlist : (sourceAddress, list) ∈ c.certificate.criticalOptions) :
    UsableList P list ↔ req.addresses ≠ [] ∨
      ∃ value last, req.sourceAddressOption = some value ∧ value.toList.getLast? = some last ∧
        last ≠ ',' := by
  have hissued := signCertificate_ok h
  have hvalid : validateSourceAddresses P (splitCommaList list) = .ok () := by
    rcases (buildCriticalOptions_ok hissued.options).1 _ hlist with ⟨hname, _⟩ | ⟨_, hvalid⟩
    · exact absurd (show sourceAddress = criticalOptionForceCommand from hname) (by decide)
    · exact hvalid
  rw [usable_iff_end hvalid]
  rcases issued_list hissued.options hlist with ⟨haddresses, hoption⟩ | ⟨haddresses, hend⟩
  · simp [haddresses, hoption]
  · exact iff_of_true hend (.inl haddresses)

def toySign (req : CertificateRequest) : Except Err Certificate :=
  signCertificate toyPrimitives allowedKeyTypes toyAuthority.userSigner toySurroundings (some req)

theorem issued_list_usable_ten :
    toySign (requesting [(sourceAddress, "")] [tenNetwork]) =
      .ok (issuedWith 1 [(sourceAddress, tenNetwork)]) ∧
    toySign (requesting [(sourceAddress, tenNetwork)] []) =
      .ok (issuedWith 1 [(sourceAddress, tenNetwork)]) ∧
    UsableList toyPrimitives tenNetwork := by
  have hsign : toySign (requesting [(sourceAddress, "")] [tenNetwork]) =
      .ok (issuedWith 1 [(sourceAddress, tenNetwork)]) := by decide +kernel
  have hiff := issued_list_usable_iff toyPrimitives allowedKeyTypes toyAuthority.userSigner
    toySurroundings hsign (List.mem_cons_self (l := []))
  exact ⟨hsign, by decide +kernel, hiff.mpr (.inl (List.cons_ne_nil _ _))⟩

/-- A comma behind the last network, and a list of nothing, are issued. -/
theorem unusable_list_issued :
    (toySign (requesting [(sourceAddress, "10.0.0.0/8,")] []) =
      .ok (issuedWith 1 [(sourceAddress, "10.0.0.0/8,")]) ∧
      splitAll [] "10.0.0.0/8,".toList = ["10.0.0.0/8", ""]) ∧
    toySign (requesting [(sourceAddress, "")] []) = .ok (issuedWith 1 [(sourceAddress, "")]) ∧
    splitAll [] "".toList = [""] :=
  ⟨⟨by decide +kernel, by decide⟩, by decide +kernel, by decide⟩

lemma newCertificateSigner_duration {keyPair : Option (KeyPair P)} {certType maxDuration : Int}
    (h : newCertificateSigner P allowed keyPair certType maxDuration = .ok s) :
    0 < maxDuration ∧ s.maxDuration = maxDuration := by
  simp only [newCertificateSigner, bind_ok, reject_ok, pure_inj] at h
  obtain ⟨_, _, _, _, _, _, _, hpos, _, _, rfl⟩ := h
  exact ⟨Int.not_le.mp hpos, rfl⟩

/-- Whatever times are asked for, a certificate ends after it begins and within the range of the
clock, and lasts no longer than the whole seconds of the limit. The request is as it was. -/
theorem issued_lifetime_bounded (P : Primitives) (allowed : List String)
    {keyPair : Option (KeyPair P)} {certType maxDuration : Int} (hsize : maxDuration < 2 ^ 63)
    {s : CertificateSigner P}
    (hs : newCertificateSigner P allowed keyPair certType maxDuration = .ok s) {env : Surroundings}
    (hclock : uint64 env.now < 2 ^ 62) {req req' : CertificateRequest} {c : Certificate}
    (hsign : (signRequest P allowed s env).run req = .ok (c, req')) :
    req' = req ∧ c.certificate.validAfter < c.certificate.validBefore ∧
      c.certificate.validBefore ≤ 2 ^ 63 - 1 ∧
      c.certificate.validBefore - c.certificate.validAfter ≤ (maxDuration / second).toNat := by
  obtain ⟨rfl, hissued⟩ := signRequest_ok hsign
  obtain ⟨hpos, hmax⟩ := newCertificateSigner_duration hs
  have hlength := hissued.length (hmax ▸ hpos)
  rw [hmax] at hlength
  refine ⟨rfl, hissued.order, ?_, hlength⟩
  rw [hissued.before, hmax]
  split
  · have hseconds : maxDuration / second < 2 ^ 34 :=
      Int.ediv_lt_of_lt_mul (by decide) (by unfold second; omega)
    have hsum := Nat.mod_le (uint64 env.now + (maxDuration / second).toNat) (2 ^ 64)
    omega
  · exact hissued.asked

theorem issued_lifetime_day :
    (signRequest toyPrimitives allowedKeyTypes toyAuthority.userSigner toySurroundings).run
      (requesting [] []) = .ok (issuedWith 1 [], requesting [] []) ∧
    (issuedWith 1 []).certificate.validBefore -
      (issuedWith 1 []).certificate.validAfter ≤ 86400 := by
  have hsign : (signRequest toyPrimitives allowedKeyTypes toyAuthority.userSigner
      toySurroundings).run (requesting [] []) = .ok (issuedWith 1 [], requesting [] []) := by rfl
  have hs : newCertificateSigner toyPrimitives allowedKeyTypes (some toyKeyPair) userCert
      (86400 * second) = .ok toyAuthority.userSigner := rfl
  exact ⟨hsign, (issued_lifetime_bounded toyPrimitives allowedKeyTypes (by decide) hs
    (by decide) hsign).2.2.2⟩

/-- All that `ValidateCertificate` asks for, at some reading of the clock. -/
def ValidApart (P : Primitives) (a : Authority P) (cert : SSHCertificate) : Prop :=
  (cert.signatureKey.type = (a.checkKey cert).type ∧ cert.signatureKey.marshal =
    (a.checkKey cert).marshal) ∧
  cert.signature ≠ none ∧
  (∃ clock, P.checkCert [criticalOptionForceCommand] clock (cert.validPrincipals.headD "") cert =
    .ok ()) ∧
  ((cert.certType : Int) = hostCert → cert.criticalOptions = []) ∧
  ((cert.certType : Int) = userCert → ∀ opt ∈ cert.criticalOptions, Accepted P opt)

lemma checkCert_clock {supported : List String} {principal : String} {clock clock' : Int}
    (h : P.checkCert supported clock principal cert = .ok ())
    (hbefore : cert.validBefore < 2 ^ 63) :
    P.checkCert supported clock' principal cert = .ok () ↔ cert.validAfter ≤ clock' ∧
      clock' < cert.validBefore := by
  have hmax : cert.validBefore ≠ maxUint64 := by
    unfold maxUint64
    omega
  rw [P.checkCert_ok, Checked] at h ⊢
  obtain ⟨hoptions, hprincipal, _, _, hsignature⟩ := h
  constructor
  · rintro ⟨_, _, hafter, hend, _⟩
    exact ⟨hafter, hend.resolve_left hmax⟩
  · rintro ⟨hafter, hend⟩
    exact ⟨hoptions, hprincipal, hafter, .inr hend, hsignature⟩

lemma validApart_accepted {a : Authority P} (h : ValidApart P a cert) (now : Int)
    (hbefore : cert.validBefore < 2 ^ 63) : validateCertificate P a now (some cert) = .ok () ↔
      cert.validAfter ≤ shimClock cert now ∧ shimClock cert now < cert.validBefore := by
  obtain ⟨hkey, hsignature, ⟨clock, hclock⟩, hhost, huser⟩ := h
  rw [validateCertificate_ok, ← checkCert_clock hclock hbefore]
  exact ⟨fun hall => hall.2.2.1, fun hcheck => ⟨hkey, hsignature, hcheck, hhost, huser⟩⟩

/-- The moved clock without the wrap of `uint64`. -/
lemma shimClock_eq (horder : cert.validAfter < cert.validBefore)
    (hbefore : cert.validBefore < 2 ^ 63) (hlow : -2 ^ 63 ≤ now) (hhigh : now < 2 ^ 63) :
    shimClock cert now =
      if 0 ≤ now ∧ now < cert.validAfter then now + 60
        else if now < 0 ∨ cert.validBefore ≤ now then now - 60 else now := by
  have hmax : cert.validBefore ≠ maxUint64 := by
    unfold maxUint64
    omega
  have hwrap : (uint64 now : Int) = if now < 0 then now + 2 ^ 64 else now := by
    unfold uint64
    split <;> omega
  unfold shimClock certClockSkew
  split at hwrap
  · rw [if_neg (by omega), if_pos (by omega), if_neg (by omega), if_pos (by omega)]
  · simp only [← Int.ofNat_lt, ← Int.ofNat_le, hwrap, hmax, ne_eq, not_false_eq_true, true_and]
    rename_i hpos
    simp only [Int.not_lt.mp hpos, hpos, true_and, false_or]

/-- A clock within the skew of the validity is accepted, and no other, exactly when the validity
is at least as long as the skew and begins no earlier than the skew after 1970: the moved clock of
a shorter certificate leaves its validity at the other end. -/
theorem skew_exact_iff (P : Primitives) {a : Authority P} {cert : SSHCertificate}
    (h : ValidApart P a cert) (horder : cert.validAfter < cert.validBefore)
    (hbefore : cert.validBefore < 2 ^ 63) :
    (∀ now : Int, -2 ^ 63 ≤ now → now + 60 < 2 ^ 63 →
      (validateCertificate P a now (some cert) = .ok () ↔
      cert.validAfter - 60 ≤ now ∧ now < cert.validBefore + 60)) ↔
    cert.validAfter + 60 ≤ cert.validBefore ∧ 60 ≤ cert.validAfter := by
  simp only [validApart_accepted h _ hbefore]
  constructor
  · intro hexact
    have hepoch := hexact (-1) (by omega) (by omega)
    rw [shimClock_eq horder hbefore (by omega) (by omega), if_neg (by omega),
      if_pos (by omega)] at hepoch
    -- just before the certificate begins, or as near to that as the clock can come
    have hlast := hexact (min (cert.validAfter - 1) (2 ^ 63 - 61)) (by omega) (by omega)
    rw [shimClock_eq horder hbefore (by omega) (by omega), if_pos (by omega)] at hlast
    omega
  · intro hlong now hlow hhigh
    rw [shimClock_eq horder hbefore hlow (by omega)]
    split
    · omega
    · split
      · omega
      · omega

/-- A certificate with ten seconds of validity. -/
def shortLived : SSHCertificate := { (issuedWith 1 []).certificate with validBefore := 1010 }

lemma accepted_apart {a : Authority P}
    (h : validateCertificate P a now (some cert) = .ok ()) : ValidApart P a cert := by
  obtain ⟨hkey, hsignature, hcheck, hhost, huser⟩ := validateCertificate_ok.mp h
  exact ⟨hkey, hsignature, ⟨_, hcheck⟩, hhost, huser⟩

theorem skew_exact_day : ValidApart toyPrimitives toyAuthority (issuedWith 1 []).certificate ∧
    validateCertificate toyPrimitives toyAuthority 940 (some (issuedWith 1 []).certificate) =
      .ok () := by
  have hvalid : validateCertificate toyPrimitives toyAuthority 2000
    (some (issuedWith 1 []).certificate) = .ok () := by
    decide +kernel
  have hiff := skew_exact_iff toyPrimitives (accepted_apart hvalid) (by decide) (by decide)
  exact ⟨accepted_apart hvalid,
    (hiff.mpr ⟨by decide, by decide⟩ 940 (by decide) (by decide)).mpr ⟨by decide, by decide⟩⟩

/-- Accepted before its time, then not, and then in its time again. -/
theorem skew_not_exact :
    ValidApart toyPrimitives toyAuthority shortLived ∧
    validateCertificate toyPrimitives toyAuthority 945 (some shortLived) = .ok () ∧
    validateCertificate toyPrimitives toyAuthority 960 (some shortLived) =
      .error (.wrap "证书校验失败: " (.text "ssh: cert has expired")) ∧
    validateCertificate toyPrimitives toyAuthority 1005 (some shortLived) = .ok () := by
  have hvalid : validateCertificate toyPrimitives toyAuthority 945 (some shortLived) = .ok () := by
    decide +kernel
  exact ⟨accepted_apart hvalid, hvalid, by decide +kernel, by decide +kernel⟩

end Pollux.SshCa
