import PolluxGM.Ocsp

/-!
# Nonces of OCSP

`ExtractOCSPRequestNonce`, `ResponseNonce` and `VerifyOCSPResponseNonce` of `ocsp_ext.go`. A request
skips nonce extensions that it cannot decode and gives up at one that follows a nonce; a response
takes the first one. Neither looks at what is left of a value after its octet string.
-/
namespace Pollux.OcspNonce

open Smx509 Ocsp

def oidExtOCSPNonce : OID := [1, 3, 6, 1, 5, 5, 7, 48, 1, 2]

def minOCSPNonceLen : Nat := 16

/-- Each decoder gives what it read and the rest. -/
structure Decoders where
  requestExtensions : Bytes → Except Err (List Extension × Bytes)
  unmarshalResponse : Bytes → Except Err (ResponseASN1 × Bytes)
  responseExtensions : Bytes → Except Err (List Extension × Bytes)
  unmarshalOctets : Bytes → Except Err (Bytes × Bytes)

def isNonce (ext : Extension) : Bool := ext.id = oidExtOCSPNonce

section

variable (D : Decoders)

def requestNonce : Option Bytes → List Extension → Option Bytes
  | found, [] => found
  | found, ext :: exts =>
    if isNonce ext then
      if found.isSome then none
      else requestNonce ((D.unmarshalOctets ext.value).toOption.map Prod.fst) exts
    else requestNonce found exts

def extractOCSPRequestNonce (reqBytes : Bytes) : Option Bytes :=
  match D.requestExtensions reqBytes with
  | .ok (exts, []) => requestNonce D none exts
  | .ok (_, _ :: _) | .error _ => none

def basicExtensions (respDER : Bytes) : Except Err (List Extension) := do
  let (outer, rest) ← (D.unmarshalResponse respDER).mapError (.wrap "smx509: parse OCSP response: ")
  reject (rest ≠ []) (.text "smx509: trailing data in OCSP response")
  reject (outer.status ≠ ocspSuccess ∨ outer.responseType ≠ idPKIXOCSPBasic)
    (.text "smx509: response is not a successful BasicOCSPResponse")
  let (exts, rest2) ← (D.responseExtensions outer.response).mapError
    (.wrap "smx509: parse basic OCSP response: ")
  reject (rest2 ≠ []) (.text "smx509: trailing data in basic OCSP response")
  return exts

def scanNonce : List Extension → Except Err (Option Bytes)
  | [] => .ok none
  | ext :: exts =>
    if isNonce ext then do
      let (nonce, _) ← (D.unmarshalOctets ext.value).mapError
        (.wrap "smx509: malformed OCSP nonce extension: ")
      reject (nonce = []) (.text "smx509: OCSP nonce extension is empty")
      return some nonce
    else scanNonce exts

def responseNonce (respDER : Bytes) : Except Err (Option Bytes) := do
  let exts ← basicExtensions D respDER
  scanNonce D exts

def verifyOCSPResponseNonce (respDER sentNonce : Bytes) : Except Err Unit :=
  if sentNonce = [] then .ok ()
  else do
    reject (sentNonce.length < minOCSPNonceLen)
      (.text ("smx509: sent nonce is " ++ toString sentNonce.length ++ " bytes, minimum is " ++
        toString minOCSPNonceLen))
    let got ← responseNonce D respDER
    let nonce ← need (.text
      "smx509: OCSP response carries no nonce although the request sent one — replayed/stripped response MUST be rejected (RFC 6960 §4.4.1)") got
    reject (nonce ≠ sentNonce)
      (.text "smx509: OCSP response nonce mismatch — response does not bind to the request")

end

def nonces (exts : List Extension) : List Extension := exts.filter isNonce

@[simp] lemma nonces_nil : nonces [] = [] := rfl

lemma nonces_cons_pos (h : isNonce ext = true) (exts : List Extension) :
    nonces (ext :: exts) = ext :: nonces exts := List.filter_cons_of_pos h

lemma nonces_cons_neg (h : ¬ isNonce ext = true) (exts : List Extension) :
    nonces (ext :: exts) = nonces exts := List.filter_cons_of_neg h

section

variable {D : Decoders} {exts skipped others : List Extension} {nonce rest : Bytes}

/-- One nonce extension, and its value is the octet string only. -/
def SingleNonce (D : Decoders) (exts : List Extension) (nonce : Bytes) : Prop :=
  ∃ ext, nonces exts = [ext] ∧ D.unmarshalOctets ext.value = .ok (nonce, [])

def LastNonce (D : Decoders) (exts skipped : List Extension) (nonce rest : Bytes) : Prop :=
  ∃ ext, nonces exts = skipped ++ [ext] ∧
    (∀ x ∈ skipped, ∃ e, D.unmarshalOctets x.value = .error e) ∧
    D.unmarshalOctets ext.value = .ok (nonce, rest)

def FirstNonce (D : Decoders) (exts others : List Extension) (nonce rest : Bytes) : Prop :=
  ∃ ext, nonces exts = ext :: others ∧ D.unmarshalOctets ext.value = .ok (nonce, rest)

lemma SingleNonce.first (h : SingleNonce D exts nonce) : FirstNonce D exts [] nonce [] := h

lemma LastNonce.single_iff (h : LastNonce D exts skipped nonce rest) :
    SingleNonce D exts nonce ↔ skipped = [] ∧ rest = [] := by
  obtain ⟨ext, hexts, hskipped, hvalue⟩ := h
  constructor
  · rintro ⟨only, honly, hclean⟩
    rw [hexts] at honly
    obtain ⟨hnone, hsame⟩ := List.append_eq_singleton_iff.mp honly |>.resolve_right (by simp)
    cases hsame
    rw [hvalue] at hclean
    cases hclean
    exact ⟨hnone, rfl⟩
  · rintro ⟨rfl, rfl⟩
    exact ⟨ext, hexts, hvalue⟩

lemma FirstNonce.single_iff (h : FirstNonce D exts others nonce rest) :
    SingleNonce D exts nonce ↔ others = [] ∧ rest = [] := by
  obtain ⟨ext, hexts, hvalue⟩ := h
  constructor
  · rintro ⟨only, honly, hclean⟩
    rw [hexts] at honly
    cases honly
    rw [hvalue] at hclean
    cases hclean
    exact ⟨rfl, rfl⟩
  · rintro ⟨rfl, rfl⟩
    exact ⟨ext, hexts, hvalue⟩

/-- A found nonce is returned unless another nonce extension follows. -/
lemma requestNonce_found :
    requestNonce D (some found) exts = some nonce ↔ nonces exts = [] ∧ found = nonce := by
  induction exts with
  | nil => simp [requestNonce]
  | cons ext exts ih =>
    by_cases hext : isNonce ext = true
    · simp [requestNonce, hext, nonces_cons_pos hext]
    · rw [nonces_cons_neg hext, ← ih, requestNonce, if_neg hext]

lemma lastNonce_decoded (hext : isNonce ext = true)
    (hvalue : D.unmarshalOctets ext.value = .ok decoded) :
    (∃ skipped rest, LastNonce D (ext :: exts) skipped nonce rest) ↔ nonces exts = [] ∧
      decoded.1 = nonce := by
  simp only [LastNonce, nonces_cons_pos hext]
  constructor
  · rintro ⟨skipped, rest, last, hexts, hskipped, hlast⟩
    cases skipped with
    | nil =>
      obtain ⟨rfl, hnone⟩ := List.cons.inj hexts
      rw [hvalue] at hlast
      exact ⟨hnone, congrArg Prod.fst (Except.ok.inj hlast)⟩
    | cons x skipped =>
      obtain ⟨rfl, -⟩ := List.cons.inj hexts
      obtain ⟨e, he⟩ := hskipped ext List.mem_cons_self
      rw [hvalue] at he
      cases he
  · rintro ⟨hnone, rfl⟩
    exact ⟨[], decoded.2, ext, by rw [hnone]; rfl, (fun x hx => by cases hx), hvalue⟩

lemma lastNonce_skipped (hext : isNonce ext = true)
    (hvalue : D.unmarshalOctets ext.value = .error e) :
    (∃ skipped rest, LastNonce D (ext :: exts) skipped nonce rest) ↔ ∃ skipped rest,
      LastNonce D exts skipped nonce rest := by
  simp only [LastNonce, nonces_cons_pos hext]
  constructor
  · rintro ⟨skipped, rest, last, hexts, hskipped, hlast⟩
    cases skipped with
    | nil =>
      obtain ⟨rfl, -⟩ := List.cons.inj hexts
      rw [hvalue] at hlast
      cases hlast
    | cons x skipped =>
      obtain ⟨-, htail⟩ := List.cons.inj hexts
      exact ⟨skipped, rest, last, htail, fun y hy => hskipped y (List.mem_cons_of_mem _ hy), hlast⟩
  · rintro ⟨skipped, rest, last, hexts, hskipped, hlast⟩
    exact ⟨ext :: skipped, rest, last,
      by rw [hexts]; rfl, List.forall_mem_cons.mpr ⟨⟨e, hvalue⟩, hskipped⟩, hlast⟩

lemma requestNonce_some :
    requestNonce D none exts = some nonce ↔ ∃ skipped rest,
      LastNonce D exts skipped nonce rest := by
  induction exts with
  | nil => simp [requestNonce, LastNonce]
  | cons ext exts ih =>
    by_cases hext : isNonce ext = true
    · rw [requestNonce, if_pos hext, if_neg (by decide)]
      cases hvalue : D.unmarshalOctets ext.value with
      | ok decoded => exact requestNonce_found.trans (lastNonce_decoded hext hvalue).symm
      | error e => exact ih.trans (lastNonce_skipped hext hvalue).symm
    · rw [requestNonce, if_neg hext, ih]
      simp only [LastNonce, nonces_cons_neg hext]

lemma extractOCSPRequestNonce_some : extractOCSPRequestNonce D reqBytes = some nonce ↔
    ∃ exts skipped rest, D.requestExtensions reqBytes = .ok (exts, []) ∧
      LastNonce D exts skipped nonce rest := by
  unfold extractOCSPRequestNonce
  split
  · next exts hexts =>
    rw [requestNonce_some]
    constructor
    · rintro ⟨skipped, rest, hlast⟩
      exact ⟨exts, skipped, rest, hexts, hlast⟩
    · rintro ⟨_, skipped, rest, hsame, hlast⟩
      rw [hexts] at hsame
      cases hsame
      exact ⟨skipped, rest, hlast⟩
  · next hexts => simp [hexts]
  · next hexts => simp [hexts]

lemma scanNonce_some :
    scanNonce D exts = .ok (some nonce) ↔ nonce ≠ [] ∧ ∃ others rest,
      FirstNonce D exts others nonce rest := by
  induction exts with
  | nil => simp [scanNonce, FirstNonce]
  | cons ext exts ih =>
    by_cases hext : isNonce ext = true
    · rw [scanNonce, if_pos hext]
      simp only [bind_ok, mapError_ok, reject_ok, pure_ok, FirstNonce, nonces_cons_pos hext]
      constructor
      · rintro ⟨⟨decoded, rest⟩, hvalue, _, hfull, hsame⟩
        cases hsame
        exact ⟨hfull, nonces exts, rest, ext, rfl, hvalue⟩
      · rintro ⟨hfull, others, rest, first, hexts, hvalue⟩
        obtain ⟨rfl, -⟩ := List.cons.inj hexts
        exact ⟨(nonce, rest), hvalue, (), hfull, rfl⟩
    · rw [scanNonce, if_neg hext, ih]
      simp only [FirstNonce, nonces_cons_neg hext]

lemma responseNonce_some : responseNonce D respDER = .ok (some nonce) ↔
    nonce ≠ [] ∧ ∃ exts others rest, basicExtensions D respDER = .ok exts ∧
      FirstNonce D exts others nonce rest := by
  simp only [responseNonce, bind_ok, scanNonce_some]
  constructor
  · rintro ⟨exts, hexts, hfull, others, rest, hfirst⟩
    exact ⟨hfull, exts, others, rest, hexts, hfirst⟩
  · rintro ⟨hfull, exts, others, rest, hexts, hfirst⟩
    exact ⟨exts, hexts, hfull, others, rest, hfirst⟩

lemma verifyOCSPResponseNonce_ok {respDER sent : Bytes} (hsent : sent ≠ []) :
    verifyOCSPResponseNonce D respDER sent = .ok () ↔
      minOCSPNonceLen ≤ sent.length ∧ responseNonce D respDER = .ok (some sent) := by
  rw [verifyOCSPResponseNonce, if_neg hsent]
  simp only [bind_ok, reject_ok, need_ok, Nat.not_lt, Decidable.not_not]
  constructor
  · rintro ⟨_, hlength, got, hgot, nonce, rfl, rfl⟩
    exact ⟨hlength, hgot⟩
  · rintro ⟨hlength, hgot⟩
    exact ⟨(), hlength, some sent, hgot, sent, rfl, rfl⟩

end

section

variable (D : Decoders)

def RequestSingle (reqBytes nonce : Bytes) : Prop :=
  ∃ exts, D.requestExtensions reqBytes = .ok (exts, []) ∧ SingleNonce D exts nonce

def ResponseSingle (respDER nonce : Bytes) : Prop :=
  ∃ exts, basicExtensions D respDER = .ok exts ∧ SingleNonce D exts nonce

variable {D} {reqBytes respDER nonce : Bytes} {exts : List Extension}

lemma RequestSingle.of_extensions (h : RequestSingle D reqBytes nonce)
    (hexts : D.requestExtensions reqBytes = .ok (exts, [])) :
    SingleNonce D exts nonce := by
  obtain ⟨found, hfound, hsingle⟩ := h
  cases hfound.symm.trans hexts
  exact hsingle

lemma ResponseSingle.of_extensions (h : ResponseSingle D respDER nonce)
    (hexts : basicExtensions D respDER = .ok exts) :
    SingleNonce D exts nonce := by
  obtain ⟨found, hfound, hsingle⟩ := h
  cases hfound.symm.trans hexts
  exact hsingle

end

/-- An extracted nonce is the only one, and all of its extension, exactly when the list has no
other nonce extension (decodable or not) than the one that is read, the last of a request and the
first of a response, and nothing follows the octet string in it. A client that sent a nonce is
then bound to it. -/
theorem nonce_unambiguous_iff (D : Decoders) (reqBytes respDER sent : Bytes) (hsent : sent ≠ []) :
    ((∀ nonce, extractOCSPRequestNonce D reqBytes = some nonce → RequestSingle D reqBytes nonce) ↔
      ∀ exts skipped nonce rest, D.requestExtensions reqBytes = .ok (exts, []) →
        LastNonce D exts skipped nonce rest → skipped = [] ∧ rest = []) ∧
    ((∀ nonce, responseNonce D respDER = .ok (some nonce) → ResponseSingle D respDER nonce) ↔
      ∀ exts others nonce rest, nonce ≠ [] → basicExtensions D respDER = .ok exts →
        FirstNonce D exts others nonce rest → others = [] ∧ rest = []) ∧
    ((verifyOCSPResponseNonce D respDER sent = .ok () ↔ ResponseSingle D respDER sent ∧
      minOCSPNonceLen ≤ sent.length) ↔
      ∀ exts others rest, minOCSPNonceLen ≤ sent.length → basicExtensions D respDER = .ok exts →
        FirstNonce D exts others sent rest → others = [] ∧ rest = []) := by
  refine ⟨⟨?_, ?_⟩, ⟨?_, ?_⟩, ?_, ?_⟩
  · intro h exts skipped nonce rest hexts hlast
    exact hlast.single_iff.mp
      ((h nonce (extractOCSPRequestNonce_some.mpr ⟨exts, skipped, rest, hexts,
        hlast⟩)).of_extensions hexts)
  · intro h nonce hnonce
    obtain ⟨exts, skipped, rest, hexts, hlast⟩ := extractOCSPRequestNonce_some.mp hnonce
    exact ⟨exts, hexts, hlast.single_iff.mpr (h exts skipped nonce rest hexts hlast)⟩
  · intro h exts others nonce rest hfull hexts hfirst
    exact hfirst.single_iff.mp
      ((h nonce (responseNonce_some.mpr ⟨hfull, exts, others, rest, hexts, hfirst⟩)).of_extensions
        hexts)
  · intro h nonce hnonce
    obtain ⟨hfull, exts, others, rest, hexts, hfirst⟩ := responseNonce_some.mp hnonce
    exact ⟨exts, hexts, hfirst.single_iff.mpr (h exts others nonce rest hfull hexts hfirst)⟩
  · intro h exts others rest hlength hexts hfirst
    have hverify := (verifyOCSPResponseNonce_ok hsent).mpr
      ⟨hlength, responseNonce_some.mpr ⟨hsent, exts, others, rest, hexts, hfirst⟩⟩
    exact hfirst.single_iff.mp ((h.mp hverify).1.of_extensions hexts)
  · intro h
    rw [verifyOCSPResponseNonce_ok hsent, responseNonce_some]
    constructor
    · rintro ⟨hlength, -, exts, others, rest, hexts, hfirst⟩
      exact ⟨⟨exts, hexts, hfirst.single_iff.mpr (h exts others rest hlength hexts hfirst)⟩,
        hlength⟩
    · rintro ⟨⟨exts, hexts, hsingle⟩, hlength⟩
      exact ⟨hlength, hsent, exts, [], [], hexts, hsingle.first⟩

def sampleOctets : Bytes → Except Err (Bytes × Bytes)
  | 4 :: length :: content =>
    if length.toNat ≤ content.length then .ok (content.take length.toNat, content.drop length.toNat)
    else .error (.text "asn1: syntax error: data truncated")
  | _ => .error (.text "asn1: structure error")

def sampleExtensions : Nat → Bytes → Except Err (List Extension)
  | 0, _ => .ok []
  | _, [] => .ok []
  | fuel + 1, der => do
    let (value, rest) ← sampleOctets der
    let exts ← sampleExtensions fuel rest
    return ⟨oidExtOCSPNonce, false, value⟩ :: exts

def sampleDecoders : Decoders where
  requestExtensions der := (sampleExtensions der.length der).map (·, [])
  unmarshalResponse der := .ok (⟨ocspSuccess, idPKIXOCSPBasic, der⟩, [])
  responseExtensions der := (sampleExtensions der.length der).map (·, [])
  unmarshalOctets := sampleOctets

def octets (content : Bytes) : Bytes := 4 :: UInt8.ofNat content.length :: content

def sampleNonce : Bytes := List.replicate 16 7

lemma sampleNonce_single : basicExtensions sampleDecoders (octets (octets sampleNonce)) =
    .ok [⟨oidExtOCSPNonce, false, octets sampleNonce⟩] := by decide +kernel

theorem nonce_unambiguous_iff_sample :
    verifyOCSPResponseNonce sampleDecoders (octets (octets sampleNonce)) sampleNonce = .ok () ∧
      ResponseSingle sampleDecoders (octets (octets sampleNonce)) sampleNonce := by
  have hverify : verifyOCSPResponseNonce sampleDecoders (octets (octets sampleNonce)) sampleNonce =
    .ok () := by decide +kernel
  have hiff := (nonce_unambiguous_iff sampleDecoders [] (octets (octets sampleNonce)) sampleNonce
    (by decide)).2.2
  refine ⟨hverify, ((hiff.mpr ?_).mp hverify).1⟩
  rintro exts others rest - hexts ⟨ext, hfirst, hvalue⟩
  rw [sampleNonce_single] at hexts
  cases hexts
  obtain ⟨rfl, rfl⟩ := List.cons.inj hfirst
  have hclean : sampleOctets (octets sampleNonce) = .ok (sampleNonce, []) := by decide +kernel
  cases hvalue.symm.trans hclean
  exact ⟨rfl, rfl⟩

/-- A request whose first nonce is not decoded, and a response with two nonces and octets after
the first. -/
theorem ambiguous_nonces :
    (extractOCSPRequestNonce sampleDecoders (octets [4, 9] ++ octets (octets sampleNonce)) =
      some sampleNonce ∧
      ¬ RequestSingle sampleDecoders (octets [4, 9] ++ octets (octets sampleNonce)) sampleNonce) ∧
    responseNonce sampleDecoders (octets (octets sampleNonce ++ [0]) ++ octets (octets [1])) =
      .ok (some sampleNonce) ∧
    verifyOCSPResponseNonce sampleDecoders
      (octets (octets sampleNonce ++ [0]) ++ octets (octets [1])) sampleNonce = .ok () ∧
    ¬ ResponseSingle sampleDecoders (octets (octets sampleNonce ++ [0]) ++ octets (octets [1]))
      sampleNonce := by
  refine ⟨⟨by decide +kernel, ?_⟩, by decide +kernel, by decide +kernel, ?_⟩
  · rintro ⟨exts, hexts, ext, hsingle, -⟩
    have htwo : sampleDecoders.requestExtensions (octets [4, 9] ++ octets (octets sampleNonce)) =
        .ok ([⟨oidExtOCSPNonce, false, [4, 9]⟩, ⟨oidExtOCSPNonce, false, octets sampleNonce⟩],
          []) := by decide +kernel
    cases hexts.symm.trans htwo
    cases hsingle
  · rintro ⟨exts, hexts, ext, hsingle, -⟩
    have htwo : basicExtensions sampleDecoders
      (octets (octets sampleNonce ++ [0]) ++ octets (octets [1])) =
        .ok [⟨oidExtOCSPNonce, false, octets sampleNonce ++ [0]⟩,
          ⟨oidExtOCSPNonce, false, octets [1]⟩] := by decide +kernel
    cases hexts.symm.trans htwo
    cases hsingle

end Pollux.OcspNonce
