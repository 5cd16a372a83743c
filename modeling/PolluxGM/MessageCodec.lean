import Mathlib.Algebra.Ring.Nat
import PolluxGM.Codec
import PolluxGM.Messages

/-!
# The codecs of the handshake, both ways

The list of cipher suites, the list of ALPN names and the two vectors of pre_shared_key are written
with their length cut to sixteen bits. The readers of the cookie and of pre_shared_key skip octets
behind what the length fields announce.
-/
namespace Pollux.Tls

/-- The types that implement the interface `handshakeMessage`. -/
inductive MessageKind where
  | clientHello
  | serverHello
  | encryptedExtensions
  | certificate
  | certificateVerify
  | finished
  | newSessionTicket
  deriving DecidableEq

inductive HandshakeMessage where
  | clientHello (m : ClientHelloMsg)
  | serverHello (m : ServerHelloMsg)
  | encryptedExtensions (m : EncryptedExtensionsMsg)
  | certificate (m : CertificateMsg)
  | certificateVerify (m : CertificateVerifyMsg)
  | finished (m : FinishedMsg)
  | newSessionTicket (m : NewSessionTicketMsg)
  deriving DecidableEq

def HandshakeMessage.kind : HandshakeMessage → MessageKind
  | .clientHello _ => .clientHello
  | .serverHello _ => .serverHello
  | .encryptedExtensions _ => .encryptedExtensions
  | .certificate _ => .certificate
  | .certificateVerify _ => .certificateVerify
  | .finished _ => .finished
  | .newSessionTicket _ => .newSessionTicket

def MessageKind.msgType : MessageKind → UInt8
  | .clientHello => HandshakeType.clientHello
  | .serverHello => HandshakeType.serverHello
  | .encryptedExtensions => HandshakeType.encryptedExtensions
  | .certificate => HandshakeType.certificate
  | .certificateVerify => HandshakeType.certificateVerify
  | .finished => HandshakeType.finished
  | .newSessionTicket => HandshakeType.newSessionTicket

def HandshakeMessage.marshalBody : HandshakeMessage → Except Err Bytes
  | .clientHello m => m.marshalBody
  | .serverHello m => m.marshalBody
  | .encryptedExtensions m => m.marshalBody
  | .certificate m => m.marshalBody
  | .certificateVerify m => m.marshalBody
  | .finished m => m.marshalBody
  | .newSessionTicket m => m.marshalBody

def MessageKind.unmarshalBody : MessageKind → Bytes → Except Err HandshakeMessage
  | .clientHello, b => (ClientHelloMsg.unmarshalBody b).map .clientHello
  | .serverHello, b => (ServerHelloMsg.unmarshalBody b).map .serverHello
  | .encryptedExtensions, b => (EncryptedExtensionsMsg.unmarshalBody b).map .encryptedExtensions
  | .certificate, b => (CertificateMsg.unmarshalBody b).map .certificate
  | .certificateVerify, b => (CertificateVerifyMsg.unmarshalBody b).map .certificateVerify
  | .finished, b => (FinishedMsg.unmarshalBody b).map .finished
  | .newSessionTicket, b => (NewSessionTicketMsg.unmarshalBody b).map .newSessionTicket

/-- What the readers of the hellos ask for: a known version, and a suite. -/
def HandshakeMessage.Offered : HandshakeMessage → Prop
  | .clientHello m => LegacyRange m.legacyVersion ∧ m.cipherSuites ≠ []
  | .serverHello m => LegacyRange m.legacyVersion
  | _ => True

/-- The length of the suites fits the two octets in front of them. -/
def HandshakeMessage.SuitesFit : HandshakeMessage → Prop
  | .clientHello m => m.cipherSuites.length ≤ 32767
  | _ => True

/-- Whatever follows the message, it is taken off and parsed to `m`. -/
def HandshakeMessage.Recovered (m : HandshakeMessage) (full : Bytes) : Prop :=
  ∀ rest, ∃ body, readHandshakeMessage (full ++ rest) = .ok (m.kind.msgType, body, full.length) ∧
    m.kind.unmarshalBody body = .ok m

lemma clientHello_exact :
    Exact ClientHelloMsg.marshalBody ClientHelloMsg.unmarshalBody ClientHelloMsg.WellFormed fun _ =>
      True :=
  .of_inverse ClientHelloMsg.unmarshal_marshal ClientHelloMsg.marshal_unmarshal

lemma serverHello_exact : Exact ServerHelloMsg.marshalBody ServerHelloMsg.unmarshalBody
    (fun m => LegacyRange m.legacyVersion) fun _ => True :=
  .of_inverse ServerHelloMsg.unmarshal_marshal ServerHelloMsg.marshal_unmarshal

lemma encryptedExtensions_exact :
    Exact EncryptedExtensionsMsg.marshalBody EncryptedExtensionsMsg.unmarshalBody
      (fun _ => True) fun _ => True :=
  .of_inverse (fun _ => EncryptedExtensionsMsg.unmarshal_marshal)
    fun h => ⟨EncryptedExtensionsMsg.marshal_unmarshal h, trivial⟩

lemma certificate_exact :
    Exact CertificateMsg.marshalBody CertificateMsg.unmarshalBody (fun _ => True) fun _ => True :=
  .of_inverse (fun _ => CertificateMsg.unmarshal_marshal) fun h =>
    ⟨CertificateMsg.marshal_unmarshal h, trivial⟩

lemma certificateVerify_exact :
    Exact CertificateVerifyMsg.marshalBody CertificateVerifyMsg.unmarshalBody
      (fun _ => True) fun _ => True :=
  .of_inverse (fun _ => CertificateVerifyMsg.unmarshal_marshal)
    fun h => ⟨CertificateVerifyMsg.marshal_unmarshal h, trivial⟩

lemma finished_exact :
    Exact FinishedMsg.marshalBody FinishedMsg.unmarshalBody (fun _ => True) fun _ => True := by
  apply Exact.of_inverse
  · intro m b _ h
    exact (FinishedMsg.unmarshal_marshal h).1
  · intro m b h
    obtain ⟨hlen, rfl⟩ := FinishedMsg.unmarshalBody_ok.mp h
    simp [FinishedMsg.marshalBody, reject, hlen]

lemma newSessionTicket_exact :
    Exact NewSessionTicketMsg.marshalBody NewSessionTicketMsg.unmarshalBody (fun _ => True) fun _ =>
      True :=
  .of_inverse (fun _ => NewSessionTicketMsg.unmarshal_marshal)
    fun h => ⟨NewSessionTicketMsg.marshal_unmarshal h, trivial⟩

lemma wellFormed_iff {m : ClientHelloMsg} (hversion : LegacyRange m.legacyVersion)
    (hne : m.cipherSuites ≠ []) :
    m.WellFormed ↔ m.cipherSuites.length ≤ 32767 := by
  constructor
  · intro h
    have hfit := h.suites_fit
    omega
  · intro h
    exact ⟨hversion, hne, by omega⟩

lemma unmarshalBody_marshalBody {m : HandshakeMessage} (hm : m.Offered)
    (h : m.marshalBody = .ok b) : m.kind.unmarshalBody b = .ok m ↔ m.SuitesFit := by
  cases m with
  | clientHello m =>
    exact (clientHello_exact.reads_case (fun _ _ => HandshakeMessage.clientHello.inj) h).trans
      (wellFormed_iff hm.1 hm.2)
  | serverHello m =>
    exact (serverHello_exact.reads_case (fun _ _ => HandshakeMessage.serverHello.inj) h).trans
      (iff_true_intro hm)
  | encryptedExtensions m =>
    exact encryptedExtensions_exact.reads_case (fun _ _ => HandshakeMessage.encryptedExtensions.inj)
      h
  | certificate m =>
    exact certificate_exact.reads_case (fun _ _ => HandshakeMessage.certificate.inj) h
  | certificateVerify m =>
    exact certificateVerify_exact.reads_case (fun _ _ => HandshakeMessage.certificateVerify.inj) h
  | finished m => exact finished_exact.reads_case (fun _ _ => HandshakeMessage.finished.inj) h
  | newSessionTicket m =>
    exact newSessionTicket_exact.reads_case (fun _ _ => HandshakeMessage.newSessionTicket.inj) h

lemma marshalBody_unmarshalBody {m : HandshakeMessage}
    (h : kind.unmarshalBody b = .ok m) : m.kind = kind ∧ m.marshalBody = .ok b := by
  cases kind with
  | clientHello =>
    obtain ⟨m, rfl, hm⟩ := clientHello_exact.writes_case h
    exact ⟨rfl, hm⟩
  | serverHello =>
    obtain ⟨m, rfl, hm⟩ := serverHello_exact.writes_case h
    exact ⟨rfl, hm⟩
  | encryptedExtensions =>
    obtain ⟨m, rfl, hm⟩ := encryptedExtensions_exact.writes_case h
    exact ⟨rfl, hm⟩
  | certificate =>
    obtain ⟨m, rfl, hm⟩ := certificate_exact.writes_case h
    exact ⟨rfl, hm⟩
  | certificateVerify =>
    obtain ⟨m, rfl, hm⟩ := certificateVerify_exact.writes_case h
    exact ⟨rfl, hm⟩
  | finished =>
    obtain ⟨m, rfl, hm⟩ := finished_exact.writes_case h
    exact ⟨rfl, hm⟩
  | newSessionTicket =>
    obtain ⟨m, rfl, hm⟩ := newSessionTicket_exact.writes_case h
    exact ⟨rfl, hm⟩

/-- Behind the header there is nothing but the body. -/
lemma recovered_frame {m : HandshakeMessage} {body : Bytes}
    (h : body.length ≤ maxHandshakeMessageLen) :
    m.Recovered (frame m.kind.msgType body) ↔ m.kind.unmarshalBody body = .ok m := by
  have hread (rest : Bytes) := readHandshakeMessage_frame m.kind.msgType body rest h
  constructor
  · intro hm
    obtain ⟨body', hbody', hparse⟩ := hm []
    rw [hread, Except.ok.injEq, Prod.mk.injEq, Prod.mk.injEq] at hbody'
    obtain ⟨-, rfl, -⟩ := hbody'
    exact hparse
  · intro hparse rest
    exact ⟨body, by rw [hread, frame_length], hparse⟩

/-- A written message is recovered from whatever follows it exactly if its suites fit their length
field. An accepted body is the written form of what was read. -/
theorem message_codecs_exact_iff (m : HandshakeMessage) (kind : MessageKind) (full b : Bytes) :
    (m.Offered → marshalHandshakeMessage m.kind.msgType m.marshalBody = .ok full →
      (m.Recovered full ↔ m.SuitesFit)) ∧
    (kind.unmarshalBody b = .ok m → m.kind = kind ∧ m.marshalBody = .ok b) := by
  constructor
  · intro hm h
    obtain ⟨body, hbody, hlen, rfl⟩ := marshalHandshakeMessage_ok.mp h
    rw [recovered_frame hlen]
    exact unmarshalBody_marshalBody hm hbody
  · intro h
    exact marshalBody_unmarshalBody h

def helloOffering (n : Nat) : HandshakeMessage :=
  .clientHello ⟨versionTLS12, helloRetryRequestRandom, [], List.replicate n tlsSM4GCMSM3, []⟩

lemma helloOffering_body (n : Nat) : (helloOffering n).marshalBody =
    .ok (helloHead versionTLS12 helloRetryRequestRandom [] ++ (be16 (2 * n) ++
      (encodeCipherSuites (List.replicate n tlsSM4GCMSM3) ++ [1, 0, 0, 0]))) := by
  have hempty : marshalExtensions [] = .ok [0, 0] := rfl
  refine ClientHelloMsg.marshalBody_ok.mpr ⟨Nat.zero_le _, [0, 0], hempty, ?_⟩
  rw [List.length_replicate]

lemma helloOffering_marshals (h : n ≤ 40000) :
    ∃ full, marshalHandshakeMessage (helloOffering n).kind.msgType (helloOffering n).marshalBody =
      .ok full := by
  refine ⟨_, marshalHandshakeMessage_ok.mpr ⟨_, helloOffering_body n, ?_, rfl⟩⟩
  have hhead : (helloHead versionTLS12 helloRetryRequestRandom []).length = 35 := by decide
  simp only [List.length_append, hhead, be16_length, encodeCipherSuites_length,
    List.length_replicate, List.length_cons, List.length_nil, maxHandshakeMessageLen]
  omega

lemma helloOffering_offered (h : 0 < n) : (helloOffering n).Offered := by
  have hversion : LegacyRange versionTLS12 := by
    constructor <;> decide
  refine ⟨hversion, ?_⟩
  cases n with
  | zero => exact absurd h (Nat.lt_irrefl 0)
  | succ n => exact List.cons_ne_nil _ _

/-- One suite is recovered, and a parsed Finished is written as it was. -/
theorem message_codecs_exact_sample :
    (∃ full, marshalHandshakeMessage (helloOffering 1).kind.msgType (helloOffering 1).marshalBody =
      .ok full ∧ (helloOffering 1).Recovered full) ∧
    ∃ m, MessageKind.finished.unmarshalBody (zeros 32) = .ok m ∧
      m.marshalBody = .ok (zeros 32) := by
  constructor
  · obtain ⟨full, hfull⟩ := helloOffering_marshals (n := 1) (by omega)
    refine ⟨full, hfull,
      ((message_codecs_exact_iff _ .finished full []).1 (helloOffering_offered (by omega))
        hfull).mpr ?_⟩
    show 1 ≤ 32767
    omega
  · exact ⟨.finished ⟨zeros 32⟩, rfl,
      ((message_codecs_exact_iff _ .finished [] (zeros 32)).2 rfl).2⟩

/-- The length of 32768 suites is written as zero, and the hello is refused as one without suites.
-/
theorem overlong_hello_lost :
    (helloOffering 32768).Offered ∧
    ∃ full, marshalHandshakeMessage (helloOffering 32768).kind.msgType
      (helloOffering 32768).marshalBody = .ok full ∧ ¬ (helloOffering 32768).Recovered full := by
  obtain ⟨full, hfull⟩ := helloOffering_marshals (n := 32768) (by omega)
  refine ⟨helloOffering_offered (by omega), full, hfull, ?_⟩
  obtain ⟨body, hbody, hlen, rfl⟩ := marshalHandshakeMessage_ok.mp hfull
  rw [recovered_frame hlen, unmarshalBody_marshalBody (helloOffering_offered (by omega)) hbody]
  show ¬ (List.replicate 32768 tlsSM4GCMSM3).length ≤ 32767
  rw [List.length_replicate]
  omega

def identitiesLength (identities : List PskIdentity) : Nat :=
  (identities.map fun i => i.identity.length + 6).sum

def shortsLength (xs : List Bytes) : Nat := (xs.map fun x => x.length + 1).sum

def vectorLength (data : Bytes) : Nat := 2 + ((u16 data).map Prod.fst).getD 0

def OfferFits (offer : List PskIdentity × List Bytes) : Prop :=
  identitiesLength offer.1 ≤ 0xFFFF ∧ shortsLength offer.2 ≤ 0xFFFF

def OfferEnds (data : Bytes) : Prop :=
  vectorLength data + vectorLength (data.drop (vectorLength data)) = data.length

def NamesFit (protocols : List Bytes) : Prop := protocols ≠ [] ∧ shortsLength protocols ≤ 0xFFFF

def CookieEnds (data : Bytes) : Prop := vectorLength data = data.length

lemma identities_length (ids : List PskIdentity) :
    (ids.flatMap PskIdentity.encode).length = identitiesLength ids := by
  simp [List.length_flatMap, identitiesLength]

lemma binders_length (bs : List Bytes) : (bs.flatMap encodeBinder).length = shortsLength bs := by
  simp [List.length_flatMap, shortsLength, encodeBinder]

lemma names_length (ps : List Bytes) : (ps.flatMap encodeName).length = shortsLength ps := by
  simp [List.length_flatMap, shortsLength, encodeName]

lemma vectorLength_be16 (h : n ≤ 0xFFFF) (r : Bytes) : vectorLength (be16 n ++ r) = 2 + n := by
  rw [vectorLength, u16_be16 n (by omega)]
  rfl

lemma offerEnds_payload (hids : identitiesLength ids ≤ 0xFFFF) (hbs : shortsLength bs ≤ 0xFFFF)
    (tail : Bytes) : OfferEnds (pskPayload ids bs ++ tail) ↔ tail = [] := by
  have hfirst : vectorLength (pskPayload ids bs ++ tail) = 2 + identitiesLength ids := by
    simp only [pskPayload, identities_length, List.append_assoc]
    exact vectorLength_be16 hids _
  have hrest : (pskPayload ids bs ++ tail).drop (2 + identitiesLength ids) =
      be16 (shortsLength bs) ++ (bs.flatMap encodeBinder ++ tail) := by
    simp only [pskPayload, identities_length, binders_length]
    rw [List.append_assoc]
    have hlen : (be16 (identitiesLength ids) ++ ids.flatMap PskIdentity.encode).length =
      2 + identitiesLength ids := by
      rw [List.length_append, be16_length, identities_length]
    rw [List.drop_left' hlen, List.append_assoc]
  have htotal : (pskPayload ids bs ++ tail).length =
    2 + identitiesLength ids + (2 + shortsLength bs) + tail.length := by
    simp only [pskPayload, List.length_append, be16_length, identities_length, binders_length]
  rw [OfferEnds, hfirst, hrest, vectorLength_be16 hbs, htotal, ← List.length_eq_zero_iff]
  omega

lemma preSharedKey_exact :
    Exact (fun offer : List PskIdentity × List Bytes =>
      marshalPreSharedKeyExtension offer.1 offer.2)
      parsePreSharedKeyExtension OfferFits OfferEnds := by
  constructor
  · rintro ⟨ids, bs⟩ b h
    obtain ⟨hids, hbs, rfl⟩ := marshalPreSharedKey_ok.mp h
    constructor
    · intro hread
      obtain ⟨-, -, -, hidLen, hbLen⟩ := parsePreSharedKey_ok hread
      rw [identities_length] at hidLen
      rw [binders_length] at hbLen
      exact ⟨hidLen, hbLen⟩
    · rintro ⟨hidLen, hbLen⟩
      rw [← identities_length] at hidLen
      rw [← binders_length] at hbLen
      have hread := parsePreSharedKey_payload ids bs [] hids hbs hidLen hbLen
      rwa [List.append_nil] at hread
  · rintro ⟨ids, bs⟩ b h
    obtain ⟨⟨tail, rfl⟩, hids, hbs, hidLen, hbLen⟩ := parsePreSharedKey_ok h
    rw [identities_length] at hidLen
    rw [binders_length] at hbLen
    rw [offerEnds_payload hidLen hbLen, marshalPreSharedKey_ok]
    constructor
    · rintro ⟨-, -, hsame⟩
      exact List.append_right_eq_self.mp hsame
    · rintro rfl
      exact ⟨hids, hbs, List.append_nil _⟩

lemma alpn_exact : Exact marshalALPNExtension parseALPNExtension NamesFit fun _ => True := by
  have hlength {ps : List Bytes} {b : Bytes} (h : marshalALPNExtension ps = .ok b) :
    b.length = 2 + shortsLength ps := by
    simp only [marshalALPNExtension, bind_ok, marshalALPNNames_ok, pure_inj] at h
    obtain ⟨_, ⟨-, rfl⟩, rfl⟩ := h
    rw [List.length_append, be16_length, names_length]
  apply Exact.of_inverse
  · rintro ps b ⟨hne, hfit⟩ h
    exact parseALPN_marshal hne h (by rw [hlength h]; omega)
  · intro ps b h
    obtain ⟨hwrite, hne, -, hlen⟩ := parseALPN_ok h
    rw [hlength hwrite] at hlen
    exact ⟨hwrite, hne, by omega⟩

lemma cookie_exact :
    Exact marshalCookieExtension parseCookieExtension (fun _ => True) CookieEnds := by
  constructor
  · intro cookie b h
    obtain ⟨hlen, rfl⟩ := marshalCookie_ok.mp h
    exact iff_true_intro (parseCookie_ok.mpr ⟨hlen, [], by rw [List.append_nil]⟩)
  · intro cookie b h
    obtain ⟨hlen, tail, rfl⟩ := parseCookie_ok.mp h
    rw [CookieEnds, vectorLength_be16 hlen, marshalCookie_ok]
    simp only [List.length_append, be16_length, hlen, true_and, List.append_cancel_left_eq,
      List.append_right_eq_self]
    rw [← List.length_eq_zero_iff]
    omega

/-- When the payload codecs are exact: the writers where the vectors fit, the readers where
nothing is left behind. -/
theorem payload_codecs_exact_iff (identities : List PskIdentity) (binders protocols : List Bytes)
    (cookie data : Bytes) :
    (marshalPreSharedKeyExtension identities binders = .ok data →
      (parsePreSharedKeyExtension data = .ok (identities, binders) ↔
        OfferFits (identities, binders))) ∧
    (parsePreSharedKeyExtension data = .ok (identities, binders) →
      (marshalPreSharedKeyExtension identities binders = .ok data ↔ OfferEnds data)) ∧
    (marshalALPNExtension protocols = .ok data →
      (parseALPNExtension data = .ok protocols ↔ NamesFit protocols)) ∧
    (parseALPNExtension data = .ok protocols → marshalALPNExtension protocols = .ok data) ∧
    (marshalCookieExtension cookie = .ok data → parseCookieExtension data = .ok cookie) ∧
    (parseCookieExtension data = .ok cookie →
      (marshalCookieExtension cookie = .ok data ↔ CookieEnds data)) := by
  refine ⟨fun h => preSharedKey_exact.reads (a := (identities, binders)) h, fun h =>
    preSharedKey_exact.writes h,
    fun h => alpn_exact.reads h, fun h => (alpn_exact.writes h).mpr trivial, fun h =>
      (cookie_exact.reads h).mpr trivial,
    fun h => cookie_exact.writes h⟩

theorem payload_codecs_exact_sample :
    parsePreSharedKeyExtension (pskPayload [⟨[1, 2], 7⟩] [[3]]) = .ok ([⟨[1, 2], 7⟩], [[3]]) ∧
      parseALPNExtension [0, 3, 2, 104, 51] = .ok [[104, 51]] ∧
        parseCookieExtension [0, 1, 9] = .ok [9] :=
  ⟨((payload_codecs_exact_iff [⟨[1, 2], 7⟩] [[3]] [] [] _).1 rfl).mpr ⟨by decide, by decide⟩,
    ((payload_codecs_exact_iff [] [] [[104, 51]] [] _).2.2.1 rfl).mpr ⟨by decide, by decide⟩,
    (payload_codecs_exact_iff [] [] [] [9] _).2.2.2.2.1 rfl⟩

def longNames : List Bytes := List.replicate 16384 [1, 2, 3]

def longIdentities : List PskIdentity := List.replicate 2 ⟨zeros 32762, 0⟩

/-- Names and identities that are written but not read back, and an offer and a cookie that are
read with an octet behind them. -/
theorem payload_codecs_inexact :
    (∃ b, longNames ≠ [] ∧ marshalALPNExtension longNames = .ok b ∧
      parseALPNExtension b ≠ .ok longNames) ∧
    (∃ b, marshalPreSharedKeyExtension longIdentities [] = .ok b ∧
      parsePreSharedKeyExtension b ≠ .ok (longIdentities, [])) ∧
    (parsePreSharedKeyExtension [0, 0, 0, 0, 9] = .ok ([], []) ∧
      marshalPreSharedKeyExtension [] [] ≠ .ok [0, 0, 0, 0, 9]) ∧
    parseCookieExtension [0, 1, 7, 9] = .ok [7] ∧
      marshalCookieExtension [7] ≠ .ok [0, 1, 7, 9] := by
  refine ⟨?_, ?_, by decide, by decide⟩
  · have hgood : ∀ p ∈ longNames, GoodName p := by
      intro p hp
      rw [List.eq_of_mem_replicate hp]
      exact ⟨by decide, by decide⟩
    have hnames : marshalALPNExtension longNames =
        .ok (be16 (longNames.flatMap encodeName).length ++ longNames.flatMap encodeName) := by
      rw [marshalALPNExtension, marshalALPNNames_ok.mpr ⟨hgood, rfl⟩, ok_bind, pure_ok]
    refine ⟨_, ?_, hnames, ?_⟩
    · exact List.ne_nil_of_length_pos (by rw [longNames, List.length_replicate]; omega)
    · rw [ne_eq, alpn_exact.reads hnames, NamesFit, not_and, Nat.not_le]
      intro _
      rw [shortsLength, longNames, List.map_replicate, List.sum_replicate_nat]
      decide
  · have hids : marshalPreSharedKeyExtension longIdentities [] =
      .ok (pskPayload longIdentities []) := by
      rw [marshalPreSharedKey_ok]
      refine ⟨?_, by simp, rfl⟩
      intro i hi
      rw [List.eq_of_mem_replicate hi, zeros_length]
      omega
    refine ⟨_, hids, ?_⟩
    rw [ne_eq, preSharedKey_exact.reads (a := (longIdentities, [])) hids, OfferFits, not_and_or,
      Nat.not_le]
    refine .inl ?_
    simp [identitiesLength, longIdentities]

end Pollux.Tls
