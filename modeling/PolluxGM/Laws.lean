import PolluxGM.KeySchedule

/-!
# What the primitives are documented to do

The documented laws that functional results need; none assumes cryptographic strength. A small
instance meets them and serves in worked cases.
-/
namespace Pollux.Tls

/-- The laws of a correct implementation of SM2, SM3, SM4-GCM and HKDF. -/
structure Lawful (P : Prims) : Prop where
  sm3_length : ∀ b, (P.sm3 b).length = sm3Size
  hmac_length : ∀ k b, (P.hmac k b).length = sm3Size
  extract_ok : ∀ salt ikm, ∃ prk, P.hkdfExtract salt ikm = .ok prk ∧ prk.length = sm3Size
  expand_ok : ∀ prk info n, 0 < n → n ≤ maxHKDFExpandLen →
    ∃ okm, P.hkdfExpand prk info n = .ok okm ∧ okm.length = n
  marshal_length : ∀ pub, (P.marshalUncompressed pub).length = 65
  unmarshal_marshal : ∀ pub, P.unmarshalUncompressed (P.marshalUncompressed pub) = .ok pub
  ecdh_ok : ∀ priv pub, ∃ secret, P.ecdh priv pub = .ok secret
  ecdh_comm : ∀ a b, P.ecdh a (P.publicOf b) = P.ecdh b (P.publicOf a)
  sign_ok : ∀ rand priv uid msg, ∃ sig, P.signASN1 rand priv uid msg = .ok sig ∧ sig.length ≤ 72
  verify_sign : ∀ rand priv uid msg sig, P.signASN1 rand priv uid msg = .ok sig →
    P.verifyWithSM2 (P.publicOf priv) uid msg sig = true
  newGCM_ok : ∀ key, key.length = 16 → P.newGCM key = .ok ()
  newCipher_ok : ∀ key, key.length = 16 → P.newCipher key = .ok ()
  open_seal : ∀ key nonce pt aad, P.gcmOpen key nonce (P.gcmSeal key nonce pt aad) aad = .ok pt

section

variable {P : Prims} (hP : Lawful P)
include hP

lemma hkdfExpandLabel_total (secret label context : Bytes) (n : Nat) (hlabel : label.length ≤ 249)
    (hcontext : context.length ≤ 255) (hpos : 0 < n) (hmax : n ≤ maxHKDFExpandLen) :
    ∃ okm, hkdfExpandLabel P secret label context n = .ok okm ∧ okm.length = n := by
  obtain ⟨okm, hokm, hlen⟩ := hP.expand_ok secret
    (be16 n ++ (UInt8.ofNat (6 + label.length) :: (ascii ['t', 'l', 's', '1', '3', ' '] ++ label))
      ++ (UInt8.ofNat context.length :: context)) n hpos hmax
  refine ⟨okm, ?_, hlen⟩
  have hfull : (ascii ['t', 'l', 's', '1', '3', ' '] ++ label).length = 6 + label.length := by
    simp only [List.length_append, Nat.add_right_cancel_iff]
    rfl
  have hbound : maxHKDFExpandLen = 8160 := rfl
  simp only [hkdfExpandLabel, buildHKDFLabel, bind_ok, reject_ok, pure_inj, hfull]
  exact ⟨(), by omega, (), by omega, _, ⟨(), by omega, (), by omega, rfl⟩, hokm⟩

lemma deriveSecret_total (secret label : Bytes) {hash : Bytes} (hlabel : label.length ≤ 249)
    (hhash : hash.length = sm3Size) :
    ∃ s, deriveSecret P secret label hash = .ok s ∧ s.length = sm3Size :=
  hkdfExpandLabel_total hP secret _ _ _ hlabel (by rw [hhash]; decide) (by decide) (by decide)

lemma deriveQUICPacketKeys_total {secret : Bytes} (hsecret : secret ≠ []) :
    ∃ keys, deriveQUICPacketKeys P secret = .ok keys ∧ keys.aeadKey.length = 16 ∧
      keys.aeadIV.length = 12 ∧ keys.headerKey.length = 16 := by
  obtain ⟨key, hkey, hkeyLen⟩ := hkdfExpandLabel_total hP secret Label.quicKey []
    quicAEADKeyLen (by decide) (by decide) (by decide) (by decide)
  obtain ⟨iv, hiv, hivLen⟩ := hkdfExpandLabel_total hP secret Label.quicIV []
    quicAEADIVLen (by decide) (by decide) (by decide) (by decide)
  obtain ⟨hp, hhp, hhpLen⟩ := hkdfExpandLabel_total hP secret Label.quicHP []
    quicHeaderKeyLen (by decide) (by decide) (by decide) (by decide)
  refine ⟨⟨key, iv, hp⟩, ?_, hkeyLen, hivLen, hhpLen⟩
  simp [deriveQUICPacketKeys, hsecret, hkey, hiv, hhp, wrapErr]

lemma quicKeyUpdate_total {secret : Bytes} (hsecret : secret ≠ [])
    (hmax : secret.length ≤ maxHKDFExpandLen) :
    ∃ next, quicKeyUpdate P secret = .ok next ∧ next.length = secret.length := by
  obtain ⟨next, hnext, hlen⟩ := hkdfExpandLabel_total hP secret Label.quicKU []
    secret.length (by decide) (by decide) (List.length_pos_iff.mpr hsecret) hmax
  refine ⟨next, ?_, hlen⟩
  simp [quicKeyUpdate, hsecret, hnext, hlen]

end

def toyHash (b : Bytes) : Bytes :=
  be32 (b.foldl (fun h x => h * 31 + x.toNat + 1) 7) ++ zeros 28

def toyFail : Err := .text "toy primitive refused"

/-- Keys are octets, with multiplication for ECDH; a signature is a keyed checksum, and sealing
appends one. -/
def toyPrims : Prims where
  PrivateKey := UInt8
  PublicKey := UInt8
  Certificate := Bytes
  sm3 := toyHash
  hmac k b := toyHash (k ++ b)
  hkdfExtract salt ikm := .ok (toyHash (salt ++ ikm))
  hkdfExpand prk info n := .ok ((toyHash (prk ++ info) ++ zeros n).take n)
  publicOf priv := 3 * priv
  marshalUncompressed pub := pub :: (zeros 64)
  unmarshalUncompressed b :=
    match b with
    | pub :: rest => if rest = zeros 64 then .ok pub else .error toyFail
    | [] => .error toyFail
  ecdh priv pub := .ok [priv * pub]
  signASN1 _ priv uid msg := .ok (toyHash (3 * priv :: (uid ++ msg)))
  verifyWithSM2 pub uid msg sig := sig = toyHash (pub :: (uid ++ msg))
  parseCertificate b := if b = [] then .error toyFail else .ok b
  certPublicKey cert := cert.head?
  certRaw cert := cert
  verify leaf opts := if leaf ∈ opts.roots.getD [] then .ok () else .error toyFail
  newGCM key := if key.length = 16 then .ok () else .error toyFail
  gcmSeal key nonce pt aad := (toyHash (key ++ nonce ++ pt ++ aad)).take 16 ++ pt
  gcmOpen key nonce ct aad :=
    if ct.take 16 = (toyHash (key ++ nonce ++ ct.drop 16 ++ aad)).take 16 then .ok (ct.drop 16)
    else .error toyFail
  newCipher key := if key.length = 16 then .ok () else .error toyFail
  sm4Encrypt key block := (toyHash (key ++ block)).take 16

lemma toyHash_length (b : Bytes) : (toyHash b).length = 32 := rfl

lemma toy_ecdh_comm (a b : UInt8) : a * (3 * b) = b * (3 * a) := by
  rw [UInt8.mul_comm a, UInt8.mul_comm b, UInt8.mul_assoc, UInt8.mul_assoc, UInt8.mul_comm b a]

lemma toyPrims_lawful : Lawful toyPrims where
  sm3_length := toyHash_length
  hmac_length k b := toyHash_length (k ++ b)
  extract_ok salt ikm := ⟨_, rfl, toyHash_length _⟩
  expand_ok prk info n _ _ := ⟨_, rfl, by simp⟩
  marshal_length pub := rfl
  unmarshal_marshal pub := rfl
  ecdh_ok priv pub := ⟨_, rfl⟩
  ecdh_comm a b := congrArg (fun x => Except.ok [x]) (toy_ecdh_comm a b)
  sign_ok rand priv uid msg := ⟨_, rfl, by rw [toyHash_length]; decide⟩
  verify_sign rand priv uid msg sig h := by
    cases h
    exact decide_eq_true rfl
  newGCM_ok key h := if_pos h
  newCipher_ok key h := if_pos h
  open_seal key nonce pt aad := by
    have hlen : ((toyHash (key ++ nonce ++ pt ++ aad)).take 16).length = 16 := by
      simp [toyHash_length]
    simp only [toyPrims]
    rw [List.drop_left' hlen, List.take_left' hlen]
    simp

end Pollux.Tls
