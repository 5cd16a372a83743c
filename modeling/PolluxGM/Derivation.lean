import PolluxGM.Laws
import PolluxGM.TlcpKeys

/-!
# The inputs and outputs of key derivation

In TLS 1.3 a secret is separated from the next by the label that HKDF gets. In TLCP all
keys of a connection are cut from one output of the PRF.
-/
namespace Pollux.Derivation

open Tls Tlcp

section

variable {P : Tls.Prims} {secret label context okm x y r r' : Bytes} {n : Nat}

lemma counted_inj (hx : x.length ≤ 255) (hy : y.length ≤ 255)
    (h : UInt8.ofNat x.length :: x ++ r = UInt8.ofNat y.length :: y ++ r') : x = y ∧ r = r' := by
  simp only [List.cons_append, List.cons.injEq] at h
  obtain ⟨hlen, hrest⟩ := h
  have hnat := congrArg UInt8.toNat hlen
  rw [UInt8.toNat_ofNat', UInt8.toNat_ofNat', Nat.mod_eq_of_lt (by omega),
    Nat.mod_eq_of_lt (by omega)] at hnat
  exact List.append_inj hrest hnat

lemma hkdfExpandLabel_info (h : hkdfExpandLabel P secret label context n = .ok okm) :
    n < 65536 ∧ (ascii ['t', 'l', 's', '1', '3', ' '] ++ label).length ≤ 255 ∧
      context.length ≤ 255 ∧ buildHKDFLabel label context n = .ok (be16 n ++
        (UInt8.ofNat (ascii ['t', 'l', 's', '1', '3', ' '] ++ label).length ::
          (ascii ['t', 'l', 's', '1', '3', ' '] ++ label) ++
          (UInt8.ofNat context.length :: context ++ []))) := by
  simp only [hkdfExpandLabel, buildHKDFLabel, bind_ok, reject_ok, pure_inj] at h
  obtain ⟨_, hn, _, _, _, ⟨_, hlabel, _, hcontext, rfl⟩, _⟩ := h
  refine ⟨by omega, Nat.not_lt.mp hlabel, Nat.not_lt.mp hcontext, ?_⟩
  rw [buildHKDFLabel, reject_neg hlabel, ok_bind, reject_neg hcontext, ok_bind, List.append_nil,
    ← List.append_assoc]
  rfl

/-- Two derivations that `HKDFExpandLabel` accepts have the same HKDF info only if label, context
and length are the same. -/
theorem buildHKDFLabel_injective {P : Tls.Prims}
    {secret secret' label label' context context' okm okm' : Bytes} {n n' : Nat}
    (h : hkdfExpandLabel P secret label context n = .ok okm)
    (h' : hkdfExpandLabel P secret' label' context' n' = .ok okm')
    (hinfo : buildHKDFLabel label context n = buildHKDFLabel label' context' n') :
    label = label' ∧ context = context' ∧ n = n' := by
  obtain ⟨hn, hlabel, hcontext, hbuild⟩ := hkdfExpandLabel_info h
  obtain ⟨hn', hlabel', hcontext', hbuild'⟩ := hkdfExpandLabel_info h'
  rw [hbuild, hbuild', Except.ok.injEq] at hinfo
  obtain ⟨hlength, hfields⟩ := List.append_inj hinfo rfl
  obtain ⟨hfull, hlast⟩ := counted_inj hlabel hlabel' hfields
  exact ⟨List.append_cancel_left hfull,
    (counted_inj hcontext hcontext' hlast).1, be16_inj hn hn' hlength⟩

theorem buildHKDFLabel_injective_finished :
    ∃ okm, hkdfExpandLabel toyPrims [1] Label.finished [] 32 = .ok okm ∧
      Label.finished = Label.finished ∧ ([] : Bytes) = [] ∧ 32 = 32 := by
  obtain ⟨okm, h, _⟩ := hkdfExpandLabel_total toyPrims_lawful [1] Label.finished [] 32 (by decide)
    (by decide) (by decide) (by decide)
  exact ⟨okm, h, buildHKDFLabel_injective h h rfl⟩

end

section

/-- `A(i)`, with the seed as `A(0)`. -/
def chain (hmac : Bytes → Bytes) (seed : Bytes) : Nat → Bytes
  | 0 => seed
  | i + 1 => hmac (chain hmac seed i)

/-- The first `k` blocks of P_hash, which has no end. -/
def pHashStream (hmac : Bytes → Bytes) (seed : Bytes) (k : Nat) : Bytes :=
  (List.range k).flatMap fun i => hmac (chain hmac seed (i + 1) ++ seed)

/-- The closure of `tlcpKeysFromMaster`, with `off` as its state. -/
def slice (raw : Bytes) (length : Nat) : StateM Nat Bytes :=
  fun off => ((raw.drop off).take length, off + length)

def sliceKeys (raw : Bytes) (macLen keyLen ivLen : Nat) : StateM Nat Tlcp.KeyMaterial := do
  let clientMAC ← slice raw macLen
  let serverMAC ← slice raw macLen
  let clientKey ← slice raw keyLen
  let serverKey ← slice raw keyLen
  let clientIV ← slice raw ivLen
  let serverIV ← slice raw ivLen
  return ⟨clientMAC, serverMAC, clientKey, serverKey, clientIV, serverIV⟩

variable {hmac : Bytes → Bytes} {size n k i rounds : Nat}

/-- After `i` rounds the loop goes on with the blocks from `i` on. -/
lemma pHashFrom_stream (hsize : ∀ b, (hmac b).length = size) (seed : Bytes) (hpos : 0 < size)
    (hrounds : n ≤ rounds) (hk : n ≤ k * size) :
    pHashFrom hmac seed rounds (chain hmac seed (i + 1)) n =
      ((List.range k).flatMap fun j => hmac (chain hmac seed (i + j + 1) ++ seed)).take n := by
  induction rounds generalizing i n k with
  | zero => rw [Nat.le_zero.mp hrounds, List.take_zero, pHashFrom]
  | succ rounds ih =>
    by_cases hn : n = 0
    · rw [hn, List.take_zero, pHashFrom, if_pos rfl]
    · obtain ⟨k, rfl⟩ : ∃ m, k = m + 1 := Nat.exists_eq_succ_of_ne_zero (by rintro rfl; omega)
      rw [Nat.succ_mul] at hk
      have hnext := @ih (n - size) k (i + 1) (by omega) (by omega)
      rw [pHashFrom, if_neg hn, List.range_succ_eq_map, List.flatMap_cons, List.flatMap_map,
        List.take_append]
      simp only [hsize, Nat.add_zero]
      rw [show hmac (chain hmac seed (i + 1)) = chain hmac seed (i + 1 + 1) from rfl, hnext]
      simp only [Nat.succ_eq_add_one, Nat.add_comm, Nat.add_left_comm]

lemma tlcpPHash_stream (hsize : ∀ b, (hmac b).length = size) (seed : Bytes) (hpos : 0 < size)
    (hk : n ≤ k * size) :
    tlcpPHash hmac n seed = (pHashStream hmac seed k).take n := by
  have hstream := @pHashFrom_stream hmac size n k 0 n hsize seed hpos (Nat.le_refl n) hk
  simp only [Nat.zero_add] at hstream
  exact hstream

lemma tlcpPHash_length (hsize : ∀ b, (hmac b).length = size) (seed : Bytes) (hpos : 0 < size) :
    (tlcpPHash hmac n seed).length = n := by
  have henough : n ≤ n * size := Nat.le_mul_of_pos_right n hpos
  rw [tlcpPHash_stream hsize seed hpos henough, List.length_take, pHashStream, List.length_flatMap]
  simp only [hsize, List.map_const', List.length_range, List.sum_replicate_nat]
  omega

/-- A slice and the next are one slice. -/
lemma slice_append {raw : Bytes} {off a b next : Nat} (h : off + a = next) :
    (raw.drop off).take a ++ (raw.drop next).take b = (raw.drop off).take (a + b) := by
  rw [← h, List.take_add, List.drop_drop]

lemma slice_length {raw : Bytes} {off a : Nat} (h : off + a ≤ raw.length) :
    ((raw.drop off).take a).length = a := by
  rw [List.length_take, List.length_drop]
  omega

/-- `tlcpPHash` fills its buffer with the first octets of the stream of P_hash, and the six keys
are what the closure hands out in turn until the whole block is used. -/
theorem tlcp_keyBlock_layout (P : RecordPrims) {size : Nat}
    (hsize : ∀ key data, (P.hmacSM3 key data).length = size) (hpos : 0 < size) :
    (∀ secret seed n, (tlcpPHash (P.hmacSM3 secret) n seed).length = n ∧
      ∀ k, n ≤ k * size → tlcpPHash (P.hmacSM3 secret) n seed =
        (pHashStream (P.hmacSM3 secret) seed k).take n) ∧
    ∀ masterSecret clientRandom serverRandom macLen keyLen ivLen,
      let raw := tlcpPRF P (2 * macLen + 2 * keyLen + 2 * ivLen) masterSecret keyExpansionLabel
        (serverRandom ++ clientRandom)
      let keys := tlcpKeysFromMaster P masterSecret clientRandom serverRandom macLen keyLen ivLen
      sliceKeys raw macLen keyLen ivLen 0 = (keys, raw.length) ∧
      keys.clientMAC ++ keys.serverMAC ++ keys.clientKey ++ keys.serverKey ++ keys.clientIV ++
        keys.serverIV = raw ∧
      keys.clientMAC.length = macLen ∧ keys.serverMAC.length = macLen ∧
        keys.clientKey.length = keyLen ∧
      keys.serverKey.length = keyLen ∧ keys.clientIV.length = ivLen ∧
        keys.serverIV.length = ivLen := by
  refine ⟨fun secret seed n => ⟨tlcpPHash_length (hsize secret) seed hpos, fun k hk =>
    tlcpPHash_stream (hsize secret) seed hpos hk⟩, ?_⟩
  intro masterSecret clientRandom serverRandom macLen keyLen ivLen
  have hraw := @tlcpPHash_length _ _ (2 * macLen + 2 * keyLen + 2 * ivLen) (hsize masterSecret)
    (keyExpansionLabel ++ (serverRandom ++ clientRandom)) hpos
  unfold tlcpKeysFromMaster tlcpPRF
  generalize tlcpPHash _ _ _ = raw at hraw ⊢
  refine ⟨?_, ?_, slice_length (by omega), slice_length (by omega), slice_length (by omega),
    slice_length (by omega), slice_length (by omega), slice_length (by omega)⟩
  · change (Tlcp.KeyMaterial.mk _ _ _ _ _ _, _) = _
    simp only [hraw, Nat.zero_add, ← Nat.two_mul, Nat.add_assoc]
  · -- the first two slices are one, that and the third are one, and so on to the end
    dsimp only
    rw [slice_append, slice_append, slice_append, slice_append, slice_append]
    · exact List.take_of_length_le (by rw [List.drop_zero]; omega)
    all_goals omega

theorem tlcp_keyBlock_layout_toy :
    (∀ key data, (toyRecordPrims.hmacSM3 key data).length = 32) ∧
    (tlcpPHash (toyRecordPrims.hmacSM3 [1]) 40 [2] =
      (pHashStream (toyRecordPrims.hmacSM3 [1]) [2] 2).take 40) :=
  have hsize : ∀ key data, (toyRecordPrims.hmacSM3 key data).length = 32 := fun _ _ => rfl
  ⟨hsize, ((tlcp_keyBlock_layout toyRecordPrims hsize (by decide)).1 [1] [2] 40).2 2 (by decide)⟩

end

end Pollux.Derivation
