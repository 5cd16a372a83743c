import PolluxGM.KeyUpdate

/-!
# Header protection between two endpoints

The receiver takes the header protection off before it can see the phase bit, so it uses the key of
the generation it is on.
-/
namespace Pollux.Tls

variable {P : Prims}

/-- The masks agree on the bits a short header with `n` number octets uses. -/
structure MasksAgree (P : Prims) (hp hp' sample : Bytes) (n : Nat) : Prop where
  first : (P.sm4Encrypt hp sample).getD 0 0 &&& 0x1f = (P.sm4Encrypt hp' sample).getD 0 0 &&& 0x1f
  number : ∀ i < n, (P.sm4Encrypt hp sample).getD (1 + i) 0 =
    (P.sm4Encrypt hp' sample).getD (1 + i) 0

lemma applyGMHeaderMask_undo (hp hp' sample : Bytes) (firstByte : UInt8) (pnBytes : Bytes) :
    applyGMHeaderMask P hp' false sample (applyGMHeaderMask P hp false sample firstByte pnBytes).1
        (applyGMHeaderMask P hp false sample firstByte pnBytes).2 = (firstByte, pnBytes) ↔
      MasksAgree P hp hp' sample pnBytes.length := by
  have hnumber : (pnBytes.mapIdx fun i b => b ^^^ (P.sm4Encrypt hp sample).getD (1 + i) 0).mapIdx
        (fun i b => b ^^^ (P.sm4Encrypt hp' sample).getD (1 + i) 0) = pnBytes ↔
      ∀ i < pnBytes.length,
        (P.sm4Encrypt hp sample).getD (1 + i) 0 = (P.sm4Encrypt hp' sample).getD (1 + i) 0 := by
    rw [List.mapIdx_mapIdx, List.ext_getElem_iff]
    simp only [List.length_mapIdx, List.getElem_mapIdx, Function.comp_apply, xor_xor_eq_iff,
      true_and]
    exact ⟨fun h i hi => h i hi hi, fun h i hi _ => h i hi⟩
  simp only [applyGMHeaderMask, Prod.mk.injEq, xor_xor_eq_iff, hnumber, Bool.false_eq_true,
    if_false]
  exact ⟨fun h => ⟨h.1, h.2⟩, fun h => ⟨h.1, h.2⟩⟩

inductive Side where
  | left
  | right
  deriving DecidableEq

def Side.other : Side → Side
  | .left => .right
  | .right => .left

/-- A header before and after protection, with the generation of its sender. -/
structure ProtectedHeader where
  sender : Side
  generation : Nat
  sample : Bytes
  firstByte : UInt8
  pnBytes : Bytes
  masked : UInt8 × Bytes

structure Link where
  left : Endpoint
  right : Endpoint
  headers : List ProtectedHeader

def Link.endpoint (l : Link) : Side → Endpoint
  | .left => l.left
  | .right => l.right

def Link.set (l : Link) (side : Side) (e : Endpoint) : Link :=
  match side with
  | .left => { l with left := e }
  | .right => { l with right := e }

/-- Packets are opened with arbitrary arguments: loss, reordering and forgery are covered. -/
inductive LinkCall where
  | call (side : Side) (c : EndpointCall)
  | encryptHeader (side : Side) (sample : Bytes) (firstByte : UInt8) (pnBytes : Bytes)

def LinkCall.step (P : Prims) (c : LinkCall) (l : Link) : Unit × Link :=
  match c with
  | .call side c => ((), l.set side (c.step P (l.endpoint side)).2)
  | .encryptHeader side sample firstByte pnBytes =>
    match Tls.encryptHeader P (l.endpoint side).aead sample firstByte pnBytes with
    | .error _ => ((), l)
    | .ok masked => ((), { l with headers := l.headers ++
        [⟨side, (l.endpoint side).generation, sample, firstByte, pnBytes, masked⟩] })

def KeepsNear (P : Prims) (c : LinkCall) (l : Link) : Prop :=
  let l' := (c.step P l).2
  l'.left.generation ≤ l'.right.generation + 1 ∧ l'.right.generation ≤ l'.left.generation + 1

instance KeepsNear.decidable (P : Prims) (c : LinkCall) (l : Link) : Decidable (KeepsNear P c l) :=
  inferInstanceAs (Decidable (_ ∧ _))

def outgoing (dl dr : Direction) : Side → Direction
  | .left => dl
  | .right => dr

structure Crossed (P : Prims) (dl dr : Direction) (l : Link) : Prop where
  endpoints : ∀ side, AtGeneration P (outgoing dl dr side) (outgoing dl dr side.other)
    (l.endpoint side)
  headers : ∀ h ∈ l.headers, ∃ km, (outgoing dl dr h.sender).materialAt P h.generation = .ok km ∧
    h.masked = applyGMHeaderMask P km.hp false h.sample h.firstByte h.pnBytes

variable {dl dr : Direction}

lemma Crossed.step (hP : Lawful P) (h : Crossed P dl dr l) (c : LinkCall) :
    Crossed P dl dr (c.step P l).2 := by
  cases c with
  | call side c =>
    have hstep := (h.endpoints side).step hP c
    refine ⟨fun side' => ?_, ?_⟩
    · cases side <;> cases side' <;> first | exact hstep | exact h.endpoints _
    · cases side <;> exact h.headers
  | encryptHeader side sample firstByte pnBytes =>
    obtain ⟨km, hkm, hat⟩ := (h.endpoints side).send
    simp only [LinkCall.step, Tls.encryptHeader, hkm, need_some, ok_bind, pure_ok]
    refine ⟨fun side' => by cases side' <;> exact h.endpoints _, ?_⟩
    intro hd hmem
    rcases List.mem_append.mp hmem with hold | hnew
    · exact h.headers hd hold
    · obtain rfl := List.mem_singleton.mp hnew
      exact ⟨km, hat, rfl⟩

/-- In every run, a header is restored exactly where the masks of its own generation and of the
receiver's agree, and so always while the receiver is on the generation the header was protected
in. -/
theorem header_restored_iff (hP : Lawful P) {u v : UpdatableAEAD}
    (hleft : newGMUpdatableAEAD P dl.keys dr.keys dl.secret dr.secret = .ok u)
    (hright : newGMUpdatableAEAD P dr.keys dl.keys dr.secret dl.secret = .ok v)
    {log : List (LinkCall × Unit)} {l : Link}
    (hrun : Run (LinkCall.step P) (KeepsNear P) ⟨⟨u, 0⟩, ⟨v, 0⟩, []⟩ log l) :
    ∀ h ∈ l.headers,
      (h.generation = (l.endpoint h.sender.other).generation →
        decryptHeader P (l.endpoint h.sender.other).aead h.sample h.masked.1 h.masked.2 =
          .ok (h.firstByte, h.pnBytes)) ∧
      ∃ km km', (outgoing dl dr h.sender).materialAt P h.generation = .ok km ∧
        (outgoing dl dr h.sender).materialAt P (l.endpoint h.sender.other).generation = .ok km' ∧
        (decryptHeader P (l.endpoint h.sender.other).aead h.sample h.masked.1 h.masked.2 =
            .ok (h.firstByte, h.pnBytes) ↔
          MasksAgree P km.hp km'.hp h.sample h.pnBytes.length) := by
  have hinit : Crossed P dl dr ⟨⟨u, 0⟩, ⟨v, 0⟩, []⟩ := by
    refine ⟨fun side => ?_, nofun⟩
    cases side with
    | left => exact newGMUpdatableAEAD_at hleft
    | right => exact newGMUpdatableAEAD_at hright
  have hl : Crossed P dl dr l := hrun.stateInvariant hinit fun _ c h _ => h.step hP c
  intro h hmem
  obtain ⟨km, hkm, hmasked⟩ := hl.headers h hmem
  obtain ⟨km', hrcv, hkm'⟩ := (hl.endpoints h.sender.other).rcv
  have hother : h.sender.other.other = h.sender := by cases h.sender <;> rfl
  rw [hother] at hkm'
  have hiff : decryptHeader P (l.endpoint h.sender.other).aead h.sample h.masked.1 h.masked.2 =
        .ok (h.firstByte, h.pnBytes) ↔ MasksAgree P km.hp km'.hp h.sample h.pnBytes.length := by
    simp only [decryptHeader, hrcv, need_some, ok_bind, pure_inj, hmasked]
    exact applyGMHeaderMask_undo ..
  refine ⟨fun hsame => ?_, km, km', hkm, hkm', hiff⟩
  rw [← hsame, hkm, Except.ok.injEq] at hkm'
  subst hkm'
  exact hiff.mpr ⟨rfl, fun _ _ => rfl⟩

def sampleLink : Link := ⟨sampleOurs, samplePeer, []⟩

def runLink (calls : List LinkCall) : Link := (exec (LinkCall.step toyPrims) calls sampleLink).2

/-- The left side moves to the next phase, the right side follows, and the left protects a header.
-/
def updateBoth : List LinkCall :=
  firstUpdate.map (.call .left) ++ peerFollows.map (.call .right) ++
    [.encryptHeader .left (zeros 16) 0x45 [0, 2]]

theorem header_restored_iff_sample :
    ((runLink updateBoth).left.generation = 1 ∧ (runLink updateBoth).headers.length = 1) ∧
    ∀ h ∈ (runLink updateBoth).headers,
      decryptHeader toyPrims ((runLink updateBoth).endpoint h.sender.other).aead h.sample
        h.masked.1 h.masked.2 = .ok (h.firstByte, h.pnBytes) := by
  have hnear : AllAllowed (LinkCall.step toyPrims) (KeepsNear toyPrims) updateBoth sampleLink := by
    decide +kernel
  have hsame : ∀ h ∈ (runLink updateBoth).headers,
      h.generation = ((runLink updateBoth).endpoint h.sender.other).generation := by decide +kernel
  refine ⟨by decide +kernel, fun h hmem => ?_⟩
  exact (@header_restored_iff toyPrims (sampleDirection 1) (sampleDirection 2) toyPrims_lawful _ _
    (eq_okValue _ _) (eq_okValue _ _) _ _ (exec_run hnear) h hmem).1 (hsame h hmem)

/-- The left side moves to the next phase after a hundred packets. -/
def updateAndSend : List LinkCall :=
  .call .left .setHandshakeConfirmed ::
    ((List.range 100).map fun i => .call .left (.sealPacket [] i [])) ++
    [.encryptHeader .left (zeros 16) 0x41 [0, 99], .call .left (.keyPhase 100000),
      .encryptHeader .left (zeros 16) 0x45 [0, 100]]

def Link.restored (l : Link) : List Bool :=
  l.headers.map fun h =>
    decryptHeader toyPrims (l.endpoint h.sender.other).aead h.sample h.masked.1 h.masked.2 ==
      .ok (h.firstByte, h.pnBytes)

/-- The first header of the new phase reaches a receiver that has not moved, and is not restored. -/
theorem header_of_next_phase_garbled :
    AllAllowed (LinkCall.step toyPrims) (KeepsNear toyPrims) updateAndSend sampleLink ∧
      (runLink updateAndSend).left.generation = 1 ∧ (runLink updateAndSend).right.generation = 0 ∧
      (runLink updateAndSend).restored = [true, false] := by
  decide +kernel

end Pollux.Tls
