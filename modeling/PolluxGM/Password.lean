import PolluxGM.Bytes

/-!
# Salted password hashes

A scheme writes the cost parameters, the salt and the digest into one string, and reads them
back from it. What the owner of such a string relies on follows from one law: that the scheme
decodes what it encodes.
-/
namespace Pollux.Password

structure Format (Params ε : Type) where
  saltLength : Params → Nat
  encode : Params → (salt digest : Bytes) → Bytes
  decode : Bytes → Except ε (Params × Bytes × Bytes)
  differ : Params → Params → Bool
  failed : ε → ε

namespace Format

variable {Params ε : Type} (F : Format Params ε)
  (derive : Params → (password salt : Bytes) → Except ε Bytes)

def hash (rand : Reader ε) (params : Params) (password : Bytes) : Except ε Bytes := do
  let salt ← (rand.read (F.saltLength params)).mapError F.failed
  let digest ← (derive params password salt).mapError F.failed
  return F.encode params salt digest

/-- The parameters are those of the string, not the verifier's own. -/
def verify (password encoded : Bytes) : Bool :=
  match F.decode encoded with
  | .error _ => false
  | .ok (params, salt, want) =>
    match derive params password salt with
    | .error _ => false
    | .ok got => got = want

def needsRehash (params : Params) (encoded : Bytes) : Bool :=
  match F.decode encoded with
  | .error _ => true
  | .ok (decoded, _, _) => F.differ decoded params

structure Lawful (Good : Params → Prop) : Prop where
  reads : ∀ {params password salt digest}, Good params → salt.length = F.saltLength params →
    derive params password salt = .ok digest →
      F.decode (F.encode params salt digest) = .ok (params, salt, digest)
  differ_iff : ∀ params params', F.differ params params' = true ↔ params ≠ params'

variable {F derive} {rand : Reader ε} {params : Params} {password salt digest encoded : Bytes}

lemma hash_eq (hsalt : rand.read (F.saltLength params) = .ok salt)
    (hdigest : derive params password salt = .ok digest) :
    F.hash derive rand params password = .ok (F.encode params salt digest) := by
  rw [hash, hsalt, mapError_of_ok, ok_bind, hdigest, mapError_of_ok, ok_bind, pure_ok]

lemma verify_iff (h : F.decode encoded = .ok (params, salt, digest)) :
    F.verify derive password encoded = true ↔ derive params password salt = .ok digest := by
  rw [verify, h]
  dsimp only
  cases derive params password salt with
  | ok got => simp
  | error e => simp

lemma needsRehash_eq (h : F.decode encoded = .ok (params, salt, digest)) (params' : Params) :
    F.needsRehash params' encoded = F.differ params params' := by
  rw [needsRehash, h]

variable {Good : Params → Prop}

lemma Lawful.differ_self (h : F.Lawful derive Good) (params : Params) :
    F.differ params params = false :=
  Bool.eq_false_iff.mpr fun hdiffer => (h.differ_iff params params).mp hdiffer rfl

/-- A hash is read back, verifies the passwords with its digest, and is out of date for other
parameters only. -/
lemma Lawful.roundTrip (h : F.Lawful derive Good) (hgood : Good params)
    (hsalt : rand.read (F.saltLength params) = .ok salt)
    (hdigest : derive params password salt = .ok digest) :
    ∃ encoded, F.hash derive rand params password = .ok encoded ∧
      F.decode encoded = .ok (params, salt, digest) ∧
      (∀ password', F.verify derive password' encoded = true ↔
        derive params password' salt = .ok digest) ∧
      F.needsRehash params encoded = false ∧ ∀ params', F.needsRehash params' encoded = true ↔
        params' ≠ params := by
  have hdecode := h.reads hgood (rand.full hsalt) hdigest
  refine ⟨F.encode params salt digest, hash_eq hsalt hdigest, hdecode, fun _ => verify_iff hdecode,
    ?_, ?_⟩
  · rw [needsRehash_eq hdecode, h.differ_self]
  · intro params'
    rw [needsRehash_eq hdecode, h.differ_iff]
    exact ne_comm

end Format

end Pollux.Password
