import PolluxGM.Bytes
import PolluxGM.Recency
import PolluxGM.Run

/-!
# TLCP session cache

The resumption store of `engine_session.go`. `Put` keeps the reference it is given, `Get` hands out
a copy, and an entry that is overwritten, deleted or evicted has the secret of its object
overwritten in place.
-/
namespace Pollux.TlcpSession

open Recency

structure SessionState where
  sessionID : Bytes
  version : UInt16
  cipherSuite : UInt16
  masterSecret : Bytes
  peerCertificates : List Bytes
  createdAt : Int
  deriving DecidableEq

def sessionLifetime : Int := 86400000000000

def sessionFresh (now : Int) (s : SessionState) : Bool := now - s.createdAt ≤ sessionLifetime

def SessionState.wiped (s : SessionState) : SessionState :=
  { s with masterSecret := zeros s.masterSecret.length }

/-! ## Keys

A Go string is the list of its octets. -/

def hexDigit (n : Nat) : UInt8 := UInt8.ofNat (if n < 10 then 48 + n else 87 + n)

def tlcpSessionKeyHex (sessionID : Bytes) : Bytes :=
  sessionID.flatMap fun b => [hexDigit (b.toNat / 16), hexDigit (b.toNat % 16)]

def sniTag : Bytes := [115, 110, 105, 58]

variable (key : Bytes) (lower : Bytes → Bytes)

/-- `lower` is `strings.ToLower`. -/
def sessionCacheKey (remoteAddr serverName : Bytes) : Bytes :=
  if serverName = [] then remoteAddr else sniTag ++ lower serverName

structure LruSessionCache where
  order : List (Bytes × Nat)
  cap : Nat
  nodup : (keys order).Nodup
  bounded : order.length ≤ cap
  pos : 0 < cap

def newLRUSessionCache (capacity : Int) : LruSessionCache where
  order := []
  cap := if capacity < 1 then 64 else capacity.toNat
  nodup := List.nodup_nil
  bounded := Nat.zero_le _
  pos := by split <;> omega

namespace LruSessionCache

/-- Put the entry in front; what is past the capacity falls off. -/
def store (r : Nat) (c : LruSessionCache) : LruSessionCache where
  order := (front key r c.order).take c.cap
  cap := c.cap
  nodup := (front_nodup key r c.nodup).sublist ((List.take_sublist _ _).map Prod.fst)
  bounded := List.length_take_le _ _
  pos := c.pos

def evicted (r : Nat) (c : LruSessionCache) : List Nat :=
  ((front key r c.order).drop c.cap).map Prod.snd

def remove (c : LruSessionCache) : LruSessionCache where
  order := without key c.order
  cap := c.cap
  nodup := without_nodup key c.nodup
  bounded := Nat.le_trans (without_length_le key c.order) c.bounded
  pos := c.pos

end LruSessionCache

/-- The session objects, and the cache that refers to them by position. -/
structure Store where
  heap : List SessionState
  cache : LruSessionCache

namespace Store

def alloc (cs : SessionState) (s : Store) : Store := { s with heap := s.heap ++ [cs] }

def wipe (s : Store) (r : Nat) : Store := { s with heap := s.heap.modify r SessionState.wiped }

/-- The copy that `Get` returns is an object of its own. -/
def get (s : Store) : Option SessionState × Store :=
  match find key s.cache.order with
  | none => (none, s)
  | some r => (s.heap[r]?, { heap := s.heap ++ s.heap[r]?.toList, cache := s.cache.store key r })

def put (r : Nat) (s : Store) : Store :=
  match find key s.cache.order with
  | some old => { s.wipe old with cache := s.cache.store key r }
  | none => (s.cache.evicted key r).foldl wipe { s with cache := s.cache.store key r }

def delete (s : Store) : Store :=
  match find key s.cache.order with
  | some old => { s.wipe old with cache := s.cache.remove key }
  | none => s

/-- The new session goes under its id and under the key of its server. -/
def createNewClientSession (remoteAddr serverName : Bytes) (cs : SessionState) (s : Store) :
    Store :=
  ((s.alloc cs).put (tlcpSessionKeyHex cs.sessionID) s.heap.length).put
    (sessionCacheKey lower remoteAddr serverName) s.heap.length

end Store

inductive Call where
  | make (cs : SessionState)
  | get (key : Bytes)
  | put (key : Bytes) (r : Nat)
  | delete (key : Bytes)
  | clientSession (remoteAddr serverName : Bytes) (cs : SessionState)

def Call.step : Call → Store → Option SessionState × Store
  | .make cs, s => (none, s.alloc cs)
  | .get key, s => s.get key
  | .put key r, s => (none, s.put key r)
  | .delete key, s => (none, s.delete key)
  | .clientSession remoteAddr serverName cs, s =>
    (none, s.createNewClientSession lower remoteAddr serverName cs)

/-- For every session object, the secret of the handshake that negotiated it; a copy has that of
its original. -/
def noteSecret : Call → Store → Option SessionState × Store → List Bytes → List Bytes
  | .make cs, _, _, negotiated => negotiated ++ [cs.masterSecret]
  | .clientSession _ _ cs, _, _, negotiated => negotiated ++ [cs.masterSecret]
  | .get key, s, _, negotiated => negotiated ++
    ((find key s.cache.order).bind (negotiated[·]?)).toList
  | .put _ _, _, _, negotiated => negotiated
  | .delete _, _, _, negotiated => negotiated

/-- The entry a `Put` under this key takes out of the cache. -/
def Store.dropped (s : Store) : Option (Bytes × Nat) :=
  match find key s.cache.order with
  | some old => some (key, old)
  | none => if s.cache.order.length = s.cache.cap then s.cache.order.getLast? else none

/-- No other key refers to the object of this entry. -/
def Store.Alone (s : Store) (e : Bytes × Nat) : Prop :=
  ∀ e' ∈ s.cache.order, e'.2 = e.2 → e'.1 = e.1

/-- The object still has the secret that was negotiated for it. -/
def Store.Intact (s : Store) (negotiated : List Bytes) (r : Nat) : Prop :=
  r < s.heap.length ∧ (s.heap[r]?).map SessionState.masterSecret = negotiated[r]?

/-- The session put has its secret, and the entry it displaces is the last for another object. -/
def SparesPut (r : Nat) (s : Store) (negotiated : List Bytes) : Prop :=
  s.Intact negotiated r ∧ ∀ e ∈ s.dropped key, e.2 ≠ r ∧ s.Alone e

/-- The call wipes no secret that a remaining entry needs. -/
def Spares : Call → Store × List Bytes → Prop
  | .make _, _ => True
  | .get _, _ => True
  | .put key r, x => SparesPut key r x.1 x.2
  | .delete key, x => ∀ r ∈ find key x.1.cache.order, x.1.Alone (key, r)
  | .clientSession remoteAddr serverName cs, x =>
    SparesPut (tlcpSessionKeyHex cs.sessionID) x.1.heap.length (x.1.alloc cs)
      (x.2 ++ [cs.masterSecret]) ∧
      SparesPut (sessionCacheKey lower remoteAddr serverName) x.1.heap.length
        ((x.1.alloc cs).put (tlcpSessionKeyHex cs.sessionID) x.1.heap.length)
          (x.2 ++ [cs.masterSecret])

section

variable (s : Store) (negotiated : List Bytes)

instance (e : Bytes × Nat) : Decidable (s.Alone e) :=
  inferInstanceAs (Decidable (∀ e' ∈ s.cache.order, e'.2 = e.2 → e'.1 = e.1))

instance (r : Nat) : Decidable (s.Intact negotiated r) :=
  inferInstanceAs (Decidable (r < s.heap.length ∧
    (s.heap[r]?).map SessionState.masterSecret = negotiated[r]?))

instance (key : Bytes) (r : Nat) : Decidable (SparesPut key r s negotiated) :=
  inferInstanceAs (Decidable (s.Intact negotiated r ∧ ∀ e ∈ s.dropped key, e.2 ≠ r ∧ s.Alone e))

instance (lower : Bytes → Bytes) :
    ∀ (c : Call) (x : Store × List Bytes), Decidable (Spares lower c x)
  | .make _, _ => isTrue trivial
  | .get _, _ => isTrue trivial
  | .put key r, x => inferInstanceAs (Decidable (SparesPut key r x.1 x.2))
  | .delete key, x => inferInstanceAs
    (Decidable (∀ r ∈ find key x.1.cache.order, x.1.Alone (key, r)))
  | .clientSession _ _ _, _ => inferInstanceAs (Decidable (SparesPut _ _ _ _ ∧ SparesPut _ _ _ _))

end

variable {refs : List Nat} {r : Nat}

namespace Store

def wipedBy (r : Nat) (s : Store) : List Nat :=
  match find key s.cache.order with
  | some old => [old]
  | none => s.cache.evicted key r

lemma put_eq (r : Nat) (s : Store) :
    s.put key r = (s.wipedBy key r).foldl wipe { s with cache := s.cache.store key r } := by
  unfold put wipedBy
  cases find key s.cache.order <;> rfl

@[simp] lemma foldl_wipe_cache (refs : List Nat) (s : Store) :
    (refs.foldl wipe s).cache = s.cache := by
  induction refs generalizing s with
  | nil => rfl
  | cons r refs ih => exact ih (s.wipe r)

@[simp] lemma foldl_wipe_length (refs : List Nat) (s : Store) :
    (refs.foldl wipe s).heap.length = s.heap.length := by
  induction refs generalizing s with
  | nil => rfl
  | cons r refs ih => exact (ih (s.wipe r)).trans (List.length_modify _ _ _)

lemma foldl_wipe_get {s : Store} (h : r ∉ refs) : (refs.foldl wipe s).heap[r]? = s.heap[r]? := by
  induction refs generalizing s with
  | nil => rfl
  | cons r' refs ih =>
    rw [List.foldl_cons, ih fun hr => h (List.mem_cons_of_mem _ hr)]
    have hne : r' ≠ r := fun heq => h (heq ▸ List.mem_cons_self)
    simp [wipe, hne]

lemma Intact.wiped {s : Store} {negotiated : List Bytes} (h : s.Intact negotiated r)
    (hr : r ∉ refs) : (refs.foldl wipe s).Intact negotiated r := by
  refine ⟨by simpa using h.1, ?_⟩
  rw [foldl_wipe_get hr]
  exact h.2

end Store

variable {key : Bytes} {e : Bytes × Nat}

lemma mem_store {c : LruSessionCache} (h : e ∈ (c.store key r).order) :
    e = (key, r) ∨ e ∈ c.order ∧ e.1 ≠ key := mem_front.mp (List.mem_of_mem_take h)

/-- What stays in the cache shares no object with what the `Put` wiped. -/
lemma wipedBy_spared {s : Store} (h : ∀ e ∈ s.dropped key, e.2 ≠ r ∧ s.Alone e)
    (he : e ∈ (s.cache.store key r).order) :
    e.2 ∉ s.wipedBy key r := by
  intro hwiped
  unfold Store.wipedBy at hwiped
  unfold Store.dropped at h
  cases hfind : find key s.cache.order with
  | some old =>
    rw [hfind] at hwiped h
    have hold : e.2 = old := List.mem_singleton.mp hwiped
    obtain ⟨hne, halone⟩ := h (key, old) rfl
    rcases mem_store he with rfl | ⟨hmem, hkey⟩
    · exact hne hold.symm
    · exact hkey (halone e hmem hold)
  | none =>
    rw [hfind] at hwiped h
    obtain ⟨last, hlast, hsame⟩ := List.mem_map.mp hwiped
    have hlast' := hlast
    rw [front_drop hfind s.cache.pos s.cache.bounded] at hlast'
    split at hlast'
    · rename_i hfull
      obtain ⟨hne, halone⟩ := h last (by rw [if_pos hfull]; exact Option.mem_toList.mp hlast')
      rcases mem_store he with rfl | ⟨hmem, _⟩
      · exact hne hsame
      · -- One key, one entry: the entry that stays would be the one that was dropped.
        have hkey : e.1 = last.1 := halone e hmem hsame.symm
        have heq : e = last := Prod.ext hkey hsame.symm
        have hnodup : (front key r s.cache.order).Nodup := (front_nodup key r s.cache.nodup).of_map
        exact List.disjoint_take_drop hnodup (Nat.le_refl _) he (heq ▸ hlast)
    · cases hlast'

/-- Every object in the cache has the secret that was negotiated for it. -/
structure Genuine (s : Store) (negotiated : List Bytes) : Prop where
  sizes : negotiated.length = s.heap.length
  secrets : ∀ e ∈ s.cache.order, s.Intact negotiated e.2

lemma newStore_genuine (capacity : Int) : Genuine ⟨[], newLRUSessionCache capacity⟩ [] :=
  ⟨rfl, nofun⟩

lemma Genuine.alloc {s : Store} {negotiated : List Bytes} (h : Genuine s negotiated)
    (cs : SessionState) :
    Genuine (s.alloc cs) (negotiated ++ [cs.masterSecret]) := by
  refine ⟨by simp [Store.alloc, h.sizes], ?_⟩
  intro e he
  obtain ⟨hlt, hsecret⟩ := h.secrets e he
  refine ⟨by simp only [Store.alloc, List.length_append]; omega, ?_⟩
  rw [Store.alloc, List.getElem?_append_left hlt,
    List.getElem?_append_left (by rw [h.sizes]; exact hlt)]
  exact hsecret

lemma Genuine.put {s : Store} {negotiated : List Bytes} (h : Genuine s negotiated)
    (hput : SparesPut key r s negotiated) :
    Genuine (s.put key r) negotiated := by
  rw [Store.put_eq]
  refine ⟨by simpa using h.sizes, ?_⟩
  intro e he
  rw [Store.foldl_wipe_cache] at he
  have hintact : s.Intact negotiated e.2 := by
    rcases mem_store he with rfl | ⟨hmem, _⟩
    · exact hput.1
    · exact h.secrets e hmem
  exact Store.Intact.wiped (s :=
    { s with cache := s.cache.store key r }) hintact (wipedBy_spared hput.2 he)

lemma Genuine.delete {s : Store} {negotiated : List Bytes} (h : Genuine s negotiated)
    (hdel : ∀ r ∈ find key s.cache.order, s.Alone (key, r)) :
    Genuine (s.delete key) negotiated := by
  unfold Store.delete
  cases hfind : find key s.cache.order with
  | none => exact h
  | some old =>
    refine ⟨by simpa [Store.wipe] using h.sizes, ?_⟩
    intro e he
    obtain ⟨hmem, hkey⟩ := mem_without.mp he
    have hne : e.2 ∉ [old] := fun hold => hkey (hdel old hfind e hmem (List.mem_singleton.mp hold))
    exact (h.secrets e hmem).wiped hne

lemma Genuine.get {s : Store} {negotiated : List Bytes} (h : Genuine s negotiated) (key : Bytes) :
    Genuine (s.get key).2 (noteSecret (.get key) s (s.get key) negotiated) := by
  unfold Store.get
  cases hfind : find key s.cache.order with
  | none => simpa only [noteSecret, hfind, Option.bind_none, Option.toList_none,
    List.append_nil] using h
  | some r =>
    simp only [noteSecret, hfind, Option.bind_some]
    obtain ⟨hlt, hsecret⟩ := h.secrets _ (find_mem hfind)
    have hneg : r < negotiated.length := by rw [h.sizes]; exact hlt
    refine ⟨by simp [h.sizes, List.getElem?_eq_getElem hlt, List.getElem?_eq_getElem hneg], ?_⟩
    intro e he
    have hintact : s.Intact negotiated e.2 := by
      rcases mem_store he with rfl | ⟨hmem, _⟩
      · exact ⟨hlt, hsecret⟩
      · exact h.secrets e hmem
    refine ⟨Nat.lt_of_lt_of_le hintact.1 (by simp), ?_⟩
    rw [List.getElem?_append_left hintact.1,
      List.getElem?_append_left (by rw [h.sizes]; exact hintact.1)]
    exact hintact.2

lemma Genuine.step {lower : Bytes → Bytes} {x : Store × List Bytes} (h : Genuine x.1 x.2) {c : Call}
    (hc : Spares lower c x) :
    Genuine (watched (Call.step lower) noteSecret c x).2.1
      (watched (Call.step lower) noteSecret c x).2.2 := by
  obtain ⟨s, negotiated⟩ := x
  cases c with
  | make cs => exact h.alloc cs
  | get key => exact h.get key
  | put key r => exact h.put hc
  | delete key => exact h.delete hc
  | clientSession remoteAddr serverName cs => exact ((h.alloc cs).put hc.1).put hc.2

lemma Genuine.returned {s : Store} {negotiated : List Bytes} (h : Genuine s negotiated)
    {cs : SessionState} (hget : (s.get key).1 = some cs) :
    ∃ r, find key s.cache.order = some r ∧ negotiated[r]? = some cs.masterSecret := by
  unfold Store.get at hget
  cases hfind : find key s.cache.order with
  | none => simp [hfind] at hget
  | some r =>
    simp only [hfind] at hget
    refine ⟨r, rfl, ?_⟩
    rw [← (h.secrets _ (find_mem hfind)).2, hget]
    rfl

/-- In every run whose calls wipe no secret that a remaining entry needs, a session that `Get`
returns has the secret of the handshake that made it; so it is not a string of zeros unless a
handshake negotiated one. -/
theorem cached_secret_genuine (lower : Bytes → Bytes) (capacity : Int)
    {log : List (Call × Option SessionState)} {x : Store × List Bytes}
    (hrun : Run (watched (Call.step lower) noteSecret) (Spares lower)
    (⟨[], newLRUSessionCache capacity⟩, []) log x)
    {key : Bytes} {cs : SessionState} (hget : (x.1.get key).1 = some cs) :
    (∃ r, find key x.1.cache.order = some r ∧ x.2[r]? = some cs.masterSecret) ∧
      ((∀ secret ∈ x.2, secret ≠ zeros secret.length) →
        cs.masterSecret ≠ zeros cs.masterSecret.length) := by
  have hgenuine : Genuine x.1 x.2 := by
    refine hrun.stateInvariant (I := fun x => Genuine x.1 x.2) (newStore_genuine capacity) ?_
    intro x c hx hc
    exact hx.step hc
  obtain ⟨r, hfind, hsecret⟩ := hgenuine.returned hget
  exact ⟨⟨r, hfind, hsecret⟩, fun hnonzero => hnonzero _ (List.mem_of_getElem? hsecret)⟩

def sampleSession (sessionID : Bytes) (octet : UInt8) : SessionState where
  sessionID := sessionID
  version := 0x0101
  cipherSuite := 0xe053
  masterSecret := List.replicate 48 octet
  peerCertificates := []
  createdAt := 0

/-- One `Put` overwrites the session of its key, and the last one evicts another. -/
def overwriteAndEvict : List Call :=
  [.make (sampleSession [1] 1), .put [1] 0, .make (sampleSession [2] 2), .put [2] 1,
    .make (sampleSession [1] 3), .put [1] 2, .make (sampleSession [4] 4), .put [4] 3]

theorem cached_secret_genuine_sample :
    let x := (exec (watched (Call.step id) noteSecret) overwriteAndEvict
      (⟨[], newLRUSessionCache 2⟩, [])).2
    x.1.heap.take 2 = [sampleSession [1] 0, sampleSession [2] 0] ∧
      (x.1.get [1]).1 = some (sampleSession [1] 3) ∧
      ∃ r, find [1] x.1.cache.order = some r ∧
        x.2[r]? = some (sampleSession [1] 3).masterSecret := by
  intro x
  have hallowed : AllAllowed (watched (Call.step id) noteSecret) (Spares id) overwriteAndEvict
      (⟨[], newLRUSessionCache 2⟩, []) := by decide
  have hget : (x.1.get [1]).1 = some (sampleSession [1] 3) := by decide
  exact ⟨by decide, hget, (cached_secret_genuine id 2 (exec_run hallowed) hget).1⟩

/-- Two servers on a cache with three places: the second session pushes the first one's id out,
and the entry for the name of the first server is left with zeros. -/
theorem eviction_zeroes_live_session :
    let calls : List Call :=
  [.clientSession [9] [65] (sampleSession [1] 1), .clientSession [9] [66] (sampleSession [2] 2)]
    let x := (exec (watched (Call.step id) noteSecret) calls (⟨[], newLRUSessionCache 3⟩, [])).2
    Run (watched (Call.step id) noteSecret) (fun _ _ => True) (⟨[], newLRUSessionCache 3⟩, [])
        (exec (watched (Call.step id) noteSecret) calls (⟨[], newLRUSessionCache 3⟩, [])).1 x ∧
      (x.1.get (sessionCacheKey id [9] [65])).1 = some (sampleSession [1] 0) ∧
      find (sessionCacheKey id [9] [65]) x.1.cache.order = some 0 ∧
      x.2[0]? = some (sampleSession [1] 1).masterSecret := by
  intro calls x
  exact ⟨exec_run (allAllowed_true _ _), by decide⟩

end Pollux.TlcpSession
