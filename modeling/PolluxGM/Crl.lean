import Mathlib.Logic.Function.Basic
import PolluxGM.Bytes
import PolluxGM.Run

/-!
# The CRL generator

`GenerateWithOptions` of `crl.go`, cut where other goroutines can come in between: the list of the
authority is read, a number is reserved under the lock, the list is signed, kept as the last one and
put into the cache. Times are in nanoseconds from Go's zero time.
-/
namespace Pollux.Crl

inductive Err where
  | text (message : String)
  | wrap (context : String) (cause : Err)
  deriving DecidableEq

structure RevokedCertificate where
  serial : String
  reason : Int
  revokedAt : Int
  deriving DecidableEq

/-- `x509.RevocationListEntry`. -/
structure Entry where
  serialNumber : Int
  revocationTime : Int
  reasonCode : Int
  deriving DecidableEq

def digits : List Char → Option Nat
  | [] => none
  | cs => if cs.all Char.isDigit then some (cs.foldl (fun n c => 10 * n + (c.toNat - 48)) 0)
    else none

/-- `big.Int.SetString` in base ten. -/
def setString (s : String) : Option Int :=
  match s.toList with
  | '-' :: rest => (digits rest).map fun n => -n
  | '+' :: rest => (digits rest).map Int.ofNat
  | rest => (digits rest).map Int.ofNat

structure Collected where
  entries : List Entry
  invalidSerials : List String

def badReason (reason : Int) (serial : String) : Err :=
  .text s!"crl: 撤销原因码 {reason} 超出 RFC 5280 §5.3.1 范围(0-6/8-10,7 未分配), serial {serial}"

/-- A bad serial is remembered, a bad reason ends the call. -/
def collect (c : Collected) (revoked : RevokedCertificate) : Except Err Collected :=
  match (setString revoked.serial).filter (0 < ·) with
  | none => return { c with invalidSerials := c.invalidSerials ++ [revoked.serial] }
  | some serial => do
    reject (revoked.reason < 0 ∨ 10 < revoked.reason ∨ revoked.reason = 7)
      (badReason revoked.reason revoked.serial)
    return { c with entries := c.entries ++ [⟨serial, revoked.revokedAt, revoked.reason⟩] }

def badSerials (invalid : List String) : Err :=
  let count := invalid.length
  let shown := String.intercalate " " (invalid.take 5)
  .text s!"crl: {count} 条撤销记录序列号非法（须为十进制正整数），拒绝签发以防漏撤销: [{shown}]"

def buildEntries (list : List RevokedCertificate) : Except Err (List Entry) := do
  let c ← list.foldlM collect ⟨[], []⟩
  reject (c.invalidSerials ≠ []) (badSerials c.invalidSerials)
  return c.entries

structure Options where
  thisUpdate : Int
  nextUpdate : Int
  revokedCertificates : List RevokedCertificate
  number : Int

structure CRL where
  number : Int
  entries : List Entry
  thisUpdate : Int
  nextUpdate : Int
  deriving DecidableEq

/-- The records of the authority with their issuers, and what it signs with: a certificate and a
key, SM2 or not. -/
structure Authority where
  records : List (String × RevokedCertificate)
  certificate : Bool
  key : Option Bool

def Authority.getRevokedList (a : Authority) : List RevokedCertificate := a.records.map Prod.snd

def Authority.getRevokedListByIssuer (a : Authority) (issuerKeyID : String) :
    List RevokedCertificate :=
  (a.records.filter fun r => r.1 = issuerKeyID).map Prod.snd

/-- `cache` is missing, or holds what was set last. -/
structure Generator where
  issuerKeyID : String
  cache : Option (Option CRL)
  lastCRL : Option CRL
  crlNumber : Int
  numberSource : Bool
  validity : Int
  autoUpdate : Bool

structure Shared where
  authority : Authority
  generator : Generator

variable (s : Shared)

def Shared.revokedList : List RevokedCertificate :=
  if s.generator.issuerKeyID ≠ "" then s.authority.getRevokedListByIssuer s.generator.issuerKeyID
  else s.authority.getRevokedList

def day : Int := 24 * 3600 * 1000000000

def generateOptions (validity now later : Int) : Options :=
  ⟨now, later + (if validity ≤ 0 then day else validity), [], 0⟩

structure Draft where
  entries : List Entry
  thisUpdate : Int
  nextUpdate : Int

inductive Phase where
  | idle
  | called (opts : Option Options)
  | listed (d : Draft) (number : Int)
  | asking (d : Draft)
  | answered (d : Draft) (number : Int)
  | reserved (d : Draft) (number : Int)
  | signed (crl : CRL)
  | stored (crl : CRL)
  | returned (r : Except Err CRL)

inductive Action where
  | generate (now later : Int)
  | generateWithOptions (opts : Option Options)
  | fetch (failure : Option Err) (clock : Int)
  | lock
  | answer (r : Except Err Int)
  | reserve
  | sign (failure : Option Err)
  | publish
  | setCache

def draft (failure : Option Err) (clock : Int) (opts : Option Options) : Except Err (Draft × Int) :=
  do
  let opts ← need (.text "crl: nil GenerateOptions") opts
  let list ← if opts.revokedCertificates ≠ [] then pure opts.revokedCertificates
    else match failure with
      | some e => .error e
      | none => pure s.revokedList
  let entries ← buildEntries list
  reject (s.authority.certificate = false)
    (.text "crl: Authority.GetIntermediateCA 返回 nil 证书，无法签发 CRL")
  reject (s.authority.key = none) (.text "crl: Authority.GetIntermediateKey 返回 nil 密钥，无法签发 CRL")
  let now := if opts.thisUpdate = 0 then clock else opts.thisUpdate
  let nextUpdate := if opts.nextUpdate = 0 then now + day else opts.nextUpdate
  return (⟨entries, now, nextUpdate⟩, opts.number)

/-- The checks under the lock, and the number is taken. -/
def reserveNumber (d : Draft) (number : Int) (s : Shared) : Phase × Shared :=
  let last := s.generator.crlNumber
  if number < 0 then (.returned (.error (.text s!"crl: CRL number 不能为负数: {number}")), s)
  else if number ≤ last then
    (.returned (.error (.text s!"crl: CRL number {number} 未大于已签发编号 {last}（RFC 5280 §5.2.3 单调性）")),
      s)
  else (.reserved d number, { s with generator := { s.generator with crlNumber := number } })

def signFailure (e : Err) : Err :=
  if s.authority.key = some true then .wrap "crl: SM2 CRL creation failed: " e else e

/-- An `int` after an addition that may overflow. -/
def wrapInt (n : Int) : Int := Int.bmod n 18446744073709551616

/-- `Get`: the cache first, if it holds anything. -/
def Generator.get (g : Generator) : Option CRL := (g.cache.getD none).or g.lastCRL

/-- An action that does not fit the phase does nothing. -/
def Action.run : Action → Shared → Phase → Phase × Shared
  | .generate now later, s, .idle =>
    (.called (some (generateOptions s.generator.validity now later)), s)
  | .generateWithOptions opts, s, .idle => (.called opts, s)
  | .fetch failure clock, s, .called opts =>
    match draft s failure clock opts with
    | .error e => (.returned (.error e), s)
    | .ok (d, number) => (.listed d number, s)
  | .lock, s, .listed d number =>
    if number ≠ 0 then reserveNumber d number s
    else if s.generator.numberSource then (.asking d, s)
    else reserveNumber d (wrapInt (s.generator.crlNumber + 1)) s
  | .answer (.ok number), s, .asking d => (.answered d number, s)
  | .answer (.error e), s, .asking _ => (.returned (.error (.wrap "分配持久 CRL 序号失败: " e)), s)
  | .reserve, s, .answered d number => reserveNumber d number s
  | .sign none, s, .reserved d number =>
    (.signed ⟨number, d.entries, d.thisUpdate, d.nextUpdate⟩, s)
  | .sign (some e), s, .reserved _ _ => (.returned (.error (signFailure s e)), s)
  | .publish, s, .signed crl =>
    (.stored crl, { s with generator := { s.generator with lastCRL := some crl } })
  | .setCache, s, .stored crl =>
    (.returned (.ok crl),
      { s with generator := { s.generator with cache := s.generator.cache.map fun _ => some crl } })
  | _, s, p => (p, s)

structure System where
  shared : Shared
  calls : Nat → Phase

/-- `act` is one step of one call. The rest comes from outside. -/
inductive Call where
  | act (t : Nat) (a : Action)
  | get
  | revoke (issuerKeyID : String) (r : RevokedCertificate)
  | setNumberSource
  | startAutoUpdate (interval : Int)

/-- Only the first start with a positive interval counts. -/
def Generator.startAutoUpdate (interval : Int) (g : Generator) : Generator :=
  if interval ≤ 0 ∨ g.autoUpdate then g
    else { g with validity := wrapInt (2 * interval), autoUpdate := true }

lemma startAutoUpdate_keeps (interval : Int) (g : Generator) :
    ∃ validity autoUpdate, g.startAutoUpdate interval =
      { g with validity := validity, autoUpdate := autoUpdate } := by
  unfold Generator.startAutoUpdate
  split
  · exact ⟨g.validity, g.autoUpdate, rfl⟩
  · exact ⟨_, _, rfl⟩

def Shared.revoke (issuerKeyID : String) (r : RevokedCertificate) (s : Shared) : Shared :=
  { s with authority := { s.authority with records := s.authority.records ++ [(issuerKeyID, r)] } }

def Call.step : Call → System → Unit × System
  | .act t a, x =>
    let r := a.run x.shared (x.calls t)
    ((), ⟨r.2, Function.update x.calls t r.1⟩)
  | .get, x => ((), x)
  | .revoke issuerKeyID r, x => ((), { x with shared := x.shared.revoke issuerKeyID r })
  | .setNumberSource, x =>
    ((), { x with shared := { x.shared with
      generator := { x.shared.generator with numberSource := true } } })
  | .startAutoUpdate interval, x =>
    ((), { x with shared := { x.shared with
      generator := x.shared.generator.startAutoUpdate interval } })

def serials (entries : List Entry) : List Int := entries.map Entry.serialNumber

def Listed (n : Int) : Prop := ∃ r ∈ s.revokedList, setString r.serial = some n

variable {n : Int}

lemma Listed.revoke {s : Shared} (h : Listed s n) (issuerKeyID : String) (r : RevokedCertificate) :
    Listed (s.revoke issuerKeyID r) n := by
  obtain ⟨old, hold, hn⟩ := h
  refine ⟨old, ?_, hn⟩
  unfold Shared.revokedList Authority.getRevokedList Authority.getRevokedListByIssuer at *
  simp only [Shared.revoke, List.filter_append, List.map_append]
  split at hold
  · rename_i hissuer
    rw [if_pos hissuer]
    exact List.mem_append_left _ hold
  · rename_i hissuer
    rw [if_neg hissuer]
    exact List.mem_append_left _ hold

variable {c c' : Collected}

lemma collect_ok {r : RevokedCertificate} (h : collect c r = .ok c')
    (hvalid : c'.invalidSerials = []) :
    c.invalidSerials = [] ∧
      ∀ n, n ∈ serials c'.entries ↔ n ∈ serials c.entries ∨ setString r.serial = some n := by
  unfold collect at h
  cases hserial : (setString r.serial).filter (0 < ·) with
  | none =>
    rw [hserial] at h
    cases h
    simp at hvalid
  | some serial =>
    rw [hserial] at h
    simp only [bind_ok, pure_inj] at h
    obtain ⟨_, _, rfl⟩ := h
    obtain ⟨hsome, _⟩ := Option.filter_eq_some_iff.mp hserial
    refine ⟨hvalid, fun n => ?_⟩
    simp [serials, hsome, eq_comm]

variable {list : List RevokedCertificate}

lemma foldlM_collect_ok (h : list.foldlM collect c = .ok c') (hvalid : c'.invalidSerials = []) :
    c.invalidSerials = [] ∧
      ∀ n, n ∈ serials c'.entries ↔ n ∈ serials c.entries ∨ ∃ r ∈ list,
        setString r.serial = some n := by
  induction list generalizing c with
  | nil =>
    cases h
    exact ⟨hvalid, by simp⟩
  | cons r list ih =>
    simp only [List.foldlM_cons, bind_ok] at h
    obtain ⟨c₁, h₁, h⟩ := h
    obtain ⟨hvalid₁, hlist⟩ := ih h
    obtain ⟨hvalid₀, hfirst⟩ := collect_ok h₁ hvalid₁
    refine ⟨hvalid₀, fun n => ?_⟩
    rw [hlist, hfirst]
    simp [or_assoc]

lemma buildEntries_ok {entries : List Entry} (h : buildEntries list = .ok entries) (n : Int) :
    n ∈ serials entries ↔ ∃ r ∈ list, setString r.serial = some n := by
  simp only [buildEntries, bind_ok, reject_ok, pure_inj, ne_eq, not_not] at h
  obtain ⟨c, hc, _, hvalid, rfl⟩ := h
  rw [(foldlM_collect_ok hc hvalid).2]
  simp [serials]

variable {failure : Option Err} {clock number : Int} {opts : Option Options} {d : Draft}

lemma draft_ok {s : Shared} (h : draft s failure clock opts = .ok (d, number))
    (hopts : ∀ o ∈ opts, o.revokedCertificates = []) (n : Int) :
    n ∈ serials d.entries ↔ Listed s n := by
  unfold draft at h
  cases opts with
  | none => cases h
  | some o =>
    simp only [need_some, ok_bind, hopts o rfl, ne_eq, not_true_eq_false, if_false] at h
    cases failure with
    | some e => cases h
    | none =>
      simp only [pure_ok, ok_bind, bind_ok, Except.ok.injEq, Prod.mk.injEq] at h
      obtain ⟨entries, hentries, _, _, _, _, rfl, _⟩ := h
      exact buildEntries_ok hentries n

lemma draft_nextUpdate {s : Shared} {o : Options}
    (h : draft s failure clock (some o) = .ok (d, number)) (hnext : o.nextUpdate ≠ 0) :
    d.nextUpdate = o.nextUpdate := by
  simp only [draft, need_some, ok_bind, pure_ok, if_neg hnext] at h
  by_cases hgiven : o.revokedCertificates ≠ []
  · simp only [if_pos hgiven, bind_ok, Except.ok.injEq, Prod.mk.injEq] at h
    obtain ⟨_, _, _, _, _, _, rfl, _⟩ := h
    rfl
  · rw [if_neg hgiven] at h
    cases failure with
    | some e => cases h
    | none =>
      simp only [bind_ok, Except.ok.injEq, Prod.mk.injEq] at h
      obtain ⟨_, _, _, _, _, _, rfl, _⟩ := h
      rfl

def Phase.holds : Phase → Option CRL
  | .signed crl => some crl
  | .stored crl => some crl
  | _ => none

inductive Moved (s : Shared) : Phase → Phase → Shared → Prop where
  | stay (p : Phase) : Moved s p p s
  | enter (opts : Option Options) : Moved s .idle (.called opts) s
  | list {opts : Option Options} {d : Draft} {number : Int}
      (h : (∀ o ∈ opts, o.revokedCertificates = []) → ∀ n, n ∈ serials d.entries ↔ Listed s n)
      (hnext : ∀ o ∈ opts, o.nextUpdate ≠ 0 → d.nextUpdate = o.nextUpdate) :
      Moved s (.called opts) (.listed d number) s
  | ask (d : Draft) (number : Int) : Moved s (.listed d number) (.asking d) s
  | answer (d : Draft) (number : Int) : Moved s (.asking d) (.answered d number) s
  | reserve {p : Phase} {d : Draft} {number : Int}
    (hp : ∃ asked, p = .listed d asked ∨ p = .answered d asked)
      (hlt : s.generator.crlNumber < number) :
      Moved s p (.reserved d number)
        { s with generator := { s.generator with crlNumber := number } }
  | sign (d : Draft) (number : Int) :
      Moved s (.reserved d number) (.signed ⟨number, d.entries, d.thisUpdate, d.nextUpdate⟩) s
  | stop (p : Phase) (e : Err) (hp : p.holds = none) : Moved s p (.returned (.error e)) s
  | publish (crl : CRL) :
    Moved s (.signed crl) (.stored crl)
      { s with generator := { s.generator with lastCRL := some crl } }
  | setCache (crl : CRL) : Moved s (.stored crl) (.returned (.ok crl))
      { s with generator := { s.generator with cache := s.generator.cache.map fun _ => some crl } }

variable {p : Phase}

lemma reserveNumber_spec (d : Draft) (number : Int)
    (hp : ∃ asked, p = .listed d asked ∨ p = .answered d asked) :
    Moved s p (reserveNumber d number s).1 (reserveNumber d number s).2 := by
  have hholds : p.holds = none := by
    obtain ⟨asked, rfl | rfl⟩ := hp <;> rfl
  unfold reserveNumber
  dsimp only
  split
  · exact .stop p _ hholds
  split
  · exact .stop p _ hholds
  · exact .reserve hp (by omega)

lemma run_spec (a : Action) (s : Shared) (p : Phase) : Moved s p (a.run s p).1 (a.run s p).2 := by
  fun_cases Action.run a s p
  case case1 => exact .enter _
  case case2 => exact .enter _
  case case3 => exact .stop _ _ rfl
  case case4 hdraft =>
    refine .list (fun hopts => draft_ok hdraft hopts) ?_
    rintro o rfl hnext
    exact draft_nextUpdate hdraft hnext
  case case5 d number _ => exact reserveNumber_spec s d _ ⟨number, .inl rfl⟩
  case case6 => exact .ask _ _
  case case7 d number _ _ => exact reserveNumber_spec s d _ ⟨number, .inl rfl⟩
  case case8 => exact .answer _ _
  case case9 => exact .stop _ _ rfl
  case case10 d number => exact reserveNumber_spec s d number ⟨number, .inr rfl⟩
  case case11 => exact .sign _ _
  case case12 => exact .stop _ _ rfl
  case case13 => exact .publish _
  case case14 => exact .setCache _
  case case15 => exact .stay p

/-- A number taken, and the place of its call's reading in their order. -/
structure Reservation where
  number : Int
  readAt : Nat

/-- Lists, numbers and CRLs in the order of the run. -/
structure History where
  readings : List (List Int)
  readAt : Nat → Nat
  reservations : List Reservation
  latest : Nat
  signed : List CRL
  given : Int

def History.start : History := ⟨[], fun _ => 0, [], 0, [], 0⟩

def History.read (t : Nat) (d : Draft) (h : History) : History :=
  { h with readings := h.readings ++ [serials d.entries]
           readAt := Function.update h.readAt t h.readings.length }

def History.reserve (t : Nat) (number : Int) (h : History) : History :=
  { h with reservations := h.reservations ++ [⟨number, h.readAt t⟩], latest := h.readAt t }

def noteMove (t : Nat) (h : History) : Phase → Phase → History
  | .called _, .listed d _ => h.read t d
  | .listed _ _, .reserved _ number => h.reserve t number
  | .answered _ _, .reserved _ number => h.reserve t number
  | .reserved _ _, .signed crl => { h with signed := h.signed ++ [crl] }
  | .asking _, .answered _ number => { h with given := number }
  | _, _ => h

def note : Call → System → Unit × System → History → History
  | .act t _, before, after, h => noteMove t h (before.calls t) (after.2.calls t)
  | _, _, _, h => h

/-- The number source gives increasing numbers. -/
def Assumed : Call → System × History → Prop
  | .act _ (.generateWithOptions _), _ => False
  | .act _ (.answer (.ok number)), x => x.2.given < number
  | _, _ => True

instance Assumed.decidable (c : Call) (x : System × History) : Decidable (Assumed c x) := by
  unfold Assumed
  split <;> infer_instance

def Action.reserves : Action → Shared → Phase → Bool
  | .lock, s, .listed _ number => number ≠ 0 || !s.generator.numberSource
  | .reserve, _, .answered _ _ => true
  | _, _, _ => false

/-- No call that read the list later has taken its number before. -/
def InOrder : Call → System × History → Prop
  | .act t a, x => a.reserves x.1.shared (x.1.calls t) = true → x.2.latest ≤ x.2.readAt t
  | _, _ => True

instance InOrder.decidable (c : Call) (x : System × History) : Decidable (InOrder c x) := by
  unfold InOrder
  split <;> infer_instance

def Phase.draft : Phase → Option Draft
  | .listed d _ => some d
  | .asking d => some d
  | .answered d _ => some d
  | .reserved d _ => some d
  | _ => none

lemma readings_grow {readings : List (List Int)} (h : readings.Pairwise (· ⊆ ·)) {i j : Nat}
    {a b : List Int} (ha : readings[i]? = some a) (hb : readings[j]? = some b) (hij : i ≤ j) :
    a ⊆ b := by
  obtain ⟨hi, rfl⟩ := List.getElem?_eq_some_iff.mp ha
  obtain ⟨hj, rfl⟩ := List.getElem?_eq_some_iff.mp hb
  rcases Nat.lt_or_eq_of_le hij with hlt | rfl
  · exact List.pairwise_iff_getElem.mp h i j hi hj hlt
  · exact List.Subset.refl _

structure Ordered (x : System × History) : Prop where
  grow : x.2.readings.Pairwise (· ⊆ ·)
  known : ∀ l ∈ x.2.readings, ∀ n ∈ l, Listed x.1.shared n
  generate : ∀ t opts, x.1.calls t = .called opts → ∀ o ∈ opts, o.revokedCertificates = []
  drafts : ∀ t d, (x.1.calls t).draft = some d →
    x.2.readings[x.2.readAt t]? = some (serials d.entries)
  last : ∀ r ∈ x.2.reservations, r.readAt ≤ x.2.latest ∧ r.number ≤ x.1.shared.generator.crlNumber
  order : ∀ r ∈ x.2.reservations, ∀ r' ∈ x.2.reservations, r.number < r'.number →
    r.readAt ≤ r'.readAt
  signing : ∀ t d number, x.1.calls t = .reserved d number →
    ⟨number, x.2.readAt t⟩ ∈ x.2.reservations
  signed : ∀ crl ∈ x.2.signed, ∃ r ∈ x.2.reservations, r.number = crl.number ∧
    x.2.readings[r.readAt]? = some (serials crl.entries)

lemma ordered_start : Ordered (⟨s, fun _ => .idle⟩, History.start) where
  grow := .nil
  known := by intro l hl; cases hl
  generate := by intro t opts h; cases h
  drafts := by intro t d h; cases h
  last := by intro r hr; cases hr
  order := by intro r hr; cases hr
  signing := by intro t d number h; cases h
  signed := by intro crl hcrl; cases hcrl

variable {x : System × History}

/-- The content of a smaller number was read before. -/
lemma Ordered.contained (h : Ordered x) {a b : CRL} (ha : a ∈ x.2.signed) (hb : b ∈ x.2.signed)
    (hlt : a.number < b.number) :
    serials a.entries ⊆ serials b.entries := by
  obtain ⟨r, hr, hnumber, hread⟩ := h.signed a ha
  obtain ⟨r', hr', hnumber', hread'⟩ := h.signed b hb
  rw [← hnumber, ← hnumber'] at hlt
  exact readings_grow h.grow hread hread' (h.order r hr r' hr' hlt)

variable {u : Nat} {s' : Shared}

section

variable {s : Shared} {calls : Nat → Phase} {h : History} {t : Nat}

lemma update_under {α : Type} (f : Phase → α) {x : α} (hu : f (Function.update calls t p u) = x) :
    (u = t ∧ f p = x) ∨ (u ≠ t ∧ f (calls u) = x) := by
  by_cases hut : u = t
  · subst hut
    rw [Function.update_self] at hu
    exact .inl ⟨rfl, hu⟩
  · rw [Function.update_of_ne hut] at hu
    exact .inr ⟨hut, hu⟩

lemma update_eq {x : Phase} (hu : Function.update calls t p u = x) :
    (u = t ∧ p = x) ∨ (u ≠ t ∧ calls u = x) := update_under id hu

lemma Ordered.quiet (hx : Ordered (⟨s, calls⟩, h)) {given : Int}
    (hcalled : ∀ opts, p = .called opts → ∀ o ∈ opts, o.revokedCertificates = [])
    (hdraft : ∀ d, p.draft = some d → (calls t).draft = some d)
    (hreserved : ∀ d number, p = .reserved d number → calls t = p)
    (hlisted : ∀ n, Listed s n → Listed s' n)
    (hnumber : s'.generator.crlNumber = s.generator.crlNumber) :
    Ordered (⟨s', Function.update calls t p⟩, { h with given := given }) where
  grow := hx.grow
  known := fun l hl n hn => hlisted n (hx.known l hl n hn)
  generate := by
    intro u opts hu
    obtain ⟨rfl, hp⟩ | ⟨-, hu⟩ := update_eq hu
    · exact hcalled opts hp
    · exact hx.generate u opts hu
  drafts := by
    intro u d hu
    obtain ⟨rfl, hp⟩ | ⟨-, hu⟩ := update_under Phase.draft hu
    · exact hx.drafts u d (hdraft d hp)
    · exact hx.drafts u d hu
  last := by
    intro r hr
    have hlast := hx.last r hr
    rw [← hnumber] at hlast
    exact hlast
  order := hx.order
  signing := by
    intro u d number hu
    obtain ⟨rfl, hp⟩ | ⟨-, hu⟩ := update_eq hu
    · exact hx.signing u d number ((hreserved d number hp).trans hp)
    · exact hx.signing u d number hu
  signed := hx.signed

lemma Ordered.read (hx : Ordered (⟨s, calls⟩, h))
    (hlisted : ∀ n, n ∈ serials d.entries ↔ Listed s n) :
    Ordered (⟨s, Function.update calls t (.listed d number)⟩, h.read t d) where
  grow := by
    refine List.pairwise_append.mpr ⟨hx.grow, List.pairwise_singleton _ _, ?_⟩
    intro l hl l' hl' n hn
    rw [List.mem_singleton.mp hl']
    exact (hlisted n).mpr (hx.known l hl n hn)
  known := by
    intro l hl n hn
    rcases List.mem_append.mp hl with hl | hl
    · exact hx.known l hl n hn
    · rw [List.mem_singleton.mp hl] at hn
      exact (hlisted n).mp hn
  generate := by
    intro u opts hu
    obtain ⟨rfl, hp⟩ | ⟨-, hu⟩ := update_eq hu
    · cases hp
    · exact hx.generate u opts hu
  drafts := by
    intro u e hu
    obtain ⟨rfl, hp⟩ | ⟨hut, hu⟩ := update_under Phase.draft hu
    · simp only [Phase.draft, Option.some.injEq] at hp
      subst hp
      simp [History.read]
    · have hold := hx.drafts u e hu
      have hlt := (List.getElem?_eq_some_iff.mp hold).1
      simp only [History.read, Function.update_of_ne hut]
      rw [List.getElem?_append_left hlt]
      exact hold
  last := hx.last
  order := hx.order
  signing := by
    intro u e n hu
    obtain ⟨rfl, hp⟩ | ⟨hut, hu⟩ := update_eq hu
    · cases hp
    · simp only [History.read, Function.update_of_ne hut]
      exact hx.signing u e n hu
  signed := by
    intro crl hcrl
    obtain ⟨r, hr, hnumber, hread⟩ := hx.signed crl hcrl
    have hlt := (List.getElem?_eq_some_iff.mp hread).1
    refine ⟨r, hr, hnumber, ?_⟩
    simp only [History.read]
    rw [List.getElem?_append_left hlt]
    exact hread

lemma Ordered.reserve (hx : Ordered (⟨s, calls⟩, h)) (hdraft : (calls t).draft = some d)
    (hlt : s.generator.crlNumber < number) (horder : h.latest ≤ h.readAt t) :
    Ordered (⟨{ s with generator := { s.generator with crlNumber := number } },
      Function.update calls t (.reserved d number)⟩, h.reserve t number) where
  grow := hx.grow
  known := hx.known
  generate := by
    intro u opts hu
    obtain ⟨rfl, hp⟩ | ⟨-, hu⟩ := update_eq hu
    · cases hp
    · exact hx.generate u opts hu
  drafts := by
    intro u e hu
    obtain ⟨rfl, hp⟩ | ⟨-, hu⟩ := update_under Phase.draft hu
    · simp only [Phase.draft, Option.some.injEq] at hp
      subst hp
      exact hx.drafts u _ hdraft
    · exact hx.drafts u e hu
  last := by
    intro r hr
    rcases List.mem_append.mp hr with hr | hr
    · have hlast := hx.last r hr
      exact ⟨Nat.le_trans hlast.1 horder, Int.le_trans hlast.2 (Int.le_of_lt hlt)⟩
    · rw [List.mem_singleton.mp hr]
      exact ⟨Nat.le_refl _, Int.le_refl _⟩
  order := by
    intro r hr r' hr' hnumber
    rcases List.mem_append.mp hr with hr | hr
    · rcases List.mem_append.mp hr' with hr' | hr'
      · exact hx.order r hr r' hr' hnumber
      · rw [List.mem_singleton.mp hr']
        exact Nat.le_trans (hx.last r hr).1 horder
    · -- The new number is the largest.
      rw [List.mem_singleton.mp hr] at hnumber ⊢
      rcases List.mem_append.mp hr' with hr' | hr'
      · have hlast := (hx.last r' hr').2
        exact absurd (Int.le_trans hlast (Int.le_of_lt hlt)) (Int.not_le.mpr hnumber)
      · exact Nat.le_of_eq (congrArg _ (List.mem_singleton.mp hr').symm)
  signing := by
    intro u e n hu
    obtain ⟨rfl, hp⟩ | ⟨-, hu⟩ := update_eq hu
    · cases hp
      exact List.mem_append_right _ (List.mem_singleton_self _)
    · exact List.mem_append_left _ (hx.signing u e n hu)
  signed := by
    intro crl hcrl
    obtain ⟨r, hr, hread⟩ := hx.signed crl hcrl
    exact ⟨r, List.mem_append_left _ hr, hread⟩

lemma Ordered.sign (hx : Ordered (⟨s, calls⟩, h)) (hphase : calls t = .reserved d number) :
    let crl : CRL := ⟨number, d.entries, d.thisUpdate, d.nextUpdate⟩
    Ordered (⟨s, Function.update calls t (.signed crl)⟩,
      { h with signed := h.signed ++ [crl] }) := by
  intro crl
  have hquiet : Ordered (⟨s, Function.update calls t (.signed crl)⟩,
    { h with given := h.given }) := by
    apply hx.quiet
    · intro opts hp; cases hp
    · intro e hp; cases hp
    · intro e n hp; cases hp
    · intro n hn; exact hn
    · rfl
  refine ⟨hquiet.grow, hquiet.known, hquiet.generate, hquiet.drafts, hquiet.last, hquiet.order,
    hquiet.signing, ?_⟩
  intro crl' hcrl
  rcases List.mem_append.mp hcrl with hcrl | hcrl
  · exact hx.signed crl' hcrl
  · rw [List.mem_singleton.mp hcrl]
    have hread := hx.drafts t d (congrArg Phase.draft hphase)
    exact ⟨_, hx.signing t d number hphase, rfl, hread⟩

lemma noteMove_returned (p : Phase) (r : Except Err CRL) : noteMove t h p (.returned r) = h := by
  cases p <;> rfl

lemma noteMove_self (p : Phase) : noteMove t h p p = h := by
  cases p <;> rfl

lemma Ordered.returned (hx : Ordered (⟨s, calls⟩, h)) {r : Except Err CRL}
    (hlisted : ∀ n, Listed s n → Listed s' n)
    (hnumber : s'.generator.crlNumber = s.generator.crlNumber) :
    Ordered (⟨s', Function.update calls t (.returned r)⟩,
      noteMove t h (calls t) (.returned r)) := by
  rw [noteMove_returned]
  refine hx.quiet ?_ ?_ ?_ hlisted hnumber
  · intro opts hp; cases hp
  · intro d hp; cases hp
  · intro d n hp; cases hp

lemma Ordered.moved (hx : Ordered (⟨s, calls⟩, h)) {p' : Phase} (hphase : calls t = p)
    (hmoved : Moved s p p' s')
    (hgenerate : ∀ opts, p = .idle → p' = .called opts → ∀ o ∈ opts, o.revokedCertificates = [])
    (horder : (∀ d n, p ≠ .reserved d n) → ∀ d n, p' = .reserved d n → h.latest ≤ h.readAt t) :
    Ordered (⟨s', Function.update calls t p'⟩, noteMove t h p p') := by
  cases hmoved with
  | stay =>
    rw [noteMove_self, ← hphase, Function.update_eq_self]
    exact hx
  | enter opts =>
    refine hx.quiet (fun opts hp => hgenerate opts rfl hp) ?_ ?_ (fun _ hn => hn) rfl
    · intro d hp; cases hp
    · intro d n hp; cases hp
  | list hlisted _ => exact hx.read (hlisted (hx.generate t _ hphase))
  | ask d number =>
    refine hx.quiet ?_ ?_ ?_ (fun _ hn => hn) rfl
    · intro opts hp; cases hp
    · intro e hp; rw [hphase]; exact hp
    · intro e n hp; cases hp
  | answer d number =>
    refine hx.quiet ?_ ?_ ?_ (fun _ hn => hn) rfl
    · intro opts hp; cases hp
    · intro e hp; rw [hphase]; exact hp
    · intro e n hp; cases hp
  | @reserve _ d number hp hlt =>
    obtain ⟨asked, rfl | rfl⟩ := hp
    · exact hx.reserve (by rw [hphase]; rfl) hlt (horder (by intro e n he; cases he) d number rfl)
    · exact hx.reserve (by rw [hphase]; rfl) hlt (horder (by intro e n he; cases he) d number rfl)
  | sign d number => exact hx.sign hphase
  | stop r hp =>
    rw [← hphase]
    exact hx.returned (fun _ hn => hn) rfl
  | publish crl =>
    refine hx.quiet ?_ ?_ ?_ (fun _ hn => hn) rfl
    · intro opts hp; cases hp
    · intro d hp; cases hp
    · intro d n hp; cases hp
  | setCache crl =>
    rw [← hphase]
    exact hx.returned (fun _ hn => hn) rfl

lemma Ordered.shared (hx : Ordered (⟨s, calls⟩, h)) (hlisted : ∀ n, Listed s n → Listed s' n)
    (hnumber : s'.generator.crlNumber = s.generator.crlNumber) : Ordered (⟨s', calls⟩, h) := by
  have hquiet : Ordered (⟨s', Function.update calls 0 (calls 0)⟩, { h with given := h.given }) :=
    hx.quiet (hx.generate 0) (fun _ hd => hd) (fun _ _ _ => rfl) hlisted hnumber
  rw [Function.update_eq_self] at hquiet
  exact hquiet

end

variable {a : Action}

lemma run_generate {s : Shared} {t : Nat} (hassumed : Assumed (.act t a) x)
    (h : (a.run s .idle).1 = .called opts) :
    ∀ o ∈ opts, o.revokedCertificates = [] := by
  cases a with
  | generate now later =>
    cases h
    intro o ho
    cases ho
    rfl
  | generateWithOptions => exact hassumed.elim
  | answer r => cases r <;> cases h
  | sign failure => cases failure <;> cases h
  | fetch | lock | reserve | publish | setCache => cases h

lemma reserves_of_run {s : Shared} (hp : ∀ d n, p ≠ .reserved d n)
    (h : (a.run s p).1 = .reserved d n) :
    a.reserves s p = true := by
  revert h
  fun_cases Action.run a s p
  case case5 hnumber => simp [Action.reserves, hnumber]
  case case7 hsource => simp [Action.reserves, hsource]
  case case10 => simp [Action.reserves]
  case case15 => exact fun h => absurd h (hp d n)
  all_goals
    intro h
    cases h

lemma Ordered.step (hx : Ordered x) {c : Call} (hassumed : Assumed c x) (horder : InOrder c x) :
    Ordered (watched Call.step note c x).2 := by
  obtain ⟨⟨s, calls⟩, h⟩ := x
  cases c with
  | act t a =>
    have hafter : (Call.step (.act t a) ⟨s, calls⟩).2.calls t = (a.run s (calls t)).1 :=
      Function.update_self _ _ _
    simp only [watched, note, hafter]
    refine hx.moved rfl (run_spec a s (calls t)) ?_ ?_
    · intro opts hidle hcalled
      change (a.run s (calls t)).1 = _ at hcalled
      rw [hidle] at hcalled
      exact run_generate hassumed hcalled
    · exact fun hp d n hreserved => horder (reserves_of_run hp hreserved)
  | get => exact hx
  | revoke issuerKeyID r => exact hx.shared (fun n hn => hn.revoke issuerKeyID r) rfl
  | setNumberSource => exact hx.shared (fun n hn => hn) rfl
  | startAutoUpdate interval =>
    obtain ⟨validity, autoUpdate, hgen⟩ := startAutoUpdate_keeps interval s.generator
    simp only [watched, Call.step, hgen]
    exact hx.shared (fun n hn => hn) rfl

/-- When numbers are taken in the order in which the lists were read, a CRL lists every serial
number that a CRL with a smaller number lists. -/
theorem revocations_kept (s : Shared) {log : List (Call × Unit)} {x : System × History}
    (h : Run (watched Call.step note) (fun c x => Assumed c x ∧ InOrder c x)
    (⟨s, fun _ => .idle⟩, History.start) log x)
    {a b : CRL} (ha : a ∈ x.2.signed) (hb : b ∈ x.2.signed) (hlt : a.number < b.number) :
    serials a.entries ⊆ serials b.entries := by
  have hordered : Ordered x := h.stateInvariant (ordered_start s) fun _ c hx hallowed =>
    hx.step hallowed.1 hallowed.2
  exact hordered.contained ha hb hlt

def sampleShared : Shared := ⟨⟨[], true, some true⟩, ⟨"", some none, none, 0, false, 0, false⟩⟩

def firstRevoked : RevokedCertificate := ⟨"7", 1, 5⟩

def firstCRL : CRL := ⟨1, [], 1, 1 + day⟩

def secondCRL : CRL := ⟨2, [⟨7, 5, 1⟩], 2, 2 + day⟩

theorem revocations_kept_sample :
    let calls := [Call.act 1 (.generate 1 1), .act 1 (.fetch none 1), .revoke "" firstRevoked,
      .act 2 (.generate 2 2),
      .act 2 (.fetch none 2), .act 1 .lock, .act 2 .lock, .act 2 (.sign none), .act 1 (.sign none)]
    let x := (exec (watched Call.step note) calls (⟨sampleShared, fun _ => .idle⟩, History.start)).2
    x.2.signed = [secondCRL, firstCRL] ∧ serials firstCRL.entries ⊆ serials secondCRL.entries := by
  intro calls x
  have hallowed : AllAllowed (watched Call.step note) (fun c x => Assumed c x ∧ InOrder c x) calls
      (⟨sampleShared, fun _ => .idle⟩, History.start) := by decide +kernel
  have hsigned : x.2.signed = [secondCRL, firstCRL] := by decide +kernel
  refine ⟨hsigned, revocations_kept sampleShared (exec_run hallowed) ?_ ?_ (by decide)⟩
  · change firstCRL ∈ x.2.signed
    simp [hsigned]
  · change secondCRL ∈ x.2.signed
    simp [hsigned]

/-- The second call reads the longer list and takes its number first. -/
def overtaken : List Call :=
  [.act 1 (.generate 1 1), .act 1 (.fetch none 1), .revoke "" firstRevoked, .act 2 (.generate 2 2),
    .act 2 (.fetch none 2), .act 2 .lock, .act 1 .lock, .act 2 (.sign none), .act 1 (.sign none)]

theorem revocation_lost : ∃ log x,
    Run (watched Call.step note) Assumed (⟨sampleShared, fun _ => .idle⟩, History.start) log x ∧
      ∃ a ∈ x.2.signed, ∃ b ∈ x.2.signed, a.number < b.number ∧
        ¬ serials a.entries ⊆ serials b.entries := by
  have hallowed : AllAllowed (watched Call.step note) Assumed overtaken
      (⟨sampleShared, fun _ => .idle⟩, History.start) := by decide +kernel
  refine ⟨_, _, exec_run hallowed, ⟨1, [⟨7, 5, 1⟩], 2, 2 + day⟩, ?_,
    ⟨2, [], 1, 1 + day⟩, ?_, by decide, by decide⟩
  · decide +kernel
  · decide +kernel

end Pollux.Crl
