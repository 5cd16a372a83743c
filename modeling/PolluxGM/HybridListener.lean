import Mathlib.Logic.Function.Basic
import PolluxGM.Bytes
import PolluxGM.Run

/-!
# Lazy negotiation

A connection of `HybridListener.Accept` negotiates on its first `Read` or `Write`, under the
connection's lock; the deadline setters take no lock and may come in between. Go's zero time stands
for no deadline.
-/
namespace Pollux.Https

inductive Err where
  | text (message : String)
  deriving DecidableEq

inductive Direction where
  | read
  | write
  deriving DecidableEq

structure Raw where
  deadlines : Direction → Option Int
  closed : Bool

def deadline (t : Int) : Option Int := if t = 0 then none else some t

/-- The setters of a `net.Conn`, for some directions; they fail on a closed one. -/
def Raw.set (which : List Direction) (t : Int) (r : Raw) : Except Err Unit × Raw :=
  if r.closed then (.error (.text "use of closed network connection"), r)
  else (.ok (), { r with deadlines := fun d => if d ∈ which then deadline t else r.deadlines d })

def Raw.setDeadline (t : Int) (r : Raw) : Except Err Unit × Raw := r.set [.read, .write] t

def Raw.setReadDeadline (t : Int) (r : Raw) : Except Err Unit × Raw := r.set [.read] t

def Raw.setWriteDeadline (t : Int) (r : Raw) : Except Err Unit × Raw := r.set [.write] t

def Raw.close (r : Raw) : Raw := { r with closed := true }

def seconds (n : Int) : Int := n * 1000000000

/-- A timeout not given has a default, and a negative one means none. -/
def resolveTimeout (t : Option Int) (default : Int) : Int :=
  match t with
  | none => default
  | some t => if t < 0 then 0 else t

structure ServerTimeouts where
  readTimeout : Int
  writeTimeout : Int
  idleTimeout : Int

def buildHTTPServer (readTimeout writeTimeout idleTimeout : Option Int) : ServerTimeouts :=
  ⟨resolveTimeout readTimeout (seconds 30), resolveTimeout writeTimeout (seconds 30),
    resolveTimeout idleTimeout (seconds 120)⟩

structure ProtocolMask where
  allowTLCP : Bool
  allowTLS : Bool
  deriving DecidableEq

structure HybridListener where
  handshakeTimeout : Int
  protocolMask : ProtocolMask

def defaultHandshakeTimeout : Int := seconds 30

def newHybridListener : HybridListener := ⟨defaultHandshakeTimeout, ⟨true, true⟩⟩

def HybridListener.setHandshakeTimeout (d : Int) (l : HybridListener) : HybridListener :=
  { l with handshakeTimeout := d }

def HybridListener.setProtocolMask (mask : ProtocolMask) (l : HybridListener) : HybridListener :=
  { l with protocolMask := mask }

inductive Protocol where
  | tlcp
  | tls
  deriving DecidableEq

/-- `done`, `sec` and `nerr`; while `ensure` runs it is negotiating. -/
inductive Phase where
  | fresh
  | negotiating
  | secure (sec : Protocol)
  | failed (nerr : Err)
  deriving DecidableEq

structure HybridConn where
  raw : Raw
  mask : ProtocolMask
  timeout : Int
  phase : Phase

/-- `Accept` copies the timeout and the mask; the raw connection is new. -/
def HybridListener.accept (l : HybridListener) : HybridConn :=
  ⟨⟨fun _ => none, false⟩, l.protocolMask, l.handshakeTimeout, .fresh⟩

def errNotHandshake : Err := .text "pollux/https: not a TLS/TLCP handshake"

def errProtocolNotAllowed : Err :=
  .text "pollux/https: protocol version not allowed by ProtocolMask"

def hex4 (n : Nat) : String :=
  String.ofList ([4096, 256, 16, 1].map fun k => Nat.digitChar (n / k % 16))

def errUnknownProtocol (version : Nat) : Err :=
  let digits := hex4 version
  .text s!"pollux/https: unknown protocol version in record header: 0x{digits}"

def sniff (mask : ProtocolMask) (header : Bytes) : Except Err Protocol := do
  reject (header.getD 0 0 ≠ 22) errNotHandshake
  let version := (header.getD 1 0).toNat * 256 + (header.getD 2 0).toNat
  if version = 0x0101 then
    reject (mask.allowTLCP = false) errProtocolNotAllowed
    return .tlcp
  else if 0x0301 ≤ version ∧ version ≤ 0x0303 then
    reject (mask.allowTLS = false) errProtocolNotAllowed
    return .tls
  else .error (errUnknownProtocol version)

def HybridConn.fail (e : Err) (c : HybridConn) : HybridConn :=
  { c with raw := c.raw.close, phase := .failed e }

def HybridConn.begin (now : Int) (c : HybridConn) : HybridConn :=
  if 0 < c.timeout then
    match c.raw.setDeadline (now + c.timeout) with
    | (.error e, raw) => { c with raw := raw }.fail e
    | (.ok (), raw) => { c with raw := raw, phase := .negotiating }
  else { c with phase := .negotiating }

/-- A TLCP connection bounds the alert of a failed handshake. -/
def alertDeadline (p : Protocol) (now : Int) (raw : Raw) : Raw :=
  match p with
  | .tlcp => (raw.setWriteDeadline (now + seconds 5)).2
  | .tls => raw

/-- The rest of `ensure`; what the peer does comes from outside. -/
def HybridConn.finish (header : Except Err Bytes) (handshake : Except Err Unit) (now : Int)
    (c : HybridConn) :
    HybridConn :=
  match header >>= sniff c.mask with
  | .error e => c.fail e
  | .ok p =>
    match handshake with
    | .error e => { c with raw := alertDeadline p now c.raw }.fail e
    | .ok () =>
      if 0 < c.timeout then
        match c.raw.setDeadline 0 with
        | (.error e, raw) => { c with raw := raw }.fail e
        | (.ok (), raw) => { c with raw := raw, phase := .secure p }
      else { c with phase := .secure p }

/-- `finish` happens inside the `Read` or `Write` that negotiates. -/
inductive Op where
  | setDeadline (t : Int)
  | setReadDeadline (t : Int)
  | setWriteDeadline (t : Int)
  | read (now : Int)
  | write (now : Int)
  | finish (header : Except Err Bytes) (handshake : Except Err Unit) (now : Int)
  | close (now : Int)

def Op.sets : Op → Option (List Direction × Int)
  | .setDeadline t => some ([.read, .write], t)
  | .setReadDeadline t => some ([.read], t)
  | .setWriteDeadline t => some ([.write], t)
  | _ => none

/-- On a negotiated connection deadlines are left alone; while another call negotiates it waits,
and so does `Close`. -/
def HybridConn.use (now : Int) (c : HybridConn) : Except Err Unit × HybridConn :=
  match c.phase with
  | .fresh => (.ok (), c.begin now)
  | .negotiating => (.ok (), c)
  | .secure _ => (.ok (), c)
  | .failed e => (.error e, c)

def HybridConn.setRaw (c : HybridConn) (r : Except Err Unit × Raw) : Except Err Unit × HybridConn :=
  (r.1, { c with raw := r.2 })

def Op.step : Op → HybridConn → Except Err Unit × HybridConn
  | .setDeadline t, c => c.setRaw (c.raw.setDeadline t)
  | .setReadDeadline t, c => c.setRaw (c.raw.setReadDeadline t)
  | .setWriteDeadline t, c => c.setRaw (c.raw.setWriteDeadline t)
  | .read now, c => c.use now
  | .write now, c => c.use now
  | .finish header handshake now, c =>
    match c.phase with
    | .negotiating => (.ok (), c.finish header handshake now)
    | _ => (.ok (), c)
  | .close now, c =>
    match c.phase with
    | .negotiating => (.ok (), c)
    | .secure _ => (.ok (), { c with raw := (c.raw.setWriteDeadline (now + seconds 5)).2.close })
    | _ => (.ok (), { c with raw := c.raw.close })

/-- What the caller set last in each direction, and whether after the negotiation. -/
structure Wishes where
  last : Direction → Option Int
  since : Direction → Bool

def Wishes.none : Wishes := ⟨fun _ => .none, fun _ => false⟩

def Phase.isSecure : Phase → Bool
  | .secure _ => true
  | _ => false

def note (op : Op) (before : HybridConn) (after : Except Err Unit × HybridConn) (w : Wishes) :
    Wishes :=
  match op.sets, after.1 with
  | some (which, t), .ok () =>
    { last := fun d => if d ∈ which then deadline t else w.last d
      since := fun d => if d ∈ which then before.phase.isSecure else w.since d }
  | _, _ => w

/-- The deadline of a direction. A negotiation with a timeout leaves none. -/
def InForce (c : HybridConn) (w : Wishes) (d : Direction) : Prop :=
  match c.phase with
  | .fresh => w.since d = false ∧ c.raw.deadlines d = w.last d
  | .negotiating => w.since d = false ∧ (c.timeout ≤ 0 → c.raw.deadlines d = w.last d)
  | .secure _ => c.raw.deadlines d = if 0 < c.timeout ∧ w.since d = false then none else w.last d
  | .failed _ => True

def Tracked (x : HybridConn × Wishes) : Prop := x.1.raw.closed = false → ∀ d, InForce x.1 x.2 d

lemma tracked_accept (l : HybridListener) : Tracked (l.accept, Wishes.none) := fun _ _ => ⟨rfl, rfl⟩

variable {which : List Direction} {t : Int}

lemma Raw.set_ok {r raw : Raw} (h : r.set which t = (.ok (), raw)) :
    r.closed = false ∧ raw =
      { r with deadlines := fun d => if d ∈ which then deadline t else r.deadlines d } := by
  unfold Raw.set at h
  split at h
  · cases h
  · rename_i hclosed
    cases h
    exact ⟨Bool.eq_false_iff.mpr hclosed, rfl⟩

variable {c : HybridConn} {w : Wishes}

lemma Tracked.set (h : Tracked (c, w)) (hopen : c.raw.closed = false) (which : List Direction)
    (t : Int) :
    Tracked ({ c with raw := { c.raw with
      deadlines := fun d => if d ∈ which then deadline t else c.raw.deadlines d } },
      ⟨fun d => if d ∈ which then deadline t else w.last d, fun d =>
        if d ∈ which then c.phase.isSecure else w.since d⟩) := by
  intro _ d
  have hold := h hopen d
  unfold InForce at hold ⊢
  cases hphase : c.phase with
  | failed => trivial
  | fresh | negotiating | secure =>
    simp only [hphase] at hold ⊢
    by_cases hd : d ∈ which
    · simp [hd, Phase.isSecure]
    · simpa [hd] using hold

lemma step_set {op : Op} (h : op.sets = some (which, t)) (c : HybridConn) :
    op.step c = c.setRaw (c.raw.set which t) := by
  cases op <;> cases h <;> rfl

lemma begin_tracked (h : Tracked (c, w)) (hphase : c.phase = .fresh) (now : Int) :
    Tracked (c.begin now, w) := by
  unfold HybridConn.begin
  split
  · rename_i htimeout
    split
    · exact fun hopen => Bool.noConfusion hopen
    · rename_i raw hset
      intro hopen d
      have hold := h (Raw.set_ok hset).1 d
      simp only [InForce, hphase] at hold
      exact ⟨hold.1, fun hle => absurd htimeout (Int.not_lt.mpr hle)⟩
  · intro hopen d
    have hold := h hopen d
    simp only [InForce, hphase] at hold
    exact ⟨hold.1, fun _ => hold.2⟩

lemma finish_tracked (h : Tracked (c, w)) (hphase : c.phase = .negotiating)
    (header : Except Err Bytes) (handshake : Except Err Unit) (now : Int) :
    Tracked (c.finish header handshake now, w) := by
  unfold HybridConn.finish
  split
  · exact fun hopen => Bool.noConfusion hopen
  split
  · exact fun hopen => Bool.noConfusion hopen
  split
  · rename_i htimeout
    split
    · exact fun hopen => Bool.noConfusion hopen
    · rename_i raw hset
      intro _ d
      obtain ⟨hopen, rfl⟩ := Raw.set_ok hset
      have hold := h hopen d
      simp only [InForce, hphase] at hold
      cases d <;> simp [InForce, htimeout, hold.1, deadline]
  · rename_i htimeout
    intro hopen d
    have hold := h hopen d
    simp only [InForce, hphase] at hold ⊢
    rw [if_neg fun hboth => htimeout hboth.1]
    exact hold.2 (Int.not_lt.mp htimeout)

lemma use_tracked (h : Tracked (c, w)) (now : Int) : Tracked ((c.use now).2, w) := by
  unfold HybridConn.use
  split
  · rename_i hphase
    exact begin_tracked h hphase now
  · exact h
  · exact h
  · exact h

lemma Tracked.step {x : HybridConn × Wishes} (h : Tracked x) (op : Op) :
    Tracked (watched Op.step note op x).2 := by
  obtain ⟨c, w⟩ := x
  cases hsets : op.sets with
  | some target =>
    obtain ⟨which, t⟩ := target
    simp only [watched, step_set hsets, note, hsets, HybridConn.setRaw]
    cases hset : c.raw.set which t with
    | mk answer raw =>
      cases answer with
      | error e =>
        have hraw : raw = c.raw := by
          unfold Raw.set at hset
          split at hset <;> cases hset
          rfl
        subst hraw
        exact h
      | ok =>
        obtain ⟨hopen, rfl⟩ := Raw.set_ok hset
        exact h.set hopen which t
  | none =>
    have hnote : ∀ after, note op c after w = w := by
      intro after
      simp only [note, hsets]
    simp only [watched, hnote]
    cases op with
    | setDeadline | setReadDeadline | setWriteDeadline => cases hsets
    | read now => exact use_tracked h now
    | write now => exact use_tracked h now
    | finish header handshake now =>
      simp only [Op.step]
      split
      · rename_i hphase
        exact finish_tracked h hphase header handshake now
      · exact h
    | close now =>
      simp only [Op.step]
      split
      · exact h
      · exact fun hopen => Bool.noConfusion hopen
      · exact fun hopen => Bool.noConfusion hopen

lemma step_timeout (op : Op) (c : HybridConn) : (op.step c).2.timeout = c.timeout := by
  have hbegin : ∀ now, (c.begin now).timeout = c.timeout := by
    intro now
    unfold HybridConn.begin
    split
    · split <;> rfl
    · rfl
  have huse : ∀ now, (c.use now).2.timeout = c.timeout := by
    intro now
    unfold HybridConn.use
    split
    · exact hbegin now
    · rfl
    · rfl
    · rfl
  cases op with
  | setDeadline | setReadDeadline | setWriteDeadline => rfl
  | read now => exact huse now
  | write now => exact huse now
  | finish header handshake now =>
    simp only [Op.step, HybridConn.finish]
    repeat' split
    all_goals rfl
  | close now =>
    simp only [Op.step]
    split <;> rfl

/-- Once the connection has negotiated, the deadline in force is the last one the caller has set
exactly when the handshake has no timeout, it was set after the negotiation, or the last one set
is none. -/
theorem deadline_kept_iff (l : HybridListener) {log : List (Op × Except Err Unit)}
    {x : HybridConn × Wishes}
    (h : Run (watched Op.step note) (fun _ _ => True) (l.accept, Wishes.none) log x)
    {sec : Protocol} (hsecure : x.1.phase = .secure sec) (hopen : x.1.raw.closed = false)
    (d : Direction) :
    x.1.raw.deadlines d = x.2.last d ↔ l.handshakeTimeout ≤ 0 ∨ x.2.since d = true ∨
      x.2.last d = none := by
  have htracked : Tracked x := h.stateInvariant (tracked_accept l) fun _ op hx _ => hx.step op
  have htimeout : x.1.timeout = l.handshakeTimeout :=
    h.stateInvariant (I := fun x => x.1.timeout = l.handshakeTimeout) rfl
      fun x op hx _ => (step_timeout op x.1).trans hx
  have hforce := htracked hopen d
  simp only [InForce, hsecure, htimeout] at hforce
  rw [hforce]
  split
  · rename_i hlost
    have hpos : ¬ l.handshakeTimeout ≤ 0 := Int.not_le.mpr hlost.1
    simp [hlost.2, hpos, eq_comm]
  · rename_i hkept
    refine iff_of_true rfl ?_
    by_contra hnone
    simp only [not_or, Bool.not_eq_true] at hnone
    exact hkept ⟨Int.not_le.mp hnone.1, hnone.2.1⟩

def tlsHeader : Bytes := [22, 3, 1, 0, 5]

def lateCaller : List Op :=
  [.read 1, .finish (.ok tlsHeader) (.ok ()) 2, .setReadDeadline (seconds 40)]

theorem deadline_kept_late :
    let x := (exec (watched Op.step note) lateCaller (newHybridListener.accept, Wishes.none)).2
    x.2.last .read = some (seconds 40) ∧ x.1.raw.deadlines .read = x.2.last .read := by
  intro x
  have hrun : Run (watched Op.step note) (fun _ _ => True) (newHybridListener.accept,
    Wishes.none) _ x :=
    exec_run (allAllowed_true lateCaller _)
  have hsecure : x.1.phase = .secure .tls := rfl
  exact ⟨rfl, (deadline_kept_iff newHybridListener hrun hsecure rfl .read).mpr (.inr (.inl rfl))⟩

def firstRequest (now : Int) : List Op :=
  [.setReadDeadline (now + (buildHTTPServer none none none).readTimeout), .read now,
    .finish (.ok tlsHeader) (.ok ()) now]

/-- The deadline of the first request is gone when its first octet is read. -/
theorem first_deadline_lost :
    let x := (exec (watched Op.step note) (firstRequest (seconds 1))
      (newHybridListener.accept, Wishes.none)).2
    x.1.phase = .secure .tls ∧ x.1.raw.closed = false ∧ x.2.last .read = some (seconds 31) ∧
      x.1.raw.deadlines .read = none := ⟨rfl, rfl, rfl, rfl⟩

end Pollux.Https
