import Mathlib.Algebra.Ring.Int.Defs
import PolluxGM.CrlNumbers

/-!
# Automatic updates

`StartAutoUpdate` of a generator sets its validity to twice the interval and starts a loop; that of
a fan-out starts a loop which calls `Update` of the generators below it. A loop that was told to
stop may take another tick before it ends.
-/
namespace Pollux.Crl

def second : Int := 1000000000

/-- A time as it stands in the CRL: DER has whole seconds. -/
def derTime (t : Int) : Int := t - t % second

def CRL.isExpired (crl : CRL) (now : Int) : Bool := derTime crl.nextUpdate < now

def effectiveValidity (validity : Int) : Int := if validity ≤ 0 then day else validity

lemma effectiveValidity_pos (validity : Int) : 0 < effectiveValidity validity := by
  unfold effectiveValidity
  split
  · decide
  · omega

def Phase.isIdle : Phase → Bool
  | .idle => true
  | _ => false

def Phase.isReturned : Phase → Bool
  | .returned _ => true
  | _ => false

/-- A generator with its loop: the interval, and the update it waits for. -/
structure Instance where
  system : System
  loop : Option Int
  busy : Option Nat
  stopped : Bool

/-- A generator below a fan-out, which may be nil or a fan-out itself. -/
inductive Child where
  | missing
  | single (i : Nat)
  | fanout (j : Nat)
  deriving DecidableEq

/-- `leaves` are the generators `Update` reaches, `rest` those left in this round. -/
structure Fanout where
  children : List Child
  leaves : List Nat
  inner : List Nat
  started : Bool
  loop : Option Int
  rest : List Nat
  busy : Option (Nat × Nat)
  stopped : Bool

structure World where
  instances : Nat → Instance
  fanouts : List Fanout

/-- Whose `Generate`, which call of it, its clock reading, and the validity. -/
structure LoopUpdate where
  generator : Nat
  call : Nat
  interval : Int
  moment : Int
  validity : Int
  single : Bool
  deriving DecidableEq

inductive Event where
  | newFanout (primary : Child) (others : List Child)
  | call (i : Nat) (c : Call)
  | tick (i t : Nat) (now later : Int)
  | stop (i : Nat)
  | exit (i : Nat)
  | startFanout (j : Nat) (interval : Int)
  | tickFanout (j : Nat)
  | updateNext (j t : Nat) (now later : Int)
  | stopFanout (j : Nat)
  | exitFanout (j : Nat)

variable (u : LoopUpdate) (w : World) (g : Instance)

def World.modify (i : Nat) (f : Instance → Instance) (w : World) : World :=
  { w with instances := Function.update w.instances i (f (w.instances i)) }

def World.modifyFanout (j : Nat) (f : Fanout → Fanout) (w : World) : World :=
  { w with fanouts := w.fanouts.modify j f }

def World.leaves (w : World) : Child → List Nat
  | .missing => []
  | .single i => [i]
  | .fanout j => (w.fanouts[j]?.map Fanout.leaves).getD []

def World.inner (w : World) : Child → List Nat
  | .fanout j => j :: (w.fanouts[j]?.map Fanout.inner).getD []
  | _ => []

def World.newFanout (primary : Child) (others : List Child) : Fanout :=
  let children := primary :: others
  ⟨children, children.flatMap w.leaves, children.flatMap w.inner, false, none, [], none, false⟩

/-- Only the state of a `crlGenerator` can be probed. -/
def World.childStopped : Child → Bool
  | .missing => true
  | .single i => (w.instances i).stopped
  | .fanout _ => false

def World.allStopped (f : Fanout) : Bool := f.children.all w.childStopped

def Instance.waits : Bool :=
  match g.busy with
  | none => true
  | some t => (g.system.calls t).isReturned

def World.waits (f : Fanout) : Bool :=
  match f.busy with
  | none => true
  | some (i, t) => ((w.instances i).system.calls t).isReturned

def Instance.call (c : Call) (g : Instance) : Instance :=
  { g with
    system := (Call.step c g.system).2
    loop := match c with
      | .startAutoUpdate interval =>
        if interval ≤ 0 ∨ g.system.shared.generator.autoUpdate then g.loop else some interval
      | _ => g.loop }

def Instance.generate (t : Nat) (now later : Int) (g : Instance) : Instance :=
  { g with system := (Call.step (.act t (.generate now later)) g.system).2 }

def Instance.tick (t : Nat) (now later : Int) (g : Instance) : Instance :=
  { g.generate t now later with busy := some t }

def Instance.stop : Instance := { g with stopped := true }

def Instance.exit : Instance := if g.stopped && g.waits then { g with loop := none } else g

/-- The update a loop begins with this event: at a tick while it waits, or the next generator of a
fan-out. -/
def Event.begins : Event → World → Option LoopUpdate
  | .tick i t _ later, w => do
    let g := w.instances i
    let interval ← g.loop
    if g.waits && (g.system.calls t).isIdle then
      some ⟨i, t, interval, later, g.system.shared.generator.validity, true⟩
    else none
  | .updateNext j t _ later, w => do
    let f ← w.fanouts[j]?
    let interval ← f.loop
    let i ← f.rest.head?
    let g := w.instances i
    if w.waits f && (g.system.calls t).isIdle then
      some ⟨i, t, interval, later, g.system.shared.generator.validity, false⟩
    else none
  | _, _ => none

def Fanout.start (interval : Int) (f : Fanout) : Fanout :=
  if interval ≤ 0 ∨ f.started then f else { f with started := true, loop := some interval }

/-- The loop ends if all the generators were stopped on their own. -/
def World.tickFanout (f : Fanout) : Fanout :=
  if f.loop = none ∨ f.rest ≠ [] ∨ w.waits f = false then f
  else if w.allStopped f then { f with loop := none }
  else { f with rest := f.leaves }

/-- The channel is closed, and so are those of everything below. -/
def World.stopFanout (j : Nat) (w : World) : World :=
  match w.fanouts[j]? with
  | none => w
  | some f =>
    if f.stopped then w
    else
      { instances := fun i => if i ∈ f.leaves then (w.instances i).stop else w.instances i
        fanouts := (j :: f.inner).foldl (fun fs k => fs.modify k fun g =>
          { g with stopped := true }) w.fanouts }

def Event.step : Event → World → Unit × World
  | .newFanout primary others, w =>
    ((), { w with fanouts := w.fanouts ++ [w.newFanout primary others] })
  | .call i c, w => ((), w.modify i (Instance.call c))
  | .tick i t now later, w =>
    match Event.begins (.tick i t now later) w with
    | none => ((), w)
    | some _ => ((), w.modify i (Instance.tick t now later))
  | .stop i, w => ((), w.modify i Instance.stop)
  | .exit i, w => ((), w.modify i Instance.exit)
  | .startFanout j interval, w => ((), w.modifyFanout j (Fanout.start interval))
  | .tickFanout j, w => ((), w.modifyFanout j w.tickFanout)
  | .updateNext j t now later, w =>
    match Event.begins (.updateNext j t now later) w with
    | none => ((), w)
    | some u => ((), (w.modify u.generator (Instance.generate t now later)).modifyFanout j fun f =>
        { f with rest := f.rest.tail, busy := some (u.generator, t) })
  | .stopFanout j, w => ((), w.stopFanout j)
  | .exitFanout j, w => ((), w.modifyFanout j fun f =>
      if f.stopped && f.rest.isEmpty && w.waits f then { f with loop := none } else f)

/-- The clock is past Go's zero time. -/
def Event.Timed : Event → World × List LoopUpdate → Prop
  | .tick _ _ _ later, _ => 0 < later
  | .updateNext _ _ _ later, _ => 0 < later
  | _, _ => True

def keepUpdates (e : Event) (before : World) (_ : Unit × World) (l : List LoopUpdate) :
    List LoopUpdate :=
  l ++ (e.begins before).toList

def World.new (systems : Nat → Authority × Bool × String × Bool) : World :=
  ⟨fun i => ⟨System.new (systems i).1 (systems i).2.1 (systems i).2.2.1 (systems i).2.2.2, none,
    none, false⟩, []⟩

/-- The call signs, has signed or has failed to sign this `NextUpdate`. -/
def Phase.Carries (next : Int) : Phase → Prop
  | .idle => False
  | .called opts => ∃ o ∈ opts, o.nextUpdate = next
  | .listed d _ | .asking d | .answered d _ | .reserved d _ => d.nextUpdate = next
  | .signed crl | .stored crl | .returned (.ok crl) => crl.nextUpdate = next
  | .returned (.error _) => True

lemma Moved.carries {s s' : Shared} {p p' : Phase} (h : Moved s p p' s') {next : Int}
    (hnext : next ≠ 0) (hp : p.Carries next) : p'.Carries next := by
  cases h with
  | stay => exact hp
  | enter => exact hp.elim
  | list _ hd =>
    obtain ⟨o, ho, rfl⟩ := hp
    exact hd o ho hnext
  | reserve hask =>
    obtain ⟨asked, rfl | rfl⟩ := hask
    · exact hp
    · exact hp
  | stop => trivial
  | ask | answer | sign | publish | setCache => exact hp

lemma Moved.validity {s s' : Shared} {p p' : Phase} (h : Moved s p p' s') :
    s'.generator.validity = s.generator.validity ∧
      s'.generator.autoUpdate = s.generator.autoUpdate := by
  cases h <;> exact ⟨rfl, rfl⟩

def Instance.Doubled : Prop := ∀ interval, g.loop = some interval →
  g.system.shared.generator.autoUpdate = true ∧
    g.system.shared.generator.validity = wrapInt (2 * interval)

structure Goes (g' : Instance) : Prop where
  carries : ∀ t next, next ≠ 0 → (g.system.calls t).Carries next → (g'.system.calls t).Carries next
  doubled : g.Doubled → g'.Doubled

lemma Goes.refl : Goes g g := ⟨fun _ _ _ h => h, id⟩

lemma Goes.of_system {g g' : Instance} (hsystem : g'.system = g.system)
    (hloop : g'.loop = g.loop ∨ g'.loop = none) :
    Goes g g' where
  carries := by
    rw [hsystem]
    exact fun _ _ _ h => h
  doubled := by
    intro h interval hinterval
    rw [hsystem]
    rcases hloop with hsame | hnone
    · exact h interval (hsame ▸ hinterval)
    · rw [hnone] at hinterval
      cases hinterval

lemma Goes.act (t : Nat) (a : Action) {g' : Instance}
    (hsystem : g'.system = (Call.step (.act t a) g.system).2) (hloop : g'.loop = g.loop) :
    Goes g g' where
  carries := by
    intro u next hnext hu
    rw [hsystem]
    exact update_keeps (P := Phase.Carries next)
      ((run_spec a g.system.shared (g.system.calls t)).carries hnext) hu
  doubled := by
    intro h interval hinterval
    rw [hloop] at hinterval
    have hkept := (run_spec a g.system.shared (g.system.calls t)).validity
    rw [hsystem]
    exact ⟨hkept.2.trans (h interval hinterval).1, hkept.1.trans (h interval hinterval).2⟩

lemma Goes.call (c : Call) : Goes g (g.call c) := by
  cases c with
  | act t a => exact .act g t a rfl rfl
  | get => exact .of_system rfl (.inl rfl)
  | revoke | setNumberSource => exact ⟨fun _ _ _ h => h, id⟩
  | startAutoUpdate interval =>
    refine ⟨fun _ _ _ h => h, ?_⟩
    intro h current hcurrent
    simp only [Instance.call, Call.step, Generator.startAutoUpdate] at hcurrent ⊢
    split at hcurrent
    · rename_i hoff
      rw [if_pos hoff]
      exact h current hcurrent
    · rename_i hon
      rw [if_neg hon]
      cases hcurrent
      exact ⟨rfl, rfl⟩

lemma goes_modify (i : Nat) {f : Instance → Instance}
    (hf : Goes (w.instances i) (f (w.instances i))) (k : Nat) :
    Goes (w.instances k) ((w.modify i f).instances k) := by
  change Goes (w.instances k) (Function.update w.instances i (f (w.instances i)) k)
  by_cases hk : k = i
  · subst hk
    rw [Function.update_self]
    exact hf
  · rw [Function.update_of_ne hk]
    exact .refl _

lemma Event.goes (e : Event) (w : World) (k : Nat) :
    Goes (w.instances k) ((e.step w).2.instances k) := by
  cases e with
  | newFanout | startFanout | tickFanout | exitFanout => exact .refl _
  | call i c => exact goes_modify w i (f := Instance.call c) (.call _ c) k
  | tick i t now later =>
    simp only [Event.step]
    cases Event.begins (.tick i t now later) w with
    | none => exact .refl _
    | some u =>
      exact goes_modify w i (f := Instance.tick t now later)
        (.act _ t (.generate now later) rfl rfl) k
  | stop i => exact goes_modify w i (f := Instance.stop) (.of_system rfl (.inl rfl)) k
  | exit i =>
    apply goes_modify w i (f := Instance.exit)
    unfold Instance.exit
    split
    · exact .of_system rfl (.inr rfl)
    · exact .refl _
  | updateNext j t now later =>
    simp only [Event.step]
    cases Event.begins (.updateNext j t now later) w with
    | none => exact .refl _
    | some u =>
      exact goes_modify w u.generator (f := Instance.generate t now later)
        (.act _ t (.generate now later) rfl rfl) k
  | stopFanout j =>
    simp only [Event.step, World.stopFanout]
    split
    · exact .refl _
    split
    · exact .refl _
    · dsimp only
      split
      · exact .of_system rfl (.inl rfl)
      · exact .refl _

def LoopUpdate.next : Int := u.moment + effectiveValidity u.validity

/-- The call of the update is on its way with this `NextUpdate`. -/
structure LoopUpdate.Kept : Prop where
  timed : 0 < u.moment
  doubled : u.single = true → u.validity = wrapInt (2 * u.interval)
  carries : ((w.instances u.generator).system.calls u.call).Carries u.next

lemma LoopUpdate.next_ne_zero {u : LoopUpdate} (h : 0 < u.moment) : u.next ≠ 0 := by
  have hpos := effectiveValidity_pos u.validity
  unfold LoopUpdate.next
  omega

lemma generate_carries {t : Nat} (hidle : (g.system.calls t).isIdle = true) (now later : Int) :
    ((g.generate t now later).system.calls t).Carries
      (later + effectiveValidity g.system.shared.generator.validity) := by
  have hcall : g.system.calls t = .idle := by
    cases hphase : g.system.calls t <;> rw [hphase] at hidle <;> first | rfl | cases hidle
  simp only [Instance.generate, Call.step, Function.update_self, hcall]
  exact ⟨_, rfl, rfl⟩

lemma begins_kept {e : Event} {w : World} {l : List LoopUpdate} (htimed : e.Timed (w, l))
    (hdoubled : ∀ i, (w.instances i).Doubled) {u : LoopUpdate} (h : e.begins w = some u) :
    u.Kept (e.step w).2 := by
  cases e with
  | tick i t now later =>
    have hbegins := h
    simp only [Event.begins, Option.bind_eq_bind, Option.bind_eq_some_iff,
      Option.ite_none_right_eq_some, Bool.and_eq_true, Option.some.injEq] at h
    obtain ⟨interval, hloop, ⟨_, hidle⟩, rfl⟩ := h
    refine ⟨htimed, fun _ => (hdoubled i interval hloop).2, ?_⟩
    simp only [Event.step, hbegins, World.modify, Function.update_self, Instance.tick]
    exact generate_carries _ hidle now later
  | updateNext j t now later =>
    have hbegins := h
    simp only [Event.begins, Option.bind_eq_bind, Option.bind_eq_some_iff,
      Option.ite_none_right_eq_some, Bool.and_eq_true, Option.some.injEq] at h
    obtain ⟨f, _, interval, _, i, _, ⟨_, hidle⟩, rfl⟩ := h
    refine ⟨htimed, fun hsingle => Bool.noConfusion hsingle, ?_⟩
    simp only [Event.step, hbegins, World.modifyFanout, World.modify, Function.update_self]
    exact generate_carries _ hidle now later
  | _ => cases h

structure Updating (x : World × List LoopUpdate) : Prop where
  doubled : ∀ i, (x.1.instances i).Doubled
  kept : ∀ u ∈ x.2, u.Kept x.1

lemma updating_new (systems : Nat → Authority × Bool × String × Bool) :
    Updating (World.new systems, []) where
  doubled := by intro i interval h; cases h
  kept := by intro u hu; cases hu

lemma Updating.step {x : World × List LoopUpdate} (h : Updating x) {e : Event}
    (htimed : e.Timed x) : Updating (watched Event.step keepUpdates e x).2 where
  doubled := fun i => (e.goes x.1 i).doubled (h.doubled i)
  kept := by
    intro u hu
    rcases List.mem_append.mp hu with hold | hnew
    · obtain ⟨hmoment, hdoubled, hcarries⟩ := h.kept u hold
      exact ⟨hmoment, hdoubled,
        (e.goes x.1 u.generator).carries u.call u.next (LoopUpdate.next_ne_zero hmoment) hcarries⟩
    · exact begins_kept htimed h.doubled (Option.mem_toList.mp hnew)

/-- The interval fits into the validity, cut to whole seconds. -/
def LoopUpdate.Fits : Prop := u.interval + u.next % second ≤ effectiveValidity u.validity

lemma LoopUpdate.fits_iff : u.moment + u.interval ≤ derTime u.next ↔ u.Fits := by
  unfold derTime LoopUpdate.Fits LoopUpdate.next
  omega

lemma fits_of_doubled {u : LoopUpdate} (h : u.validity = wrapInt (2 * u.interval))
    (hsecond : second - 1 ≤ u.interval) (hlt : u.interval < 2 ^ 62) : u.Fits := by
  have hvalidity : u.validity = 2 * u.interval := by
    rw [h, wrapInt]
    exact Int.bmod_eq_of_le (by unfold second at hsecond; omega) (by omega)
  have hmod : u.next % second < second := Int.emod_lt_of_pos _ (by decide)
  have hpos : 0 < u.validity := by
    unfold second at hsecond
    omega
  unfold LoopUpdate.Fits effectiveValidity
  rw [if_neg (by omega)]
  omega

/-- An update of a running loop has its `NextUpdate` at least one interval after it exactly when
the interval fits into the validity its generator had. That is so for every loop of a generator's
own whose interval is at least a second (to the nanosecond) and below 2^62 nanoseconds; the CRL
has then not expired when the next update is due. -/
theorem auto_update_covers (systems : Nat → Authority × Bool × String × Bool)
    {log : List (Event × Unit)} {x : World × List LoopUpdate}
    (h : Run (watched Event.step keepUpdates) Event.Timed (World.new systems, []) log x)
    {u : LoopUpdate} (hu : u ∈ x.2) {crl : CRL}
    (hcrl : (x.1.instances u.generator).system.calls u.call = .returned (.ok crl)) :
    (u.moment + u.interval ≤ derTime crl.nextUpdate ↔ u.Fits) ∧
    (u.single = true → second - 1 ≤ u.interval → u.interval < 2 ^ 62 → u.Fits) ∧
    (u.Fits → ∀ now, now ≤ u.moment + u.interval → crl.isExpired now = false) := by
  have hupdating : Updating x := h.stateInvariant (updating_new systems) fun _ _ hx htimed =>
    hx.step htimed
  obtain ⟨_, hdoubled, hcarries⟩ := hupdating.kept u hu
  rw [hcrl] at hcarries
  have hnext : crl.nextUpdate = u.next := hcarries
  rw [hnext]
  refine ⟨u.fits_iff, fun hsingle => fits_of_doubled (hdoubled hsingle), ?_⟩
  intro hfits now hnow
  have hcover := u.fits_iff.mpr hfits
  simp only [CRL.isExpired, hnext, decide_eq_false_iff_not]
  omega

instance Event.timedDecidable (e : Event) (x : World × List LoopUpdate) :
    Decidable (e.Timed x) := by
  unfold Event.Timed
  split <;> infer_instance

def sampleWorld : World := World.new fun _ => (⟨[], true, some true⟩, true, "", false)

def finish (i t : Nat) : List Event :=
  ([.fetch none 1, .lock, .sign none, .publish, .setCache] : List Action).map fun a =>
    .call i (.act t a)

def hourly : List Event :=
  [.call 0 (.startAutoUpdate (3600 * second)), .tick 0 1 (5 * second) (5 * second + 1)] ++
    finish 0 1

theorem auto_update_covers_hourly :
    let x := (exec (watched Event.step keepUpdates) hourly (sampleWorld, [])).2
    x.2 = [⟨0, 1, 3600 * second, 5 * second + 1, 7200 * second, true⟩] ∧
      (x.1.instances 0).system.calls 1 = .returned (.ok ⟨1, [], 5 * second, 7205 * second + 1⟩) ∧
      CRL.isExpired ⟨1, [], 5 * second, 7205 * second + 1⟩ (3605 * second + 1) = false := by
  intro x
  have htimed : AllAllowed (watched Event.step keepUpdates) Event.Timed hourly (sampleWorld,
    []) := by decide +kernel
  have hupdates : x.2 = [⟨0, 1, 3600 * second, 5 * second + 1, 7200 * second, true⟩] := by
    decide +kernel
  have hcrl : (x.1.instances 0).system.calls 1 =
    .returned (.ok ⟨1, [], 5 * second, 7205 * second + 1⟩) := rfl
  have hcovers := auto_update_covers _ (exec_run htimed) (u :=
    ⟨0, 1, 3600 * second, 5 * second + 1, 7200 * second, true⟩)
    (hupdates ▸ List.mem_singleton_self _) hcrl
  exact ⟨hupdates, hcrl, hcovers.2.2 (hcovers.2.1 rfl (by decide) (by decide)) _ (by decide)⟩

def everySecondDay : List Event :=
  [.newFanout (.single 0) [.single 1], .startFanout 0 (2 * day), .tickFanout 0,
    .updateNext 0 1 second second] ++ finish 0 1 ++
    [.updateNext 0 1 (2 * second) (2 * second)] ++ finish 1 1

/-- The CRLs expire a day before the next update is due. -/
theorem fanout_gap :
    let x := (exec (watched Event.step keepUpdates) everySecondDay (sampleWorld, [])).2
    x.2 = [⟨0, 1, 2 * day, second, 0, false⟩, ⟨1, 1, 2 * day, 2 * second, 0, false⟩] ∧
      (x.1.instances 0).system.calls 1 = .returned (.ok ⟨1, [], second, second + day⟩) ∧
      (x.1.instances 1).system.calls 1 = .returned (.ok ⟨1, [], 2 * second, 2 * second + day⟩) ∧
      derTime (second + day) < second + 2 * day ∧
      CRL.isExpired ⟨1, [], second, second + day⟩ (second + day + 1) = true := by
  exact ⟨by decide +kernel, rfl, rfl, by decide, by decide⟩

end Pollux.Crl
