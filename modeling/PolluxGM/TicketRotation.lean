import Mathlib.Data.List.Nodup
import PolluxGM.Run
import PolluxGM.TicketKeys

/-!
# How long ticket keys are handed out

Calls of `keys` under a clock that does not go back. A rotation is made by the first call after it
has fallen due, so a key is still in the list a whole period after it was handed out. When no call
comes in time it is displaced late, and then it is the previous key for another period.
-/
namespace Pollux.TicketRotation

open Tls

/-- The clock when the call looks and when it has rotated, and what the random source would give. -/
structure Call where
  now : Int
  later : Int
  fresh : Except Err Bytes
  deriving DecidableEq

def step (c : Call) (r : TicketKeyRotator) : List Bytes × TicketKeyRotator :=
  r.keys c.now c.later c.fresh

def Due (r : TicketKeyRotator) (now : Int) : Prop := r.rotationPeriod ≤ now - r.rotatedAt

instance (r : TicketKeyRotator) (now : Int) : Decidable (Due r now) :=
  inferInstanceAs (Decidable (r.rotationPeriod ≤ now - r.rotatedAt))

lemma step_cases (c : Call) (r : TicketKeyRotator) :
    (step c r = (r.list, r) ∧ (Due r c.now → ∃ e, c.fresh = .error e)) ∨
      Due r c.now ∧ ∃ key, c.fresh = .ok key ∧
        step c r = ([key, r.current], ⟨key, some r.current, c.later, r.rotationPeriod⟩) := by
  unfold step TicketKeyRotator.keys
  by_cases hdue : r.rotationPeriod ≤ c.now - r.rotatedAt
  · rw [if_pos hdue]
    cases hfresh : c.fresh with
    | error e => exact .inl ⟨rfl, fun _ => ⟨e, rfl⟩⟩
    | ok key => exact .inr ⟨hdue, key, rfl, rfl⟩
  · rw [if_neg hdue]
    exact .inl ⟨rfl, fun h => absurd h hdue⟩

lemma step_list (c : Call) (r : TicketKeyRotator) : (step c r).1 = (step c r).2.list := rfl

lemma step_period (c : Call) (r : TicketKeyRotator) :
    (step c r).2.rotationPeriod = r.rotationPeriod := by
  rcases step_cases c r with ⟨h, -⟩ | ⟨-, _, -, h⟩ <;> rw [h]

def InOrder (calls : List Call) : Prop :=
  calls.Pairwise (fun a b => a.later ≤ b.now) ∧ ∀ c ∈ calls, c.now ≤ c.later

/-- What is known at `time` of a key that was the current one at `asked`. -/
structure Kept (r : TicketKeyRotator) (key : Bytes) (asked time : Int) : Prop where
  past : asked ≤ time
  held : key = r.current ∨
    (r.previous = some key ∧ asked ≤ r.rotatedAt) ∨ asked + r.rotationPeriod ≤ time

variable {r : TicketKeyRotator} {key : Bytes} {asked time : Int}

lemma Kept.mono (h : Kept r key asked time) (hle : time ≤ time') : Kept r key asked time' := by
  refine ⟨Int.le_trans h.past hle, ?_⟩
  rcases h.held with hcur | hprev | hover
  · exact .inl hcur
  · exact .inr (.inl hprev)
  · exact .inr (.inr (Int.le_trans hover hle))

lemma Kept.mem (h : Kept r key asked time) (hwithin : time < asked + r.rotationPeriod) :
    key ∈ r.list := by
  unfold TicketKeyRotator.list
  rcases h.held with rfl | ⟨hprev, -⟩ | hover
  · exact List.mem_cons_self
  · rw [hprev]
    simp
  · omega

variable {c : Call}

/-- The displaced key has its rotation behind it. -/
lemma Kept.after_call (h : Kept r key asked c.now) (hlater : c.now ≤ c.later) :
    Kept (step c r).2 key asked c.now := by
  rcases step_cases c r with ⟨hstep, -⟩ | ⟨hdue, fresh, -, hstep⟩ <;> rw [hstep]
  · exact h
  · refine ⟨h.past, ?_⟩
    rcases h.held with rfl | ⟨-, hrotated⟩ | hover
    · exact .inr (.inl ⟨rfl, Int.le_trans h.past hlater⟩)
    · -- It is dropped now, a period after the rotation that made it the previous key.
      unfold Due at hdue
      exact .inr (.inr (by dsimp only; omega))
    · exact .inr (.inr hover)

lemma Kept.calls {calls : List Call} (h : Kept r key asked time) (hcalls : InOrder calls)
    (hafter : ∀ c ∈ calls, time ≤ c.now) :
    ∀ b ∈ (exec step calls r).1, b.1.now < asked + r.rotationPeriod → key ∈ b.2 := by
  induction calls generalizing r time with
  | nil => simp [exec]
  | cons c cs ih =>
    obtain ⟨hpairs, hlater⟩ := hcalls
    obtain ⟨hfirst, hrest⟩ := List.pairwise_cons.mp hpairs
    have hkept : Kept (step c r).2 key asked c.now :=
      (h.mono (hafter c List.mem_cons_self)).after_call (hlater c List.mem_cons_self)
    intro b hb hwithin
    rcases List.mem_cons.mp hb with rfl | hb
    · exact hkept.mem (by rw [step_period]; exact hwithin)
    · have hmono := hkept.mono (hlater c List.mem_cons_self)
      refine ih hmono ⟨hrest, fun d hd => hlater d (List.mem_cons_of_mem c hd)⟩ hfirst b hb ?_
      rw [step_period]
      exact hwithin

/-- A key that was handed out first is in every list of the following period, whatever the
schedule and whether the random source works or not. The period is counted from the last clock
reading of the call that handed it out. -/
theorem ticket_keys_retained (r : TicketKeyRotator) {calls : List Call} (h : InOrder calls) :
    (exec step calls r).1.Pairwise fun a b =>
      ∀ key ∈ a.2.head?, b.1.now < a.1.later + r.rotationPeriod → key ∈ b.2 := by
  induction calls generalizing r with
  | nil => exact .nil
  | cons c cs ih =>
    obtain ⟨hpairs, hlater⟩ := h
    obtain ⟨hfirst, hrest⟩ := List.pairwise_cons.mp hpairs
    have hcs : InOrder cs := ⟨hrest, fun d hd => hlater d (List.mem_cons_of_mem c hd)⟩
    refine .cons ?_ ?_
    · intro b hb key hkey hwithin
      rw [step_list, TicketKeyRotator.list, List.head?_cons, Option.mem_some] at hkey
      have hkept : Kept (step c r).2 key c.later c.later := ⟨Int.le_refl _, .inl hkey.symm⟩
      refine hkept.calls hcs hfirst b hb ?_
      rw [step_period]
      exact hwithin
    · have hrun := ih (step c r).2 hcs
      rwa [step_period] at hrun

/-- The rotation at 110 fails and the one at 150 displaces the key, which stays to 249. -/
theorem ticket_keys_retained_sample :
    InOrder [⟨50, 50, .ok [9]⟩, ⟨110, 110, .error (.text "")⟩, ⟨150, 150, .ok [7]⟩,
      ⟨249, 250, .ok [8]⟩] ∧
    (exec step [⟨50, 50, .ok [9]⟩, ⟨110, 110, .error (.text "")⟩, ⟨150, 150, .ok [7]⟩,
      ⟨249, 250, .ok [8]⟩] ⟨[1], none, 0, 100⟩).1.Pairwise
        fun a b => ∀ key ∈ a.2.head?, b.1.now < a.1.later + 100 → key ∈ b.2 := by
  have hcalls : InOrder [⟨50, 50, .ok [9]⟩, ⟨110, 110, .error (.text "")⟩, ⟨150, 150, .ok [7]⟩,
      ⟨249, 250, .ok [8]⟩] := ⟨by decide, by decide⟩
  exact ⟨hcalls, ticket_keys_retained ⟨[1], none, 0, 100⟩ hcalls⟩

structure Tenure where
  key : Bytes
  since : Int
  deriving DecidableEq

/-- A key that a call returned first, and when. -/
structure Handed where
  key : Bytes
  answered : Int
  deriving DecidableEq

structure History where
  tenures : List Tenure
  handed : List Handed
  clock : Int
  deriving DecidableEq

def History.start (r : TicketKeyRotator) : History := ⟨[⟨r.current, r.rotatedAt⟩], [], r.rotatedAt⟩

def note (c : Call) (before : TicketKeyRotator) (after : List Bytes × TicketKeyRotator)
    (h : History) : History where
  tenures := if Due before c.now then ⟨after.2.current, after.2.rotatedAt⟩ :: h.tenures
    else h.tenures
  handed := ⟨after.1.headD [], c.later⟩ :: h.handed
  clock := c.later

/-- The clock does not go back and the random source works. -/
def Supplied (c : Call) (x : TicketKeyRotator × History) : Prop :=
  x.2.clock ≤ c.now ∧ c.now ≤ c.later ∧ c.fresh.toOption.isSome = true

instance (c : Call) (x : TicketKeyRotator × History) : Decidable (Supplied c x) :=
  inferInstanceAs (Decidable (x.2.clock ≤ c.now ∧ c.now ≤ c.later ∧ c.fresh.toOption.isSome = true))

/-- The calls after a rotation at `rotated`: every rotation is made when it falls due. -/
def OnSchedule (period : Int) : Int → List Call → Prop
  | _, [] => True
  | rotated, c :: cs =>
    if rotated + period ≤ c.now then c.later = rotated + period ∧ OnSchedule period c.later cs
    else OnSchedule period rotated cs

structure Tracked (period : Int) (x : TicketKeyRotator × History) : Prop where
  period_eq : x.1.rotationPeriod = period
  past : x.1.rotatedAt ≤ x.2.clock
  current : x.2.tenures[0]? = some ⟨x.1.current, x.1.rotatedAt⟩
  previous : x.1.previous = x.2.tenures[1]?.map Tenure.key
  handed : ∀ h ∈ x.2.handed, ∃ t ∈ x.2.tenures, t.key = h.key ∧ t.since ≤ h.answered

variable {x : TicketKeyRotator × History}

lemma watched_cases (hc : Supplied c x) :
    (¬ Due x.1 c.now ∧ watched step note c x =
        (x.1.list, x.1, ⟨x.2.tenures, ⟨x.1.current, c.later⟩ :: x.2.handed, c.later⟩)) ∨
      Due x.1 c.now ∧ ∃ key, watched step note c x =
        ([key, x.1.current], ⟨key, some x.1.current, c.later, x.1.rotationPeriod⟩,
          ⟨⟨key, c.later⟩ :: x.2.tenures, ⟨key, c.later⟩ :: x.2.handed, c.later⟩) := by
  unfold watched note
  rcases step_cases c x.1 with ⟨hstep, hfail⟩ | ⟨hdue, key, -, hstep⟩
  · have hdue : ¬ Due x.1 c.now := by
      intro hdue
      obtain ⟨e, he⟩ := hfail hdue
      rw [Supplied, he] at hc
      simp [Except.toOption] at hc
    rw [hstep, if_neg hdue]
    exact .inl ⟨hdue, rfl⟩
  · rw [hstep, if_pos hdue]
    exact .inr ⟨hdue, key, rfl⟩

variable {period : Int}

lemma Tracked.after_call (h : Tracked period x) (hc : Supplied c x) :
    Tracked period (watched step note c x).2 := by
  have hlater : x.1.rotatedAt ≤ c.later := by
    have := h.past
    have := hc.1
    have := hc.2.1
    omega
  rcases watched_cases hc with ⟨-, hstep⟩ | ⟨-, key, hstep⟩ <;> rw [hstep]
  · refine ⟨h.period_eq, hlater, h.current, h.previous, ?_⟩
    intro g hg
    rcases List.mem_cons.mp hg with rfl | hg
    · exact ⟨_, List.mem_of_getElem? h.current, rfl, hlater⟩
    · exact h.handed g hg
  · refine ⟨h.period_eq, Int.le_refl _, rfl, ?_, ?_⟩
    · simp [h.current]
    · intro g hg
      rcases List.mem_cons.mp hg with rfl | hg
      · exact ⟨_, List.mem_cons_self, rfl, Int.le_refl _⟩
      · obtain ⟨t, ht, htold⟩ := h.handed g hg
        exact ⟨t, List.mem_cons_of_mem _ ht, htold⟩

lemma Tracked.start
    (h : newTicketKeyRotator seed period fresh now = .ok r) :
    Tracked period (r, History.start r) ∧ 0 < period ∧ r.rotatedAt = now := by
  simp only [newTicketKeyRotator, bind_ok, reject_ok, pure_inj] at h
  obtain ⟨_, hpos, cur, -, rfl⟩ := h
  exact ⟨⟨rfl, Int.le_refl _, rfl, rfl, by simp [History.start]⟩, by omega, rfl⟩

lemma Tracked.list (h : Tracked period x) : x.1.list = (x.2.tenures.take 2).map Tenure.key := by
  obtain ⟨r, tenures, handed, clock⟩ := x
  obtain ⟨-, -, hcur, hprev, -⟩ := h
  dsimp only at hcur hprev
  unfold TicketKeyRotator.list
  rw [hprev]
  match tenures, hcur with
  | [t], hcur => simp_all
  | t :: u :: _, hcur => simp_all

lemma mem_take_two {α : Type} {l : List α} {a : α} (h : a ∈ l.take 2) :
    l[0]? = some a ∨ l[1]? = some a := by
  match l, h with
  | [b], h => simp_all
  | b :: b' :: _, h => simp_all [eq_comm]

/-- The previous key was displaced no later than a period after it became current. -/
structure Timely (period : Int) (x : TicketKeyRotator × History) :
    Prop extends Tracked period x where
  displaced : ∀ t, x.2.tenures[1]? = some t → x.1.rotatedAt ≤ t.since + period

/-- A rotation on time displaces the current key at the age of a period. -/
lemma Timely.after_call (h : Timely period x) (hpos : 0 < period) (hc : Supplied c x)
    (htime : Due x.1 c.now → c.later = x.1.rotatedAt + period) :
    Timely period (watched step note c x).2 ∧
      ∀ t ∈ (watched step note c x).2.2.tenures.take 2, c.now - t.since ≤ 2 * period := by
  have htracked := h.toTracked.after_call hc
  obtain ⟨-, hlater, -⟩ := id hc
  have hperiod := h.period_eq
  rcases watched_cases hc with ⟨hdue, hstep⟩ | ⟨hdue, key, hstep⟩ <;> rw [hstep] at htracked ⊢
  · refine ⟨⟨htracked, h.displaced⟩, fun t ht => ?_⟩
    unfold Due at hdue
    rcases mem_take_two ht with hcur | hprev
    · rw [h.current] at hcur
      cases hcur
      dsimp only
      omega
    · have := h.displaced t hprev
      omega
  · have htime := htime hdue
    have hcur : ∀ t, x.2.tenures[0]? = some t → t.since = x.1.rotatedAt := by
      intro t ht
      rw [h.current] at ht
      cases ht
      rfl
    refine ⟨⟨htracked, fun t ht => ?_⟩, fun t ht => ?_⟩
    · have := hcur t ht
      dsimp only
      omega
    · rcases mem_take_two ht with hnew | hold
      · cases hnew
        dsimp only
        omega
      · have := hcur t hold
        omega

lemma onSchedule_cons (hc : Supplied c x) (hperiod : x.1.rotationPeriod = period)
    (h : OnSchedule period x.1.rotatedAt (c :: calls)) :
    (Due x.1 c.now → c.later = x.1.rotatedAt + period) ∧
      OnSchedule period (watched step note c x).2.1.rotatedAt calls := by
  unfold OnSchedule at h
  rcases watched_cases hc with ⟨hdue, hstep⟩ | ⟨hdue, key, hstep⟩ <;> rw [hstep] <;>
    unfold Due at hdue
  · rw [if_neg (by omega)] at h
    exact ⟨fun hdue' => absurd hdue' hdue, h⟩
  · rw [if_pos (by omega)] at h
    exact ⟨fun _ => h.1, h.2⟩

/-- The state before the last call of a schedule, and that the call is on time. -/
lemma Timely.exec {before : List Call} (h : Timely period x) (hpos : 0 < period)
    (hall : AllAllowed (watched step note) Supplied (before ++ [c]) x)
    (hschedule : OnSchedule period x.1.rotatedAt (before ++ [c])) :
    let y := (exec (watched step note) before x).2
    Timely period y ∧ Supplied c y ∧ (Due y.1 c.now → c.later = y.1.rotatedAt + period) := by
  induction before generalizing x with
  | nil => exact ⟨h, hall.1, (onSchedule_cons hall.1 h.period_eq hschedule).1⟩
  | cons d ds ih =>
    obtain ⟨htime, hrest⟩ := onSchedule_cons hall.1 h.period_eq hschedule
    exact ih (h.after_call hpos hall.1 htime).1 hall.2 hrest

/-- As long as every rotation is made when it falls due, no call returns a key that has been
current for more than two periods, and a ticket it can open was sealed at most two periods ago:
the AEAD binds the ticket to its key, and no key was drawn twice. -/
theorem ticket_keys_expire_on_schedule {seed : Bytes} {period created : Int}
    {first : Except Err Bytes} {r : TicketKeyRotator}
    (hnew : newTicketKeyRotator seed period first created = .ok r) {before : List Call} {c : Call}
    (hall : AllAllowed (watched step note) Supplied (before ++ [c]) (r, History.start r))
    (hschedule : OnSchedule period created (before ++ [c])) :
    let y := watched step note c (exec (watched step note) before (r, History.start r)).2
    y.1 = (y.2.2.tenures.take 2).map Tenure.key ∧
      (∀ t ∈ y.2.2.tenures.take 2, c.now - t.since ≤ 2 * period) ∧
      ((y.2.2.tenures.map Tenure.key).Nodup → ∀ P, Binding P → ∀ g ∈ y.2.2.handed,
        ∀ d d' nonce ticket, encryptSessionTicketWithData P g.key d nonce = .ok ticket →
          decryptSessionTicketWithData P y.1 ticket = .ok d' →
            c.now - g.answered ≤ 2 * period) := by
  obtain ⟨hstart, hpos, hcreated⟩ := Tracked.start hnew
  have htimely : Timely period (r, History.start r) := ⟨hstart, by simp [History.start]⟩
  obtain ⟨hbefore, hc, htime⟩ := htimely.exec hpos hall (hcreated ▸ hschedule)
  obtain ⟨hafter, hyoung⟩ := hbefore.after_call hpos hc htime
  intro y
  have hlist : y.1 = (y.2.2.tenures.take 2).map Tenure.key := hafter.list
  refine ⟨hlist, hyoung, ?_⟩
  intro hnodup P hbind g hg d d' nonce ticket hseal hopen
  -- the key that opens the ticket is the one it was sealed under, and that one is not old
  have hmem : g.key ∈ (y.2.2.tenures.take 2).map Tenure.key :=
    hlist ▸ mem_of_decrypt hbind hseal hopen
  obtain ⟨t, ht, htkey⟩ := List.mem_map.mp hmem
  obtain ⟨u, hu, hukey, hsince⟩ := hafter.handed g hg
  obtain rfl : t = u :=
    List.inj_on_of_nodup_map hnodup (List.mem_of_mem_take ht) hu (htkey.trans hukey.symm)
  have hage := hyoung t ht
  omega

def hourlyRotator : TicketKeyRotator := ⟨zeros 16, none, 0, 3600⟩

/-- Two rotations, each when it falls due, and calls between them. -/
def hourlyCalls : List Call :=
  [⟨60, 60, .ok (zeros 16)⟩, ⟨3600, 3600, .ok (List.replicate 16 1)⟩, ⟨5400, 5400, .ok (zeros 16)⟩,
    ⟨7200, 7200, .ok (List.replicate 16 2)⟩]

theorem ticket_keys_expire_hourly :
    let y := watched step note ⟨10799, 10799, .ok (zeros 16)⟩
      (exec (watched step note) hourlyCalls (hourlyRotator, .start hourlyRotator)).2
    y.1 = [List.replicate 16 2, List.replicate 16 1] ∧
      ∀ t ∈ y.2.2.tenures.take 2, 10799 - t.since ≤ 2 * 3600 := by
  have hnew : newTicketKeyRotator (zeros 16) 3600 (.ok []) 0 = .ok hourlyRotator := by decide
  have hall : AllAllowed (watched step note) Supplied
    (hourlyCalls ++ [⟨10799, 10799, .ok (zeros 16)⟩])
      (hourlyRotator, .start hourlyRotator) := by decide +kernel
  have hschedule : OnSchedule 3600 0 (hourlyCalls ++ [⟨10799, 10799, .ok (zeros 16)⟩]) := by
    simp [OnSchedule, hourlyCalls]
  exact ⟨by decide +kernel, (ticket_keys_expire_on_schedule hnew hall hschedule).2.1⟩

/-- After ten hours without a call the seed is handed out and opens a ticket of the first minute. -/
theorem idle_rotator_keeps_key :
    newTicketKeyRotator (zeros 16) 3600 (.ok []) 0 = .ok hourlyRotator ∧
    AllAllowed (watched step note) Supplied
      [⟨60, 60, .ok (zeros 16)⟩, ⟨36000, 36000, .ok (List.replicate 16 1)⟩]
      (hourlyRotator, .start hourlyRotator) ∧
    (exec step [⟨60, 60, .ok (zeros 16)⟩, ⟨36000, 36000, .ok (List.replicate 16 1)⟩]
      hourlyRotator).1.map Prod.snd = [[zeros 16], [List.replicate 16 1, zeros 16]] ∧
    ¬ (36000 - hourlyRotator.rotatedAt ≤ 2 * 3600) ∧
    ((encryptSessionTicketWithData keyedPrims (zeros 16) ⟨[1, 2, 3], 7, []⟩ (.ok (zeros 12))).bind
      (decryptSessionTicketWithData keyedPrims [List.replicate 16 1, zeros 16])) =
        .ok ⟨[1, 2, 3], 7, []⟩ := by
  decide +kernel

end Pollux.TicketRotation
