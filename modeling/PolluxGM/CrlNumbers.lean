import Mathlib.Data.List.Pairwise
import PolluxGM.Crl

/-!
# CRL numbers and what is published

A number is reserved under the lock, the CRL is signed outside of it, and then published in two
places: `lastCRL` under the lock and the cache after it. The ledger keeps these points in the order
of the run.
-/
namespace Pollux.Crl

def newGenerator (cache : Bool) (issuerKeyID : String) (numberSource : Bool) : Generator :=
  ⟨issuerKeyID, if cache then some none else none, none, 0, numberSource, 0, false⟩

def System.new (a : Authority) (cache : Bool) (issuerKeyID : String) (numberSource : Bool) :
    System :=
  ⟨⟨a, newGenerator cache issuerKeyID numberSource⟩, fun _ => .idle⟩

/-- Numbers, CRLs, stores and the answers of `Get`, in order. -/
structure Ledger where
  reserved : List (Nat × Int)
  signed : List (Nat × CRL)
  stores : List Int
  gets : List (Option CRL)

def Ledger.start : Ledger := ⟨[], [], [], []⟩

def Ledger.enter (t : Nat) (l : Ledger) : Phase → Phase → Ledger
  | .listed _ _, .reserved _ number => { l with reserved := l.reserved ++ [(t, number)] }
  | .answered _ _, .reserved _ number => { l with reserved := l.reserved ++ [(t, number)] }
  | .reserved _ _, .signed crl => { l with signed := l.signed ++ [(t, crl)] }
  | _, _ => l

/-- The CRL that a step stores: in `lastCRL` first, then in a cache. -/
def Generator.stored (g : Generator) : Phase → Phase → Option CRL
  | .signed crl, .stored _ => some crl
  | .stored crl, .returned _ => g.cache.map fun _ => crl
  | _, _ => none

def Ledger.store (l : Ledger) (crl : Option CRL) : Ledger :=
  { l with stores := l.stores ++ (crl.map CRL.number).toList }

def keepLedger : Call → System → Unit × System → Ledger → Ledger
  | .act t _, before, after, l =>
    (l.enter t (before.calls t) (after.2.calls t)).store
      (before.shared.generator.stored (before.calls t) (after.2.calls t))
  | .get, before, _, l => { l with gets := l.gets ++ [before.shared.generator.get] }
  | _, _, _, l => l

lemma Ledger.enter_self (t : Nat) (l : Ledger) (p : Phase) : l.enter t p p = l := by
  cases p <;> rfl

lemma Ledger.enter_returned (t : Nat) (l : Ledger) (p : Phase) (r : Except Err CRL) :
    l.enter t p (.returned r) = l := by
  cases p <;> rfl

def Phase.pastReserve : Phase → Prop
  | .reserved _ _ | .signed _ | .stored _ | .returned _ => True
  | _ => False

def Phase.pastSign : Phase → Prop
  | .signed _ | .stored _ | .returned _ => True
  | _ => False

structure Numbered (s : Shared) (calls : Nat → Phase) (l : Ledger) : Prop where
  positive : 0 ≤ s.generator.crlNumber
  taken : ∀ e ∈ l.reserved, 0 < e.2 ∧ e.2 ≤ s.generator.crlNumber ∧ (calls e.1).pastReserve
  increasing : l.reserved.Pairwise fun a b => a.1 ≠ b.1 ∧ a.2 < b.2
  signing : ∀ t d number, calls t = .reserved d number → (t, number) ∈ l.reserved
  signed : ∀ e ∈ l.signed, (e.1, e.2.number) ∈ l.reserved ∧ (calls e.1).pastSign
  distinct : l.signed.Pairwise fun a b => a.2.number ≠ b.2.number

lemma numbered_start (a : Authority) (cache : Bool) (issuerKeyID : String) (numberSource : Bool) :
    Numbered (System.new a cache issuerKeyID numberSource).shared
      (fun _ => .idle) Ledger.start where
  positive := Int.le_refl 0
  taken := by intro e he; cases he
  increasing := .nil
  signing := by intro t d number h; cases h
  signed := by intro e he; cases he
  distinct := .nil

lemma Moved.pastReserve (h : Moved s p p' s') (hp : p.pastReserve) : p'.pastReserve := by
  cases h with
  | stay => exact hp
  | reserve | sign | stop | publish | setCache => trivial
  | enter | list | ask | answer => exact hp.elim

lemma Moved.pastSign (h : Moved s p p' s') (hp : p.pastSign) : p'.pastSign := by
  cases h with
  | stay => exact hp
  | stop | publish | setCache => trivial
  | enter | list | ask | answer | sign => exact hp.elim
  | reserve hask =>
    obtain ⟨asked, rfl | rfl⟩ := hask
    · exact hp.elim
    · exact hp.elim

section

variable {s s' : Shared} {calls : Nat → Phase} {l : Ledger} {t : Nat} {p : Phase}

lemma update_keeps {P : Phase → Prop} (h : P (calls t) → P p) {u : Nat} (hu : P (calls u)) :
    P (Function.update calls t p u) := by
  by_cases hut : u = t
  · subst hut
    rw [Function.update_self]
    exact h hu
  · rw [Function.update_of_ne hut]
    exact hu

lemma Numbered.same_call (h : Numbered s calls l) (ht : (t, n) ∈ l.reserved)
    (hu : (u, n) ∈ l.reserved) : t = u := by
  have hsymm : Std.Symm fun a b : Nat × Int => a.2 = b.2 → a.1 = b.1 :=
    ⟨fun _ _ hab hba => (hab hba.symm).symm⟩
  have hall : ∀ ⦃a⦄, a ∈ l.reserved → ∀ ⦃b⦄, b ∈ l.reserved → a.2 = b.2 → a.1 = b.1 := by
    apply List.Pairwise.forall_of_forall
    · intro a _ _
      rfl
    · apply h.increasing.imp
      intro a b hab heq
      exact absurd heq (Int.ne_of_lt hab.2)
  exact hall ht hu rfl

lemma Numbered.quiet (h : Numbered s calls l) (hmoved : Moved s (calls t) p s')
    (hreserved : ∀ d number, p = .reserved d number → calls t = p)
    (hnumber : s'.generator.crlNumber = s.generator.crlNumber) :
    Numbered s' (Function.update calls t p) l where
  positive := by rw [hnumber]; exact h.positive
  taken := by
    intro e he
    have hold := h.taken e he
    rw [hnumber]
    exact ⟨hold.1, hold.2.1, update_keeps hmoved.pastReserve hold.2.2⟩
  increasing := h.increasing
  signing := by
    intro u d number hu
    obtain ⟨rfl, hp⟩ | ⟨-, hu⟩ := update_eq hu
    · exact h.signing u d number ((hreserved d number hp).trans hp)
    · exact h.signing u d number hu
  signed := fun e he => ⟨(h.signed e he).1, update_keeps hmoved.pastSign (h.signed e he).2⟩
  distinct := h.distinct

lemma Numbered.reserve (h : Numbered s calls l) {d : Draft} {number : Int}
    (hphase : ¬ (calls t).pastReserve) (hlt : s.generator.crlNumber < number) :
    Numbered { s with generator := { s.generator with crlNumber := number } }
      (Function.update calls t (.reserved d number))
      { l with reserved := l.reserved ++ [(t, number)] } where
  positive := Int.le_trans h.positive (Int.le_of_lt hlt)
  taken := by
    intro e he
    rcases List.mem_append.mp he with he | he
    · obtain ⟨hpos, hle, hpast⟩ := h.taken e he
      exact ⟨hpos, Int.le_trans hle (Int.le_of_lt hlt), update_keeps (fun _ => trivial) hpast⟩
    · rw [List.mem_singleton.mp he, Function.update_self]
      exact ⟨Int.lt_of_le_of_lt h.positive hlt, Int.le_refl number, trivial⟩
  increasing := by
    refine List.pairwise_append.mpr ⟨h.increasing, List.pairwise_singleton _ _, ?_⟩
    intro a ha b hb
    rw [List.mem_singleton.mp hb]
    obtain ⟨_, hle, hpast⟩ := h.taken a ha
    refine ⟨?_, Int.lt_of_le_of_lt hle hlt⟩
    intro hat
    rw [hat] at hpast
    exact hphase hpast
  signing := by
    intro u e n hu
    obtain ⟨rfl, hp⟩ | ⟨-, hu⟩ := update_eq hu
    · cases hp
      exact List.mem_append_right _ (List.mem_singleton_self _)
    · exact List.mem_append_left _ (h.signing u e n hu)
  signed := by
    intro e he
    obtain ⟨hmem, hpast⟩ := h.signed e he
    refine ⟨List.mem_append_left _ hmem, update_keeps ?_ hpast⟩
    intro hsign
    cases hcall : calls t <;> rw [hcall] at hsign hphase <;> trivial
  distinct := h.distinct

lemma Numbered.sign (h : Numbered s calls l) (hphase : calls t = .reserved d crl.number)
    (hmoved : Moved s (calls t) (.signed crl) s) :
    Numbered s (Function.update calls t (.signed crl))
      { l with signed := l.signed ++ [(t, crl)] } := by
  have hquiet : Numbered s (Function.update calls t (.signed crl)) l := by
    apply h.quiet hmoved
    · intro e n hp; cases hp
    · rfl
  have hmem : (t, crl.number) ∈ l.reserved := h.signing t d crl.number hphase
  refine ⟨hquiet.positive, hquiet.taken, hquiet.increasing, hquiet.signing, ?_, ?_⟩
  · intro e he
    rcases List.mem_append.mp he with he | he
    · exact hquiet.signed e he
    · rw [List.mem_singleton.mp he, Function.update_self]
      exact ⟨hmem, trivial⟩
  · refine List.pairwise_append.mpr ⟨h.distinct, List.pairwise_singleton _ _, ?_⟩
    intro a ha b hb heq
    rw [List.mem_singleton.mp hb] at heq
    -- An equal number would be the same call, which has not signed yet.
    obtain ⟨hreserved, hpast⟩ := h.signed a ha
    rw [heq] at hreserved
    rw [h.same_call hreserved hmem, hphase] at hpast
    exact hpast

lemma Numbered.moved (h : Numbered s calls l) (hmoved : Moved s (calls t) p s') :
    Numbered s' (Function.update calls t p) (l.enter t (calls t) p) := by
  have hspec := hmoved
  generalize hcall : calls t = q at hmoved ⊢
  rw [hcall] at hspec
  cases hmoved with
  | stay =>
    rw [Ledger.enter_self, ← hcall, Function.update_eq_self]
    exact h
  | reserve hp hlt =>
    obtain ⟨asked, rfl | rfl⟩ := hp
    · exact h.reserve (by rw [hcall]; exact id) hlt
    · exact h.reserve (by rw [hcall]; exact id) hlt
  | sign d number => exact h.sign hcall (by rw [hcall]; exact hspec)
  | stop r =>
    rw [Ledger.enter_returned]
    exact h.quiet (by rw [hcall]; exact hspec) (by intro d n hp; cases hp) rfl
  | enter | list | ask | answer | publish | setCache =>
    exact h.quiet (by rw [hcall]; exact hspec) (by intro d n hp; cases hp) rfl

end

lemma Numbered.step (h : Numbered x.1.shared x.1.calls x.2) (c : Call) :
    let y := (watched Call.step keepLedger c x).2
    Numbered y.1.shared y.1.calls y.2 := by
  obtain ⟨⟨s, calls⟩, l⟩ := x
  cases c with
  | act t a =>
    have hafter : (Call.step (.act t a) ⟨s, calls⟩).2.calls t = (a.run s (calls t)).1 :=
      Function.update_self _ _ _
    have hmoved := h.moved (run_spec a s (calls t))
    simp only [watched, keepLedger, hafter]
    exact ⟨hmoved.positive, hmoved.taken, hmoved.increasing, hmoved.signing, hmoved.signed,
      hmoved.distinct⟩
  | get | revoke | setNumberSource =>
    exact ⟨h.positive, h.taken, h.increasing, h.signing, h.signed, h.distinct⟩
  | startAutoUpdate interval =>
    obtain ⟨validity, autoUpdate, hgen⟩ := startAutoUpdate_keeps interval s.generator
    simp only [watched, Call.step, hgen]
    exact ⟨h.positive, h.taken, h.increasing, h.signing, h.signed, h.distinct⟩

/-- Whatever numbers are asked for or given: the numbers taken strictly increase in the order of
the critical sections, each by a call of its own; a signed CRL has the positive number its call
has taken, and no other CRL has it. -/
theorem numbers_increase (a : Authority) (cache : Bool) (issuerKeyID : String) (numberSource : Bool)
    {log : List (Call × Unit)} {x : System × Ledger}
    (h : Run (watched Call.step keepLedger) (fun _ _ => True)
      (System.new a cache issuerKeyID numberSource, Ledger.start) log x) :
    (∀ e ∈ x.2.signed, 0 < e.2.number ∧ (e.1, e.2.number) ∈ x.2.reserved) ∧
    (x.2.signed.Pairwise fun a b => a.2.number ≠ b.2.number) ∧
    (x.2.reserved.Pairwise fun a b => a.1 ≠ b.1 ∧ a.2 < b.2) := by
  have hnumbered : Numbered x.1.shared x.1.calls x.2 :=
    h.stateInvariant (I := fun x => Numbered x.1.shared x.1.calls x.2)
      (numbered_start a cache issuerKeyID numberSource) fun _ c hx _ => hx.step c
  refine ⟨?_, hnumbered.distinct, hnumbered.increasing⟩
  intro e he
  have hmem := (hnumbered.signed e he).1
  exact ⟨(hnumbered.taken _ hmem).1, hmem⟩

/-- The third call asks for number nine and signs first. -/
def threeCalls : List Call :=
  [.act 1 (.generate 1 1), .act 1 (.fetch none 1), .act 2 (.generate 2 2), .act 2 (.fetch none 2),
    .act 3 (.generateWithOptions (some ⟨0, 0, [], 9⟩)), .act 3 (.fetch none 3), .act 2 .lock,
      .act 3 .lock, .act 1 .lock,
    .act 3 (.sign none), .act 2 (.sign none), .act 1 (.sign none)]

theorem numbers_increase_three :
    let x := (exec (watched Call.step keepLedger) threeCalls
      (System.new ⟨[], true, some true⟩ true "" false, Ledger.start)).2
    x.2.signed.map (fun e => e.2.number) = [9, 1, 10] ∧ x.2.reserved = [(2, 1), (3, 9), (1, 10)] ∧
      x.2.reserved.Pairwise fun a b => a.1 ≠ b.1 ∧ a.2 < b.2 := by
  refine ⟨by decide +kernel, by decide +kernel, ?_⟩
  exact (numbers_increase _ _ _ _ (exec_run (allAllowed_true threeCalls _))).2.2

/-- A CRL does not disappear, and its number does not fall. -/
def NoOlder (q r : Option CRL) : Prop := ∀ old ∈ q, ∃ new ∈ r, old.number ≤ new.number

instance NoOlder.decidable (q r : Option CRL) : Decidable (NoOlder q r) := by
  unfold NoOlder
  infer_instance

lemma NoOlder.refl (q : Option CRL) : NoOlder q q := fun old hold => ⟨old, hold, Int.le_refl _⟩

lemma NoOlder.trans (h : NoOlder q r) (h' : NoOlder r u) : NoOlder q u := by
  intro old hold
  obtain ⟨mid, hmid, hle⟩ := h old hold
  obtain ⟨new, hnew, hle'⟩ := h' mid hmid
  exact ⟨new, hnew, Int.le_trans hle hle'⟩

/-- The CRL stands in one of the two places where `Get` looks. -/
def Generator.Shows (g : Generator) (crl : CRL) : Prop :=
  g.lastCRL = some crl ∨ g.cache = some (some crl)

lemma Generator.shows_get {g : Generator} (h : g.get = some crl) : g.Shows crl := by
  unfold Generator.get at h
  rcases Option.or_eq_some_iff.mp h with hcache | ⟨_, hlast⟩
  · right
    cases hc : g.cache with
    | none => simp [hc] at hcache
    | some content => simpa [hc] using hcache
  · exact .inl hlast

lemma Ledger.store_none (l : Ledger) : l.store none = l := by simp [Ledger.store]

lemma stored_self (g : Generator) (p : Phase) : g.stored p p = none := by cases p <;> rfl

lemma stored_returned (g : Generator) {p : Phase} (hp : p.holds = none) (r : Except Err CRL) :
    g.stored p (.returned r) = none := by
  cases p <;> first | rfl | cases hp

def Generator.Pending (g : Generator) (crl : CRL) : Phase → Prop
  | .signed c => c = crl
  | .stored c => c = crl ∧ g.cache ≠ none
  | _ => False

structure Published (s : Shared) (calls : Nat → Phase) (l : Ledger) : Prop where
  gets : l.gets.Pairwise NoOlder
  seen : ∀ q ∈ l.gets, NoOlder q s.generator.get
  shown : ∀ crl, s.generator.Shows crl → crl ∈ l.signed.map Prod.snd ∧ crl.number ∈ l.stores
  held : ∀ t crl, (calls t).holds = some crl → crl ∈ l.signed.map Prod.snd
  signed : ∀ crl ∈ l.signed.map Prod.snd,
    NoOlder (some crl) s.generator.get ∨ ∃ t, s.generator.Pending crl (calls t)

lemma published_start (a : Authority) (cache : Bool) (issuerKeyID : String) (numberSource : Bool) :
    Published (System.new a cache issuerKeyID numberSource).shared
      (fun _ => .idle) Ledger.start where
  gets := .nil
  seen := by intro q hq; cases hq
  shown := by
    intro crl h
    rcases h with h | h
    · cases h
    · cases cache <;> cases h
  held := by intro t crl h; cases h
  signed := by intro crl h; cases h

section

variable {s s' : Shared} {calls : Nat → Phase} {l : Ledger} {t : Nat} {p : Phase}

/-- What is stored in order is no older than what `Get` yields. -/
lemma Published.noOlder (h : Published s calls l)
    (hordered : (l.store (some crl)).stores.Pairwise (· ≤ ·)) :
    NoOlder s.generator.get (some crl) := by
  intro old hold
  have hmem := (h.shown old (Generator.shows_get hold)).2
  exact ⟨crl, rfl, (List.pairwise_append.mp hordered).2.2 _ hmem _ List.mem_cons_self⟩

/-- What the call had at hand is still pending, or `Get` yields nothing older. -/
lemma Published.advance (h : Published s calls l) (stored : Option CRL)
    (hget : NoOlder s.generator.get s'.generator.get)
    (hcache : s.generator.cache ≠ none → s'.generator.cache ≠ none)
    (hshown : ∀ crl, s'.generator.Shows crl →
      s.generator.Shows crl ∨ (calls t).holds = some crl ∧ stored = some crl)
    (hholds : ∀ crl, p.holds = some crl → (calls t).holds = some crl)
    (hpending : ∀ crl, s.generator.Pending crl (calls t) →
      NoOlder (some crl) s'.generator.get ∨ s'.generator.Pending crl p) :
    Published s' (Function.update calls t p) (l.store stored) where
  gets := h.gets
  seen := fun q hq => (h.seen q hq).trans hget
  shown := by
    intro crl hcrl
    rcases hshown crl hcrl with hold | ⟨hheld, rfl⟩
    · exact ⟨(h.shown crl hold).1, List.mem_append_left _ (h.shown crl hold).2⟩
    · exact ⟨h.held t crl hheld, List.mem_append_right _ List.mem_cons_self⟩
  held := by
    intro u crl hu
    obtain ⟨rfl, hp⟩ | ⟨-, hu⟩ := update_under Phase.holds hu
    · exact h.held u crl (hholds crl hp)
    · exact h.held u crl hu
  signed := by
    intro crl hcrl
    rcases h.signed crl hcrl with hold | ⟨u, hu⟩
    · exact .inl (hold.trans hget)
    · by_cases hut : u = t
      · subst hut
        rcases hpending crl hu with hdone | hp
        · exact .inl hdone
        · exact .inr ⟨u, by rwa [Function.update_self]⟩
      · refine .inr ⟨u, ?_⟩
        rw [Function.update_of_ne hut]
        cases hcall : calls u <;> rw [hcall] at hu <;>
          simp_all [Generator.Pending]

lemma Published.quiet (h : Published s calls l) (hlast : s'.generator.lastCRL = s.generator.lastCRL)
    (hcache : s'.generator.cache = s.generator.cache) (hbefore : (calls t).holds = none)
    (hafter : p.holds = none) :
    Published s' (Function.update calls t p) l := by
  have hget : s'.generator.get = s.generator.get := by
    rw [Generator.get, hlast, hcache, Generator.get]
  rw [← l.store_none]
  apply h.advance none
  · rw [hget]
    exact NoOlder.refl _
  · rw [hcache]
    exact id
  · intro crl hcrl
    rw [Generator.Shows, hlast, hcache] at hcrl
    exact .inl hcrl
  · intro crl hcrl
    rw [hafter] at hcrl
    cases hcrl
  · intro crl hp
    cases hcall : calls t <;> rw [hcall] at hbefore hp <;> first | exact hp.elim | cases hbefore

lemma Published.sign (h : Published s calls l) (hphase : (calls t).holds = none) :
    Published s (Function.update calls t (.signed crl))
      { l with signed := l.signed ++ [(t, crl)] } := by
  have hmem : crl ∈ (l.signed ++ [(t, crl)]).map Prod.snd := by simp
  have hgrow : ∀ c ∈ l.signed.map Prod.snd, c ∈ (l.signed ++ [(t, crl)]).map Prod.snd := by
    intro c hc
    rw [List.map_append]
    exact List.mem_append_left _ hc
  refine ⟨h.gets, h.seen, fun c hc => ⟨hgrow c (h.shown c hc).1, (h.shown c hc).2⟩, ?_, ?_⟩
  · intro u c hu
    obtain ⟨rfl, hp⟩ | ⟨-, hu⟩ := update_under Phase.holds hu
    · cases hp
      exact hmem
    · exact hgrow c (h.held u c hu)
  · intro c hc
    rw [List.map_append, List.mem_append] at hc
    rcases hc with hc | hc
    · rcases h.signed c hc with hold | ⟨u, hu⟩
      · exact .inl hold
      · refine .inr ⟨u, ?_⟩
        have hut : u ≠ t := by
          rintro rfl
          cases hcall : calls u <;> rw [hcall] at hu hphase <;> first | exact hu.elim | cases hphase
        rw [Function.update_of_ne hut]
        exact hu
    · rw [List.map_singleton, List.mem_singleton] at hc
      subst hc
      exact .inr ⟨t, by rw [Function.update_self]; rfl⟩

lemma Published.publish (h : Published s calls l) (hphase : calls t = .signed crl)
    (hordered : (l.store (some crl)).stores.Pairwise (· ≤ ·))
    (hg : g = { s.generator with lastCRL := some crl }) :
    Published { s with generator := g } (Function.update calls t (.stored crl))
      (l.store (some crl)) := by
  subst hg
  have hnew := h.noOlder hordered
  apply h.advance (some crl)
  · -- the cache counts first
    unfold Generator.get at hnew ⊢
    cases hcache : s.generator.cache.getD none with
    | none => simpa [hcache] using hnew
    | some content => exact NoOlder.refl _
  · exact id
  · intro c hc
    rw [hphase]
    rcases hc with hc | hc
    · exact .inr ⟨hc, hc⟩
    · exact .inl (.inr hc)
  · intro c hc
    rw [hphase]
    exact hc
  · intro c hc
    rw [hphase] at hc
    cases hc
    cases hcache : s.generator.cache with
    | none =>
      left
      simp only [Generator.get, hcache]
      exact NoOlder.refl _
    | some content => exact .inr ⟨rfl, by simp [hcache]⟩

lemma Published.setCache (h : Published s calls l) (hphase : calls t = .stored crl)
    (hordered : (l.store (s.generator.cache.map fun _ => crl)).stores.Pairwise (· ≤ ·))
    (hg : g = { s.generator with cache := s.generator.cache.map fun _ => some crl }) :
    Published { s with generator := g } (Function.update calls t (.returned (.ok crl)))
      (l.store (s.generator.cache.map fun _ => crl)) := by
  subst hg
  apply h.advance (s.generator.cache.map fun _ => crl)
  · cases hcache : s.generator.cache with
    | none =>
      simp only [Generator.get, hcache]
      exact NoOlder.refl _
    | some content =>
      rw [hcache] at hordered
      exact h.noOlder hordered
  · intro hcache
    simpa using hcache
  · intro c hc
    rw [hphase]
    rcases hc with hc | hc
    · exact .inl (.inl hc)
    · cases hcache : s.generator.cache with
      | none => simp [hcache] at hc
      | some content =>
        right
        simpa [hcache, Phase.holds] using hc
  · intro c hc
    cases hc
  · intro c hc
    rw [hphase] at hc
    obtain ⟨rfl, hcache⟩ := hc
    left
    obtain ⟨content, hcontent⟩ := Option.ne_none_iff_exists'.mp hcache
    simp only [Generator.get, hcontent]
    exact NoOlder.refl _

lemma Published.moved (h : Published s calls l) (hmoved : Moved s (calls t) p s')
    (hordered : ((l.enter t (calls t) p).store (s.generator.stored (calls t) p)).stores.Pairwise
      (· ≤ ·))
    : Published s' (Function.update calls t p)
      ((l.enter t (calls t) p).store (s.generator.stored (calls t) p)) := by
  generalize hcall : calls t = q at hmoved hordered ⊢
  have hholds : ∀ r, q.holds = r → (calls t).holds = r := fun r hr => by rw [hcall]; exact hr
  cases hmoved with
  | stay =>
    rw [stored_self, Ledger.store_none, Ledger.enter_self, ← hcall, Function.update_eq_self]
    exact h
  | @reserve _ d number hp hlt =>
    have hl : Published s calls (l.enter t q (.reserved d number)) := by
      obtain ⟨asked, rfl | rfl⟩ := hp <;> exact ⟨h.gets, h.seen, h.shown, h.held, h.signed⟩
    have hnone : s.generator.stored q (.reserved d number) = none ∧ q.holds = none := by
      obtain ⟨asked, rfl | rfl⟩ := hp <;> exact ⟨rfl, rfl⟩
    rw [hnone.1, Ledger.store_none]
    exact hl.quiet rfl rfl (hholds none hnone.2) rfl
  | sign d number =>
    rw [show s.generator.stored (.reserved d number) _ = none from rfl, Ledger.store_none]
    exact h.sign (hholds none rfl)
  | stop _ _ hp =>
    rw [stored_returned _ hp, Ledger.store_none, Ledger.enter_returned]
    exact h.quiet rfl rfl (hholds none hp) rfl
  | publish crl => exact h.publish hcall hordered rfl
  | setCache crl => exact h.setCache hcall hordered rfl
  | enter | list | ask | answer =>
    rw [show s.generator.stored _ _ = none from rfl, Ledger.store_none]
    exact h.quiet rfl rfl (hholds none rfl) rfl

lemma Published.shared (h : Published s calls l)
    (hlast : s'.generator.lastCRL = s.generator.lastCRL)
    (hcache : s'.generator.cache = s.generator.cache) : Published s' calls l := by
  have hget : s'.generator.get = s.generator.get := by
    rw [Generator.get, hlast, hcache, Generator.get]
  have hpending : ∀ crl, s'.generator.Pending crl = s.generator.Pending crl := by
    intro crl
    funext q
    cases q <;> simp [Generator.Pending, hcache]
  refine ⟨h.gets, ?_, ?_, h.held, ?_⟩
  · rw [hget]
    exact h.seen
  · unfold Generator.Shows
    rw [hlast, hcache]
    exact h.shown
  · simp only [hget, hpending]
    exact h.signed

end

lemma Published.step (h : Published x.1.shared x.1.calls x.2)
    (hordered : (watched Call.step keepLedger c x).2.2.stores.Pairwise (· ≤ ·)) :
    let y := (watched Call.step keepLedger c x).2
    Published y.1.shared y.1.calls y.2 := by
  obtain ⟨⟨s, calls⟩, l⟩ := x
  cases c with
  | act t a =>
    have hafter : (Call.step (.act t a) ⟨s, calls⟩).2.calls t = (a.run s (calls t)).1 :=
      Function.update_self _ _ _
    simp only [watched, keepLedger, hafter] at hordered ⊢
    exact h.moved (run_spec a s (calls t)) hordered
  | get =>
    refine ⟨?_, ?_, h.shown, h.held, h.signed⟩
    · refine List.pairwise_append.mpr ⟨h.gets, List.pairwise_singleton _ _, ?_⟩
      intro q hq r hr
      rw [List.mem_singleton.mp hr]
      exact h.seen q hq
    · intro q hq
      rcases List.mem_append.mp hq with hq | hq
      · exact h.seen q hq
      · rw [List.mem_singleton.mp hq]
        exact NoOlder.refl _
  | revoke | setNumberSource => exact h.shared rfl rfl
  | startAutoUpdate interval =>
    obtain ⟨validity, autoUpdate, hgen⟩ := startAutoUpdate_keeps interval s.generator
    simp only [watched, Call.step, hgen]
    exact h.shared rfl rfl

lemma stores_grow (c : Call) (x : System × Ledger) :
    x.2.stores <+: (watched Call.step keepLedger c x).2.2.stores := by
  cases c with
  | act t a =>
    have henter : ∀ p p', (x.2.enter t p p').stores = x.2.stores := by
      intro p p'
      cases p <;> cases p' <;> rfl
    simp only [watched, keepLedger, Ledger.store, henter]
    exact List.prefix_append _ _
  | get | revoke | setNumberSource | startAutoUpdate => exact List.prefix_refl _

/-- Whenever the stores, to `lastCRL` and to the cache, were made in the order of the numbers, the
answers of `Get` have never gone backwards, and when all calls have returned it yields the newest
CRL that was signed. -/
theorem published_newest (a : Authority) (cache : Bool) (issuerKeyID : String) (numberSource : Bool)
    {log : List (Call × Unit)} {x : System × Ledger}
    (h : Run (watched Call.step keepLedger) (fun _ _ => True)
      (System.new a cache issuerKeyID numberSource, Ledger.start) log x)
    (hordered : x.2.stores.Pairwise (· ≤ ·)) :
    x.2.gets.Pairwise NoOlder ∧
    ((∀ t, x.1.calls t = .idle ∨ ∃ r, x.1.calls t = .returned r) → x.2.signed ≠ [] →
      ∃ newest ∈ x.2.signed.map Prod.snd, x.1.shared.generator.get = some newest ∧
        ∀ e ∈ x.2.signed, e.2.number ≤ newest.number) := by
  have hpublished : Published x.1.shared x.1.calls x.2 := by
    refine h.stateInvariant
      (I := fun x => x.2.stores.Pairwise (· ≤ ·) → Published x.1.shared x.1.calls x.2)
      (fun _ => published_start a cache issuerKeyID numberSource) ?_ hordered
    intro x c hx _ hafter
    exact (hx (hafter.sublist (stores_grow c x).sublist)).step hafter
  refine ⟨hpublished.gets, ?_⟩
  intro hdone hne
  have hnone : ∀ crl t, ¬ x.1.shared.generator.Pending crl (x.1.calls t) := by
    intro crl t hp
    rcases hdone t with hidle | ⟨r, hreturned⟩
    · rw [hidle] at hp
      exact hp
    · rw [hreturned] at hp
      exact hp
  have hbelow : ∀ e ∈ x.2.signed, NoOlder (some e.2) x.1.shared.generator.get := by
    intro e he
    rcases hpublished.signed e.2 (List.mem_map_of_mem he) with hle | ⟨t, hp⟩
    · exact hle
    · exact absurd hp (hnone e.2 t)
  obtain ⟨first, hfirst⟩ := List.exists_mem_of_ne_nil _ hne
  obtain ⟨newest, hnewest, _⟩ := hbelow first hfirst first.2 rfl
  refine ⟨newest, (hpublished.shown newest (Generator.shows_get hnewest)).1, hnewest, ?_⟩
  intro e he
  obtain ⟨new, hnew, hle⟩ := hbelow e he e.2 rfl
  rw [hnewest] at hnew
  cases hnew
  exact hle

def untilNumber (t : Nat) : List Call :=
  [.act t (.generate 1 1), .act t (.fetch none 1), .act t .lock]

def publishAll (t : Nat) : List Call := [.act t (.sign none), .act t .publish, .act t .setCache]

def orderly : List Call :=
  untilNumber 1 ++ untilNumber 2 ++ publishAll 1 ++ [.get] ++ publishAll 2 ++ [.get]

theorem published_newest_orderly :
    let x := (exec (watched Call.step keepLedger) orderly
      (System.new ⟨[], true, some true⟩ true "" false, Ledger.start)).2
    x.2.gets = [some ⟨1, [], 1, 1 + day⟩, some ⟨2, [], 1, 1 + day⟩] ∧ x.2.stores = [1, 1, 2, 2] ∧
      x.2.gets.Pairwise NoOlder :=
  ⟨by decide +kernel, by decide +kernel,
    (published_newest _ _ _ _ (exec_run (allAllowed_true orderly _)) (by decide +kernel)).1⟩

/-- The second call publishes the larger number before the first has signed. -/
def slowSigner : List Call :=
  untilNumber 1 ++ untilNumber 2 ++ publishAll 2 ++ [.get] ++ publishAll 1 ++ [.get]

def OlderAfterNewer (cache : Bool) : Prop :=
  let x := (exec (watched Call.step keepLedger) slowSigner
    (System.new ⟨[], true, some true⟩ cache "" false, Ledger.start)).2
  x.2.gets = [some ⟨2, [], 1, 1 + day⟩, some ⟨1, [], 1, 1 + day⟩] ∧ ¬ x.2.gets.Pairwise NoOlder ∧
    x.1.shared.generator.get = some ⟨1, [], 1, 1 + day⟩ ∧ (2, ⟨2, [], 1, 1 + day⟩) ∈ x.2.signed ∧
    x.1.calls 1 = .returned (.ok ⟨1, [], 1, 1 + day⟩) ∧
      x.1.calls 2 = .returned (.ok ⟨2, [], 1, 1 + day⟩)

lemma olderAfterNewer (cache : Bool) : OlderAfterNewer cache := by
  unfold OlderAfterNewer
  intro x
  have hgets : x.2.gets = [some ⟨2, [], 1, 1 + day⟩, some ⟨1, [], 1, 1 + day⟩] := by
    cases cache <;> decide +kernel
  refine ⟨hgets, ?_, ?_, ?_, ?_, ?_⟩
  · rw [hgets]
    decide +kernel
  · cases cache <;> decide +kernel
  · cases cache <;> decide +kernel
  · cases cache <;> rfl
  · cases cache <;> rfl

/-- With a cache and without one. -/
theorem published_older : OlderAfterNewer true ∧ OlderAfterNewer false :=
  ⟨olderAfterNewer true, olderAfterNewer false⟩

end Pollux.Crl
