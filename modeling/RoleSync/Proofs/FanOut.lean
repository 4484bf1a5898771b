import RoleSync.Manager.FanOut
/-!
What concurrent branches keep. The scheduler touches the shared state only when a branch starts
or finishes, and records an outcome only when a branch ends (`close`). So a property of the
shared state, of the result each pausing branch will finish with, and of each outcome holds of
the whole run once starting and finishing keep it and a timed-out branch's outcome has it: these
are the fields of `Schedule.Laws`, and the property is `Schedule.Keeps`.

The clock never runs back: every timer is due at or after the current instant, and firing moves
the clock to the earliest one. A property may therefore speak of the instant the run started.

The rule branches of a resolution touch the cache only through a branch's read (`readCache`) and
its write-back (`writeBack`); `FanOut.Laws` says what those keep, and gives the scheduler's laws
for the rule branches (`FanOut.Laws.kind`).

Main statements: `Schedule.run_keeps`, and `FanOut.run_keeps` for a resolution's rules.
-/

namespace RoleSync

set_option autoImplicit false

/-- A launch is acceptable when its outcome is, or, when the branch pauses, the result it will
finish with. -/
def Launch.Acceptable {ρ α : Type} (O : α → Prop) (P : ρ → Prop) : Launch ρ α → Prop
  | .done o => O o
  | .pausing _ r => P r

namespace Schedule

variable {β σ ρ α : Type} (K : BranchKind β σ ρ α) (bs : List β) (t₀ : Nat) (S : σ → Prop)
  (R : Nat → ρ → Prop) (O : α → Prop)

/-- What each act of a branch keeps, from the instant `t₀` on: starting keeps the property of the
shared state and gives an acceptable outcome or a result the branch may hold; finishing with such
a result keeps the property and gives an acceptable outcome; and the outcome of a branch that
passes its deadline is acceptable. -/
structure Laws : Prop where
  start : ∀ {i : Nat} {b : β} {sh : σ} (now : Nat), bs[i]? = some b → t₀ ≤ now → S sh →
    S (K.start b now sh).2 ∧ (K.start b now sh).1.Acceptable O (R i)
  finish : ∀ {i : Nat} {b : β} {r : ρ} {sh : σ} (now : Nat), bs[i]? = some b → R i r → S sh →
    S (K.finish b now r sh).2 ∧ O (K.finish b now r sh).1
  late : ∀ {i : Nat} {b : β} {d : Nat} {late : β → α}, bs[i]? = some b →
    K.deadline = some (d, late) → O (late b)

/-- The invariant of branches in progress. -/
structure Keeps (s : Schedule σ ρ α) : Prop where
  clock : t₀ ≤ s.now
  timers : ∀ t ∈ s.timers, s.now ≤ t.due
  shared : S s.shared
  pending : ∀ i due rest deadline r, s.phases[i]? = some (.pausing due rest deadline r) →
    R i r ∧ ∀ at_ o, deadline = some (at_, o) → O o
  outcomes : ∀ o ∈ s.outcomes, O o

variable {K bs t₀ S R O}

/-! ## One act of the scheduler -/

namespace Keeps

variable {s : Schedule σ ρ α}

theorem setTimer (h : s.Keeps t₀ S R O) {due : Nat} (hd : s.now ≤ due) (b : Nat) :
    (s.setTimer due b).Keeps t₀ S R O where
  clock := h.clock
  timers t ht := by
    simp only [Schedule.setTimer, List.mem_append, List.mem_singleton] at ht
    rcases ht with ht | rfl
    · exact h.timers t ht
    · exact hd
  shared := h.shared
  pending := h.pending
  outcomes := h.outcomes

/-- Setting a phase keeps the invariant when a pausing phase holds a result the branch may hold
and an acceptable outcome for its deadline. -/
theorem setPhase (h : s.Keeps t₀ S R O) {j : Nat} {p : BranchPhase ρ α}
    (hp : ∀ due rest deadline r, p = .pausing due rest deadline r →
      R j r ∧ ∀ at_ o, deadline = some (at_, o) → O o) :
    (s.setPhase j p).Keeps t₀ S R O where
  clock := h.clock
  timers := h.timers
  shared := h.shared
  pending i due rest deadline r hi := by
    simp only [Schedule.setPhase] at hi
    by_cases hij : j = i
    · subst hij
      rw [List.getElem?_set_self'] at hi
      obtain ⟨_, -, hp'⟩ := Option.map_eq_some_iff.mp hi
      exact hp due rest deadline r hp'
    · rw [List.getElem?_set_ne hij] at hi
      exact h.pending i due rest deadline r hi
  outcomes := h.outcomes

/-- Ending a branch with an acceptable outcome keeps the invariant. -/
theorem close (h : s.Keeps t₀ S R O) {i : Nat} {o : α} (ho : O o) :
    (s.close i o).Keeps t₀ S R O := by
  have h1 : ({ s.setPhase i .finished with
      outcomes := s.outcomes ++ [o]
      timers := s.timers.filter (·.branch ≠ i) } : Schedule σ ρ α).Keeps t₀ S R O := by
    have hf := h.setPhase (j := i) (p := .finished) (by rintro _ _ _ _ ⟨⟩)
    exact {
      clock := hf.clock
      timers := fun t ht => hf.timers t (List.mem_filter.mp ht).1
      shared := hf.shared
      pending := hf.pending
      outcomes := fun o' ho' => by
        rcases List.mem_append.mp ho' with ho' | ho'
        · exact h.outcomes o' ho'
        · rw [List.mem_singleton.mp ho']
          exact ho }
  rw [Schedule.close]
  dsimp only
  split
  · rename_i w _ _
    have ha := h1.setPhase (j := w) (p := .admitted) (by rintro _ _ _ _ ⟨⟩)
    exact ⟨ha.clock, ha.timers, ha.shared, ha.pending, ha.outcomes⟩
  · exact ⟨h1.clock, h1.timers, h1.shared, h1.pending, h1.outcomes⟩

/-- Changing the shared state keeps the invariant when the new state has the property. -/
theorem withShared (h : s.Keeps t₀ S R O) (shared : σ) (hS : S shared) :
    ({ s with shared := shared } : Schedule σ ρ α).Keeps t₀ S R O :=
  ⟨h.clock, h.timers, hS, h.pending, h.outcomes⟩

/-- Finishing a branch with a result it may hold keeps the invariant. -/
theorem finish (L : Laws K bs t₀ S R O) (h : s.Keeps t₀ S R O) {i : Nat} {r : ρ}
    (hr : R i r) : (Schedule.finish K bs s i r).Keeps t₀ S R O := by
  unfold Schedule.finish
  split
  · exact h
  · rename_i b hi
    obtain ⟨hS, hO⟩ := L.finish s.now hi hr h.shared
    exact (h.withShared _ hS).close hO

/-- Starting a branch keeps the invariant: it ends at once with an acceptable outcome, or pauses
with a result it may hold, timers set after the current instant, and an acceptable outcome for
its deadline. -/
theorem start (L : Laws K bs t₀ S R O) (h : s.Keeps t₀ S R O) (i : Nat) :
    (Schedule.start K bs s i).Keeps t₀ S R O := by
  unfold Schedule.start
  split
  · exact h
  · rename_i b hi
    obtain ⟨hS, hl⟩ := L.start s.now hi h.clock h.shared
    generalize K.start b s.now s.shared = st at hS hl
    obtain ⟨launch, sh⟩ := st
    have hs := h.withShared sh hS
    dsimp only
    split
    · exact hs.close hl
    · exact hs.finish L hl
    · rename_i hd
      exact hs.close (L.late hi hd)
    · rename_i hd
      refine ((hs.setTimer (Nat.le_add_right _ _) i).setTimer (Nat.le_add_right _ _) i).setPhase ?_
      rintro _ _ _ r ⟨⟩
      exact ⟨hl, fun _ _ hdl => by cases hdl; exact L.late hi hd⟩
    · refine (hs.setTimer (Nat.le_add_right _ _) i).setPhase ?_
      rintro _ _ _ r ⟨⟩
      exact ⟨hl, fun _ _ hdl => by cases hdl⟩

/-- Running a woken branch keeps the invariant. -/
theorem poll (L : Laws K bs t₀ S R O) (h : s.Keeps t₀ S R O) (i : Nat) :
    (Schedule.poll K bs s i).Keeps t₀ S R O := by
  unfold Schedule.poll
  split
  · split
    · exact (⟨h.clock, h.timers, h.shared, h.pending, h.outcomes⟩ :
        ({ s with permits := s.permits - 1 } : Schedule σ ρ α).Keeps t₀ S R O).start L i
    · have hq := h.setPhase (j := i) (p := .queued) (by rintro _ _ _ _ ⟨⟩)
      exact ⟨hq.clock, hq.timers, hq.shared, hq.pending, hq.outcomes⟩
  · exact h.start L i
  · rename_i due rest deadline result hi
    obtain ⟨hR, hlate⟩ := h.pending i due rest deadline result hi
    have hpause : ∀ k more, ((s.setTimer (s.now + k) i).setPhase i
        (.pausing (s.now + k) more deadline result)).Keeps t₀ S R O := fun _ _ =>
      (h.setTimer (Nat.le_add_right _ _) i).setPhase (by rintro _ _ _ r ⟨⟩; exact ⟨hR, hlate⟩)
    -- the branch finishes, times out with the outcome its phase holds, pauses again, or waits on
    rcases deadline with _ | ⟨at_, o⟩
    · rcases rest with _ | ⟨k, more⟩ <;> dsimp only <;> split
      · exact h.finish L hR
      · exact h
      · exact hpause k more
      · exact h
    · have ho := hlate at_ o rfl
      by_cases hat : at_ ≤ s.now <;> rcases rest with _ | ⟨k, more⟩ <;>
        simp only [hat, ↓reduceIte] <;> split
      · exact h.finish L hR
      · exact h.close ho
      · exact h.close ho
      · exact h.close ho
      · exact h.finish L hR
      · exact h
      · exact hpause k more
      · exact h
  · exact h

/-- Firing the earliest timers moves the clock forward to their instant. -/
theorem fire (h : s.Keeps t₀ S R O) : s.fire.Keeps t₀ S R O := by
  unfold Schedule.fire
  split
  · exact h
  · rename_i due hmin
    obtain ⟨t, ht, rfl⟩ := List.mem_map.mp (List.min?_mem hmin)
    have hnow : s.now ≤ t.due := h.timers t ht
    rw [List.partition_eq_filter_filter]
    refine ⟨Nat.le_trans h.clock hnow, fun t' ht' => ?_, h.shared, h.pending, h.outcomes⟩
    simp only [List.mem_filter, Function.comp_apply, Bool.not_eq_eq_eq_not, Bool.not_true,
      decide_eq_false_iff_not, Nat.not_le] at ht'
    exact Nat.le_of_lt ht'.2

end Keeps

/-! ## A whole run -/

theorem runFor_keeps (L : Laws K bs t₀ S R O) (fuel : Nat) {s : Schedule σ ρ α}
    (h : s.Keeps t₀ S R O) : (runFor K bs fuel s).Keeps t₀ S R O := by
  induction fuel generalizing s with
  | zero => exact h
  | succ fuel ih =>
    unfold Schedule.runFor
    split
    · rename_i i rest _
      exact ih ((⟨h.clock, h.timers, h.shared, h.pending, h.outcomes⟩ :
        ({ s with ready := rest } : Schedule σ ρ α).Keeps t₀ S R O).poll L i)
    · split
      · exact h
      · exact ih h.fire

/-- A run from a shared state with the property keeps it, and records only acceptable
outcomes. -/
theorem run_keeps (L : Laws K bs t₀ S R O) (permits : Nat) {shared : σ} (hS : S shared) :
    (run K bs permits t₀ shared).Keeps t₀ S R O := by
  apply runFor_keeps L
  refine ⟨Nat.le_refl _, (fun _ ht => nomatch ht), hS, ?_, (fun _ ho => nomatch ho)⟩
  intro i due rest deadline r hi
  simp only [initial, List.getElem?_map, Option.map_eq_some_iff] at hi
  obtain ⟨_, _, hp⟩ := hi
  cases hp

end Schedule

/-! ## The rule branches of a resolution -/

namespace FanOut

variable (f : FanOut) (rules : List Rule) (t₀ : Nat) (C : RuleCache → Prop)
  (R : Nat → RuleResult → Prop) (O : BranchOutcome → Prop)

/-- What each act of a rule branch keeps, from the instant `t₀` on: a cache read keeps the
property of the cache and finds only acceptable outcomes; every evaluation gives a result the
branch may hold; a failure is an acceptable outcome, and so is a success the branch may hold;
and writing such a success back keeps the property of the cache. -/
structure Laws : Prop where
  read : ∀ {i : Nat} {rule : Rule} {c : RuleCache} (now : Nat), rules[i]? = some rule →
    t₀ ≤ now → C c → C (c.tryGet now rule f.user).2 ∧
      ∀ roles, (c.tryGet now rule f.user).1 = .ok (.hit roles) → O ⟨rule.name, roles, none⟩
  evaluate : ∀ {i : Nat} {rule : Rule} (n : Nat), rules[i]? = some rule →
    R i (rule.evaluate f.ctx f.identity n).result
  failed : ∀ {i : Nat} {rule : Rule} (e : RuleError), rules[i]? = some rule →
    O ⟨rule.name, ∅, some e⟩
  succeeded : ∀ {i : Nat} {rule : Rule} {roles : NameSet}, rules[i]? = some rule →
    R i (.success roles) → O ⟨rule.name, roles, none⟩
  write : ∀ {i : Nat} {rule : Rule} {roles : NameSet} {c : RuleCache} (now : Nat),
    rules[i]? = some rule → R i (.success roles) → C c →
    (rule.isStrong && f.identity.isNone) = false → C (c.put now rule f.user roles).2

variable {f rules t₀ C R O}

theorem Laws.readCache (L : Laws f rules t₀ C R O) {i : Nat} {rule : Rule} (now : Nat)
    (shared : FanOutShared) (hi : rules[i]? = some rule) (hn : t₀ ≤ now) (hc : C shared.cache) :
    C (f.readCache rule now shared).2.cache ∧
      ∀ roles, (f.readCache rule now shared).1 = some roles → O ⟨rule.name, roles, none⟩ := by
  obtain ⟨hkeep, hhit⟩ := L.read (c := shared.cache) now hi hn hc
  unfold FanOut.readCache
  split
  · split <;> rename_i heq <;> rw [heq] at hkeep hhit
    · exact ⟨hkeep, fun roles h => by cases h; exact hhit _ rfl⟩
    · exact ⟨hkeep, fun _ h => by cases h⟩
    · exact ⟨hkeep, fun _ h => by cases h⟩
  · exact ⟨hc, fun _ h => by cases h⟩

theorem Laws.writeBack (L : Laws f rules t₀ C R O) {i : Nat} {rule : Rule} {now : Nat}
    {roles : NameSet} {shared : FanOutShared} (hi : rules[i]? = some rule)
    (hr : R i (.success roles)) (hc : C shared.cache) :
    C (f.writeBack rule now roles shared).cache := by
  unfold FanOut.writeBack
  split
  · rename_i hw
    have hd : (rule.isStrong && f.identity.isNone) = false := by
      simp only [Bool.and_eq_true, Bool.not_eq_true'] at hw
      exact hw.1.2
    have hkeep := L.write now hi hr hc hd
    split <;> rename_i heq <;> rw [heq] at hkeep <;> exact hkeep
  · exact hc

/-- The laws of the rule branches, for the scheduler. -/
theorem Laws.kind (L : Laws f rules t₀ C R O) :
    Schedule.Laws f.kind rules t₀ (fun sh => C sh.cache) R O where
  start {i rule sh} now hi hn hc := by
    obtain ⟨hc', hhit⟩ := L.readCache now sh hi hn hc
    show C (f.startBranch rule now sh).2.cache ∧
      (f.startBranch rule now sh).1.Acceptable O (R i)
    unfold startBranch
    generalize f.readCache rule now sh = rd at hc' hhit
    obtain ⟨_ | roles, sh'⟩ := rd
    · exact ⟨hc', L.evaluate _ hi⟩
    · exact ⟨hc', hhit roles rfl⟩
  finish {i rule r sh} now hi hr hc := by
    show C (f.finishBranch rule now r sh).2.cache ∧ O (f.finishBranch rule now r sh).1
    cases r with
    | failure e => exact ⟨hc, L.failed e hi⟩
    | success roles => exact ⟨L.writeBack hi hr hc, L.succeeded hi hr⟩
  late {i rule d late} hi hd := by
    obtain ⟨-, rfl⟩ := (f.kind_deadline_eq_some).mp hd
    exact L.failed _ hi

/-- A resolution's fan-out from a cache with the property keeps it, holds only results with the
property, and records only outcomes with the property. -/
theorem run_keeps (L : Laws f rules t₀ C R O) {shared : FanOutShared} (hc : C shared.cache) :
    (f.run rules t₀ shared).Keeps t₀ (fun sh => C sh.cache) R O :=
  Schedule.run_keeps L.kind f.permits hc

end FanOut

end RoleSync
