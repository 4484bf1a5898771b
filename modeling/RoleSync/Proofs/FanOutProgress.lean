import RoleSync.Proofs.FanOut
/-!
Every branch finishes, whatever its kind. The scheduler runs for `stepBound` steps, a number
fixed before it starts from the branches' pause bounds; this module shows that the branches are
all done by then, and that at no step do more branches hold a permit than there are permits.

Two facts carry the proof. A weight (`Schedule.weight`) counts what is left to do: each ready
entry, twice each timer, and for each branch what its phase may still cost. Every step lowers it,
so after as many steps as it starts at, nothing is ready and no timer is set. The bookkeeping of
the scheduler (`Schedule.Progress`) then leaves no branch stuck: a branch that may start is
ready, a pausing branch has its timer or was woken, a waiting branch is waiting for a permit that
a running branch holds, and permits are conserved.

Main statements: `Schedule.run_finishes`, `Schedule.held_le_permits`.
-/

namespace RoleSync

set_option autoImplicit false

/-- Whether a branch in this phase holds one of the permits. -/
def BranchPhase.holdsPermit {ρ α : Type} : BranchPhase ρ α → Bool
  | .admitted => true
  | .pausing .. => true
  | _ => false

namespace Schedule

variable {β σ ρ α : Type}

/-- Adds woken branches to the ready list in order, each at most once. -/
def wake (ready woken : List Nat) : List Nat :=
  woken.foldl (fun acc b => if acc.contains b then acc else acc ++ [b]) ready

theorem mem_wake {x : Nat} : ∀ (woken ready : List Nat), x ∈ wake ready woken ↔ x ∈ ready ∨ x ∈ woken
  | [], ready => by simp [wake]
  | b :: woken, ready => by
    have ih := mem_wake (x := x) woken
    simp only [wake, List.foldl_cons] at ih ⊢
    rw [ih]
    split
    · rename_i hb
      have hb' : b ∈ ready := List.contains_iff_mem.mp hb
      constructor
      · rintro (h | h)
        · exact .inl h
        · exact .inr (List.mem_cons_of_mem b h)
      · rintro (h | h)
        · exact .inl h
        · rcases List.mem_cons.mp h with rfl | h
          · exact .inl hb'
          · exact .inr h
    · simp only [List.mem_append, List.mem_cons, List.not_mem_nil, or_false, or_assoc]

theorem length_wake_le : ∀ (woken ready : List Nat), (wake ready woken).length ≤ ready.length + woken.length
  | [], ready => by simp [wake]
  | b :: woken, ready => by
    have ih := length_wake_le woken
    simp only [wake, List.foldl_cons, List.length_cons] at ih ⊢
    split
    · have := ih ready
      omega
    · have := ih (ready ++ [b])
      simp only [List.length_append, List.length_singleton] at this
      omega

/-! ## What each act of the scheduler does -/

variable (K : BranchKind β σ ρ α) (bs : List β)

theorem close_nil {s : Schedule σ ρ α} {i : Nat} {o : α} (h : s.waiting = []) :
    s.close i o = { s with
      phases := s.phases.set i .finished
      outcomes := s.outcomes ++ [o]
      timers := s.timers.filter (·.branch ≠ i)
      permits := s.permits + 1 } := by
  simp only [close, setPhase, h]

theorem close_cons {s : Schedule σ ρ α} {i w : Nat} {ws : List Nat} {o : α}
    (h : s.waiting = w :: ws) :
    s.close i o = { s with
      phases := (s.phases.set i .finished).set w .admitted
      outcomes := s.outcomes ++ [o]
      timers := s.timers.filter (·.branch ≠ i)
      waiting := ws
      ready := s.ready ++ [w] } := by
  simp only [close, setPhase, h]

/-- Finishing a branch closes it, after a change of the shared state. -/
theorem finish_shape {s : Schedule σ ρ α} {i : Nat} {b : β} (hi : bs[i]? = some b) (r : ρ) :
    ∃ sh o, finish K bs s i r = close { s with shared := sh } i o := by
  unfold finish
  rw [hi]
  exact ⟨_, _, rfl⟩

/-- Starting a branch closes it at once, or leaves it pausing with a timer set for its first
pause, and one for its deadline if it has one; the pauses left are fewer than its bound. -/
theorem start_shape {s : Schedule σ ρ α} {i : Nat} {b : β} (hi : bs[i]? = some b) :
    (∃ sh o, start K bs s i = close { s with shared := sh } i o) ∨
    (∃ sh k d o rest res, rest.length + 1 ≤ K.pauseBound b ∧
      start K bs s i = ((({ s with shared := sh } : Schedule σ ρ α).setTimer (s.now + k) i).setTimer
        (s.now + d) i).setPhase i (.pausing (s.now + k) rest (some (s.now + d, o)) res)) ∨
    (∃ sh k rest res, rest.length + 1 ≤ K.pauseBound b ∧
      start K bs s i = (({ s with shared := sh } : Schedule σ ρ α).setTimer (s.now + k) i).setPhase i
        (.pausing (s.now + k) rest none res)) := by
  unfold start
  split
  · rename_i hnone
    rw [hi] at hnone
    cases hnone
  rename_i b' hb'
  obtain rfl : b = b' := Option.some.inj (hi.symm.trans hb')
  have hbound := K.pauseCount_le b s.now s.shared
  generalize K.start b s.now s.shared = st at hbound
  obtain ⟨launch, sh⟩ := st
  -- the launch and the deadline decide whether the branch closes now or waits
  rcases launch with o | ⟨_ | ⟨k, rest⟩, r⟩
  · exact .inl ⟨sh, o, rfl⟩
  · obtain ⟨sh', o, heq⟩ := finish_shape K bs (s := { s with shared := sh }) hi r
    exact .inl ⟨sh', o, heq⟩
  · have hlen : rest.length + 1 ≤ K.pauseBound b := by simpa [Launch.pauseCount] using hbound
    rcases K.deadline with _ | ⟨_ | d, late⟩
    · exact .inr (.inr ⟨sh, k, rest, r, hlen, rfl⟩)
    · exact .inl ⟨sh, late b, rfl⟩
    · exact .inr (.inl ⟨sh, k, d + 1, late b, rest, r, hlen, rfl⟩)

/-- Running a woken branch: nothing happens, or it starts (taking a free permit if it is new),
waits for a permit, or, when pausing, finishes with its result, times out, pauses again, or waits
on. -/
theorem poll_cases (s : Schedule σ ρ α) (i : Nat) :
    ((∀ p, s.phases[i]? = some p → p = .queued ∨ p = .finished) ∧ poll K bs s i = s) ∨
    (s.phases[i]? = some .fresh ∧ 0 < s.permits ∧
      poll K bs s i = start K bs { s with permits := s.permits - 1 } i) ∨
    (s.phases[i]? = some .fresh ∧ s.permits = 0 ∧
      poll K bs s i = { s.setPhase i .queued with waiting := s.waiting ++ [i] }) ∨
    (s.phases[i]? = some .admitted ∧ poll K bs s i = start K bs s i) ∨
    ∃ due rest dl res, s.phases[i]? = some (.pausing due rest dl res) ∧
      ((due ≤ s.now ∧ rest = [] ∧ poll K bs s i = finish K bs s i res) ∨
        (∃ at_ o, dl = some (at_, o) ∧ at_ ≤ s.now ∧ (s.now < due ∨ rest ≠ []) ∧
          poll K bs s i = s.close i o) ∨
        (∃ k more, due ≤ s.now ∧ rest = k :: more ∧ (∀ at_ o, dl = some (at_, o) → s.now < at_) ∧
          poll K bs s i = (s.setTimer (s.now + k) i).setPhase i
            (.pausing (s.now + k) more dl res)) ∨
        (s.now < due ∧ (∀ at_ o, dl = some (at_, o) → s.now < at_) ∧ poll K bs s i = s)) := by
  unfold poll
  split
  · rename_i hph
    split
    · exact .inr (.inl ⟨hph, by omega, rfl⟩)
    · exact .inr (.inr (.inl ⟨hph, by omega, rfl⟩))
  · rename_i hph
    exact .inr (.inr (.inr (.inl ⟨hph, rfl⟩)))
  · rename_i due rest dl res hph
    refine .inr (.inr (.inr (.inr ⟨due, rest, dl, res, hph, ?_⟩)))
    -- whether the deadline has passed is read off the deadline, so split on it first
    rcases dl with _ | ⟨at_, o⟩
    · by_cases hdue : due ≤ s.now
      · rcases rest with _ | ⟨k, more⟩
        · exact .inl ⟨hdue, rfl, by simp only [hdue, ↓reduceIte]⟩
        · exact .inr (.inr (.inl ⟨k, more, hdue, rfl, (fun _ _ h => nomatch h),
            by simp only [hdue, ↓reduceIte]⟩))
      · refine .inr (.inr (.inr ⟨by omega, ?_, ?_⟩))
        · intro _ _ h
          cases h
        · simp only [hdue, ↓reduceIte]
    · by_cases hat : at_ ≤ s.now <;> by_cases hdue : due ≤ s.now
      · rcases rest with _ | ⟨k, more⟩
        · exact .inl ⟨hdue, rfl, by simp only [hdue, ↓reduceIte]⟩
        · exact .inr (.inl ⟨at_, o, rfl, hat, .inr (List.cons_ne_nil k more),
            by simp only [hdue, hat, ↓reduceIte]⟩)
      · exact .inr (.inl ⟨at_, o, rfl, hat, .inl (by omega), by simp only [hdue, hat, ↓reduceIte]⟩)
      · rcases rest with _ | ⟨k, more⟩
        · exact .inl ⟨hdue, rfl, by simp only [hdue, ↓reduceIte]⟩
        · refine .inr (.inr (.inl ⟨k, more, hdue, rfl, fun _ _ h => ?_,
            by simp only [hdue, hat, ↓reduceIte]⟩))
          cases h
          omega
      · refine .inr (.inr (.inr ⟨by omega, fun _ _ h => ?_, by simp only [hdue, hat, ↓reduceIte]⟩))
        cases h
        omega
  · rename_i hfresh hadmitted hpausing
    refine .inl ⟨fun p hp => ?_, rfl⟩
    cases p with
    | fresh => exact absurd hp hfresh
    | admitted => exact absurd hp hadmitted
    | pausing due rest dl res => exact absurd hp (hpausing due rest dl res)
    | queued => exact .inl rfl
    | finished => exact .inr rfl

/-- Firing moves the clock to the earliest timer, drops the timers due then, and wakes their
branches in the order the timers were set. -/
theorem fire_eq {s : Schedule σ ρ α} {due : Nat} (hmin : (s.timers.map (·.due)).min? = some due) :
    s.fire = { s with
      now := due
      timers := s.timers.filter fun t => !decide (t.due ≤ due)
      ready := wake s.ready (((s.timers.filter fun t => decide (t.due ≤ due)).mergeSort
        fun a b => decide (a.seq ≤ b.seq)).map (·.branch)) } := by
  unfold fire
  rw [hmin]
  simp only [List.partition_eq_filter_filter]
  rfl

/-! ## What is left to do -/

/-- What a branch in this phase may still cost the scheduler: a new or waiting branch is run at
most twice before it starts, an admitted one once, and starting sets at most two timers and
leaves at most the pauses after the first; a pausing branch pays two steps for each pause left
(a timer and its firing). -/
def phaseWeight (bound : Nat) : BranchPhase ρ α → Nat
  | .fresh => 2 * bound + 4
  | .queued => 2 * bound + 4
  | .admitted => 2 * bound + 3
  | .pausing _ rest _ _ => 2 * rest.length
  | .finished => 0

@[simp] theorem phaseWeight_finished (bound : Nat) :
    phaseWeight bound (.finished : BranchPhase ρ α) = 0 := rfl

/-- Admitting a waiting branch pays one step: the one that runs it from the waiting list. -/
theorem phaseWeight_queued (bound : Nat) :
    phaseWeight bound (.queued : BranchPhase ρ α) =
      phaseWeight bound (.admitted : BranchPhase ρ α) + 1 := rfl

/-- What the branches may still cost, branch by branch. -/
def phasesWeight : List β → List (BranchPhase ρ α) → Nat
  | b :: bs, p :: phases => phaseWeight (K.pauseBound b) p + phasesWeight bs phases
  | _, _ => 0

/-- What is left to do: each ready entry is a step, each timer a firing and a step, and each
branch what its phase may still cost. -/
def weight (s : Schedule σ ρ α) : Nat :=
  s.ready.length + 2 * s.timers.length + phasesWeight K bs s.phases

/-- Changing one branch's phase changes exactly its summand. -/
theorem phasesWeight_set :
    ∀ (bs : List β) (phases : List (BranchPhase ρ α)) (i : Nat) {b : β} {q : BranchPhase ρ α}
      (p : BranchPhase ρ α), bs[i]? = some b → phases[i]? = some q →
      phasesWeight K bs (phases.set i p) + phaseWeight (K.pauseBound b) q =
        phasesWeight K bs phases + phaseWeight (K.pauseBound b) p
  | [], _, _, _, _, _, hr, _ => by simp at hr
  | _ :: _, [], _, _, _, _, _, hq => by simp at hq
  | b :: bs, q₀ :: phases, 0, _, _, p, hr, hq => by
    simp only [List.getElem?_cons_zero, Option.some.injEq] at hr hq
    subst hr hq
    simp only [phasesWeight, List.set_cons_zero]
    omega
  | b :: bs, q₀ :: phases, i + 1, _, _, p, hr, hq => by
    simp only [List.getElem?_cons_succ] at hr hq
    have ih := phasesWeight_set bs phases i p hr hq
    simp only [phasesWeight, List.set_cons_succ] at ih ⊢
    omega

/-- Changing one phase moves the count of permits held by what the two phases hold. -/
theorem countP_set_eq {phases : List (BranchPhase ρ α)} {i : Nat} {p q : BranchPhase ρ α}
    (hq : phases[i]? = some q) :
    (phases.set i p).countP BranchPhase.holdsPermit + q.holdsPermit.toNat =
      phases.countP BranchPhase.holdsPermit + p.holdsPermit.toNat := by
  obtain ⟨hi, hget⟩ := List.getElem?_eq_some_iff.mp hq
  have hle := List.boole_getElem_le_countP (p := BranchPhase.holdsPermit) hi
  rw [hget] at hle
  rw [List.countP_set hi, hget]
  revert hle
  cases q.holdsPermit <;> cases p.holdsPermit <;>
    simp only [Bool.false_eq_true, if_true, if_false, Bool.toNat_true, Bool.toNat_false] <;>
    omega

/-! ## The scheduler's bookkeeping -/

section Bookkeeping

variable (cap : Nat)

/-- The bookkeeping that does not depend on which branches are ready: one phase per rule, no
timer in the past, the waiting list holding exactly the queued branches, each once, and no branch
waiting while a permit is free. -/
structure Ledger (s : Schedule σ ρ α) : Prop where
  length : s.phases.length = bs.length
  timers : ∀ t ∈ s.timers, s.now ≤ t.due
  queued : ∀ i, s.phases[i]? = some .queued ↔ i ∈ s.waiting
  nodup : s.waiting.Nodup
  blocked : s.waiting ≠ [] → s.permits = 0

/-- A branch that a later step will reach: a new or admitted branch is ready, and a pausing one
has a timer for its pause, or was woken once its pause or its deadline was due. -/
def Scheduled (s : Schedule σ ρ α) (i : Nat) : Prop :=
  (s.phases[i]? = some .fresh ∨ s.phases[i]? = some .admitted → i ∈ s.ready) ∧
    ∀ due rest dl res, s.phases[i]? = some (.pausing due rest dl res) →
      (∃ t ∈ s.timers, t.branch = i ∧ t.due = due) ∨
        (i ∈ s.ready ∧ (due ≤ s.now ∨ ∃ at_ d, dl = some (at_, d) ∧ at_ ≤ s.now))

/-- The invariant of a fan-out in progress: the bookkeeping, `cap` permits in all, free or held,
and every branch scheduled. -/
structure Progress (s : Schedule σ ρ α) : Prop extends Ledger bs s where
  permits : s.permits + s.phases.countP BranchPhase.holdsPermit = cap
  scheduled : ∀ i, Scheduled s i

/-- The state while branch `i` acts, off the ready list: it is new, admitted or pausing and holds
a permit, and every other branch is scheduled. -/
structure Acting (s : Schedule σ ρ α) (i : Nat) : Prop extends Ledger bs s where
  active : s.phases[i]? = some .fresh ∨ s.phases[i]? = some .admitted ∨
    ∃ due rest dl res, s.phases[i]? = some (.pausing due rest dl res)
  permits : s.permits + (s.phases.set i .admitted).countP BranchPhase.holdsPermit = cap
  others : ∀ j, j ≠ i → Scheduled s j

variable {bs cap}

/-- A branch stays scheduled while its phase stays, its ready entry and timers stay, and the
clock does not go back. -/
theorem Scheduled.mono {s s' : Schedule σ ρ α} {j : Nat} (h : Scheduled s j)
    (hph : s'.phases[j]? = s.phases[j]?) (hready : j ∈ s.ready → j ∈ s'.ready)
    (htimers : ∀ t ∈ s.timers, t.branch = j → t ∈ s'.timers) (hnow : s.now ≤ s'.now) :
    Scheduled s' j := by
  refine ⟨fun hp => hready (h.1 (hph ▸ hp)), fun due rest dl res hp => ?_⟩
  rcases h.2 due rest dl res (hph ▸ hp) with ⟨t, ht, hb, hd⟩ | ⟨hr, hdue | ⟨at_, d, hdl, hat⟩⟩
  · exact .inl ⟨t, htimers t ht hb, hb, hd⟩
  · exact .inr ⟨hready hr, .inl (Nat.le_trans hdue hnow)⟩
  · exact .inr ⟨hready hr, .inr ⟨at_, d, hdl, Nat.le_trans hat hnow⟩⟩

/-- A queued or finished branch, or none at all, asks nothing of the scheduler's lists. -/
theorem scheduled_of_idle {s : Schedule σ ρ α} {j : Nat}
    (h : ∀ p, s.phases[j]? = some p → p = .queued ∨ p = .finished) : Scheduled s j := by
  refine ⟨fun hp => ?_, fun due rest dl res hp => ?_⟩
  · rcases hp with hp | hp <;> rcases h _ hp with h | h <;> cases h
  · rcases h _ hp with h | h <;> cases h

theorem scheduled_of_finished {s : Schedule σ ρ α} {j : Nat} (h : s.phases[j]? = some .finished) :
    Scheduled s j :=
  scheduled_of_idle fun _ hp => .inr (Option.some.inj (hp.symm.trans h))

theorem Acting.not_waiting {s : Schedule σ ρ α} {i : Nat} (h : Acting bs cap s i) :
    i ∉ s.waiting := by
  intro hw
  have hq := (h.queued i).mpr hw
  rcases h.active with hp | hp | ⟨due, rest, dl, res, hp⟩ <;> rw [hp] at hq <;> simp at hq

/-- Closing the acting branch: the invariant holds again, and what is left to do falls by at
least what the branch's phase may have cost. -/
theorem Acting.close {s : Schedule σ ρ α} {i : Nat} {o : α} {b : β} {q : BranchPhase ρ α}
    (h : Acting bs cap s i) (hr : bs[i]? = some b) (hq : s.phases[i]? = some q) :
    Progress bs cap (s.close i o) ∧
      weight K bs (s.close i o) + phaseWeight (K.pauseBound b) q ≤ weight K bs s := by
  have hi : i < s.phases.length := (List.getElem?_eq_some_iff.mp hq).1
  have hnotw := h.not_waiting
  have hw0 := phasesWeight_set K bs s.phases i .finished hr hq
  have hfilter := List.length_filter_le (fun t : Timer => decide (t.branch ≠ i)) s.timers
  have hkeep : ∀ j, j ≠ i → ∀ t ∈ s.timers, t.branch = j →
      t ∈ s.timers.filter (·.branch ≠ i) := by
    intro j hj t ht hb
    exact List.mem_filter.mpr ⟨ht, by simp [hb, hj]⟩
  have hheld := countP_set_eq (p := .admitted) hq
  have hfin := countP_set_eq (p := .finished) hq
  simp only [BranchPhase.holdsPermit, Bool.toNat_true, Bool.toNat_false] at hheld hfin
  have hpermits := h.permits
  rcases hwait : s.waiting with _ | ⟨w, ws⟩
  · -- no branch waits: the permit goes back
    rw [close_nil hwait]
    refine ⟨{ length := by simp [h.length]
              timers := fun t ht => h.timers t (List.mem_filter.mp ht).1
              queued := fun j => ?_
              nodup := by simp [hwait]
              blocked := fun hne => absurd hwait hne
              permits := by simp only; omega
              scheduled := fun j => ?_ }, ?_⟩
    · dsimp only
      by_cases hj : i = j
      · subst hj
        rw [List.getElem?_set_self hi]
        simp [hnotw]
      · rw [List.getElem?_set_ne hj]
        exact h.queued j
    · by_cases hj : i = j
      · subst hj
        exact scheduled_of_finished (List.getElem?_set_self hi)
      · exact (h.others j (Ne.symm hj)).mono (by simp [List.getElem?_set_ne hj]) id
          (hkeep j (Ne.symm hj)) (Nat.le_refl _)
    · simp only [weight, phaseWeight_finished] at hw0 ⊢
      omega
  · -- the first waiting branch takes the permit and becomes ready
    have hwq : s.phases[w]? = some .queued := (h.queued w).mpr (by simp [hwait])
    have hwi : w ≠ i := fun hwi => hnotw (by simp [hwait, hwi])
    have hwlt : w < bs.length := h.length ▸ (List.getElem?_eq_some_iff.mp hwq).1
    obtain ⟨rw, hrw⟩ : ∃ rw, bs[w]? = some rw := ⟨_, List.getElem?_eq_getElem hwlt⟩
    have hwq' : (s.phases.set i .finished)[w]? = some .queued := by
      rw [List.getElem?_set_ne (Ne.symm hwi)]
      exact hwq
    have hw1 := phasesWeight_set K bs (s.phases.set i .finished) w .admitted hrw hwq'
    have hnodup : w ∉ ws ∧ ws.Nodup := List.nodup_cons.mp (hwait ▸ h.nodup)
    have hadm : ((s.phases.set i .finished).set w .admitted).countP BranchPhase.holdsPermit =
        (s.phases.set i .finished).countP BranchPhase.holdsPermit + 1 := by
      have hwlt' : w < (s.phases.set i .finished).length := by simpa [h.length] using hwlt
      obtain ⟨_, hget⟩ := List.getElem?_eq_some_iff.mp hwq'
      rw [List.countP_set hwlt', hget]
      simp [BranchPhase.holdsPermit]
    rw [close_cons hwait]
    refine ⟨{ length := by simp [h.length]
              timers := fun t ht => h.timers t (List.mem_filter.mp ht).1
              queued := fun j => ?_
              nodup := hnodup.2
              blocked := fun _ => h.blocked (by simp [hwait])
              permits := by simp only; omega
              scheduled := fun j => ?_ }, ?_⟩
    · dsimp only
      by_cases hjw : w = j
      · subst hjw
        rw [List.getElem?_set_self (by simpa [h.length] using hwlt)]
        simp [hnodup.1]
      · rw [List.getElem?_set_ne hjw]
        by_cases hj : i = j
        · subst hj
          rw [List.getElem?_set_self hi]
          have : i ∉ ws := fun hws => hnotw (by simp [hwait, hws])
          simp [this]
        · rw [List.getElem?_set_ne hj, h.queued j, hwait, List.mem_cons]
          exact ⟨fun h' => h'.resolve_left (Ne.symm hjw), .inr⟩
    · by_cases hjw : w = j
      · subst hjw
        refine ⟨fun _ => by simp, fun due rest dl res hp => ?_⟩
        rw [List.getElem?_set_self (by simpa [h.length] using hwlt)] at hp
        simp at hp
      · by_cases hj : i = j
        · subst hj
          refine scheduled_of_finished ?_
          rw [List.getElem?_set_ne hjw]
          exact List.getElem?_set_self hi
        · exact (h.others j (Ne.symm hj)).mono
            (by simp [List.getElem?_set_ne hjw, List.getElem?_set_ne hj])
            (fun hr => List.mem_append_left _ hr) (hkeep j (Ne.symm hj)) (Nat.le_refl _)
    · simp only [weight, List.length_append, List.length_singleton] at hw0 hw1 ⊢
      rw [phaseWeight_finished] at hw0
      rw [phaseWeight_queued] at hw1
      omega

/-- The cache and counters are no part of the bookkeeping. -/
theorem Acting.withShared {s : Schedule σ ρ α} {i : Nat} (h : Acting bs cap s i) (sh : σ) :
    Acting bs cap { s with shared := sh } i :=
  ⟨⟨h.length, h.timers, h.queued, h.nodup, h.blocked⟩, h.active, h.permits, h.others⟩

/-- The acting branch may set a timer, if not in the past. -/
theorem Acting.setTimer {s : Schedule σ ρ α} {i due : Nat} (h : Acting bs cap s i) (hd : s.now ≤ due) :
    Acting bs cap (s.setTimer due i) i := by
  refine ⟨⟨h.length, fun t ht => ?_, h.queued, h.nodup, h.blocked⟩, h.active, h.permits,
    fun j hj => (h.others j hj).mono rfl id (fun t ht _ => ?_) (Nat.le_refl _)⟩
  · rcases List.mem_append.mp ht with ht | ht
    · exact h.timers t ht
    · rw [List.mem_singleton.mp ht]
      exact hd
  · exact List.mem_append_left _ ht

theorem mem_setTimer (s : Schedule σ ρ α) (due i : Nat) :
    ∃ t ∈ (s.setTimer due i).timers, t.branch = i ∧ t.due = due :=
  ⟨⟨due, s.nextSeq, i⟩, List.mem_append_right _ (List.mem_singleton_self _), rfl, rfl⟩

theorem mem_timers_setTimer {s : Schedule σ ρ α} {t : Timer} (due i : Nat) (ht : t ∈ s.timers) :
    t ∈ (s.setTimer due i).timers :=
  List.mem_append_left _ ht

theorem weight_setTimer (s : Schedule σ ρ α) (due i : Nat) :
    weight K bs (s.setTimer due i) = weight K bs s + 2 := by
  simp only [weight, Schedule.setTimer, List.length_append, List.length_singleton]
  omega

/-- The acting branch goes to sleep with a timer set for its pause: the invariant holds again,
and the branch's cost becomes that of the pauses left. -/
theorem Acting.setPausing {s : Schedule σ ρ α} {i due : Nat} {b : β} {q : BranchPhase ρ α}
    (h : Acting bs cap s i) (rest : List Nat) (dl : Option (Nat × α)) (res : ρ)
    (hr : bs[i]? = some b) (hq : s.phases[i]? = some q)
    (ht : ∃ t ∈ s.timers, t.branch = i ∧ t.due = due) :
    Progress bs cap (s.setPhase i (.pausing due rest dl res)) ∧
      weight K bs (s.setPhase i (.pausing due rest dl res)) + phaseWeight (K.pauseBound b) q =
        weight K bs s + 2 * rest.length := by
  have hi : i < s.phases.length := (List.getElem?_eq_some_iff.mp hq).1
  have hnotw := h.not_waiting
  have hw := phasesWeight_set K bs s.phases i (.pausing due rest dl res) hr hq
  have hheld := countP_set_eq (p := .admitted) hq
  have hpause := countP_set_eq (p := .pausing due rest dl res) hq
  simp only [BranchPhase.holdsPermit, Bool.toNat_true] at hheld hpause
  have hpermits := h.permits
  refine ⟨{ length := by simp [setPhase, h.length]
            timers := h.timers
            queued := fun j => ?_
            nodup := h.nodup
            blocked := h.blocked
            permits := by simp only [setPhase]; omega
            scheduled := fun j => ?_ }, ?_⟩
  · simp only [setPhase]
    by_cases hj : i = j
    · subst hj
      rw [List.getElem?_set_self hi]
      simp [hnotw]
    · rw [List.getElem?_set_ne hj]
      exact h.queued j
  · by_cases hj : i = j
    · subst hj
      refine ⟨fun hp => ?_, fun due' rest' dl' res' hp => .inl ?_⟩ <;>
        simp only [setPhase, List.getElem?_set_self hi] at hp
      · simp at hp
      · obtain ⟨rfl, -⟩ := BranchPhase.pausing.inj (Option.some.inj hp)
        exact ht
    · exact (h.others j (Ne.symm hj)).mono (by simp [setPhase, List.getElem?_set_ne hj]) id
        (fun t ht _ => ht) (Nat.le_refl _)
  · simp only [weight, setPhase, phaseWeight] at hw ⊢
    omega

theorem Ledger.branch_of_phase {s : Schedule σ ρ α} {i : Nat} {q : BranchPhase ρ α} (h : Ledger bs s)
    (hq : s.phases[i]? = some q) : ∃ b, bs[i]? = some b :=
  ⟨_, List.getElem?_eq_getElem (h.length ▸ (List.getElem?_eq_some_iff.mp hq).1)⟩

theorem Acting.exists_phase {s : Schedule σ ρ α} {i : Nat} (h : Acting bs cap s i) :
    ∃ b q, bs[i]? = some b ∧ s.phases[i]? = some q := by
  obtain ⟨q, hq⟩ : ∃ q, s.phases[i]? = some q := by
    rcases h.active with hp | hp | ⟨_, _, _, _, hp⟩ <;> exact ⟨_, hp⟩
  obtain ⟨b, hr⟩ := h.branch_of_phase hq
  exact ⟨b, q, hr, hq⟩

/-- Closing the acting branch, with whatever outcome. -/
theorem Acting.close_le {s : Schedule σ ρ α} {i : Nat} (h : Acting bs cap s i) (o : α) :
    Progress bs cap (s.close i o) ∧ weight K bs (s.close i o) ≤ weight K bs s := by
  obtain ⟨b, q, hr, hq⟩ := h.exists_phase
  obtain ⟨hp, hw⟩ := h.close K hr hq (o := o)
  exact ⟨hp, Nat.le_trans (Nat.le_add_right _ _) hw⟩

/-- Finishing the acting branch, with whatever result. -/
theorem Acting.finish {s : Schedule σ ρ α} {i : Nat} (h : Acting bs cap s i) (r : ρ) :
    Progress bs cap (finish K bs s i r) ∧
      weight K bs (finish K bs s i r) ≤ weight K bs s := by
  obtain ⟨b, q, hr, hq⟩ := h.exists_phase
  obtain ⟨sh, o, heq⟩ := finish_shape K bs (s := s) hr r
  rw [heq]
  exact (h.withShared sh).close_le K o

/-- A branch about to start may still cost more than starting can add: two timers and the
pauses after the first. -/
theorem phaseWeight_of_startable (bound : Nat) {q : BranchPhase ρ α}
    (hq : q = .fresh ∨ q = .admitted) : 2 * bound + 3 ≤ phaseWeight bound q := by
  rcases hq with rfl | rfl <;> simp only [phaseWeight] <;> omega

/-- Starting the acting branch, new or admitted: it closes at once or goes to sleep with its
timers, and what is left to do does not grow. -/
theorem Acting.start {s : Schedule σ ρ α} {i : Nat} {q : BranchPhase ρ α} (h : Acting bs cap s i)
    (hq : s.phases[i]? = some q) (hstart : q = .fresh ∨ q = .admitted) :
    Progress bs cap (start K bs s i) ∧ weight K bs (start K bs s i) ≤ weight K bs s := by
  obtain ⟨b, hr⟩ := h.branch_of_phase hq
  have hcost := phaseWeight_of_startable (K.pauseBound b) hstart
  have hsh : ∀ sh, weight K bs { s with shared := sh } = weight K bs s := fun _ => rfl
  rcases start_shape K bs (s := s) hr with ⟨sh, o, heq⟩ |
      ⟨sh, k, d, o, rest, res, hlen, heq⟩ | ⟨sh, k, rest, res, hlen, heq⟩ <;> rw [heq]
  · -- an outcome at once, an immediate result or an immediate timeout
    obtain ⟨hp, hw⟩ := (h.withShared sh).close K hr hq
    rw [hsh] at hw
    exact ⟨hp, by omega⟩
  · -- a pause and a deadline: two timers
    have ha := ((h.withShared sh).setTimer (Nat.le_add_right s.now k)).setTimer
      (Nat.le_add_right s.now d)
    obtain ⟨hp, hw⟩ := ha.setPausing K rest (some (s.now + d, o)) res hr hq
      ⟨_, mem_timers_setTimer _ _ (mem_setTimer _ (s.now + k) i).choose_spec.1,
        (mem_setTimer _ (s.now + k) i).choose_spec.2⟩
    refine ⟨hp, ?_⟩
    rw [weight_setTimer, weight_setTimer, hsh] at hw
    omega
  · -- a pause without a deadline: one timer
    have ha := (h.withShared sh).setTimer (Nat.le_add_right s.now k)
    obtain ⟨hp, hw⟩ := ha.setPausing K rest none res hr hq
      (mem_setTimer _ (s.now + k) i)
    refine ⟨hp, ?_⟩
    rw [weight_setTimer, hsh] at hw
    omega

/-- A pausing branch whose pause is over pauses again, with a timer for the next pause. -/
theorem Acting.repause {s : Schedule σ ρ α} {i due k : Nat} {more : List Nat} {dl : Option (Nat × α)}
    {res : ρ} (h : Acting bs cap s i)
    (hq : s.phases[i]? = some (.pausing due (k :: more) dl res)) :
    Progress bs cap ((s.setTimer (s.now + k) i).setPhase i (.pausing (s.now + k) more dl res)) ∧
      weight K bs ((s.setTimer (s.now + k) i).setPhase i (.pausing (s.now + k) more dl res)) ≤
        weight K bs s := by
  obtain ⟨b, hr⟩ := h.branch_of_phase hq
  obtain ⟨hp, hw⟩ := (h.setTimer (Nat.le_add_right s.now k)).setPausing K more dl res
    hr hq (mem_setTimer _ _ i)
  refine ⟨hp, ?_⟩
  rw [weight_setTimer] at hw
  simp only [phaseWeight, List.length_cons] at hw
  omega

/-! ## One step of the scheduler -/

section Pop

variable {s : Schedule σ ρ α} {i : Nat} {rest : List Nat}

theorem weight_pop (hready : s.ready = i :: rest) :
    weight K bs { s with ready := rest } + 1 = weight K bs s := by
  simp only [weight, hready, List.length_cons]
  omega

theorem Progress.pop_others (h : Progress bs cap s) (hready : s.ready = i :: rest) :
    ∀ j, j ≠ i → Scheduled { s with ready := rest } j := fun j hj =>
  (h.scheduled j).mono rfl (fun hr => (List.mem_cons.mp (hready ▸ hr)).resolve_left hj)
    (fun _ ht _ => ht) (Nat.le_refl _)

/-- Taking an active branch off the ready list lets it act, with the permits it then holds. -/
theorem Progress.acting (h : Progress bs cap s) (hready : s.ready = i :: rest)
    (hactive : s.phases[i]? = some .fresh ∨ s.phases[i]? = some .admitted ∨
      ∃ due rest dl res, s.phases[i]? = some (.pausing due rest dl res))
    {p : Nat} (hp : p + (s.phases.set i .admitted).countP BranchPhase.holdsPermit = cap)
    (hblocked : s.waiting ≠ [] → p = 0) :
    Acting bs cap { s with ready := rest, permits := p } i :=
  ⟨⟨h.length, h.timers, h.queued, h.nodup, hblocked⟩, hactive, hp, h.pop_others hready⟩

/-- The acting branch, if it already holds its permit, acts with the permits as they are. -/
theorem Progress.acting_holder (h : Progress bs cap s) (hready : s.ready = i :: rest)
    {q : BranchPhase ρ α} (hq : s.phases[i]? = some q) (hhold : q.holdsPermit = true)
    (hactive : s.phases[i]? = some .admitted ∨
      ∃ due rest dl res, s.phases[i]? = some (.pausing due rest dl res)) :
    Acting bs cap { s with ready := rest } i := by
  have hc := countP_set_eq (p := .admitted) hq
  rw [hhold] at hc
  have hpermits := h.permits
  exact h.acting hready (.inr hactive) (by simp only [BranchPhase.holdsPermit] at hc; omega)
    h.blocked

end Pop

/-- One step of a branch taken off the ready list keeps the invariant and lowers what is left
to do. -/
theorem Progress.poll {s : Schedule σ ρ α} {i : Nat} {rest : List Nat} (h : Progress bs cap s)
    (hready : s.ready = i :: rest) :
    Progress bs cap (poll K bs { s with ready := rest } i) ∧
      weight K bs (poll K bs { s with ready := rest } i) < weight K bs s := by
  have hpop : weight K bs { s with ready := rest } + 1 = weight K bs s := weight_pop K hready
  have hledger : Ledger bs { s with ready := rest } :=
    ⟨h.length, h.timers, h.queued, h.nodup, h.blocked⟩
  have hpermits := h.permits
  rcases poll_cases K bs { s with ready := rest } i with ⟨hidle, heq⟩ | ⟨hph, hpos, heq⟩ |
      ⟨hph, hzero, heq⟩ | ⟨hph, heq⟩ | ⟨due, more, dl, res, hph, hpause⟩
  · -- nothing to do for a queued or finished branch
    rw [heq]
    refine ⟨⟨hledger, h.permits, fun j => ?_⟩, by omega⟩
    by_cases hj : j = i
    · exact hj ▸ scheduled_of_idle hidle
    · exact h.pop_others hready j hj
  · -- a new branch takes a free permit and starts
    rw [heq]
    dsimp only at hpos
    have hc := countP_set_eq (p := .admitted) hph
    simp only [BranchPhase.holdsPermit, Bool.toNat_true, Bool.toNat_false] at hc
    have ha := h.acting hready (.inl hph) (p := s.permits - 1) (by omega)
      (fun hne => absurd (h.blocked hne) (by omega))
    obtain ⟨hp, hw⟩ := ha.start K (q := .fresh) hph (.inl rfl)
    exact ⟨hp, by simp only [weight] at hw hpop ⊢; omega⟩
  · -- a new branch finds no permit and waits for one
    rw [heq]
    dsimp only at hph hzero
    have hi : i < s.phases.length := (List.getElem?_eq_some_iff.mp hph).1
    have hnotw : i ∉ s.waiting := fun hw => by
      have := (h.queued i).mpr hw
      rw [hph] at this
      cases this
    obtain ⟨b, hr⟩ := h.branch_of_phase hph
    have hw := phasesWeight_set K bs s.phases i .queued hr hph
    have hc := countP_set_eq (p := .queued) hph
    simp only [BranchPhase.holdsPermit, Bool.toNat_false] at hc
    refine ⟨{ length := by simp [setPhase, h.length]
              timers := h.timers
              queued := fun j => ?_
              nodup := ?_
              blocked := fun _ => hzero
              permits := by simp only [setPhase]; omega
              scheduled := fun j => ?_ }, ?_⟩
    · simp only [setPhase, List.mem_append, List.mem_singleton]
      by_cases hj : i = j
      · subst hj
        simp [List.getElem?_set_self hi]
      · rw [List.getElem?_set_ne hj, h.queued j]
        exact ⟨.inl, fun h' => h'.resolve_right (Ne.symm hj)⟩
    · exact List.nodup_append.mpr ⟨h.nodup, by simp,
        fun a ha b hb hab => hnotw (by rw [List.mem_singleton.mp hb] at hab; exact hab ▸ ha)⟩
    · by_cases hj : j = i
      · rw [hj]
        refine scheduled_of_idle fun p hp => .inl ?_
        simp only [setPhase, List.getElem?_set_self hi] at hp
        exact (Option.some.inj hp).symm
      · exact (h.pop_others hready j hj).mono (by simp [setPhase, List.getElem?_set_ne (Ne.symm hj)])
          id (fun _ ht _ => ht) (Nat.le_refl _)
    · simp only [weight, setPhase, phaseWeight_queued] at hw hpop ⊢
      simp only [phaseWeight] at hw
      omega
  · -- an admitted branch starts with the permit it was handed
    rw [heq]
    have ha := h.acting_holder hready hph rfl (.inl hph)
    obtain ⟨hp, hw⟩ := ha.start K hph (.inr rfl)
    exact ⟨hp, by omega⟩
  · have ha := h.acting_holder hready hph rfl (.inr ⟨_, _, _, _, hph⟩)
    rcases hpause with ⟨-, -, heq⟩ | ⟨at_, o, -, -, -, heq⟩ | ⟨k, more', -, rfl, -, heq⟩ |
      ⟨hnow, hdl, heq⟩ <;> rw [heq]
    · -- the branch finishes with its result
      obtain ⟨hp, hw⟩ := ha.finish K res
      exact ⟨hp, by omega⟩
    · -- the branch times out
      obtain ⟨hp, hw⟩ := ha.close_le K o
      exact ⟨hp, by omega⟩
    · -- its pause is over and it pauses again
      obtain ⟨hp, hw⟩ := ha.repause K hph
      exact ⟨hp, by omega⟩
    · -- its pause and deadline are ahead: its timer is still set
      dsimp only at hnow hdl
      refine ⟨⟨hledger, h.permits, fun j => ?_⟩, by omega⟩
      by_cases hj : j = i
      · rw [hj]
        refine ⟨fun hp => ?_, fun due' more' dl' res' hp => ?_⟩
        · rcases hp with hp | hp <;> rw [hph] at hp <;> cases hp
        · cases Option.some.inj (hph.symm.trans hp)
          rcases (h.scheduled i).2 due more dl res hph with ht | ⟨-, hdue | ⟨at_, d, hdl', hat⟩⟩
          · exact .inl ht
          · exact absurd hdue (by omega)
          · exact absurd hat (Nat.not_le_of_lt (hdl at_ d hdl'))
      · exact h.pop_others hready j hj

/-- Firing the earliest timers keeps the invariant: a branch whose timer fired is woken with its
pause due, and the others keep their timers. Each fired timer wakes at most one entry, so what is
left to do falls. -/
theorem Progress.fire {s : Schedule σ ρ α} (h : Progress bs cap s) (hne : s.timers ≠ []) :
    Progress bs cap s.fire ∧ weight K bs s.fire < weight K bs s := by
  obtain ⟨due, hmin⟩ : ∃ due, (s.timers.map (·.due)).min? = some due := by
    cases hm : (s.timers.map (·.due)).min? with
    | none => exact absurd (List.map_eq_nil_iff.mp (List.min?_eq_none_iff.mp hm)) hne
    | some due => exact ⟨due, rfl⟩
  obtain ⟨t₀, ht₀, hdue₀⟩ := List.mem_map.mp (List.min?_eq_some_iff.mp hmin).1
  have hnow : s.now ≤ due := hdue₀ ▸ h.timers t₀ ht₀
  have hwoken : ∀ t ∈ s.timers, t.due ≤ due → t.branch ∈
      ((s.timers.filter fun t => decide (t.due ≤ due)).mergeSort
        fun a b => decide (a.seq ≤ b.seq)).map (·.branch) := fun t ht hdt =>
    List.mem_map.mpr ⟨t, List.mem_mergeSort.mpr (List.mem_filter.mpr ⟨ht, by simpa using hdt⟩), rfl⟩
  -- the timers split into those fired and those kept, and at least the earliest one fires
  have hsplit := List.length_eq_countP_add_countP (fun t : Timer => decide (t.due ≤ due))
    (l := s.timers)
  simp only [List.countP_eq_length_filter, decide_eq_true_eq, decide_not] at hsplit
  have hfired : 0 < (s.timers.filter fun t => decide (t.due ≤ due)).length :=
    List.length_pos_of_mem (List.mem_filter.mpr ⟨ht₀, by simp [hdue₀]⟩)
  have hwake := length_wake_le (((s.timers.filter fun t => decide (t.due ≤ due)).mergeSort
    fun a b => decide (a.seq ≤ b.seq)).map (·.branch)) s.ready
  rw [List.length_map, List.length_mergeSort] at hwake
  rw [fire_eq hmin]
  refine ⟨⟨⟨h.length, fun t ht => ?_, h.queued, h.nodup, h.blocked⟩, h.permits, fun j => ?_⟩, ?_⟩
  · have hlate := (List.mem_filter.mp ht).2
    simp only [Bool.not_eq_eq_eq_not, Bool.not_true, decide_eq_false_iff_not, Nat.not_le] at hlate
    exact Nat.le_of_lt hlate
  · refine ⟨fun hp => (mem_wake _ _).mpr (.inl ((h.scheduled j).1 hp)), fun due' rest dl res hp => ?_⟩
    rcases (h.scheduled j).2 due' rest dl res hp with ⟨t, ht, hb, hd⟩ | ⟨hr, hdue | ⟨at_, d, hdl, hat⟩⟩
    · by_cases hdt : t.due ≤ due
      · exact .inr ⟨(mem_wake _ _).mpr (.inr (hb ▸ hwoken t ht hdt)), .inl (hd ▸ hdt)⟩
      · exact .inl ⟨t, List.mem_filter.mpr ⟨ht, by simpa using hdt⟩, hb, hd⟩
    · exact .inr ⟨(mem_wake _ _).mpr (.inl hr), .inl (Nat.le_trans hdue hnow)⟩
    · exact .inr ⟨(mem_wake _ _).mpr (.inl hr), .inr ⟨at_, d, hdl, Nat.le_trans hat hnow⟩⟩
  · simp only [weight]
    omega

/-- A run with at least as many steps as there is left to do ends with nothing ready and no
timer set, the invariant intact. -/
theorem Progress.runFor_drains {s : Schedule σ ρ α} (h : Progress bs cap s) (fuel : Nat)
    (hfuel : weight K bs s ≤ fuel) :
    Progress bs cap (runFor K bs fuel s) ∧ (runFor K bs fuel s).ready = [] ∧
      (runFor K bs fuel s).timers = [] := by
  induction fuel generalizing s with
  | zero =>
    simp only [weight] at hfuel
    rw [show runFor K bs 0 s = s from rfl]
    exact ⟨h, List.eq_nil_of_length_eq_zero (by omega), List.eq_nil_of_length_eq_zero (by omega)⟩
  | succ fuel ih =>
    rcases hready : s.ready with _ | ⟨i, rest⟩
    · by_cases ht : s.timers = []
      · -- nothing is ready and no timer is set: the run stops here
        have hstop : runFor K bs (fuel + 1) s = s := by simp [Schedule.runFor, hready, ht]
        rw [hstop]
        exact ⟨h, hready, ht⟩
      · -- the clock moves to the earliest timer
        have hnext : runFor K bs (fuel + 1) s = runFor K bs fuel s.fire := by
          simp [Schedule.runFor, hready, ht]
        obtain ⟨hp, hlt⟩ := h.fire K ht
        rw [hnext]
        exact ih hp (by omega)
    · -- the first ready branch runs
      have hnext : runFor K bs (fuel + 1) s =
          runFor K bs fuel (Schedule.poll K bs { s with ready := rest } i) := by
        simp [Schedule.runFor, hready]
      obtain ⟨hp, hlt⟩ := h.poll K hready
      rw [hnext]
      exact ih hp (by omega)

/-- With nothing ready and no timer set, every branch has finished: a branch that could act
would be ready or have a timer, and a waiting one would wait for a permit that no branch
holds. -/
theorem Progress.finished_of_idle {s : Schedule σ ρ α} (h : Progress bs cap s) (hcap : 0 < cap)
    (hready : s.ready = []) (htimers : s.timers = []) :
    ∀ i < bs.length, s.phases[i]? = some .finished := by
  have hidle : ∀ (j : Nat) (p : BranchPhase ρ α), s.phases[j]? = some p →
      p = .queued ∨ p = .finished := by
    intro j p hp
    cases p with
    | fresh => simpa [hready] using (h.scheduled j).1 (.inl hp)
    | admitted => simpa [hready] using (h.scheduled j).1 (.inr hp)
    | pausing due rest dl res =>
      rcases (h.scheduled j).2 due rest dl res hp with ⟨t, ht, -⟩ | ⟨hr, -⟩
      · simp [htimers] at ht
      · simp [hready] at hr
    | queued => exact .inl rfl
    | finished => exact .inr rfl
  -- no permit is held, so all are free and no branch waits
  have hheld : s.phases.countP BranchPhase.holdsPermit = 0 :=
    List.countP_eq_zero.mpr fun p hp => by
      obtain ⟨j, hj⟩ := List.mem_iff_getElem?.mp hp
      rcases hidle j p hj with rfl | rfl <;> simp [BranchPhase.holdsPermit]
  have hpermits := h.permits
  have hwait : s.waiting = [] := Classical.byContradiction fun hne => by
    have := h.blocked hne
    omega
  intro i hi
  obtain ⟨p, hp⟩ : ∃ p, s.phases[i]? = some p :=
    ⟨_, List.getElem?_eq_getElem (by rw [h.length]; exact hi)⟩
  rcases hidle i p hp with rfl | rfl
  · simpa [hwait] using (h.queued i).mp hp
  · exact hp

end Bookkeeping

/-! ## A whole run -/

variable {bs}

/-- The branches as they start: every branch new and ready, every permit free. -/
theorem progress_initial (permits now : Nat) (shared : σ) :
    Progress bs (max permits 1) (initial bs permits now shared : Schedule σ ρ α) := by
  refine { length := by simp [initial]
           timers := fun t ht => by simp [initial] at ht
           queued := fun j => ?_
           nodup := by simp [initial]
           blocked := fun hne => absurd rfl hne
           permits := ?_
           scheduled := fun j => ⟨fun hp => ?_, fun due rest dl res hp => ?_⟩ }
  · simp only [initial, List.getElem?_map, Option.map_eq_some_iff, List.not_mem_nil, iff_false]
    rintro ⟨_, -, h⟩
    cases h
  · have hzero : (bs.map fun _ => (BranchPhase.fresh : BranchPhase ρ α)).countP
        BranchPhase.holdsPermit = 0 :=
      List.countP_eq_zero.mpr fun p hp => by
        obtain ⟨_, -, rfl⟩ := List.mem_map.mp hp
        simp [BranchPhase.holdsPermit]
    simp only [initial, hzero, Nat.add_zero]
  · have hj : j < (bs.map fun _ => (BranchPhase.fresh : BranchPhase ρ α)).length := by
      rcases hp with hp | hp <;> exact (List.getElem?_eq_some_iff.mp hp).1
    simpa [initial] using hj
  · simp only [initial, List.getElem?_map, Option.map_eq_some_iff] at hp
    obtain ⟨_, -, h⟩ := hp
    cases h

/-- Each branch may cost at most what the step bound grants it. -/
theorem weight_fresh_le : ∀ (bs : List β) (a : Nat),
    a + bs.length + phasesWeight K bs (bs.map fun _ => (.fresh : BranchPhase ρ α)) ≤
      bs.foldl (fun acc b => acc + (2 * K.pauseBound b + 8)) a
  | [], a => by simp [phasesWeight]
  | b :: bs, a => by
    have ih := weight_fresh_le bs (a + (2 * K.pauseBound b + 8))
    simp only [phasesWeight, List.foldl_cons, List.length_cons, List.map_cons] at ih ⊢
    simp only [phaseWeight]
    omega

/-- Every branch finishes within the step bound. -/
theorem run_finishes (permits now : Nat) (shared : σ) :
    ∀ i < bs.length, (run K bs permits now shared).phases[i]? = some .finished := by
  have hstart := @progress_initial _ _ ρ α bs permits now shared
  have hbound := weight_fresh_le K bs 0
  obtain ⟨hp, hready, htimers⟩ := hstart.runFor_drains K (stepBound K bs) (by
    simp only [weight, stepBound, initial, List.length_range] at hbound ⊢
    simp only [List.length_nil]
    omega)
  exact hp.finished_of_idle (by omega) hready htimers

/-- The permits held never outnumber the permits: held and free, they add up to all of them. -/
theorem held_le_permits {cap : Nat} {s : Schedule σ ρ α} (h : Progress bs cap s) :
    s.phases.countP BranchPhase.holdsPermit ≤ cap := by
  rw [← h.permits]
  exact Nat.le_add_left _ _

/-- Running keeps the permits conserved, for any number of steps. -/
theorem Progress.runFor {cap : Nat} :
    ∀ (fuel : Nat) {s : Schedule σ ρ α}, Progress bs cap s → Progress bs cap (runFor K bs fuel s)
  | 0, _, h => h
  | fuel + 1, s, h => by
    unfold Schedule.runFor
    split
    · rename_i i rest hready
      exact Progress.runFor fuel (h.poll K hready).1
    · split
      · exact h
      · rename_i htimers
        exact Progress.runFor fuel (h.fire K fun he => htimers (by simp [he])).1

/-- At no step of a run do more branches hold a permit than the larger of the permits and
one. -/
theorem held_le_permits_runFor (permits now : Nat) (shared : σ) (k : Nat) :
    (runFor K bs k (initial bs permits now shared)).phases.countP BranchPhase.holdsPermit ≤
      max permits 1 :=
  held_le_permits (Progress.runFor K k (progress_initial permits now shared))

/-! ## Branches that end as they start -/

section Immediate

variable {K} (step : β → σ → α × σ)

/-- Branches that end as they start, run one after another on a shared state: their outcomes in
order, and the shared state after the last. -/
def runInOrder : List β → σ → List α × σ
  | [], sh => ([], sh)
  | b :: rest, sh =>
    let r := runInOrder rest (step b sh).2
    ((step b sh).1 :: r.1, r.2)

/-- A new branch that finds a free permit takes it and starts. -/
theorem poll_fresh {s : Schedule σ ρ α} {i : Nat} (hph : s.phases[i]? = some .fresh)
    (hpos : 0 < s.permits) : poll K bs s i = start K bs { s with permits := s.permits - 1 } i := by
  simp only [poll, hph, hpos, if_true]

/-- A branch whose start gives its outcome closes at once. -/
theorem start_done {s : Schedule σ ρ α} {i : Nat} {b : β} (hi : bs[i]? = some b) {o : α} {sh : σ}
    (hK : K.start b s.now s.shared = (.done o, sh)) :
    start K bs s i = ({ s with shared := sh } : Schedule σ ρ α).close i o := by
  simp only [start, hi, hK]

/-- From a state where the branches from `k` on are new and ready in order, with a permit free,
no timer and no branch waiting, branches that end as they start run one after another. -/
theorem runFor_inOrder (hK : ∀ b now sh, K.start b now sh = (.done (step b sh).1, (step b sh).2)) :
    ∀ (rest : List β) (k fuel : Nat) (s : Schedule σ ρ α), rest.length < fuel →
      bs.drop k = rest → s.ready = List.range' k rest.length → s.timers = [] →
      s.waiting = [] → 0 < s.permits → (∀ j < rest.length, s.phases[k + j]? = some .fresh) →
      (runFor K bs fuel s).outcomes = s.outcomes ++ (runInOrder step rest s.shared).1 ∧
        (runFor K bs fuel s).shared = (runInOrder step rest s.shared).2
  | [], _, fuel + 1, s, _, _, hready, htimers, _, _, _ => by
    simp [runFor, hready, htimers, runInOrder]
  | b :: rest, k, fuel + 1, s, hfuel, hdrop, hready, htimers, hwait, hpos, hfresh => by
    have hb : bs[k]? = some b := by
      rw [← Nat.add_zero k, ← List.getElem?_drop, hdrop]
      rfl
    have hdrop' : bs.drop (k + 1) = rest := by
      rw [← List.drop_drop, hdrop, List.drop_one, List.tail_cons]
    have hph : s.phases[k]? = some .fresh := by simpa using hfresh 0 (by simp)
    -- the branch takes a free permit, ends at once and gives the permit back
    let s' : Schedule σ ρ α :=
      { s with
        ready := List.range' (k + 1) rest.length
        phases := s.phases.set k .finished
        shared := (step b s.shared).2
        outcomes := s.outcomes ++ [(step b s.shared).1]
        permits := s.permits - 1 + 1 }
    have hstep : poll K bs { s with ready := List.range' (k + 1) rest.length } k = s' := by
      rw [poll_fresh (s := { s with ready := List.range' (k + 1) rest.length }) hph hpos,
        start_done hb (hK b _ _)]
      simp [close, setPhase, hwait, s', htimers]
    have hrun : runFor K bs (fuel + 1) s = runFor K bs fuel s' := by
      rw [runFor, hready, List.length_cons, List.range'_succ]
      dsimp only
      rw [hstep]
    obtain ⟨ho, hsh⟩ := runFor_inOrder hK rest (k + 1) fuel s'
      (by simp only [List.length_cons] at hfuel; omega) hdrop' rfl htimers hwait
      (by simp only [s']; omega)
      (fun j hj => by
        simp only [s']
        rw [List.getElem?_set_ne (by omega), Nat.add_right_comm]
        exact hfresh (j + 1) (by simp only [List.length_cons]; omega))
    rw [hrun]
    exact ⟨by rw [ho, List.append_assoc]; rfl, hsh⟩

/-- Branches that end as they start run one after another, in the order given, whatever the
permits: the outcomes are theirs in order, and the shared state is the last one's. -/
theorem run_inOrder (hK : ∀ b now sh, K.start b now sh = (.done (step b sh).1, (step b sh).2))
    (permits now : Nat) (shared : σ) :
    (run K bs permits now shared).outcomes = (runInOrder step bs shared).1 ∧
      (run K bs permits now shared).shared = (runInOrder step bs shared).2 := by
  have hbound := weight_fresh_le K bs 0
  have hfuel : bs.length < stepBound K bs := by
    simp only [stepBound]
    omega
  have h := runFor_inOrder step hK bs 0 (stepBound K bs) (initial bs permits now shared) hfuel
    (List.drop_zero) (by simp [initial, List.range_eq_range']) rfl rfl (by simp only [initial]; omega)
    (fun j hj => by simp [initial, hj])
  simpa [run, initial] using h

end Immediate

end Schedule

end RoleSync
