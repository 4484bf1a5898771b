import RoleSync.Proofs.RoleComputation
/-!
Permits and deadlines of a fan-out. At no step do more branches hold a permit than the permits
allow, whatever their kind (`Schedule.held_le_permits_runFor`): so for the rule branches of a
resolution and the community branches of a sync alike.

A predicate needs the sum of its pauses in virtual time (`Evaluation.duration`); its deadline
counts from the start of its branch, after the permit and the cache read, neither of which takes
time. A rule's outcome is a timeout exactly when its predicate ran in the fan-out and needs more
time than the limit, the timeout then naming the limit, or reported that timeout itself in time
(`FanOut.InTime`). The invariant behind it follows each pausing branch: when it started, how much
of its predicate is left, and that the clock has passed neither its pause nor its deadline while
the deadline's timer is set (`FanOut.Paced`). Firing moves the clock to the earliest timer, so it
never jumps over either.

Main statement: `fan_out_respects_permits_and_deadlines`.
-/

namespace RoleSync

set_option autoImplicit false

/-! ## The time a predicate needs -/

/-- The time a list of pauses takes, one after another. -/
def pauseTotal : List Nat → Nat
  | [] => 0
  | k :: rest => k + pauseTotal rest

/-- The virtual time an evaluation of a predicate takes. -/
def Evaluation.duration (ev : Evaluation) : Nat := pauseTotal ev.pauses

/-- Pauses of no time take no time. -/
theorem pauseTotal_filter : ∀ ps : List Nat, pauseTotal (ps.filter (· ≠ 0)) = pauseTotal ps
  | [] => rfl
  | k :: rest => by
    have ih := pauseTotal_filter rest
    rw [List.filter_cons]
    by_cases hk : k = 0
    · rw [if_neg (by simp [hk]), ih, pauseTotal, hk, Nat.zero_add]
    · rw [if_pos (by simp [hk]), pauseTotal, pauseTotal, ih]

/-- Pauses that take time add up to some time. -/
theorem pauseTotal_pos {rest : List Nat} (hpos : ∀ k ∈ rest, 0 < k) (hne : rest ≠ []) :
    0 < pauseTotal rest := by
  obtain ⟨k, more, rfl⟩ := List.exists_cons_of_ne_nil hne
  have hk := hpos k (List.mem_cons_self ..)
  simp only [pauseTotal]
  omega

section Invoked

variable {r : Rule} {ctx : Context} {identity : Option String} {n : Nat}

/-- An evaluation that did not invoke the predicate pauses for nothing and succeeds with no
roles. -/
theorem Rule.evaluate_of_not_invoked (h : (r.evaluate ctx identity n).invoked = false) :
    r.evaluate ctx identity n = ⟨false, [], .success ∅⟩ := by
  revert h
  unfold Rule.evaluate
  split
  · exact fun _ => rfl
  · exact fun h => Bool.noConfusion h
  · exact fun h => Bool.noConfusion h

theorem Rule.invoked_of_pauses (h : (r.evaluate ctx identity n).pauses ≠ []) :
    (r.evaluate ctx identity n).invoked = true := by
  cases hinv : (r.evaluate ctx identity n).invoked
  · rw [Rule.evaluate_of_not_invoked hinv] at h
    exact absurd rfl h
  · rfl

theorem Rule.invoked_of_failure {e : RuleError} (h : (r.evaluate ctx identity n).result = .failure e) :
    (r.evaluate ctx identity n).invoked = true := by
  cases hinv : (r.evaluate ctx identity n).invoked
  · rw [Rule.evaluate_of_not_invoked hinv] at h
    cases h
  · rfl

end Invoked

/-! ## A timer set for a branch -/

namespace Schedule

variable {σ ρ α : Type}

/-- A timer for branch `i` is set at `due`. -/
def TimerSet (s : Schedule σ ρ α) (i due : Nat) : Prop :=
  ∃ tm ∈ s.timers, tm.branch = i ∧ tm.due = due

theorem TimerSet.mono {s s' : Schedule σ ρ α} {j due : Nat} (h : s.TimerSet j due)
    (ht : ∀ tm ∈ s.timers, tm.branch = j → tm ∈ s'.timers) : s'.TimerSet j due := by
  obtain ⟨tm, htm, hb, hd⟩ := h
  exact ⟨tm, ht tm htm hb, hb, hd⟩

end Schedule

namespace FanOut

variable (f : FanOut)

/-! ## What a rule branch does to the run counts -/

@[simp] theorem counters_readCache (rule : Rule) (now : Nat) (sh : FanOutShared) :
    (f.readCache rule now sh).2.counters = sh.counters := by
  unfold readCache
  split
  · split <;> rfl
  · rfl

@[simp] theorem counters_writeBack (rule : Rule) (now : Nat) (roles : NameSet) (sh : FanOutShared) :
    (f.writeBack rule now roles sh).counters = sh.counters := by
  unfold writeBack
  split
  · split <;> rfl
  · rfl

section Branch

variable {rule : Rule} {now : Nat} {r : RuleResult} {sh : FanOutShared}

@[simp] theorem rule_finishBranch : (f.finishBranch rule now r sh).1.rule = rule.name := by
  cases r <;> rfl

@[simp] theorem counters_finishBranch : (f.finishBranch rule now r sh).2.counters = sh.counters := by
  cases r <;> simp [finishBranch]

theorem failure_finishBranch {e : RuleError} :
    (f.finishBranch rule now r sh).1.failure = some e ↔ r = .failure e := by
  cases r <;> simp [finishBranch]

end Branch

/-- Starting a rule's branch: a hit ends it with the cached roles and leaves the run counts; a
miss runs the predicate once, with the count it had, counts the run if it invoked the predicate,
and pauses for the run's pauses that take time, holding its result. -/
theorem startBranch_cases (rule : Rule) (now : Nat) (sh : FanOutShared) :
    (∃ roles, (f.startBranch rule now sh).1 = .done ⟨rule.name, roles, none⟩ ∧
      (f.startBranch rule now sh).2.counters = sh.counters) ∨
    (∃ ps, ps = (rule.evaluate f.ctx f.identity (sh.counters.getD rule.name 0)).pauses.filter
        (· ≠ 0) ∧
      (f.startBranch rule now sh).1 =
        .pausing ps (rule.evaluate f.ctx f.identity (sh.counters.getD rule.name 0)).result ∧
      (f.startBranch rule now sh).2.counters =
        if (rule.evaluate f.ctx f.identity (sh.counters.getD rule.name 0)).invoked then
          sh.counters.insert rule.name (sh.counters.getD rule.name 0 + 1)
        else sh.counters) := by
  unfold startBranch
  have hc := f.counters_readCache rule now sh
  generalize f.readCache rule now sh = rd at hc
  obtain ⟨_ | roles, sh'⟩ := rd
  · dsimp only at hc ⊢
    rw [hc]
    exact .inr ⟨_, rfl, rfl, rfl⟩
  · exact .inl ⟨roles, rfl, hc⟩

/-- Finishing a branch closes it with the outcome of its result, after the write-back. -/
theorem finish_eq {rules : List Rule} {s : Schedule FanOutShared RuleResult BranchOutcome} {i : Nat}
    {rule : Rule} (hi : rules[i]? = some rule) (r : RuleResult) :
    Schedule.finish f.kind rules s i r =
      Schedule.close { s with shared := (f.finishBranch rule s.now r s.shared).2 } i
        (f.finishBranch rule s.now r s.shared).1 := by
  unfold Schedule.finish
  rw [hi]
  rfl

/-! ## The invariant of the deadlines -/

section Deadlines

variable {f} (rules : List Rule) (n₀ : Std.TreeMap String Nat compare)

/-- The evaluation of a rule's predicate in a fan-out that starts from the run counts `n₀`. -/
def evaluation (rule : Rule) : Evaluation := rule.evaluate f.ctx f.identity (n₀.getD rule.name 0)

/-- How a predicate that ran times out with `ms` milliseconds: it needs more time than the limit,
which the timeout names, saturated; or it reports that timeout itself within the limit. -/
def TimesOut (rule : Rule) (ms : Nat) : Prop :=
  (∃ d, f.limit = some d ∧ d < (f.evaluation n₀ rule).duration ∧ ms = min d maxTimeoutMs) ∨
    ((∀ d, f.limit = some d → (f.evaluation n₀ rule).duration ≤ d) ∧
      (f.evaluation n₀ rule).result = .failure (.timedOut ms))

/-- An outcome keeps the deadline, for a rule whose predicate has run `count` times: it is a
timeout exactly when the predicate ran in this fan-out and times out. -/
def InTime (count : Nat) (rule : Rule) (o : BranchOutcome) : Prop :=
  ∀ ms, o.failure = some (.timedOut ms) ↔ count = n₀.getD rule.name 0 + 1 ∧ f.TimesOut n₀ rule ms

/-- Where a pausing branch stands in time. Its predicate has run once, and its result waits. It
started at some time `t`, and its pause ends when the pauses left add up to what the predicate
needs from `t`; no pause is empty. The clock has passed neither the pause nor the deadline, which
is `t` plus the limit, and the deadline's timer is still set unless the deadline is now. -/
def Paced (s : Schedule FanOutShared RuleResult BranchOutcome) (i : Nat) (rule : Rule) (due : Nat)
    (rest : List Nat) (dl : Option (Nat × BranchOutcome)) (res : RuleResult) : Prop :=
  s.shared.counters.getD rule.name 0 = n₀.getD rule.name 0 + 1 ∧
    res = (f.evaluation n₀ rule).result ∧ (∀ k ∈ rest, 0 < k) ∧ s.now ≤ due ∧
    ∃ t, due + pauseTotal rest = t + (f.evaluation n₀ rule).duration ∧
      dl = f.limit.map (fun d => (t + d, timedOut rule d)) ∧
      ∀ at_ o, dl = some (at_, o) → s.now ≤ at_ ∧ (s.TimerSet i at_ ∨ at_ = s.now)

/-- A branch keeps time: before it starts its predicate has not run in this fan-out, and while it
pauses it is paced, and woken once its deadline's timer has fired. -/
def Steady (s : Schedule FanOutShared RuleResult BranchOutcome) (j : Nat) : Prop :=
  ∀ rule, rules[j]? = some rule →
    ((s.phases[j]? = some .fresh ∨ s.phases[j]? = some .queued ∨ s.phases[j]? = some .admitted) →
      s.shared.counters.getD rule.name 0 = n₀.getD rule.name 0) ∧
    ∀ due rest dl res, s.phases[j]? = some (.pausing due rest dl res) →
      Paced (f := f) n₀ s j rule due rest dl res ∧
        ∀ at_ o, dl = some (at_, o) → s.TimerSet j at_ ∨ j ∈ s.ready

/-- Every outcome is that of a finished branch, under its rule's name, and keeps the deadline. -/
def Recorded (s : Schedule FanOutShared RuleResult BranchOutcome) : Prop :=
  ∀ o ∈ s.outcomes, ∃ (i : Nat) (rule : Rule), rules[i]? = some rule ∧
    s.phases[i]? = some .finished ∧ o.rule = rule.name ∧
    f.InTime n₀ (s.shared.counters.getD rule.name 0) rule o

/-- The invariant of the deadlines: every branch keeps time and every outcome keeps the
deadline. -/
structure Timely (s : Schedule FanOutShared RuleResult BranchOutcome) : Prop where
  steady : ∀ j, Steady (f := f) rules n₀ s j
  recorded : Recorded (f := f) rules n₀ s

variable {n₀ rules}

section Steps

variable {s s' : Schedule FanOutShared RuleResult BranchOutcome}

/-- A branch keeps time in any state with its phase, its run count, the clock, its timers and its
place among the ready branches. -/
theorem Steady.mono {j : Nat} (h : Steady (f := f) rules n₀ s j)
    (hph : s'.phases[j]? = s.phases[j]?)
    (hc : ∀ rule, rules[j]? = some rule →
      s'.shared.counters.getD rule.name 0 = s.shared.counters.getD rule.name 0)
    (hnow : s'.now = s.now) (ht : ∀ tm ∈ s.timers, tm.branch = j → tm ∈ s'.timers)
    (hr : j ∈ s.ready → j ∈ s'.ready) : Steady (f := f) rules n₀ s' j := by
  intro rule hj
  obtain ⟨hidle, hpace⟩ := h rule hj
  refine ⟨fun hp => ?_, fun due rest dl res hp => ?_⟩
  · rw [hc rule hj]
    exact hidle (by rwa [hph] at hp)
  · obtain ⟨⟨hcount, hres, hpos, hdue, t, hend, hdl, hD⟩, hwoken⟩ :=
      hpace due rest dl res (by rwa [hph] at hp)
    refine ⟨⟨by rw [hc rule hj]; exact hcount, hres, hpos, by rw [hnow]; exact hdue, t, hend, hdl,
      fun at_ o hd => ?_⟩, fun at_ o hd => (hwoken at_ o hd).imp (·.mono ht) hr⟩
    obtain ⟨hle, hset | hnow'⟩ := hD at_ o hd
    · exact ⟨hnow ▸ hle, .inl (hset.mono ht)⟩
    · exact ⟨hnow ▸ hle, .inr (hnow ▸ hnow')⟩

/-- Outcomes stay recorded while they stay, finished branches stay finished and their run counts
stay. -/
theorem Recorded.mono (h : Recorded (f := f) rules n₀ s)
    (hout : ∀ o ∈ s'.outcomes, o ∈ s.outcomes)
    (hfin : ∀ j : Nat, s.phases[j]? = some .finished → s'.phases[j]? = some .finished)
    (hc : ∀ (j : Nat) (rule : Rule), rules[j]? = some rule → s.phases[j]? = some .finished →
      s'.shared.counters.getD rule.name 0 = s.shared.counters.getD rule.name 0) :
    Recorded (f := f) rules n₀ s' := by
  intro o ho
  obtain ⟨j, rule, hj, hf, hname, hin⟩ := h o (hout o ho)
  exact ⟨j, rule, hj, hfin j hf, hname, by rw [hc j rule hj hf]; exact hin⟩

/-- A finished branch keeps time: it has nothing left to keep. -/
theorem steady_of_finished {j : Nat} (h : s.phases[j]? = some .finished) :
    Steady (f := f) rules n₀ s j := by
  intro rule _
  refine ⟨fun hp => ?_, fun due rest dl res hp => ?_⟩ <;> rw [h] at hp
  · rcases hp with hp | hp | hp <;> cases hp
  · cases hp

/-- Setting a timer keeps a branch in time. -/
theorem Steady.setTimer {j : Nat} (h : Steady (f := f) rules n₀ s j) (due b : Nat) :
    Steady (f := f) rules n₀ (s.setTimer due b) j :=
  h.mono rfl (fun _ _ => rfl) rfl (fun _ ht _ => Schedule.mem_timers_setTimer due b ht) id

/-- Taking another branch off the ready list keeps a branch in time. -/
theorem Steady.pop {i j : Nat} {rest : List Nat} (h : Steady (f := f) rules n₀ s j)
    (hready : s.ready = i :: rest) (hji : j ≠ i) :
    Steady (f := f) rules n₀ { s with ready := rest } j :=
  h.mono rfl (fun _ _ => rfl) rfl (fun _ ht _ => ht)
    fun hr => (List.mem_cons.mp (hready ▸ hr)).resolve_left hji

/-- Closing branch `i` with an outcome under its rule's name that keeps the deadline keeps the
invariant, while the other branches keep time. -/
theorem Timely.close {i : Nat} {rule : Rule} {q : BranchPhase RuleResult BranchOutcome}
    {o : BranchOutcome} (hothers : ∀ j, j ≠ i → Steady (f := f) rules n₀ s j)
    (hrec : Recorded (f := f) rules n₀ s) (hi : rules[i]? = some rule)
    (hq : s.phases[i]? = some q) (hiw : i ∉ s.waiting)
    (hwait : ∀ w ∈ s.waiting, s.phases[w]? = some .queued) (hname : o.rule = rule.name)
    (ho : f.InTime n₀ (s.shared.counters.getD rule.name 0) rule o) :
    Timely (f := f) rules n₀ (s.close i o) := by
  have hlt : i < s.phases.length := (List.getElem?_eq_some_iff.mp hq).1
  have hkeep : ∀ j, j ≠ i → ∀ tm ∈ s.timers, tm.branch = j → tm ∈ s.timers.filter (·.branch ≠ i) :=
    fun j hj tm htm hb => List.mem_filter.mpr ⟨htm, by simp [hb, hj]⟩
  -- the new outcome is the closed branch's; the old ones stay with their finished branches
  have hrecorded : ∀ phases : List (BranchPhase RuleResult BranchOutcome),
      phases[i]? = some .finished →
      (∀ j : Nat, s.phases[j]? = some .finished → phases[j]? = some .finished) →
      Recorded (f := f) rules n₀ { s with phases := phases, outcomes := s.outcomes ++ [o] } := by
    intro phases hself hfin o' ho'
    rcases List.mem_append.mp ho' with ho' | ho'
    · obtain ⟨j, rule', hj, hf, hname', hin⟩ := hrec o' ho'
      exact ⟨j, rule', hj, hfin j hf, hname', hin⟩
    · obtain rfl := List.mem_singleton.mp ho'
      exact ⟨i, rule, hi, hself, hname, ho⟩
  rcases hw : s.waiting with _ | ⟨w, ws⟩
  · rw [Schedule.close_nil hw]
    have hself : (s.phases.set i .finished)[i]? = some .finished := List.getElem?_set_self hlt
    refine ⟨fun j => ?_, ?_⟩
    · by_cases hji : j = i
      · rw [hji]
        exact steady_of_finished hself
      · exact (hothers j hji).mono (by simp [List.getElem?_set_ne (Ne.symm hji)]) (fun _ _ => rfl)
          rfl (hkeep j hji) id
    · refine (hrecorded _ hself fun j hj => ?_).mono (fun o ho => ho) (fun j h => h)
        (fun _ _ _ _ => rfl)
      by_cases hji : j = i
      · exact hji ▸ hself
      · rwa [List.getElem?_set_ne (Ne.symm hji)]
  · -- the first waiting branch is handed the permit; it has not started
    have hwq : s.phases[w]? = some .queued := hwait w (by simp [hw])
    have hwi : w ≠ i := fun hwi => hiw (by simp [hw, hwi])
    have hwlt : w < s.phases.length := (List.getElem?_eq_some_iff.mp hwq).1
    rw [Schedule.close_cons hw]
    have hself : ((s.phases.set i .finished).set w .admitted)[i]? = some .finished := by
      rw [List.getElem?_set_ne hwi, List.getElem?_set_self hlt]
    refine ⟨fun j => ?_, ?_⟩
    · by_cases hji : j = i
      · rw [hji]
        exact steady_of_finished hself
      · by_cases hjw : j = w
        · subst hjw
          intro rule' hj'
          have hidle := ((hothers j hji) rule' hj').1 (.inr (.inl hwq))
          refine ⟨fun _ => hidle, fun due rest dl res hp => ?_⟩
          rw [List.getElem?_set_self (by simpa using hwlt)] at hp
          cases hp
        · exact (hothers j hji).mono
            (by simp [List.getElem?_set_ne (Ne.symm hji), List.getElem?_set_ne (Ne.symm hjw)])
            (fun _ _ => rfl) rfl (hkeep j hji) (fun h => List.mem_append_left _ h)
    · refine (hrecorded _ hself fun j hj => ?_).mono (fun o ho => ho) (fun j h => h)
        (fun _ _ _ _ => rfl)
      by_cases hji : j = i
      · exact hji ▸ hself
      · have hjw : j ≠ w := fun hjw => by rw [hjw, hwq] at hj; cases hj
        rwa [List.getElem?_set_ne (Ne.symm hjw), List.getElem?_set_ne (Ne.symm hji)]

/-- Finishing branch `i` with a result whose outcome keeps the deadline keeps the invariant,
while the other branches keep time: the write-back leaves the run counts alone. -/
theorem Timely.finish {i : Nat} {rule : Rule} {q : BranchPhase RuleResult BranchOutcome}
    {r : RuleResult} (hothers : ∀ j, j ≠ i → Steady (f := f) rules n₀ s j)
    (hrec : Recorded (f := f) rules n₀ s) (hi : rules[i]? = some rule)
    (hq : s.phases[i]? = some q) (hiw : i ∉ s.waiting)
    (hwait : ∀ w ∈ s.waiting, s.phases[w]? = some .queued)
    (hr : ∀ ms, r = .failure (.timedOut ms) ↔
      s.shared.counters.getD rule.name 0 = n₀.getD rule.name 0 + 1 ∧ f.TimesOut n₀ rule ms) :
    Timely (f := f) rules n₀ (Schedule.finish f.kind rules s i r) := by
  have hsh : (f.finishBranch rule s.now r s.shared).2.counters = s.shared.counters :=
    f.counters_finishBranch
  rw [f.finish_eq hi]
  exact Timely.close (fun j hj => (hothers j hj).mono rfl (fun _ _ => by rw [hsh]) rfl
      (fun _ h _ => h) id)
    (hrec.mono (fun o ho => ho) (fun _ h => h) (fun _ _ _ _ => by rw [hsh])) hi hq hiw hwait
    (f.rule_finishBranch) (fun ms => by rw [hsh, f.failure_finishBranch]; exact hr ms)

/-- Setting branch `i` to pause, paced and with its deadline's timer set, keeps the invariant while
the others keep time. -/
theorem Timely.setPausing {i : Nat} {rule : Rule} {q : BranchPhase RuleResult BranchOutcome}
    {due : Nat} {rest : List Nat} {dl : Option (Nat × BranchOutcome)} {res : RuleResult}
    (hothers : ∀ j, j ≠ i → Steady (f := f) rules n₀ s j)
    (hrec : Recorded (f := f) rules n₀ s) (hi : rules[i]? = some rule)
    (hq : s.phases[i]? = some q) (hnf : q ≠ .finished)
    (hpace : Paced (f := f) n₀ s i rule due rest dl res)
    (hset : ∀ at_ o, dl = some (at_, o) → s.TimerSet i at_) :
    Timely (f := f) rules n₀ (s.setPhase i (.pausing due rest dl res)) := by
  have hlt : i < s.phases.length := (List.getElem?_eq_some_iff.mp hq).1
  have hself : (s.setPhase i (.pausing due rest dl res)).phases[i]? = some (.pausing due rest dl res) :=
    List.getElem?_set_self hlt
  refine ⟨fun j => ?_, hrec.mono (fun o ho => ho) (fun j hj => ?_) (fun _ _ _ _ => rfl)⟩
  · by_cases hji : j = i
    · rw [hji]
      intro rule' hi'
      obtain rfl := Option.some.inj (hi.symm.trans hi')
      refine ⟨fun hp => ?_, fun due' rest' dl' res' hp => ?_⟩
      · rw [hself] at hp
        rcases hp with hp | hp | hp <;> cases hp
      · rw [hself, Option.some.injEq, BranchPhase.pausing.injEq] at hp
        obtain ⟨rfl, rfl, rfl, rfl⟩ := hp
        exact ⟨hpace, fun at_ o hd => .inl (hset at_ o hd)⟩
    · exact (hothers j hji).mono (by simp [Schedule.setPhase, List.getElem?_set_ne (Ne.symm hji)])
        (fun _ _ => rfl) rfl (fun _ h _ => h) id
  · have hji : j ≠ i := fun hji => hnf (Option.some.inj (hq.symm.trans (hji ▸ hj)))
    simpa [Schedule.setPhase, List.getElem?_set_ne (Ne.symm hji)] using hj

end Steps

section Start

variable {s : Schedule FanOutShared RuleResult BranchOutcome} {i : Nat} {rule : Rule}
  {q : BranchPhase RuleResult BranchOutcome}

/-- A predicate that pauses for some time ran, and needs its first pause and the rest, none of
them empty. -/
theorem started_of_pauses {k : Nat} {rest : List Nat}
    (hp : (f.evaluation n₀ rule).pauses.filter (· ≠ 0) = k :: rest) :
    (f.evaluation n₀ rule).invoked = true ∧ 0 < k ∧ (∀ x ∈ rest, 0 < x) ∧
      (f.evaluation n₀ rule).duration = k + pauseTotal rest := by
  have hpos : ∀ x ∈ k :: rest, 0 < x := fun x hx => by
    have hmem := List.mem_filter.mp (hp ▸ hx)
    simp only [ne_eq, decide_eq_true_eq] at hmem
    omega
  refine ⟨Rule.invoked_of_pauses fun he => ?_, hpos k (List.mem_cons_self ..),
    fun x hx => hpos x (List.mem_cons_of_mem k hx), ?_⟩
  · simp only [evaluation, he, List.filter_nil] at hp
    cases hp
  · rw [Evaluation.duration, ← pauseTotal_filter, hp, pauseTotal]

/-- Starting branch `i`, before which its predicate has not run: a hit closes it; otherwise the
predicate runs once with the count the fan-out started with, and the branch finishes at once,
times out at once under a limit of nothing, or pauses with its deadline set from now. -/
theorem Timely.start (hnames : (rules.map Rule.name).Nodup)
    (hothers : ∀ j, j ≠ i → Steady (f := f) rules n₀ s j)
    (hrec : Recorded (f := f) rules n₀ s) (hi : rules[i]? = some rule)
    (hq : s.phases[i]? = some q) (hnf : q ≠ .finished) (hiw : i ∉ s.waiting)
    (hwait : ∀ w ∈ s.waiting, s.phases[w]? = some .queued)
    (hidle : s.shared.counters.getD rule.name 0 = n₀.getD rule.name 0) :
    Timely (f := f) rules n₀ (Schedule.start f.kind rules s i) := by
  unfold Schedule.start
  simp only [hi, kind_start]
  have hcases := f.startBranch_cases rule s.now s.shared
  have hev : rule.evaluate f.ctx f.identity (s.shared.counters.getD rule.name 0) =
      f.evaluation n₀ rule := by
    rw [hidle]
    rfl
  rw [hev] at hcases
  generalize f.startBranch rule s.now s.shared = st at hcases ⊢
  obtain ⟨launch, sh⟩ := st
  dsimp only at hcases ⊢
  -- the start changes no other branch's run count
  have hcother : ∀ (j : Nat) (rule' : Rule), rules[j]? = some rule' → j ≠ i →
      sh.counters.getD rule'.name 0 = s.shared.counters.getD rule'.name 0 := by
    intro j rule' hj hji
    have hne : rule.name ≠ rule'.name := fun hn => hji (index_eq_of_name hnames hi hj hn).symm
    rcases hcases with ⟨_, -, hc⟩ | ⟨_, -, -, hc⟩ <;> rw [hc]
    split
    · rw [Std.TreeMap.getD_insert, if_neg (by simpa [Std.LawfulEqCmp.compare_eq_iff_eq] using hne)]
    · rfl
  have hothers₂ : ∀ j, j ≠ i → Steady (f := f) rules n₀ { s with shared := sh } j := fun j hj =>
    (hothers j hj).mono rfl (fun rule' hj' => hcother j rule' hj' hj) rfl (fun _ h _ => h) id
  have hrec₂ : Recorded (f := f) rules n₀ { s with shared := sh } :=
    hrec.mono (fun o ho => ho) (fun _ h => h) fun j rule' hj' hf => hcother j rule' hj' fun hji => by
      rw [hji, hq] at hf
      exact hnf (Option.some.inj hf)
  rcases hcases with ⟨roles, rfl, hc⟩ | ⟨ps, hps, rfl, hc⟩
  · -- a hit: the predicate did not run
    refine Timely.close hothers₂ hrec₂ hi hq hiw hwait rfl fun ms => ?_
    dsimp only
    rw [hc, hidle]
    constructor
    · intro h
      cases h
    · rintro ⟨h, -⟩
      omega
  have hcself : (f.evaluation n₀ rule).invoked = true →
      sh.counters.getD rule.name 0 = n₀.getD rule.name 0 + 1 := by
    intro hinv
    rw [hc]
    simp only [hinv, if_true, Std.TreeMap.getD_insert_self, hidle]
  -- the pauses that take time and the limit decide whether the branch ends now or sleeps
  rcases ps with _ | ⟨k, rest⟩
  · have hzero : (f.evaluation n₀ rule).duration = 0 := by
      rw [Evaluation.duration, ← pauseTotal_filter, ← hps]
      rfl
    refine Timely.finish hothers₂ hrec₂ hi hq hiw hwait fun ms => ⟨fun h => ?_, ?_⟩
    · exact ⟨hcself (Rule.invoked_of_failure h), .inr ⟨fun d _ => hzero ▸ Nat.zero_le d, h⟩⟩
    · rintro ⟨-, ⟨d, -, hlt, -⟩ | ⟨-, h⟩⟩
      · exact absurd hlt (hzero ▸ Nat.not_lt_zero d)
      · exact h
  obtain ⟨hinv, hk, hrest, hdur⟩ := started_of_pauses hps.symm
  rcases hdl : f.kind.deadline with _ | ⟨_ | d, late⟩
  · -- a pause and no deadline
    have hlimit := (f.kind_deadline_eq_none).mp hdl
    refine Timely.setPausing (fun j hj => (hothers₂ j hj).setTimer _ i)
      (hrec₂.mono (fun o ho => ho) (fun _ h => h) (fun _ _ _ _ => rfl)) hi hq hnf
      ⟨hcself hinv, rfl, hrest, Nat.le_add_right _ _, s.now,
        show s.now + k + pauseTotal rest = s.now + (f.evaluation n₀ rule).duration by omega,
        by rw [hlimit]; rfl, fun _ _ hd => nomatch hd⟩ fun _ _ hd => nomatch hd
  · -- a limit of nothing: the branch times out as it starts
    obtain ⟨hlimit, rfl⟩ := (f.kind_deadline_eq_some).mp hdl
    refine Timely.close hothers₂ hrec₂ hi hq hiw hwait rfl fun ms => ?_
    simp only [RuleError.timeout, Option.some.injEq, RuleError.timedOut.injEq]
    constructor
    · intro h
      exact ⟨hcself hinv, .inl ⟨0, hlimit, by omega, h.symm⟩⟩
    · rintro ⟨-, ⟨d', hd', -, rfl⟩ | ⟨hle, -⟩⟩
      · rw [hlimit] at hd'
        cases hd'
        rfl
      · have := hle 0 hlimit
        omega
  · -- a pause and a deadline, both counted from now
    obtain ⟨hlimit, rfl⟩ := (f.kind_deadline_eq_some).mp hdl
    refine Timely.setPausing (fun j hj => ((hothers₂ j hj).setTimer _ i).setTimer _ i)
      (hrec₂.mono (fun o ho => ho) (fun _ h => h) (fun _ _ _ _ => rfl)) hi hq hnf
      ⟨hcself hinv, rfl, hrest, Nat.le_add_right _ _, s.now,
        show s.now + k + pauseTotal rest = s.now + (f.evaluation n₀ rule).duration by omega,
        by rw [hlimit]; rfl, fun at_ o hd => ?_⟩ fun at_ o hd => ?_
    · cases hd
      exact ⟨Nat.le_add_right _ _, .inl (Schedule.mem_setTimer _ _ i)⟩
    · cases hd
      exact Schedule.mem_setTimer _ _ i

end Start

section Poll

variable {s : Schedule FanOutShared RuleResult BranchOutcome} {i : Nat} {rule : Rule}

/-- A woken pausing branch keeps the deadline: it finishes with its result only when its predicate
needs no more than the limit, it times out only when it needs more, and otherwise it pauses again
or waits on, paced. -/
theorem Timely.pollPausing {due : Nat} {rest : List Nat} {dl : Option (Nat × BranchOutcome)}
    {res : RuleResult} (hothers : ∀ j, j ≠ i → Steady (f := f) rules n₀ s j)
    (hrec : Recorded (f := f) rules n₀ s) (hi : rules[i]? = some rule)
    (hph : s.phases[i]? = some (.pausing due rest dl res)) (hiw : i ∉ s.waiting)
    (hwait : ∀ w ∈ s.waiting, s.phases[w]? = some .queued)
    (hpace : Paced (f := f) n₀ s i rule due rest dl res) :
    Timely (f := f) rules n₀ (Schedule.poll f.kind rules s i) := by
  obtain ⟨hcount, hres, hpos, hdue, t, hend, hdl, hD⟩ := hpace
  rcases Schedule.poll_cases f.kind rules s i with ⟨hidle, -⟩ | ⟨hp, -⟩ | ⟨hp, -⟩ | ⟨hp, -⟩ |
      ⟨due', rest', dl', res', hph', hpause⟩
  · rcases hidle _ hph with h | h <;> cases h
  all_goals try (rw [hph] at hp; cases hp)
  rw [hph, Option.some.injEq, BranchPhase.pausing.injEq] at hph'
  obtain ⟨rfl, rfl, rfl, rfl⟩ := hph'
  rcases hpause with ⟨hnow, rfl, heq⟩ | ⟨at_, o, rfl, hat, hleft, heq⟩ |
      ⟨k, more, hnow, rfl, hahead, heq⟩ | ⟨hnow, hahead, heq⟩ <;> rw [heq]
  · -- the last pause is over by the deadline: the predicate needs no more than the limit
    have hwithin : ∀ d, f.limit = some d → (f.evaluation n₀ rule).duration ≤ d := by
      intro d hd
      rw [hd] at hdl
      obtain ⟨hle, -⟩ := hD _ _ hdl
      simp only [pauseTotal] at hend
      omega
    refine Timely.finish hothers hrec hi hph hiw hwait fun ms => ⟨fun h => ?_, ?_⟩
    · exact ⟨hcount, .inr ⟨hwithin, hres ▸ h⟩⟩
    · rintro ⟨-, ⟨d, hd, hlt, -⟩ | ⟨-, h⟩⟩
      · exact absurd (hwithin d hd) (Nat.not_le_of_lt hlt)
      · exact hres ▸ h
  · -- the deadline has passed before the last pause ended: the predicate needs more
    obtain ⟨d, hd, rfl, rfl⟩ : ∃ d, f.limit = some d ∧ at_ = t + d ∧ o = timedOut rule d := by
      cases hl : f.limit with
      | none =>
        rw [hl] at hdl
        cases hdl
      | some d =>
        rw [hl] at hdl
        cases hdl
        exact ⟨d, rfl, rfl, rfl⟩
    have hover : d < (f.evaluation n₀ rule).duration := by
      have hrest : s.now < due ∨ 0 < pauseTotal rest := hleft.imp id (pauseTotal_pos hpos)
      omega
    refine Timely.close hothers hrec hi hph hiw hwait rfl fun ms => ?_
    simp only [timedOut, RuleError.timeout, Option.some.injEq, RuleError.timedOut.injEq]
    constructor
    · intro h
      exact ⟨hcount, .inl ⟨d, hd, hover, h.symm⟩⟩
    · rintro ⟨-, ⟨d', hd', -, rfl⟩ | ⟨hle, -⟩⟩
      · rw [hd] at hd'
        cases hd'
        rfl
      · exact absurd (hle d hd) (Nat.not_le_of_lt hover)
  · -- the pause is over before the deadline, whose timer is set: the next pause starts now
    have hset : ∀ at_ o, dl = some (at_, o) → (s.setTimer (s.now + k) i).TimerSet i at_ :=
      fun at_ o hd => ((hD at_ o hd).2.resolve_right (Nat.ne_of_gt (hahead at_ o hd))).mono
        fun _ h _ => Schedule.mem_timers_setTimer _ i h
    refine Timely.setPausing (fun j hj => (hothers j hj).setTimer _ i)
      (hrec.mono (fun o ho => ho) (fun _ h => h) (fun _ _ _ _ => rfl)) hi hph (by simp)
      ⟨hcount, hres, fun x hx => hpos x (List.mem_cons_of_mem k hx), Nat.le_add_right _ _, t,
        ?_, hdl, fun at_ o hd => ⟨Nat.le_of_lt (hahead at_ o hd), .inl (hset at_ o hd)⟩⟩ hset
    show s.now + k + pauseTotal more = t + _
    simp only [pauseTotal] at hend
    omega
  · -- the pause and the deadline are ahead, the deadline's timer set
    have hset : ∀ at_ o, dl = some (at_, o) → s.TimerSet i at_ :=
      fun at_ o hd => (hD at_ o hd).2.resolve_right (Nat.ne_of_gt (hahead at_ o hd))
    refine ⟨fun j => ?_, hrec⟩
    by_cases hji : j = i
    · rw [hji]
      intro rule' hi'
      obtain rfl := Option.some.inj (hi.symm.trans hi')
      refine ⟨fun hp => ?_, fun due' rest' dl' res' hp => ?_⟩
      · rw [hph] at hp
        rcases hp with hp | hp | hp <;> cases hp
      · rw [hph, Option.some.injEq, BranchPhase.pausing.injEq] at hp
        obtain ⟨rfl, rfl, rfl, rfl⟩ := hp
        exact ⟨⟨hcount, hres, hpos, hdue, t, hend, hdl,
          fun at_ o hd => ⟨(hD at_ o hd).1, .inl (hset at_ o hd)⟩⟩, fun at_ o hd => .inl (hset at_ o hd)⟩
    · exact hothers j hji

/-- One step of a branch taken off the ready list keeps the invariant. -/
theorem Timely.poll {rest : List Nat} {cap : Nat} (h : Timely (f := f) rules n₀ s)
    (hp : Schedule.Progress rules cap s) (hnames : (rules.map Rule.name).Nodup)
    (hready : s.ready = i :: rest) :
    Timely (f := f) rules n₀ (Schedule.poll f.kind rules { s with ready := rest } i) := by
  have hwait : ∀ w ∈ s.waiting, s.phases[w]? = some .queued := fun w hw => (hp.queued w).mpr hw
  have hiw : ∀ q, s.phases[i]? = some q → q ≠ .queued → i ∉ s.waiting := fun q hq hne hw => by
    rw [(hp.queued i).mpr hw] at hq
    exact hne (Option.some.inj hq).symm
  have hothers : ∀ j, j ≠ i → Steady (f := f) rules n₀ { s with ready := rest } j :=
    fun j hj => (h.steady j).pop hready hj
  have hrec : Recorded (f := f) rules n₀ { s with ready := rest } :=
    h.recorded.mono (fun o ho => ho) (fun _ h => h) (fun _ _ _ _ => rfl)
  rcases Schedule.poll_cases f.kind rules { s with ready := rest } i with ⟨hidle, heq⟩ |
      ⟨hph, -, heq⟩ | ⟨hph, -, heq⟩ | ⟨hph, heq⟩ | ⟨due, more, dl, res, hph, -⟩
  · -- nothing to do for a queued or finished branch
    rw [heq]
    refine ⟨fun j => ?_, hrec⟩
    by_cases hji : j = i
    · rw [hji]
      intro rule hr
      refine ⟨((h.steady i) rule hr).1, fun due rest' dl res hp => ?_⟩
      rcases hidle _ hp with hp' | hp' <;> cases hp'
    · exact hothers j hji
  · -- a new branch takes a free permit and starts
    rw [heq]
    obtain ⟨rule, hr⟩ := hp.branch_of_phase hph
    exact Timely.start hnames (fun j hj => (hothers j hj).mono rfl (fun _ _ => rfl) rfl
        (fun _ h _ => h) id)
      (hrec.mono (fun o ho => ho) (fun _ h => h) (fun _ _ _ _ => rfl)) hr hph (by simp)
      (hiw _ hph (by simp)) hwait (((h.steady i) rule hr).1 (.inl hph))
  · -- a new branch finds no permit and waits for one, its predicate not run
    rw [heq]
    have hlt : i < s.phases.length := (List.getElem?_eq_some_iff.mp hph).1
    refine ⟨fun j => ?_, hrec.mono (fun o ho => ho) (fun j hj => ?_) (fun _ _ _ _ => rfl)⟩
    · by_cases hji : j = i
      · rw [hji]
        intro rule hr
        refine ⟨fun _ => ((h.steady i) rule hr).1 (.inl hph), fun _ _ _ _ hp => ?_⟩
        simp only [Schedule.setPhase, List.getElem?_set_self hlt] at hp
        cases hp
      · exact (hothers j hji).mono
          (by simp [Schedule.setPhase, List.getElem?_set_ne (Ne.symm hji)])
          (fun _ _ => rfl) rfl (fun _ h _ => h) id
    · have hji : j ≠ i := fun hji => by
        rw [hji] at hj
        rw [hj] at hph
        cases hph
      simpa [Schedule.setPhase, List.getElem?_set_ne (Ne.symm hji)] using hj
  · -- an admitted branch starts with the permit it was handed
    rw [heq]
    obtain ⟨rule, hr⟩ := hp.branch_of_phase hph
    exact Timely.start hnames hothers hrec hr hph (by simp) (hiw _ hph (by simp)) hwait
      (((h.steady i) rule hr).1 (.inr (.inr hph)))
  · -- a woken pausing branch
    obtain ⟨rule, hr⟩ := hp.branch_of_phase hph
    exact Timely.pollPausing hothers hrec hr hph (hiw _ hph (by simp)) hwait
      (((h.steady i) rule hr).2 due more dl res hph).1

end Poll

/-- Firing the earliest timers keeps the invariant. With nothing ready every pausing branch has
its pause's timer and its deadline's timer set, so the clock moves to no later than either; a
deadline that fires then is now, and its branch is woken. -/
theorem Timely.fire {s : Schedule FanOutShared RuleResult BranchOutcome} {cap : Nat}
    (h : Timely (f := f) rules n₀ s) (hp : Schedule.Progress rules cap s) (hready : s.ready = [])
    (hne : s.timers ≠ []) : Timely (f := f) rules n₀ s.fire := by
  obtain ⟨due, hmin⟩ : ∃ due, (s.timers.map (·.due)).min? = some due := by
    cases hm : (s.timers.map (·.due)).min? with
    | none => exact absurd (List.map_eq_nil_iff.mp (List.min?_eq_none_iff.mp hm)) hne
    | some due => exact ⟨due, rfl⟩
  -- the clock moves to the earliest timer, which is no later than any
  have hfirst : ∀ j D, s.TimerSet j D → due ≤ D := by
    rintro j D ⟨tm, htm, -, rfl⟩
    exact (List.min?_eq_some_iff.mp hmin).2 _ (List.mem_map_of_mem htm)
  -- a timer is kept when it is later, and wakes its branch when it fires
  have hafter : ∀ j D, s.TimerSet j D → (s.fire.TimerSet j D ∧ due < D) ∨
      (j ∈ s.fire.ready ∧ D = due) := by
    rintro j D ⟨tm, htm, hb, rfl⟩
    rw [Schedule.fire_eq hmin]
    by_cases hlate : due < tm.due
    · exact .inl ⟨⟨tm, List.mem_filter.mpr ⟨htm, by simpa using hlate⟩, hb, rfl⟩, hlate⟩
    · refine .inr ⟨(Schedule.mem_wake _ _).mpr (.inr (List.mem_map.mpr ⟨tm, List.mem_mergeSort.mpr
        (List.mem_filter.mpr ⟨htm, by simpa using hlate⟩), hb⟩)), ?_⟩
      exact Nat.le_antisymm (Nat.le_of_not_lt hlate) (hfirst j _ ⟨tm, htm, hb, rfl⟩)
  have hnow : s.fire.now = due := by rw [Schedule.fire_eq hmin]
  have hsame : s.fire.phases = s.phases ∧ s.fire.shared = s.shared ∧
      s.fire.outcomes = s.outcomes := by
    rw [Schedule.fire_eq hmin]
    exact ⟨rfl, rfl, rfl⟩
  obtain ⟨hph, hsh, hout⟩ := hsame
  refine ⟨fun j rule hj => ?_, h.recorded.mono (fun o ho => hout ▸ ho) (fun _ h => hph ▸ h)
    (fun _ _ _ _ => by rw [hsh])⟩
  obtain ⟨hidle, hpace⟩ := (h.steady j) rule hj
  refine ⟨fun hq => by rw [hsh]; exact hidle (by rwa [hph] at hq), fun due' rest dl res hq => ?_⟩
  rw [hph] at hq
  obtain ⟨⟨hcount, hres, hpos, -, t, hend, hdl, -⟩, hwoken⟩ := hpace due' rest dl res hq
  -- nothing is ready, so the branch's pause and deadline have their timers
  have hpause : s.TimerSet j due' := by
    rcases (hp.scheduled j).2 due' rest dl res hq with htm | ⟨hr, -⟩
    · exact htm
    · rw [hready] at hr
      cases hr
  have hset : ∀ at_ o, dl = some (at_, o) → s.TimerSet j at_ := fun at_ o hd =>
    (hwoken at_ o hd).resolve_right (by rw [hready]; exact List.not_mem_nil)
  refine ⟨⟨by rw [hsh]; exact hcount, hres, hpos, by rw [hnow]; exact hfirst j _ hpause, t, hend,
    hdl, fun at_ o hd => ?_⟩, fun at_ o hd => ?_⟩
  · rcases hafter j at_ (hset at_ o hd) with ⟨hkept, hlt⟩ | ⟨-, hD⟩
    · exact ⟨by rw [hnow]; exact Nat.le_of_lt hlt, .inl hkept⟩
    · exact ⟨Nat.le_of_eq (by rw [hnow, hD]), .inr (by rw [hnow, hD])⟩
  · rcases hafter j at_ (hset at_ o hd) with ⟨hkept, -⟩ | ⟨hr, -⟩
    · exact .inl hkept
    · exact .inr hr

/-- A run of the fan-out from a state with both invariants keeps the deadlines. -/
theorem Timely.runFor {cap : Nat} (hnames : (rules.map Rule.name).Nodup) :
    ∀ (fuel : Nat) {s : Schedule FanOutShared RuleResult BranchOutcome},
      Schedule.Progress rules cap s → Timely (f := f) rules n₀ s →
      Timely (f := f) rules n₀ (Schedule.runFor f.kind rules fuel s)
  | 0, _, _, h => h
  | fuel + 1, s, hp, h => by
    unfold Schedule.runFor
    split
    · rename_i i rest hready
      exact Timely.runFor hnames fuel (hp.poll f.kind hready).1 (h.poll hp hnames hready)
    · rename_i hready
      split
      · exact h
      · rename_i htimers
        have hne : s.timers ≠ [] := fun he => htimers (by simp [he])
        exact Timely.runFor hnames fuel (hp.fire f.kind hne).1 (h.fire hp hready hne)

variable (f rules n₀)

/-- The fan-out as it starts keeps time: no predicate has run and nothing is recorded. -/
theorem timely_initial (now : Nat) (c₀ : RuleCache) :
    Timely (f := f) rules n₀ (Schedule.initial rules f.permits now ⟨c₀, false, n₀⟩) := by
  refine ⟨fun j rule _ => ⟨fun _ => rfl, fun due rest dl res hp => ?_⟩, fun o ho => ?_⟩
  · simp only [Schedule.initial, List.getElem?_map, Option.map_eq_some_iff] at hp
    obtain ⟨_, -, h⟩ := hp
    cases h
  · cases ho

end Deadlines

/-- A branch whose story closes with a failure made no write-back: a hit closes with its roles,
and after a run only a success is written back. -/
theorem Told.no_write_of_failed {f : FanOut} {n : Nat} {rule : Rule} {acts : List BranchAct}
    (h : Told f n rule .finished acts) {o : BranchOutcome} (ho : BranchAct.close o ∈ acts)
    (hf : o.failure.isSome = true) (t : Nat) (roles : NameSet) (a : Except CacheError Unit) :
    BranchAct.write rule t roles a ∉ acts := by
  intro hw
  rcases h with ⟨_, roles', rfl⟩ | ⟨_, post, ⟨pre, hopen, rfl⟩, hclosing, rfl⟩
  · simp at hw
  · -- only a success closes after a write-back, and it closes with no failure
    rcases hopen with rfl | ⟨_, rfl⟩ | ⟨_, _, rfl⟩ <;>
    rcases hclosing with ⟨roles', -, rfl | ⟨_, _, rfl⟩⟩ | ⟨e, -, rfl⟩ | ⟨d, -, rfl⟩ <;>
    simp only [List.nil_append, List.cons_append, List.mem_cons, reduceCtorEq,
      BranchAct.close.injEq, List.not_mem_nil, or_false, false_or] at hw ho <;>
    rw [ho] at hf <;> cases hf

end FanOut

/-! ## Permits and deadlines of a resolution -/

/-- Permits and deadlines, for a fan-out of rules with distinct names, from any cache and run
counts, under any parallelism and limit. At every step at most the larger of the parallelism and
one rule branches hold a permit, and so do community branches of any sync. Every outcome of a rule
is a timeout of `ms` milliseconds exactly when its predicate ran in this fan-out and either needs
more virtual time than the limit, `ms` being the limit saturated at `maxTimeoutMs`, or reported
that timeout itself within the limit; whatever time the branch spent waiting for its permit or
reading the cache does not count. A timed-out rule gives no roles, and its branch writes nothing
back in the log that tells the run. -/
theorem fan_out_respects_permits_and_deadlines (f : FanOut) (rules : List Rule) (now : Nat)
    (c₀ : RuleCache) (n₀ : Std.TreeMap String Nat compare) (hnames : (rules.map Rule.name).Nodup) :
    let done := f.run rules now ⟨c₀, false, n₀⟩
    (∀ k, (Schedule.runFor f.kind rules k (Schedule.initial rules f.permits now ⟨c₀, false, n₀⟩)
      ).phases.countP BranchPhase.holdsPermit ≤ max f.permits 1) ∧
    (∀ (m : Manager) (user : String) (roles cs : NameSet) (k : Nat),
      let gs := cs.toList.filterMap m.communities.get?
      (Schedule.runFor (communityKind user roles m.config.removeUnwarranted) gs k
        (Schedule.initial gs m.config.maxParallelism m.clock ⟨m.platform, []⟩)).phases.countP
          BranchPhase.holdsPermit ≤ max m.config.maxParallelism 1) ∧
    ∃ log, FanOut.Accounts f c₀ n₀ rules done log ∧
      ∀ rule ∈ rules, ∀ o ∈ done.outcomes, o.rule = rule.name → ∀ ms,
        let ev := rule.evaluate f.ctx f.identity (n₀.getD rule.name 0)
        (o.failure = some (.timedOut ms) ↔
          done.shared.counters.getD rule.name 0 = n₀.getD rule.name 0 + 1 ∧
            ((∃ d, f.limit = some d ∧ d < ev.duration ∧ ms = min d maxTimeoutMs) ∨
              ((∀ d, f.limit = some d → ev.duration ≤ d) ∧ ev.result = .failure (.timedOut ms)))) ∧
        (o.failure = some (.timedOut ms) →
          o.roles = ∅ ∧ ∀ t roles a, BranchAct.write rule t roles a ∉ log) := by
  intro done
  have htimely : FanOut.Timely (f := f) rules n₀ done :=
    FanOut.Timely.runFor hnames (Schedule.stepBound f.kind rules)
      (Schedule.progress_initial f.permits now _) (FanOut.timely_initial f rules n₀ now c₀)
  refine ⟨Schedule.held_le_permits_runFor f.kind f.permits now _,
    fun m user roles cs k => Schedule.held_le_permits_runFor _ _ _ _ k, ?_⟩
  obtain ⟨log, hacc, htold⟩ := @FanOut.run_accounts f c₀ n₀ rules hnames now
  refine ⟨log, hacc, fun rule hrule o ho hname ms => ?_⟩
  obtain ⟨j, hj⟩ := List.mem_iff_getElem?.mp hrule
  -- the outcome is recorded for a finished branch, which is the rule's own by its name
  obtain ⟨i, rule', hi, -, hname', hin⟩ := htimely.recorded o ho
  obtain rfl := FanOut.index_eq_of_name hnames hi hj (hname'.symm.trans hname)
  obtain rfl : rule' = rule := Option.some.inj (hi.symm.trans hj)
  refine ⟨hin ms, fun hto => ?_⟩
  -- the branch's own acts hold its closing with the timeout: no roles, and no write-back
  have hclose : BranchAct.close o ∈ FanOut.actsOf rule'.name log :=
    List.mem_filter.mpr ⟨FanOut.mem_closes.mp (hacc.outcomes ▸ ho), by simpa [BranchAct.name] using hname'⟩
  refine ⟨by rw [(htold i rule' hi).close_failure hclose hto], fun t roles a hw => ?_⟩
  exact (htold i rule' hi).no_write_of_failed hclose (by rw [hto]; rfl) t roles a
    (List.mem_filter.mpr ⟨hw, by simp [BranchAct.name]⟩)

/-- One permit, a limit of 5 ms, a rule that answers at once and one that sleeps 10 ms first,
with no cache and no earlier runs. -/
theorem fan_out_respects_permits_and_deadlines_for_a_slow_rule :
    let f : FanOut := ⟨"U", ⟨"U", "Someone", "0001"⟩, none, some 5, 1⟩
    let rules : List Rule :=
      [⟨"Fast", .weak, none, .roles ["a"]⟩, ⟨"Slow", .weak, none, .sleep 10 (.roles ["b"])⟩]
    let c₀ := RuleCache.disabled
    let n₀ : Std.TreeMap String Nat compare := ∅
    (rules.map Rule.name).Nodup ∧
    let done := f.run rules 0 ⟨c₀, false, n₀⟩
    (∀ k, (Schedule.runFor f.kind rules k (Schedule.initial rules f.permits 0 ⟨c₀, false, n₀⟩)
      ).phases.countP BranchPhase.holdsPermit ≤ max f.permits 1) ∧
    (∀ (m : Manager) (user : String) (roles cs : NameSet) (k : Nat),
      let gs := cs.toList.filterMap m.communities.get?
      (Schedule.runFor (communityKind user roles m.config.removeUnwarranted) gs k
        (Schedule.initial gs m.config.maxParallelism m.clock ⟨m.platform, []⟩)).phases.countP
          BranchPhase.holdsPermit ≤ max m.config.maxParallelism 1) ∧
    ∃ log, FanOut.Accounts f c₀ n₀ rules done log ∧
      ∀ rule ∈ rules, ∀ o ∈ done.outcomes, o.rule = rule.name → ∀ ms,
        let ev := rule.evaluate f.ctx f.identity (n₀.getD rule.name 0)
        (o.failure = some (.timedOut ms) ↔
          done.shared.counters.getD rule.name 0 = n₀.getD rule.name 0 + 1 ∧
            ((∃ d, f.limit = some d ∧ d < ev.duration ∧ ms = min d maxTimeoutMs) ∨
              ((∀ d, f.limit = some d → ev.duration ≤ d) ∧ ev.result = .failure (.timedOut ms)))) ∧
        (o.failure = some (.timedOut ms) →
          o.roles = ∅ ∧ ∀ t roles a, BranchAct.write rule t roles a ∉ log) := by
  intro f rules c₀ n₀
  have hnames : (rules.map Rule.name).Nodup := by decide
  exact ⟨hnames, fan_out_respects_permits_and_deadlines f rules 0 c₀ n₀ hnames⟩

end RoleSync
