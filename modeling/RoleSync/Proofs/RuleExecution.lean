import RoleSync.Proofs.StandardRoles
/-!
The contract of one rule execution. A strong rule without a disclosed identity succeeds with no
roles and its predicate is not invoked; every other execution invokes the predicate exactly once,
a weak one with the context alone and a strong one with the context and the given identity. How
the predicate's run ends then decides the result (`Ending.Reported`): a panic is a failure that
carries the panic's text, or a fixed text for a payload that is not text; an error passes
through unchanged; and a produced role set is accepted as it is exactly when it is `Acceptable`,
and is otherwise refused for its least unacceptable name in byte order, with a text that says
whether that name is blank or standard. A panic while the predicate builds its future and one
while the future runs end the run alike.

The least unacceptable name is what the check finds first, since a role set lists its names in
ascending order (`find?_least`, `checkRoles_of_least`).

Main statement: `rule_execution_contract`.
-/

namespace RoleSync

set_option autoImplicit false

/-! ## Unacceptable names -/

/-- A name that no rule may produce: blank once trimmed, or the name of a standard role. -/
def Unacceptable (x : String) : Prop := Text.trim x = "" ∨ ∃ r : StandardRole, x = r.name

theorem isBadRoleName_iff (x : String) : isBadRoleName x = true ↔ Unacceptable x := by
  rw [← Bool.not_eq_false, isBadRoleName_eq_false_iff, Unacceptable]
  simp only [ne_eq, Classical.not_and_iff_not_or_not, Classical.not_not, Classical.not_forall]

/-- The least name of a role set that no rule may produce, in byte order. -/
def IsLeastUnacceptable (roles : NameSet) (b : String) : Prop :=
  b ∈ roles ∧ Unacceptable b ∧ ∀ x ∈ roles, Unacceptable x → ¬ x < b

/-- The text of the refusal of a role set for one of its names. -/
def unacceptableText (b : String) : String :=
  if Text.trim b = "" then "empty role name"
  else "reserved role name " ++ b ++ " cannot be produced by a rule"

/-- What an execution must report for each way its predicate's run can end. -/
def Ending.Reported : Ending → RuleResult → Prop
  | .panic payload, res => res = .failure (.panicked (payload.getD "non-string panic payload"))
  | .error e, res => res = .failure e
  | .roles names, res =>
    (Acceptable (NameSet.ofList names) ∧ res = .success (NameSet.ofList names)) ∨
      ∃ b, IsLeastUnacceptable (NameSet.ofList names) b ∧ res = .failure (.malformed (unacceptableText b))

/-! ## The check of a produced role set -/

/-- On a strictly ascending list, the first element that passes a test is the least that does. -/
theorem find?_least {l : List String} (hl : l.Pairwise (· < ·)) {p : String → Bool} {b : String}
    (h : l.find? p = some b) : ∀ x ∈ l, p x = true → ¬ x < b := by
  obtain ⟨-, before, after, rfl, hbefore⟩ := List.find?_eq_some_iff_append.mp h
  intro x hx hpx hlt
  rcases List.mem_append.mp hx with hx | hx
  · -- nothing before the first match passes
    have hfails := hbefore x hx
    simp [hpx] at hfails
  · rcases List.mem_cons.mp hx with rfl | hx
    · exact String.lt_irrefl x hlt
    · -- everything after the first match is above it
      have hbx : b < x := (List.pairwise_cons.mp (List.pairwise_append.mp hl).2.1).1 x hx
      exact String.lt_asymm hbx hlt

theorem badRoleError_eq (b : String) : badRoleError b = .malformed (unacceptableText b) := by
  unfold badRoleError unacceptableText
  by_cases hb : Text.trim b = ""
  · rw [if_pos ((Text.isBlank_iff_trim_eq_empty b).mpr hb), if_pos hb]
  · rw [if_neg (mt (Text.isBlank_iff_trim_eq_empty b).mp hb), if_neg hb]

/-- The name the check stops at is the least unacceptable one. -/
theorem isLeastUnacceptable_of_find? {roles : NameSet} {b : String}
    (h : roles.toList.find? isBadRoleName = some b) : IsLeastUnacceptable roles b := by
  have hsorted : roles.toList.Pairwise (· < ·) :=
    roles.ordered_toList.imp fun h => compareOfLessAndEq_eq_lt.mp h
  refine ⟨Std.TreeSet.mem_toList.mp (List.mem_of_find?_eq_some h),
    (isBadRoleName_iff b).mp (List.find?_some h), fun x hx hbad => ?_⟩
  exact find?_least hsorted h x (Std.TreeSet.mem_toList.mpr hx) ((isBadRoleName_iff x).mpr hbad)

theorem IsLeastUnacceptable.unique {roles : NameSet} {b c : String}
    (hb : IsLeastUnacceptable roles b) (hc : IsLeastUnacceptable roles c) : b = c :=
  String.le_antisymm (hb.2.2 c hc.1 hc.2.1) (hc.2.2 b hb.1 hb.2.1)

/-- A produced role set is accepted, as it is, exactly when it is acceptable. -/
theorem checkRoles_eq_success_iff {roles accepted : NameSet} :
    checkRoles roles = .success accepted ↔ Acceptable roles ∧ accepted = roles := by
  constructor
  · intro h
    have hacc := checkRoles_acceptable h
    unfold checkRoles at h
    split at h
    · exact ⟨RuleResult.success.inj h ▸ hacc, (RuleResult.success.inj h).symm⟩
    · cases h
  · rintro ⟨hacc, rfl⟩
    unfold checkRoles
    rw [List.find?_eq_none.mpr]
    intro x hx
    have hgood := (isBadRoleName_eq_false_iff x).mpr (hacc x (Std.TreeSet.mem_toList.mp hx))
    simp [hgood]

/-- A role set that is not acceptable is refused for its least unacceptable name. -/
theorem checkRoles_of_least {roles : NameSet} {b : String} (hb : IsLeastUnacceptable roles b) :
    checkRoles roles = .failure (badRoleError b) := by
  unfold checkRoles
  cases hfind : roles.toList.find? isBadRoleName with
  | none =>
    -- the least unacceptable name would have stopped the check
    have := List.find?_eq_none.mp hfind b (Std.TreeSet.mem_toList.mpr hb.1)
    simp [(isBadRoleName_iff b).mpr hb.2.1] at this
  | some c =>
    rw [(isLeastUnacceptable_of_find? hfind).unique hb]

/-- Either a produced role set is acceptable, or it has a least unacceptable name. -/
theorem acceptable_or_least (roles : NameSet) :
    Acceptable roles ∨ ∃ b, IsLeastUnacceptable roles b := by
  cases hfind : roles.toList.find? isBadRoleName with
  | none =>
    left
    intro x hx
    have := List.find?_eq_none.mp hfind x (Std.TreeSet.mem_toList.mpr hx)
    exact (isBadRoleName_eq_false_iff x).mp (by simpa using this)
  | some b => exact .inr ⟨b, isLeastUnacceptable_of_find? hfind⟩

/-! ## Endings and executions -/

/-- Every ending of a predicate's run is reported as the contract says. -/
theorem Ending.reported_toResult (e : Ending) : e.Reported e.toResult := by
  cases e with
  | panic payload => rfl
  | error err => rfl
  | roles names =>
    show Ending.Reported (.roles names) (checkRoles (NameSet.ofList names))
    rcases acceptable_or_least (NameSet.ofList names) with hacc | ⟨b, hb⟩
    · exact .inl ⟨hacc, checkRoles_eq_success_iff.mpr ⟨hacc, rfl⟩⟩
    · exact .inr ⟨b, hb, by rw [checkRoles_of_least hb, badRoleError_eq]⟩

-- U+3000 is blank, but it sorts after "_known", so the refusal names the standard role
example : (Ending.roles ["zeta", "\u3000", "_known"]).toResult =
    .failure (.malformed "reserved role name _known cannot be produced by a rule") := by rfl

theorem Rule.evaluate_weak {r : Rule} (ctx : Context) (identity : Option String) (n : Nat)
    (h : r.kind = .weak) :
    r.evaluate ctx identity n =
      ⟨true, (r.predicate.run ctx none n).pauses, (r.predicate.run ctx none n).ending.toResult⟩ := by
  unfold Rule.evaluate
  rw [h]

theorem Rule.evaluate_strong_some {r : Rule} (ctx : Context) (id : String) (n : Nat)
    (h : r.kind = .strong) :
    r.evaluate ctx (some id) n =
      ⟨true, (r.predicate.run ctx (some id) n).pauses,
        (r.predicate.run ctx (some id) n).ending.toResult⟩ := by
  unfold Rule.evaluate
  rw [h]

/-- The predicate is invoked unless the rule is strong and no identity was disclosed. -/
theorem Rule.invoked_evaluate (r : Rule) (ctx : Context) (identity : Option String) (n : Nat) :
    (r.evaluate ctx identity n).invoked = !(r.isStrong && identity.isNone) := by
  obtain ⟨name, kind, ttl, predicate⟩ := r
  cases kind <;> cases identity <;> rfl

/-- Executions in a row invoke the predicate once each, or never for a strong rule without an
identity. -/
theorem Rule.count_evaluateRepeatedly (r : Rule) (ctx : Context) (identity : Option String) :
    ∀ times count, (r.evaluateRepeatedly ctx identity times count).2 =
      count + if r.isStrong && identity.isNone then 0 else times
  | 0, count => by simp [Rule.evaluateRepeatedly]
  | times + 1, count => by
    simp only [Rule.evaluateRepeatedly, Rule.invoked_evaluate,
      Rule.count_evaluateRepeatedly r ctx identity times]
    cases r.isStrong && identity.isNone
    · simp only [Bool.not_false, if_true, Bool.false_eq_true, if_false]
      omega
    · simp only [Bool.not_true, Bool.false_eq_true, if_false, if_true, Nat.add_zero]

/-- An execution that invokes the predicate once, handing it `seen` beside the context: it
makes the pauses of the predicate's run and reports how that run ends. -/
def Rule.InvokesWith (r : Rule) (ctx : Context) (identity : Option String) (n : Nat)
    (seen : Option String) : Prop :=
  (r.evaluate ctx identity n).invoked = true ∧
    (r.evaluate ctx identity n).pauses = (r.predicate.run ctx seen n).pauses ∧
    (r.predicate.run ctx seen n).ending.Reported (r.evaluate ctx identity n).result

/-- The executor's contract. A strong rule without an identity succeeds with no roles and never
invokes its predicate. A weak rule invokes its predicate once with the context alone, and a
strong rule with an identity invokes it once with the context and exactly that identity; the
result is what the ending of the predicate's run calls for (`Ending.Reported`), and executions
in a row count one invocation each. -/
theorem rule_execution_contract (r : Rule) (ctx : Context) (identity : Option String) (n : Nat) :
    (r.kind = .strong → identity = none →
      r.evaluate ctx identity n = ⟨false, [], .success ∅⟩ ∧
        ∀ times count, (r.evaluateRepeatedly ctx identity times count).2 = count) ∧
    (r.kind = .weak → r.InvokesWith ctx identity n none ∧
        ∀ times count, (r.evaluateRepeatedly ctx identity times count).2 = count + times) ∧
    (∀ id, r.kind = .strong → identity = some id → r.InvokesWith ctx identity n (some id) ∧
        ∀ times count, (r.evaluateRepeatedly ctx identity times count).2 = count + times) := by
  have hstrong : r.kind = .strong ↔ r.isStrong = true := by
    simp [Rule.isStrong]
  refine ⟨fun hs hn => ⟨?_, fun times count => ?_⟩, fun hw => ⟨?_, fun times count => ?_⟩,
    fun id hs hid => ⟨?_, fun times count => ?_⟩⟩
  · subst hn
    exact evaluate_strong_none r ctx n hs
  · simp [Rule.count_evaluateRepeatedly, hstrong.mp hs, hn]
  · rw [Rule.InvokesWith, Rule.evaluate_weak ctx identity n hw]
    exact ⟨rfl, rfl, Ending.reported_toResult _⟩
  · have hweak : r.isStrong = false := by simp [Rule.isStrong, hw]
    simp [Rule.count_evaluateRepeatedly, hweak]
  · subst hid
    rw [Rule.InvokesWith, Rule.evaluate_strong_some ctx id n hs]
    exact ⟨rfl, rfl, Ending.reported_toResult _⟩
  · simp [Rule.count_evaluateRepeatedly, hid]

end RoleSync
