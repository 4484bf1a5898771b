import RoleSync.Rulebook
import Std.Data.TreeMap.Lemmas
/-!
Building a rulebook. `build_result` says what building gives for every list of rules: when it
succeeds, every name is non-blank after trimming, the names are pairwise distinct, a lookup
finds exactly the rule registered under the name, and the rulebook has one rule per registered
rule; when it fails, the error is about the first rule whose name is blank or repeats an
earlier name, and says which of the two it is.

The proof carries one invariant through the insertion loop: the table agrees with the rules
inserted so far (`Agrees`).
-/

namespace RoleSync.Rulebook

set_option autoImplicit false

/-- The table holds exactly the rules inserted so far, which have clean, distinct names. -/
structure Agrees (table : Std.TreeMap String Rule compare) (done : List Rule) : Prop where
  get : ∀ n, table.get? n = done.find? (fun r => r.name == n)
  size : table.size = done.length
  clean : ∀ r ∈ done, Text.trim r.name ≠ ""
  distinct : (done.map Rule.name).Nodup

theorem Agrees.empty : Agrees ∅ [] where
  get n := by simp
  size := Std.TreeMap.size_emptyc
  clean := by simp
  distinct := List.nodup_nil

theorem Agrees.contains_iff {table : Std.TreeMap String Rule compare} {done : List Rule}
    (h : Agrees table done) (n : String) : table.contains n = true ↔ n ∈ done.map Rule.name := by
  rw [Std.TreeMap.contains_eq_isSome_getElem?, ← Std.TreeMap.get?_eq_getElem?, h.get n,
    List.find?_isSome]
  simp

theorem Agrees.insert {table : Std.TreeMap String Rule compare} {done : List Rule}
    (h : Agrees table done) (r : Rule) (hb : Text.trim r.name ≠ "")
    (hn : r.name ∉ done.map Rule.name) : Agrees (table.insert r.name r) (done ++ [r]) where
  get n := by
    rw [Std.TreeMap.get?_eq_getElem?, Std.TreeMap.getElem?_insert, List.find?_append]
    by_cases he : r.name = n
    · subst he
      have hnone : done.find? (fun x => x.name == r.name) = none := by
        rw [List.find?_eq_none]
        intro x hx hxe
        exact hn (List.mem_map.mpr ⟨x, hx, by simpa using hxe⟩)
      simp [hnone]
    · have hne : compare r.name n ≠ .eq := fun hc => he (Std.LawfulEqCmp.eq_of_compare hc)
      rw [if_neg hne, ← Std.TreeMap.get?_eq_getElem?, h.get n]
      cases done.find? (fun x => x.name == n) with
      | some x => rfl
      | none => simp [he]
  size := by
    have hc : table.contains r.name = false := by
      rw [Bool.eq_false_iff, Ne, h.contains_iff]
      exact hn
    rw [Std.TreeMap.size_insert, hc, h.size]
    simp
  clean := by
    intro x hx
    rcases List.mem_append.mp hx with hx | hx
    · exact h.clean x hx
    · rw [List.mem_singleton.mp hx]
      exact hb
  distinct := by
    rw [List.map_append, List.nodup_append]
    refine ⟨h.distinct, by simp, ?_⟩
    intro a ha b hb' hab
    simp only [List.map_cons, List.map_nil, List.mem_singleton] at hb'
    subst hb'
    subst hab
    exact hn ha

theorem not_blank_of_isBlank {s : String} (h : Text.isBlank s = false) : Text.trim s ≠ "" := by
  intro ht
  have := (Text.isBlank_iff_trim_eq_empty s).mpr ht
  rw [h] at this
  exact Bool.false_ne_true this

theorem insertAll_ok : ∀ (rs : List Rule) {table t : Std.TreeMap String Rule compare}
    {done : List Rule}, Agrees table done → insertAll table rs = .ok t → Agrees t (done ++ rs)
  | [], table, t, done, h, hr => by
    simp only [insertAll, Except.ok.injEq] at hr
    subst hr
    simpa using h
  | r :: rs, table, t, done, h, hr => by
    unfold insertAll at hr
    split at hr
    · cases hr
    · rename_i hb
      split at hr
      · cases hr
      · rename_i hc
        have hn : r.name ∉ done.map Rule.name := fun hm => hc ((h.contains_iff r.name).mpr hm)
        have h' := h.insert r (not_blank_of_isBlank (by simpa using hb)) hn
        have := insertAll_ok rs h' hr
        simpa using this

theorem insertAll_error : ∀ (rs : List Rule) {table : Std.TreeMap String Rule compare}
    {done : List Rule} {err : RulebookError}, Agrees table done → insertAll table rs = .error err →
    ∃ before r after, rs = before ++ r :: after ∧ (∀ x ∈ before, Text.trim x.name ≠ "") ∧
      ((done ++ before).map Rule.name).Nodup ∧
      (if Text.trim r.name = "" then err = .invalidName r.name
       else r.name ∈ (done ++ before).map Rule.name ∧ err = .duplicateRule r.name)
  | [], table, done, err, h, hr => by
    simp [insertAll] at hr
  | r :: rs, table, done, err, h, hr => by
    unfold insertAll at hr
    split at hr
    · rename_i hb
      simp only [Except.error.injEq] at hr
      subst hr
      have ht : Text.trim r.name = "" := (Text.isBlank_iff_trim_eq_empty _).mp hb
      exact ⟨[], r, rs, rfl, by simp, by simpa using h.distinct, by simp [ht]⟩
    · rename_i hb
      have hb' := not_blank_of_isBlank (by simpa using hb)
      split at hr
      · rename_i hc
        simp only [Except.error.injEq] at hr
        subst hr
        refine ⟨[], r, rs, rfl, by simp, by simpa using h.distinct, ?_⟩
        rw [if_neg hb']
        exact ⟨by simpa using (h.contains_iff r.name).mp hc, rfl⟩
      · rename_i hc
        have hn : r.name ∉ done.map Rule.name := fun hm => hc ((h.contains_iff r.name).mpr hm)
        obtain ⟨before, x, after, heq, hcl, hnd, hx⟩ := insertAll_error rs (h.insert r hb' hn) hr
        refine ⟨r :: before, x, after, by rw [heq]; rfl, ?_, ?_, ?_⟩
        · intro y hy
          rcases List.mem_cons.mp hy with hy | hy
          · rw [hy]
            exact hb'
          · exact hcl y hy
        · simpa using hnd
        · simpa using hx

/-- What building a rulebook gives, for every list of rules in registration order. -/
theorem build_result (rules : List Rule) (e : Option EmailCheck) :
    match build rules e with
    | .ok b =>
      (∀ r ∈ rules, Text.trim r.name ≠ "") ∧ (rules.map Rule.name).Nodup ∧
      (∀ n, b.lookup? n = rules.find? (fun r => r.name == n)) ∧ b.size = rules.length
    | .error err =>
      ∃ before r after, rules = before ++ r :: after ∧
        (∀ x ∈ before, Text.trim x.name ≠ "") ∧ (before.map Rule.name).Nodup ∧
        (if Text.trim r.name = "" then err = .invalidName r.name
         else r.name ∈ before.map Rule.name ∧ err = .duplicateRule r.name) := by
  unfold build
  -- the outer match is on what building gave, the inner one on the insertion loop
  split
  · rename_i b hb
    split at hb
    · rename_i t hr
      cases hb
      have h := insertAll_ok rules Agrees.empty hr
      simp only [List.nil_append] at h
      exact ⟨h.clean, h.distinct, h.get, h.size⟩
    · cases hb
  · rename_i err hb
    split at hb
    · cases hb
    · rename_i hr
      cases hb
      simpa using insertAll_error rules Agrees.empty hr

end RoleSync.Rulebook
