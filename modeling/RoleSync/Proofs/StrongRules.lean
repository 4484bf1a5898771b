import RoleSync.Manager.Session
import RoleSync.Proofs.FanOut
import RoleSync.Proofs.CacheContents
import RoleSync.Proofs.Rulebook
import RoleSync.Proofs.Resolution
import Mathlib.Data.List.Nodup
/-!
Strong rules in a resolution without the identity. A strong rule evaluated without the identity
succeeds with no roles, and such a success is never written back to the cache. But a branch
reads the cache before it looks at the identity, so roles that an identified resolution cached
for a strong rule are served to a later resolution of the same user that has no identity
(`strong_rule_roles_served_without_identity`).

Main statement (`strong_rules_add_nothing_without_identity`): when the identity is not
disclosed and the cache gives nothing for the user's strong rules from the start of the
resolution (`RuleCache.Silent`), every resolved role is "_known" or a role of a weak rule's
outcome. The fan-out's part is one instance of `Schedule.run_keeps`: no read of a strong rule
hits, and no branch writes a strong rule's entry.
-/

namespace RoleSync

set_option autoImplicit false

/-! ## Relevant rules are the rulebook's, under their own names -/

theorem mem_values_iff {α : Type} {t : Std.TreeMap String α compare} {v : α} :
    v ∈ t.values ↔ ∃ k : String, t[k]? = some v := by
  have hv : t.values = t.toList.map Prod.snd := by
    simp only [Std.TreeMap.values, Std.TreeMap.toList, Std.DTreeMap.values,
      Std.DTreeMap.Const.toList, Std.DTreeMap.Internal.Impl.values_eq_map_snd,
      Std.DTreeMap.Internal.Impl.Const.toList_eq_toListModel_map, List.map_map]
    rfl
  rw [hv, List.mem_map]
  constructor
  · rintro ⟨⟨k, w⟩, hk, rfl⟩
    exact ⟨k, Std.TreeMap.mem_toList_iff_getElem?_eq_some.mp hk⟩
  · rintro ⟨k, hk⟩
    exact ⟨(k, v), Std.TreeMap.mem_toList_iff_getElem?_eq_some.mpr hk, rfl⟩

namespace Relevance

variable {b : Rulebook} {d : Declarations} {gs : List Community}

/-- Every relevant rule is the rulebook's rule under its key. -/
theorem lookup_of_getElem? : ∀ (k : String) (e : RelevantRule),
    (compute b d gs).rules[k]? = some e → b.lookup? k = some e.rule := by
  unfold compute
  simp only [Std.TreeMap.foldl_eq_foldl_toList]
  -- the fold inserts a rule only under a name the rulebook registers it under
  generalize (demand d gs).toList = pending
  have hempty : ∀ (k : String) (e : RelevantRule),
      (∅ : Std.TreeMap String RelevantRule compare)[k]? = some e → b.lookup? k = some e.rule :=
    fun _ _ h => by simp at h
  revert hempty
  generalize (∅ : Std.TreeMap String RelevantRule compare) = acc
  induction pending generalizing acc with
  | nil => exact id
  | cons p rest ih =>
    intro hacc
    apply ih
    dsimp only
    split
    · rename_i r hr
      intro k e he
      rw [Std.TreeMap.getElem?_insert] at he
      split at he
      · rename_i hk
        cases he
        rw [← Std.LawfulEqCmp.compare_eq_iff_eq.mp hk]
        exact hr
      · exact hacc k e he
    · exact hacc

theorem mem_rules {r : Rule} (h : r ∈ (compute b d gs).toList.map (·.rule)) :
    ∃ k, b.lookup? k = some r := by
  obtain ⟨e, he, rfl⟩ := List.mem_map.mp h
  obtain ⟨k, hk⟩ := mem_values_iff.mp he
  exact ⟨k, lookup_of_getElem? k e hk⟩

/-- The relevant rules have pairwise distinct names: the rulebook holds each under its own. -/
theorem nodup_names :
    (((compute b d gs).toList.map (·.rule)).map Rule.name).Nodup := by
  have hnames : ((compute b d gs).toList.map (·.rule)).map Rule.name =
      (compute b d gs).rules.keys := by
    have hv : (compute b d gs).toList = (compute b d gs).rules.toList.map Prod.snd := by
      simp only [toList, Std.TreeMap.values, Std.TreeMap.toList, Std.DTreeMap.values,
        Std.DTreeMap.Const.toList, Std.DTreeMap.Internal.Impl.values_eq_map_snd,
        Std.DTreeMap.Internal.Impl.Const.toList_eq_toListModel_map, List.map_map]
      rfl
    rw [hv, ← Std.TreeMap.map_fst_toList_eq_keys, List.map_map, List.map_map]
    apply List.map_congr_left
    rintro ⟨k, e⟩ hke
    exact b.keyed k e.rule (lookup_of_getElem? k e
      (Std.TreeMap.mem_toList_iff_getElem?_eq_some.mp hke))
  rw [hnames]
  exact Std.TreeMap.nodup_keys

end Relevance

/-! ## A cache that gives nothing for a rule -/

namespace RuleCache

/-- The cache gives no roles for a rule and a user from the instant `t₀` on: it has no store,
the rule is not cacheable, or its store is in memory and holds no entry of the pair that is
still live at `t₀`. -/
def Silent (c : RuleCache) (rule : Rule) (user : String) (t₀ : Nat) : Prop :=
  c.store = none ∨ rule.isCacheable = false ∨
    ∃ mem f, c.store = some (.memory mem f) ∧
      ∀ e, mem.entries[c.entryKey rule.name user]? = some e → e.expiresAt ≤ t₀

variable {c : RuleCache} {rule : Rule} {user : String} {t₀ : Nat}

theorem Silent.tryGet (h : c.Silent rule user t₀) (now : Nat) (rule' : Rule) (user' : String) :
    (c.tryGet now rule' user').2.Silent rule user t₀ := by
  rcases h with hn | hu | ⟨mem, f, hc, hd⟩
  · rw [tryGet_disabled hn]
    exact .inl hn
  · exact .inr (.inl hu)
  · obtain ⟨mem', f', heq, hw⟩ := tryGet_onMemory now rule' user' hc
    rw [heq]
    exact .inr (.inr ⟨mem', f', rfl, fun e he => hd e (hw _ e he)⟩)

/-- A write under another key leaves the cache silent for the pair. -/
theorem Silent.put (h : c.Silent rule user t₀) (now : Nat) (rule' : Rule) (user' : String)
    (roles : NameSet) (hk : c.entryKey rule'.name user' ≠ c.entryKey rule.name user) :
    (c.put now rule' user' roles).2.Silent rule user t₀ := by
  rcases h with hn | hu | ⟨mem, f, hc, hd⟩
  · rw [put_disabled hn]
    exact .inl hn
  · exact .inr (.inl hu)
  · obtain ⟨mem', f', heq, hw⟩ := put_onMemory now rule' user' roles hc
    rw [heq]
    refine .inr (.inr ⟨mem', f', rfl, fun e he => ?_⟩)
    rcases hw _ e he with hold | ⟨hkey, -⟩
    · exact hd e hold
    · exact absurd hkey.symm hk

/-- A read of a silent pair from `t₀` on finds nothing. -/
theorem Silent.not_hit (h : c.Silent rule user t₀) {now : Nat} (hn : t₀ ≤ now) (roles : NameSet) :
    (c.tryGet now rule user).1 ≠ .ok (.hit roles) := by
  intro hhit
  rcases h with hs | hu | ⟨mem, f, hc, hd⟩
  · rw [tryGet_disabled hs] at hhit
    cases hhit
  · rw [tryGet_uncacheable now rule user hu] at hhit
    cases hhit
  · obtain ⟨e, he, hl, -⟩ := hit_of_tryGet hc hhit
    exact absurd (Nat.lt_of_lt_of_le hl (Nat.le_trans (hd e he) hn)) (Nat.lt_irrefl _)

theorem entryKey_rule_inj {a b : String} (h : c.entryKey a user = c.entryKey b user) : a = b := by
  have h' := congrArg String.toList h
  rw [entryKey_toList, entryKey_toList] at h'
  exact String.toList_inj.mp (List.append_cancel_left (List.append_cancel_right h'))

end RuleCache

/-! ## The fan-out without identity -/

namespace FanOut

variable (f : FanOut) (rules : List Rule) (t₀ : Nat)

/-- The cache is silent for the user's strong rules among the branches. -/
def StrongSilent (c : RuleCache) : Prop :=
  ∀ r ∈ rules, r.isStrong = true → c.Silent r f.user t₀

/-- A strong branch can only succeed with no roles. -/
def StrongEmpty (i : Nat) (r : RuleResult) : Prop :=
  ∀ rule, rules[i]? = some rule → rule.isStrong = true → r = .success ∅

/-- An outcome is a branch's, and a strong branch's outcome has no roles. -/
def StrongOutcome (o : BranchOutcome) : Prop :=
  (∃ r ∈ rules, r.name = o.rule) ∧ ∀ r ∈ rules, r.name = o.rule → r.isStrong = true → o.roles = ∅

variable {f rules t₀}

/-- Branches with one name run one rule. -/
theorem eq_of_name (hnames : (rules.map Rule.name).Nodup) {i : Nat} {rule r : Rule}
    (hi : rules[i]? = some rule) (hr : r ∈ rules) (hn : r.name = rule.name) : r = rule :=
  List.inj_on_of_nodup_map hnames hr (List.mem_of_getElem? hi) hn

/-- The laws of a fan-out without identity over branches with distinct names: a strong branch
reads nothing and evaluates to no roles, and a branch that writes back is weak, so it writes
under another key than any strong branch's. -/
theorem strong_laws (hid : f.identity = none) (hnames : (rules.map Rule.name).Nodup) :
    Laws f rules t₀ (StrongSilent f rules t₀) (StrongEmpty rules) (StrongOutcome rules) where
  read {i rule c} now hi hn hc := by
    refine ⟨fun r hr hs => (hc r hr hs).tryGet now rule f.user, fun roles hhit => ?_⟩
    refine ⟨⟨rule, List.mem_of_getElem? hi, rfl⟩, fun r hr hname hs => ?_⟩
    obtain rfl := eq_of_name hnames hi hr hname
    exact absurd hhit ((hc r hr hs).not_hit hn roles)
  evaluate {i rule} n hi := by
    intro rule' hi' hs
    obtain rfl : rule = rule' := Option.some.inj (hi.symm.trans hi')
    rw [hid, evaluate_strong_none rule f.ctx n (by simpa [Rule.isStrong] using hs)]
  failed {i rule} e hi := ⟨⟨rule, List.mem_of_getElem? hi, rfl⟩, fun _ _ _ _ => rfl⟩
  succeeded {i rule roles} hi hR := by
    refine ⟨⟨rule, List.mem_of_getElem? hi, rfl⟩, fun r hr hname hs => ?_⟩
    obtain rfl := eq_of_name hnames hi hr hname
    exact RuleResult.success.inj (hR r hi hs)
  write {i rule roles c} now hi _ hc hd := by
    -- without identity only a weak branch writes back
    have hweak : rule.isStrong = false := by simpa [hid] using hd
    intro r hr hs
    apply (hc r hr hs).put now rule f.user roles
    intro hk
    have hname := RuleCache.entryKey_rule_inj hk
    obtain rfl := eq_of_name hnames hi hr hname.symm
    rw [hs] at hweak
    cases hweak

/-- A fan-out without identity, from a cache silent for its strong branches, records no roles
for a strong branch. -/
theorem strong_outcomes_empty (hid : f.identity = none) (hnames : (rules.map Rule.name).Nodup)
    {shared : FanOutShared} (hc : StrongSilent f rules t₀ shared.cache) :
    ∀ o ∈ (f.run rules t₀ shared).outcomes, StrongOutcome rules o :=
  (run_keeps (strong_laws hid hnames) hc).outcomes

end FanOut

/-! ## A resolution without identity -/

namespace Manager

variable (m : Manager) (user : String) (optedIn : Bool) (ctx : Context) (communities : NameSet)

/-- In a resolution without identity, from a cache silent for the rulebook's strong rules, every
outcome is a relevant rule's and a strong rule's outcome has no roles. -/
theorem fanOut_strong_outcomes
    (hsilent : ∀ r ∈ m.rulebook.toList, r.isStrong = true → m.cache.Silent r user m.clock)
    (hd : (m.fanOut user optedIn ctx communities).1.isDisclosed = false) :
    ∀ o ∈ (m.fanOut user optedIn ctx communities).2.1.outcomes,
      FanOut.StrongOutcome ((m.relevance communities).toList.map (·.rule)) o := by
  rw [fanOut_eq]
  apply FanOut.strong_outcomes_empty (m.fanOut_identity user optedIn ctx communities hd)
    Relevance.nodup_names
  intro r hr hs
  obtain ⟨k, hk⟩ := Relevance.mem_rules hr
  exact hsilent r (mem_values_iff.mpr ⟨k, hk⟩) hs

end Manager

/-- When the identity is not disclosed and the cache gives nothing for the user's strong rules
from the start of the resolution, strong rules contribute no roles: every resolved role is
"_known" or a role that a weak rule's branch produced. The same holds of a sync, whose roles are
those of its resolution. -/
theorem strong_rules_add_nothing_without_identity (m : Manager) (user : String) (optedIn : Bool)
    (ctx : Context) (communities : NameSet)
    (hsilent : ∀ r ∈ m.rulebook.toList, r.isStrong = true → m.cache.Silent r user m.clock)
    (hd : (m.resolveRoles user optedIn ctx communities).1.identity.isDisclosed = false) :
    ∀ x ∈ (m.resolveRoles user optedIn ctx communities).1.roles,
      x = StandardRole.known.name ∨
        ∃ o ∈ (m.fanOut user optedIn ctx communities).2.1.outcomes, x ∈ o.roles ∧
          ∃ r, m.rulebook.lookup? o.rule = some r ∧ r.isStrong = false := by
  intro x hx
  have hd' : (m.fanOut user optedIn ctx communities).1.isDisclosed = false := hd
  rcases (m.mem_resolveRoles user optedIn ctx communities).mp hx with
    hk | ⟨hdis, -⟩ | ⟨o, ho, hxo⟩
  · exact .inl hk
  · rw [hd'] at hdis
    cases hdis
  · obtain ⟨⟨r, hr, hname⟩, hempty⟩ :=
      m.fanOut_strong_outcomes user optedIn ctx communities hsilent hd' o ho
    obtain ⟨k, hk⟩ := Relevance.mem_rules hr
    refine .inr ⟨o, ho, hxo, r, ?_, ?_⟩
    · rw [← hname, m.rulebook.keyed k r hk]
      exact hk
    · cases hs : r.isStrong
      · rfl
      · rw [hempty r hr hname hs] at hxo
        exact absurd hxo Std.TreeSet.not_mem_emptyc

/-- A user who is not opted in, on a fresh in-memory cache, with one strong and one weak rule:
the resolution gets no identity, and its roles come from the weak rule alone. -/
theorem strong_rules_add_nothing_for_a_user_not_opted_in :
    let strong : Rule := ⟨"RoleB", .strong, some 60000, .roles ["vip"]⟩
    let weak : Rule := ⟨"RoleA", .weak, some 60000, .roles ["member"]⟩
    let g : Community := ⟨"G", none, .ofList [("vip", "222"), ("member", "111")], ∅⟩
    let m : Manager :=
      { rulebook := ⟨(∅ : Std.TreeMap String Rule compare).insert "RoleB" strong |>.insert
          "RoleA" weak, none, ((KeyedBy.empty Rule.name).insert strong).insert weak⟩
        declarations := .ofList [⟨"vip", none, "RoleB"⟩, ⟨"member", none, "RoleA"⟩]
        communities := Community.table [g]
        communitiesKeyed := Community.keyed_table [g]
        cache := ⟨some (.memory {} {}), "rl_"⟩
        config := {}
        gate := {}
        vault := { identities := .ofList [("U", "u@example.org")] }
        platform := {}
        notifierDown := false }
    let ctx : Context := ⟨"U", "Someone", "0001"⟩
    (∀ r ∈ m.rulebook.toList, r.isStrong = true → m.cache.Silent r "U" m.clock) ∧
      (m.resolveRoles "U" false ctx (.ofList ["G"])).1.identity.isDisclosed = false ∧
      ∀ x ∈ (m.resolveRoles "U" false ctx (.ofList ["G"])).1.roles,
        x = StandardRole.known.name ∨
          ∃ o ∈ (m.fanOut "U" false ctx (.ofList ["G"])).2.1.outcomes, x ∈ o.roles ∧
            ∃ r, m.rulebook.lookup? o.rule = some r ∧ r.isStrong = false := by
  intro strong weak g m ctx
  have hsilent : ∀ r ∈ m.rulebook.toList, r.isStrong = true → m.cache.Silent r "U" m.clock :=
    fun _ _ _ => .inr (.inr ⟨{}, {}, rfl, fun e he => by simp at he⟩)
  have hd : (m.resolveRoles "U" false ctx (.ofList ["G"])).1.identity.isDisclosed = false := by
    decide +kernel
  exact ⟨hsilent, hd,
    strong_rules_add_nothing_without_identity m "U" false ctx (.ofList ["G"]) hsilent hd⟩

/-- The cache is read before the identity is looked at: a user synced once with the identity
disclosed, then again without opting in, is given the role that only the strong rule produces,
from the cache the first sync filled. -/
theorem strong_rule_roles_served_without_identity :
    let strong : Rule := ⟨"RoleB", .strong, some 60000, .roles ["vip"]⟩
    let g : Community := ⟨"G2", none, .ofList [("vip", "222")], ∅⟩
    let m : Manager :=
      { rulebook := ⟨(∅ : Std.TreeMap String Rule compare).insert "RoleB" strong, none,
          (KeyedBy.empty Rule.name).insert strong⟩
        declarations := .ofList [⟨"vip", none, "RoleB"⟩]
        communities := Community.table [g]
        communitiesKeyed := Community.keyed_table [g]
        cache := ⟨some (.memory {} {}), "rl_"⟩
        config := {}
        gate := {}
        vault := { identities := .ofList [("U", "u@example.org")] }
        platform := {}
        notifierDown := false }
    let req (optedIn : Bool) : SyncRequest :=
      ⟨"U", optedIn, "Someone", "0001", [("G2", true)], true⟩
    let second := ((m.resolveAndSync (req true)).2.resolveAndSync (req false)).1
    (m.rulebook.toList.all (·.isStrong) &&
      match second with
      | .synced _ r _ => r.identity == .notOptedIn && r.roles.contains "vip"
      | .denied _ _ => false) = true := by
  decide +kernel

end RoleSync
