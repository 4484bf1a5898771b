import RoleSync.Proofs.CacheStore
import Mathlib.Data.List.Nodup
/-!
The rule cache as its documentation describes it, with no keys, encodings or lazy expiry: for
each rule name and user id at most one holding (a role set and the instant it expires), for each
user the set of rule names put for them since they were last invalidated, and the clock.

* A put on an uncacheable rule changes nothing; a put of a set holding the empty name on a
  cacheable rule fails with `invalidValue` and changes nothing; any other put replaces the
  holding of its rule and user (it never merges) with one that expires the rule's lifetime from
  now, capped at ten years, and lists the rule in the user's index.
* A read of a live holding finds its roles, an empty set included; a read of a holding that is
  no longer live drops it and misses; an uncacheable rule always misses.
* Invalidating a user drops every holding of the user and empties their index; it answers with
  how many rule names the index listed.
* A purge drops the holdings that are no longer live and answers how many; then every index keeps
  only the rule names whose holding is still there.

`CacheModel.run` answers a whole sequence of calls. The store keeps its own well-formedness:
one holding per rule and user, no held set with the empty name, and every holding listed in its
user's index.
-/

namespace RoleSync

set_option autoImplicit false

/-! ## Calls -/

/-- A call on the rule cache, or a move of the clock. -/
inductive CacheCall where
  | put (rule : Rule) (user : String) (roles : List String)
  | get (rule : Rule) (user : String)
  | invalidate (user : String)
  | purge
  | advance (ms : Nat)

namespace CacheCall

/-- The session step that makes the call. -/
def toStep : CacheCall → CacheStep
  | .put rule user roles => .put rule user roles
  | .get rule user => .get rule user
  | .invalidate user => .invalidate user
  | .purge => .purge
  | .advance ms => .advance ms

/-- The user id of a call, when it names one, has no ':'. -/
def ColonFree : CacheCall → Prop
  | .put _ user _ => NoColon user
  | .get _ user => NoColon user
  | .invalidate user => NoColon user
  | .purge => True
  | .advance _ => True

instance : DecidablePred CacheCall.ColonFree
  | .put _ user _ => inferInstanceAs (Decidable (NoColon user))
  | .get _ user => inferInstanceAs (Decidable (NoColon user))
  | .invalidate user => inferInstanceAs (Decidable (NoColon user))
  | .purge => isTrue trivial
  | .advance _ => isTrue trivial

end CacheCall

/-- Two answers agree when they are equal, except that found role sets need only have the same
members: that is how role sets compare. -/
def CacheAnswer.Agrees : CacheAnswer → CacheAnswer → Prop
  | .found a, .found b => a.Equiv b
  | a, b => a = b

theorem CacheAnswer.Agrees.refl : ∀ a : CacheAnswer, a.Agrees a
  | .found _ => Std.TreeSet.Equiv.rfl
  | .done | .missing | .drained _ | .enabled _ | .key _ | .purged _ | .live _ | .members _
  | .stored _ | .changed _ | .failed _ | .refused _ | .unsupported _ => rfl

/-! ## Holdings -/

/-- What the cache holds for one rule and one user: the roles put last, and the instant from
which they are no longer live. -/
structure Holding where
  rule : String
  user : String
  roles : NameSet
  expiresAt : Nat

namespace Holding

/-- The rule name and user id of a holding. -/
def pair (h : Holding) : String × String := (h.rule, h.user)

/-- Whether a holding is the one of this rule and user. -/
def isFor (h : Holding) (rule user : String) : Bool := h.rule == rule && h.user == user

@[simp] theorem isFor_eq_true {h : Holding} {rule user : String} :
    h.isFor rule user = true ↔ h.rule = rule ∧ h.user = user := by
  simp [isFor]

theorem isFor_iff_pair {h : Holding} {rule user : String} :
    h.isFor rule user = true ↔ h.pair = (rule, user) := by
  simp [pair]

end Holding

/-- Dropping holdings keeps one holding per rule and user. -/
theorem nodup_pairs_filter {hs : List Holding} (h : (hs.map Holding.pair).Nodup)
    (p : Holding → Bool) : ((hs.filter p).map Holding.pair).Nodup :=
  h.sublist ((List.filter_sublist).map Holding.pair)

/-- A new holding in front of the others of different pairs keeps one holding per pair. -/
theorem nodup_pairs_cons {hs : List Holding} (h : (hs.map Holding.pair).Nodup) (x : Holding) :
    ((x :: hs.filter (!·.isFor x.rule x.user)).map Holding.pair).Nodup := by
  rw [List.map_cons, List.nodup_cons]
  refine ⟨?_, nodup_pairs_filter h _⟩
  intro hx
  obtain ⟨y, hy, hpair⟩ := List.mem_map.mp hx
  have hy' := (List.mem_filter.mp hy).2
  rw [Bool.not_eq_true', Bool.eq_false_iff, Ne, Holding.isFor_iff_pair] at hy'
  exact hy' (hpair.trans rfl)

/-! ## The store -/

/-- The rule cache as documented: holdings by rule and user, the users' indexes of rule names,
and the clock. -/
structure CacheModel where
  clock : Nat
  holdings : List Holding
  index : String → NameSet
  /-- At most one holding per rule and user. -/
  distinct : (holdings.map Holding.pair).Nodup
  /-- No held role set contains the empty name. -/
  noEmptyName : ∀ h ∈ holdings, emptySetMember ∉ h.roles
  /-- Every holding is listed in its user's index. -/
  indexed : ∀ h ∈ holdings, h.rule ∈ index h.user

namespace CacheModel

/-- The empty cache at instant zero. -/
def empty : CacheModel where
  clock := 0
  holdings := []
  index := fun _ => ∅
  distinct := List.nodup_nil
  noEmptyName := by simp
  indexed := by simp

/-- The holding of a rule and user, if any. -/
def lookup (m : CacheModel) (rule user : String) : Option Holding :=
  m.holdings.find? (·.isFor rule user)

/-- Whether a holding is live at the model's clock. -/
def live (m : CacheModel) (h : Holding) : Bool := decide (m.clock < h.expiresAt)

/-- Drops the holding of a rule and user; the index is left as it is. -/
def forget (m : CacheModel) (rule user : String) : CacheModel where
  clock := m.clock
  holdings := m.holdings.filter (!·.isFor rule user)
  index := m.index
  distinct := nodup_pairs_filter m.distinct _
  noEmptyName := fun h hh => m.noEmptyName h (List.mem_filter.mp hh).1
  indexed := fun h hh => m.indexed h (List.mem_filter.mp hh).1

/-- Holds a role set for a rule and user in place of what was held, and lists the rule in the
user's index. -/
def hold (m : CacheModel) (x : Holding) (hx : emptySetMember ∉ x.roles) : CacheModel where
  clock := m.clock
  holdings := x :: m.holdings.filter (!·.isFor x.rule x.user)
  index := fun u => if u = x.user then (m.index u).insert x.rule else m.index u
  distinct := nodup_pairs_cons m.distinct x
  noEmptyName := by
    intro h hh
    rcases List.mem_cons.mp hh with rfl | hh
    · exact hx
    · exact m.noEmptyName h (List.mem_filter.mp hh).1
  indexed := by
    intro h hh
    rcases List.mem_cons.mp hh with rfl | hh
    · simp [Std.TreeSet.mem_insert]
    · have hi := m.indexed h (List.mem_filter.mp hh).1
      split
      · exact Std.TreeSet.mem_insert.mpr (.inr (by simpa [*] using hi))
      · exact hi

/-- Drops every holding of a user and empties their index. -/
def dropUser (m : CacheModel) (user : String) : CacheModel where
  clock := m.clock
  holdings := m.holdings.filter (·.user != user)
  index := fun u => if u = user then ∅ else m.index u
  distinct := nodup_pairs_filter m.distinct _
  noEmptyName := fun h hh => m.noEmptyName h (List.mem_filter.mp hh).1
  indexed := by
    intro h hh
    have hu : h.user ≠ user := by simpa using (List.mem_filter.mp hh).2
    simp only [hu, if_false]
    exact m.indexed h (List.mem_filter.mp hh).1

/-- Drops the holdings that are no longer live; each index keeps the rule names whose holding
is still there. -/
def dropDead (m : CacheModel) : CacheModel where
  clock := m.clock
  holdings := m.holdings.filter m.live
  index := fun u => (m.index u).filter fun r => (m.holdings.filter m.live).any (·.isFor r u)
  distinct := nodup_pairs_filter m.distinct _
  noEmptyName := fun h hh => m.noEmptyName h (List.mem_filter.mp hh).1
  indexed := by
    intro h hh
    refine mem_filter_names.mpr ⟨m.indexed h (List.mem_filter.mp hh).1, ?_⟩
    exact List.any_eq_true.mpr ⟨h, hh, by simp⟩

/-- Moves the clock forward. -/
def tick (m : CacheModel) (ms : Nat) : CacheModel := { m with clock := m.clock + ms }

/-- The answer to one call, and the cache after it. -/
def step (m : CacheModel) : CacheCall → CacheAnswer × CacheModel
  | .put rule user roles =>
    if rule.isCacheable then
      if h : (NameSet.ofList roles).contains emptySetMember then
        (.failed (.invalidValue ("rule " ++ rule.name ++ " produced an empty role name")), m)
      else
        (.done, m.hold ⟨rule.name, user, NameSet.ofList roles, m.clock + min rule.ttl maxLifetimeMs⟩
          (by simpa using h))
    else (.done, m)
  | .get rule user =>
    if rule.isCacheable then
      match m.lookup rule.name user with
      | some h => if m.live h then (.found h.roles, m) else (.missing, m.forget rule.name user)
      | none => (.missing, m)
    else (.missing, m)
  | .invalidate user => (.drained (m.index user).size, m.dropUser user)
  | .purge => (.purged (m.holdings.filter (!m.live ·)).length, m.dropDead)
  | .advance ms => (.done, m.tick ms)

/-! ## Lookups

Every model holds at most one holding per pair, so a lookup finds exactly the holding of its
rule and user; each way of changing the holdings is described through that. -/

theorem lookup_eq_some_iff {m : CacheModel} {rule user : String} {h : Holding} :
    m.lookup rule user = some h ↔ h ∈ m.holdings ∧ h.rule = rule ∧ h.user = user := by
  unfold lookup
  constructor
  · intro hl
    have hp := List.find?_some hl
    exact ⟨List.mem_of_find?_eq_some hl, Holding.isFor_eq_true.mp hp⟩
  · rintro ⟨hmem, rfl, rfl⟩
    obtain ⟨h', hl'⟩ := Option.isSome_iff_exists.mp
      ((List.find?_isSome (p := (·.isFor h.rule h.user))).mpr ⟨h, hmem, by simp⟩)
    have hp' := List.find?_some hl'
    have hp := Holding.isFor_iff_pair.mp hp'
    -- two holdings of one pair are the same holding
    have heq := List.inj_on_of_nodup_map m.distinct (List.mem_of_find?_eq_some hl') hmem hp
    exact heq ▸ hl'

theorem lookup_eq_none_iff {m : CacheModel} {rule user : String} :
    m.lookup rule user = none ↔ ∀ h ∈ m.holdings, ¬ (h.rule = rule ∧ h.user = user) := by
  simp [lookup, List.find?_eq_none]

/-- Two models look up alike when they hold the same holdings of each pair. -/
theorem lookup_congr {m m' : CacheModel} {rule user : String}
    (h : ∀ x, x.rule = rule → x.user = user → (x ∈ m'.holdings ↔ x ∈ m.holdings)) :
    m'.lookup rule user = m.lookup rule user := by
  apply Option.ext
  intro x
  rw [lookup_eq_some_iff, lookup_eq_some_iff]
  constructor
  · rintro ⟨hx, hr, hu⟩
    exact ⟨(h x hr hu).mp hx, hr, hu⟩
  · rintro ⟨hx, hr, hu⟩
    exact ⟨(h x hr hu).mpr hx, hr, hu⟩

theorem lookup_hold (m : CacheModel) (x : Holding) (hx : emptySetMember ∉ x.roles)
    (rule user : String) :
    (m.hold x hx).lookup rule user =
      if x.rule = rule ∧ x.user = user then some x else m.lookup rule user := by
  split
  · rename_i he
    exact lookup_eq_some_iff.mpr ⟨List.mem_cons_self, he⟩
  · rename_i hne
    apply lookup_congr
    rintro y rfl rfl
    simp only [hold, List.mem_cons, List.mem_filter, Bool.not_eq_true']
    constructor
    · rintro (rfl | ⟨hy, -⟩)
      · exact absurd ⟨rfl, rfl⟩ hne
      · exact hy
    · intro hy
      refine .inr ⟨hy, Bool.eq_false_iff.mpr fun hc => hne ?_⟩
      obtain ⟨hr, hu⟩ := Holding.isFor_eq_true.mp hc
      exact ⟨hr.symm, hu.symm⟩

theorem lookup_forget (m : CacheModel) (r u rule user : String) :
    (m.forget r u).lookup rule user =
      if r = rule ∧ u = user then none else m.lookup rule user := by
  split
  · rename_i he
    obtain ⟨rfl, rfl⟩ := he
    apply lookup_eq_none_iff.mpr
    rintro y hy ⟨rfl, rfl⟩
    simp [forget, Holding.isFor] at hy
  · rename_i hne
    apply lookup_congr
    rintro y rfl rfl
    simp only [forget, List.mem_filter, Bool.not_eq_true']
    constructor
    · exact fun hy => hy.1
    · intro hy
      refine ⟨hy, Bool.eq_false_iff.mpr fun hc => hne ?_⟩
      obtain ⟨hr, hu⟩ := Holding.isFor_eq_true.mp hc
      exact ⟨hr.symm, hu.symm⟩

theorem lookup_dropUser (m : CacheModel) (u rule user : String) :
    (m.dropUser u).lookup rule user = if u = user then none else m.lookup rule user := by
  split
  · rename_i he
    subst he
    apply lookup_eq_none_iff.mpr
    rintro y hy ⟨-, rfl⟩
    simp [dropUser] at hy
  · rename_i hne
    apply lookup_congr
    rintro y - rfl
    simp only [dropUser, List.mem_filter, bne_iff_ne, ne_eq, and_iff_left_iff_imp]
    exact fun _ he => hne he.symm

theorem lookup_dropDead (m : CacheModel) (rule user : String) :
    m.dropDead.lookup rule user = (m.lookup rule user).filter m.live := by
  cases hl : m.lookup rule user with
  | none =>
    apply lookup_eq_none_iff.mpr
    intro y hy hp
    exact lookup_eq_none_iff.mp hl y (List.mem_filter.mp hy).1 hp
  | some h =>
    obtain ⟨hmem, rfl, rfl⟩ := lookup_eq_some_iff.mp hl
    by_cases hlive : m.live h
    · simp only [Option.filter_some, hlive, if_true]
      exact lookup_eq_some_iff.mpr ⟨List.mem_filter.mpr ⟨hmem, hlive⟩, rfl, rfl⟩
    · simp only [Option.filter_some, hlive, Bool.false_eq_true, if_false]
      apply lookup_eq_none_iff.mpr
      rintro y hy ⟨hr, hu⟩
      have hy' := List.mem_filter.mp hy
      have heq : y = h :=
        List.inj_on_of_nodup_map m.distinct hy'.1 hmem (by simp [Holding.pair, hr, hu])
      exact hlive (heq ▸ hy'.2)

/-- The answers to a sequence of calls. -/
def run (m : CacheModel) : List CacheCall → List CacheAnswer
  | [] => []
  | c :: cs => (m.step c).1 :: (m.step c).2.run cs

end CacheModel

end RoleSync
