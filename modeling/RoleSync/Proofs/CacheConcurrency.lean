import RoleSync.Proofs.CacheStore
import Mathlib.Data.List.Nodup
/-!
Puts and invalidations that run at the same time on one in-memory store. Neither takes a lock
across its two store calls: a put writes its entry, then lists it in the user's index; an
invalidation drains the user's index, then deletes the keys it drained. Every other caller's
steps may fall in between, and so may reads (which drop a dead entry they find), purges and
moves of the clock.

A call is modelled by its two halves: the first runs when the call begins and leaves the second
in flight under a ticket; `CacheEvent.finish` runs the second half of the call with that ticket.
Run back to back, the halves are exactly the rule cache's `put` and `invalidateUser`
(`put_in_halves`, `invalidateUser_in_halves`).

Main statement (`interleaved_puts_leave_entries_listed`): in every reachable state where no call
is in flight, every live entry is listed in the index of its user; and an invalidation that
begins in such a state and overlaps no put for its user leaves, when it completes, no entry of
the user to read and the user's index empty. The invariant behind it (`Inv.covered`): a live
entry of a user is in the user's index, or a put in flight is about to list it there, or an
invalidation in flight is about to delete it.
-/

namespace RoleSync

set_option autoImplicit false

/-! ## Calls in flight -/

/-- The second half of a cache call whose first half has run. -/
inductive Pending where
  /-- A put has written its entry and has yet to list the key in the user's index. -/
  | listing (user key : String)
  /-- An invalidation has drained the user's index and has yet to delete the keys it drained. -/
  | deleting (user : String) (keys : List String)

/-- A call in flight, under the ticket it was given when it began. -/
structure Flight where
  ticket : Nat
  pending : Pending

/-- Runs the second half of a call. -/
def Pending.complete (c : RuleCache) : Pending → MemoryStore → MemoryStore
  | .listing user key, mem => mem.indexAdd (c.indexKey user) key
  | .deleting _ keys, mem => mem.delete keys

/-- One atomic step of the cache's callers. -/
inductive CacheEvent where
  /-- A put checks its rule and roles and, when it is to store them, writes its entry. -/
  | beginPut (rule : Rule) (user : String) (roles : NameSet)
  /-- An invalidation drains the user's index. -/
  | beginInvalidate (user : String)
  /-- The call with this ticket runs its second half. -/
  | finish (ticket : Nat)
  /-- A read, which drops the entry it finds dead. -/
  | read (rule : Rule) (user : String)
  | purge
  | advance (ms : Nat)

namespace CacheEvent

/-- The user id of an event, when it names one, has no ':'. -/
def ColonFree : CacheEvent → Prop
  | .beginPut _ user _ => NoColon user
  | .beginInvalidate user => NoColon user
  | .read _ user => NoColon user
  | .finish _ | .purge | .advance _ => True

instance : DecidablePred ColonFree
  | .beginPut _ user _ => inferInstanceAs (Decidable (NoColon user))
  | .beginInvalidate user => inferInstanceAs (Decidable (NoColon user))
  | .read _ user => inferInstanceAs (Decidable (NoColon user))
  | .finish _ | .purge | .advance _ => isTrue trivial

/-- The event begins a put for the user. -/
def PutsFor (user : String) : CacheEvent → Prop
  | .beginPut _ u _ => u = user
  | _ => False

instance (user : String) : DecidablePred (PutsFor user)
  | .beginPut _ u _ => inferInstanceAs (Decidable (u = user))
  | .beginInvalidate _ | .finish _ | .read _ _ | .purge | .advance _ => isFalse id

end CacheEvent

/-- The store the callers share, the clock, the calls in flight and the next ticket. -/
structure Shared where
  mem : MemoryStore := {}
  clock : Nat := 0
  flights : List Flight := []
  nextTicket : Nat := 0

namespace Shared

/-- The rule cache over the shared store. -/
def cacheOf (c : RuleCache) (s : Shared) : RuleCache :=
  { c with store := some (.memory s.mem Faults.none) }

/-- Gives the next ticket to a call that began, and keeps its second half in flight if it has
one. -/
def launch (s : Shared) (p : Option Pending) : Shared :=
  { s with
    flights := s.flights ++ (p.map fun p => (⟨s.nextTicket, p⟩ : Flight)).toList
    nextTicket := s.nextTicket + 1 }

/-- Whether a put of these roles under this rule stores them. -/
def stores (rule : Rule) (roles : NameSet) : Bool :=
  rule.isCacheable && !roles.contains emptySetMember

/-- One atomic step; finishing a ticket no call holds does nothing. -/
def step (c : RuleCache) (s : Shared) : CacheEvent → Shared
  | .beginPut rule user roles =>
    if stores rule roles then
      let key := c.entryKey rule.name user
      { s with mem := s.mem.replace s.clock key (RuleCache.encodeRoles roles) rule.ttl }.launch
        (some (.listing user key))
    else s.launch none
  | .beginInvalidate user =>
    let drained := s.mem.indexDrain (c.indexKey user)
    { s with mem := drained.2 }.launch
      (if drained.1.isEmpty then none else some (.deleting user drained.1))
  | .finish t =>
    match s.flights.find? (·.ticket == t) with
    | some f => { s with mem := f.pending.complete c s.mem, flights := s.flights.filter (·.ticket != t) }
    | none => s
  | .read rule user =>
    if rule.isCacheable then { s with mem := (s.mem.get s.clock (c.entryKey rule.name user)).2 }
    else s
  | .purge => { s with mem := (s.mem.purge s.clock).2 }
  | .advance ms => { s with clock := s.clock + ms }

/-- Runs events in order. -/
def run (c : RuleCache) (s : Shared) : List CacheEvent → Shared
  | [] => s
  | e :: es => (s.step c e).run c es

/-- The state in which an invalidation of the user, begun in `s`, completes, after the events
`mid` of other callers ran between its two halves. -/
def invalidateAmid (c : RuleCache) (s : Shared) (user : String) (mid : List CacheEvent) : Shared :=
  (((s.step c (.beginInvalidate user)).run c mid)).step c (.finish s.nextTicket)

/-! ## The two halves of a call -/

section Halves

variable (c : RuleCache) (s : Shared)

@[simp] theorem mem_launch (p : Option Pending) : (s.launch p).mem = s.mem := rfl

@[simp] theorem clock_launch (p : Option Pending) : (s.launch p).clock = s.clock := rfl

@[simp] theorem nextTicket_launch (p : Option Pending) :
    (s.launch p).nextTicket = s.nextTicket + 1 := rfl

theorem mem_flights_launch {p : Option Pending} {f : Flight} :
    f ∈ (s.launch p).flights ↔ f ∈ s.flights ∨ p.map (⟨s.nextTicket, ·⟩) = some f := by
  cases p <;> simp [launch, eq_comm]

theorem step_finish_absent {t : Nat} (h : ∀ f ∈ s.flights, f.ticket ≠ t) :
    s.step c (.finish t) = s := by
  have hnone : s.flights.find? (·.ticket == t) = none :=
    List.find?_eq_none.mpr fun f hf => by simpa using h f hf
  simp only [step, hnone]

/-- Finishing the call that just began, on the store `mem` its first half left, runs its second
half there. -/
theorem step_finish_launched (mem : MemoryStore) (p : Pending)
    (h : ∀ f ∈ s.flights, f.ticket ≠ s.nextTicket) :
    ({ s with mem := mem }.launch (some p)).step c (.finish s.nextTicket) =
      { s with mem := p.complete c mem, nextTicket := s.nextTicket + 1 } := by
  have hnone : s.flights.find? (·.ticket == s.nextTicket) = none :=
    List.find?_eq_none.mpr fun f hf => by simpa using h f hf
  have hkeep : s.flights.filter (·.ticket != s.nextTicket) = s.flights :=
    List.filter_eq_self.mpr fun f hf => by simpa using h f hf
  simp [step, launch, List.find?_append, hnone, List.filter_append, hkeep]

/-- A put whose second half runs right after its first is the rule cache's put. -/
theorem put_in_halves (rule : Rule) (user : String) (roles : NameSet)
    (h : ∀ f ∈ s.flights, f.ticket ≠ s.nextTicket) :
    ((s.cacheOf c).put s.clock rule user roles).2 =
      ((s.step c (.beginPut rule user roles)).step c (.finish s.nextTicket)).cacheOf c := by
  have hc : (s.cacheOf c).store = some (.memory s.mem Faults.none) := rfl
  cases hr : rule.isCacheable
  case false =>
    have hs : stores rule roles = false := by simp [stores, hr]
    rw [RuleCache.put_uncacheable _ _ _ _ hr, step, if_neg (by simp [hs]),
      step_finish_absent c _ (by simpa [launch] using h)]
    rfl
  case true =>
    cases hn : roles.contains emptySetMember
    case true =>
      have hs : stores rule roles = false := by simp [stores, hn]
      rw [RuleCache.put_emptyName _ _ _ _ hc hr hn, step, if_neg (by simp [hs]),
        step_finish_absent c _ (by simpa [launch] using h)]
      rfl
    case false =>
      have hs : stores rule roles = true := by simp [stores, hr, hn]
      rw [RuleCache.put_stored _ _ _ _ hc hr hn rfl rfl, step, if_pos hs]
      dsimp only
      rw [step_finish_launched c s _ _ h]
      rfl

/-- An invalidation whose second half runs right after its first is the rule cache's
`invalidateUser`. -/
theorem invalidateUser_in_halves (user : String) (h : ∀ f ∈ s.flights, f.ticket ≠ s.nextTicket) :
    ((s.cacheOf c).invalidateUser user).2 =
      ((s.step c (.beginInvalidate user)).step c (.finish s.nextTicket)).cacheOf c := by
  have hc : (s.cacheOf c).store = some (.memory s.mem Faults.none) := rfl
  by_cases hk : (s.mem.indexes.getD (c.indexKey user) ∅).toList = []
  · rw [RuleCache.invalidateUser_none _ hc rfl hk, step,
      if_pos (by simp [MemoryStore.indexDrain, hk]),
      step_finish_absent c _ (by simpa [launch] using h)]
    rfl
  · rw [RuleCache.invalidateUser_drained _ hc rfl hk rfl, step,
      if_neg (by simp only [MemoryStore.indexDrain, List.isEmpty_iff]; exact hk),
      step_finish_launched c s _ _ h]
    rfl

end Halves

/-- The states that callers with user ids without ':' reach from the empty store. -/
inductive Reachable (c : RuleCache) : Shared → Prop
  | init : Reachable c {}
  | step {s : Shared} (e : CacheEvent) : e.ColonFree → Reachable c s → Reachable c (s.step c e)

/-! ## Live entries and where they are accounted for -/

section Invariant

variable {c : RuleCache}

/-- A live entry is stored under the key at the shared clock. -/
def LiveAt (s : Shared) (key : String) : Prop :=
  s.mem.LiveAt s.clock key

/-- Why a live entry of the user will not outlive an invalidation of the user: the key is in the
user's index, or a put in flight is about to list it there, or an invalidation in flight is about
to delete it. -/
def Accounted (c : RuleCache) (s : Shared) (user key : String) : Prop :=
  key ∈ s.mem.indexes.getD (c.indexKey user) ∅ ∨
    (∃ f ∈ s.flights, f.pending = .listing user key) ∨
    ∃ f ∈ s.flights, ∃ v keys, f.pending = .deleting v keys ∧ key ∈ keys

theorem Accounted.mono {s s' : Shared} {user key : String} (h : s.Accounted c user key)
    (hi : key ∈ s.mem.indexes.getD (c.indexKey user) ∅ →
      key ∈ s'.mem.indexes.getD (c.indexKey user) ∅)
    (hf : ∀ f ∈ s.flights, f ∈ s'.flights) : s'.Accounted c user key := by
  rcases h with hk | ⟨f, hmem, hp⟩ | ⟨f, hmem, v, keys, hp, hk⟩
  · exact Or.inl (hi hk)
  · exact Or.inr (Or.inl ⟨f, hf f hmem, hp⟩)
  · exact Or.inr (Or.inr ⟨f, hf f hmem, v, keys, hp, hk⟩)

/-- What every reachable state keeps. -/
structure Inv (c : RuleCache) (s : Shared) : Prop where
  /-- Every entry is the entry of a rule and a user without ':'. -/
  keyed : ∀ k e, s.mem.entries[k]? = some e → ∃ rule user, NoColon user ∧ k = c.entryKey rule user
  /-- The calls in flight hold distinct tickets, each given out already. -/
  distinct : (s.flights.map Flight.ticket).Nodup
  issued : ∀ f ∈ s.flights, f.ticket < s.nextTicket
  /-- Every live entry is accounted for. -/
  covered : ∀ rule user, NoColon user → s.LiveAt (c.entryKey rule user) →
    s.Accounted c user (c.entryKey rule user)

theorem Inv.init : Inv c {} where
  keyed k e h := by simp at h
  distinct := List.nodup_nil
  issued f h := by simp at h
  covered rule user _ h := by
    obtain ⟨e, he, _⟩ := h
    simp at he

/-! ### Tickets -/

theorem distinct_launch {s : Shared} (hd : (s.flights.map Flight.ticket).Nodup)
    (hi : ∀ f ∈ s.flights, f.ticket < s.nextTicket) (p : Option Pending) :
    ((s.launch p).flights.map Flight.ticket).Nodup := by
  cases p with
  | none => simpa [launch] using hd
  | some p =>
    -- the new ticket is above every ticket in flight
    have hnew : s.nextTicket ∉ s.flights.map Flight.ticket := by
      simp only [List.mem_map, not_exists, not_and]
      intro f hf heq
      have := hi f hf
      omega
    simp only [launch, Option.map_some, Option.toList_some, List.map_append, List.map_cons,
      List.map_nil]
    refine List.nodup_append.mpr ⟨hd, List.nodup_cons.mpr ⟨List.not_mem_nil, List.nodup_nil⟩, ?_⟩
    intro a ha b hb hab
    rw [List.mem_singleton] at hb
    exact hnew (by rw [← hb, ← hab]; exact ha)

theorem issued_launch {s : Shared} (hi : ∀ f ∈ s.flights, f.ticket < s.nextTicket)
    (p : Option Pending) : ∀ f ∈ (s.launch p).flights, f.ticket < (s.launch p).nextTicket := by
  intro f hf
  rcases (mem_flights_launch s).mp hf with hold | hnew
  · have := hi f hold
    simp only [nextTicket_launch]
    omega
  · obtain ⟨p, _, rfl⟩ := Option.map_eq_some_iff.mp hnew
    simp

/-! ### One step -/

theorem Inv.launch {s : Shared} (h : Inv c s) (p : Option Pending) : Inv c (s.launch p) where
  keyed := h.keyed
  distinct := distinct_launch h.distinct h.issued p
  issued := issued_launch h.issued p
  covered rule user hu hl :=
    (h.covered rule user hu hl).mono id fun _ hf => (mem_flights_launch s).mpr (Or.inl hf)

theorem Inv.beginPut {s : Shared} (h : Inv c s) (rule : Rule) {user : String} (hu : NoColon user)
    (roles : NameSet) : Inv c (s.step c (.beginPut rule user roles)) := by
  simp only [step]
  split
  case isFalse => exact h.launch none
  case isTrue =>
  -- the put writes its entry and keeps its listing in flight
  refine ⟨?_, distinct_launch h.distinct h.issued _, issued_launch h.issued _, ?_⟩
  · intro k e he
    simp only [mem_launch] at he
    rw [MemoryStore.entries_replace] at he
    split at he
    case isTrue hk => exact ⟨rule.name, user, hu, hk.symm⟩
    case isFalse => exact h.keyed k e he
  · intro r u hu' ⟨e, he, hl⟩
    simp only [mem_launch] at he
    rw [MemoryStore.entries_replace] at he
    by_cases hk : c.entryKey rule.name user = c.entryKey r u
    · obtain ⟨rfl, rfl⟩ := RuleCache.entryKey_inj hu hu' hk
      exact Or.inr (Or.inl ⟨⟨s.nextTicket, .listing user (c.entryKey rule.name user)⟩,
        (mem_flights_launch _).mpr (Or.inr rfl), rfl⟩)
    · rw [if_neg hk] at he
      exact (h.covered r u hu' ⟨e, he, hl⟩).mono id
        fun _ hf => (mem_flights_launch _).mpr (Or.inl hf)

theorem Inv.beginInvalidate {s : Shared} (h : Inv c s) (user : String) :
    Inv c (s.step c (.beginInvalidate user)) := by
  simp only [step]
  generalize hkeys : (s.mem.indexDrain (c.indexKey user)).1 = keys
  refine ⟨h.keyed, distinct_launch h.distinct h.issued _, issued_launch h.issued _, ?_⟩
  intro r u hu hl
  have hmono : ∀ f ∈ s.flights, f ∈ ({ s with mem := (s.mem.indexDrain (c.indexKey user)).2 }.launch
      (if keys.isEmpty then none else some (.deleting user keys))).flights :=
    fun _ hf => (mem_flights_launch _).mpr (Or.inl hf)
  rcases h.covered r u hu hl with hk | ⟨f, hf, hp⟩ | ⟨f, hf, v, ks, hp, hk⟩
  · by_cases hu' : user = u
    · -- the key was drained, so the drained list is in flight to be deleted
      subst hu'
      have hin : c.entryKey r user ∈ keys := by
        simpa [← hkeys, MemoryStore.indexDrain] using hk
      rw [List.isEmpty_eq_false_iff_exists_mem.mpr ⟨_, hin⟩]
      exact Or.inr (Or.inr ⟨⟨s.nextTicket, .deleting user keys⟩,
        (mem_flights_launch _).mpr (Or.inr rfl), user, keys, rfl, hin⟩)
    · have hik : c.indexKey user ≠ c.indexKey u := fun he => hu' (RuleCache.indexKey_inj he)
      refine Or.inl ?_
      simpa [MemoryStore.indexDrain, MemoryStore.getD_erase_index, hik] using hk
  · exact Or.inr (Or.inl ⟨f, hmono f hf, hp⟩)
  · exact Or.inr (Or.inr ⟨f, hmono f hf, v, ks, hp, hk⟩)

/-- The flight that finishing a ticket finds is the only one holding that ticket; every other
flight stays in flight. -/
theorem flights_finish {s : Shared} (h : Inv c s) {t : Nat} {f : Flight}
    (hf : s.flights.find? (·.ticket == t) = some f) :
    f ∈ s.flights ∧ f.ticket = t ∧ ∀ g ∈ s.flights, g ≠ f → g ∈ s.flights.filter (·.ticket != t) := by
  have hmem := List.mem_of_find?_eq_some hf
  have ht : f.ticket = t := by simpa using List.find?_some hf
  refine ⟨hmem, ht, fun g hg hgf => List.mem_filter.mpr ⟨hg, ?_⟩⟩
  -- two flights with one ticket are one flight
  have hne : g.ticket ≠ t := fun hgt =>
    hgf (List.inj_on_of_nodup_map h.distinct hg hmem (hgt.trans ht.symm))
  simpa using hne

theorem Inv.finish {s : Shared} (h : Inv c s) (t : Nat) : Inv c (s.step c (.finish t)) := by
  simp only [step]
  split
  case h_2 => exact h
  case h_1 f hf =>
  obtain ⟨hmem, -, hstay⟩ := flights_finish h hf
  have hd : ((s.flights.filter (·.ticket != t)).map Flight.ticket).Nodup :=
    h.distinct.sublist ((List.filter_sublist).map _)
  have hi : ∀ g ∈ s.flights.filter (·.ticket != t), g.ticket < s.nextTicket :=
    fun g hg => h.issued g (List.mem_filter.mp hg).1
  obtain ⟨t', p⟩ := f
  cases p with
  | listing v k' =>
    -- the put lists its key; the entries stay as they are
    refine ⟨h.keyed, hd, hi, ?_⟩
    intro r u hu hl
    rcases h.covered r u hu hl with hk | ⟨g, hg, hp⟩ | ⟨g, hg, w, ks, hp, hk⟩
    · exact Or.inl ((MemoryStore.mem_indexAdd _ _ _ _ _).mpr (Or.inr hk))
    · by_cases hgf : g = ⟨t', .listing v k'⟩
      · subst hgf
        simp only [Pending.listing.injEq] at hp
        obtain ⟨rfl, rfl⟩ := hp
        exact Or.inl ((MemoryStore.mem_indexAdd _ _ _ _ _).mpr (Or.inl ⟨rfl, rfl⟩))
      · exact Or.inr (Or.inl ⟨g, hstay g hg hgf, hp⟩)
    · have hgf : g ≠ ⟨t', .listing v k'⟩ := by
        rintro rfl
        simp at hp
      exact Or.inr (Or.inr ⟨g, hstay g hg hgf, w, ks, hp, hk⟩)
  | deleting v keys =>
    -- the invalidation deletes the keys it drained; the indexes stay as they are
    refine ⟨?_, hd, hi, ?_⟩
    · intro k e he
      simp only [Pending.complete] at he
      rw [MemoryStore.entries_delete] at he
      split at he
      case isTrue => simp at he
      case isFalse => exact h.keyed k e he
    · intro r u hu ⟨e, he, hl⟩
      simp only [Pending.complete] at he
      rw [MemoryStore.entries_delete] at he
      split at he
      case isTrue => simp at he
      case isFalse hnot =>
      rcases h.covered r u hu ⟨e, he, hl⟩ with hk | ⟨g, hg, hp⟩ | ⟨g, hg, w, ks, hp, hk⟩
      · exact Or.inl hk
      · have hgf : g ≠ ⟨t', .deleting v keys⟩ := by
          rintro rfl
          simp at hp
        exact Or.inr (Or.inl ⟨g, hstay g hg hgf, hp⟩)
      · have hgf : g ≠ ⟨t', .deleting v keys⟩ := by
          rintro rfl
          simp only [Pending.deleting.injEq] at hp
          obtain ⟨-, rfl⟩ := hp
          exact hnot hk
        exact Or.inr (Or.inr ⟨g, hstay g hg hgf, w, ks, hp, hk⟩)

/-! ### Steps that only forget -/

/-- `s'` only forgets what `s` held: the same calls in flight and tickets, a clock no earlier, no
entry `s` did not hold, and each index listing what it listed in `s` that still names a live
entry, and nothing else. Reads, purges and moves of the clock are such steps. -/
structure Forgets (s s' : Shared) : Prop where
  flights : s'.flights = s.flights
  nextTicket : s'.nextTicket = s.nextTicket
  clock : s.clock ≤ s'.clock
  entries : ∀ (k : String) (e : MemoryEntry), s'.mem.entries[k]? = some e → s.mem.entries[k]? = some e
  listed : ∀ ik k, k ∈ s'.mem.indexes.getD ik ∅ → k ∈ s.mem.indexes.getD ik ∅
  kept : ∀ ik k, s'.LiveAt k → k ∈ s.mem.indexes.getD ik ∅ → k ∈ s'.mem.indexes.getD ik ∅

theorem Forgets.refl (s : Shared) : Forgets s s :=
  ⟨rfl, rfl, Nat.le_refl _, fun _ _ h => h, fun _ _ h => h, fun _ _ _ h => h⟩

theorem Forgets.live {s s' : Shared} (h : Forgets s s') {k : String} : s'.LiveAt k → s.LiveAt k
  | ⟨e, he, hl⟩ => ⟨e, h.entries k e he, Nat.lt_of_le_of_lt h.clock hl⟩

theorem forgets_read (s : Shared) (rule : Rule) (user : String) :
    Forgets s (s.step c (.read rule user)) := by
  simp only [step]
  split
  case isFalse => exact Forgets.refl s
  case isTrue =>
  refine ⟨rfl, rfl, Nat.le_refl _, fun k e he => MemoryStore.entries_get_of _ _ _ k he, ?_, ?_⟩
  · intro _ _ h
    simpa using h
  · intro _ _ _ h
    simpa using h

theorem forgets_purge (s : Shared) : Forgets s (s.step c .purge) := by
  refine ⟨rfl, rfl, Nat.le_refl _, ?_, ?_, ?_⟩
  · intro k e he
    simp only [step, MemoryStore.entries_purge, Option.filter_eq_some_iff] at he
    exact he.1
  · intro ik k hk
    exact ((MemoryStore.mem_purge_index _ _ _ _).mp hk).1
  · intro ik k hl hk
    obtain ⟨e, he, hlt⟩ := hl
    have hold : s.mem.entries[k]? = some e := by
      simp only [step, MemoryStore.entries_purge, Option.filter_eq_some_iff] at he
      exact he.1
    exact (MemoryStore.mem_purge_index _ _ _ _).mpr ⟨hk, e, hold, hlt⟩

theorem forgets_advance (s : Shared) (ms : Nat) : Forgets s (s.step c (.advance ms)) :=
  ⟨rfl, rfl, Nat.le_add_right _ _, fun _ _ h => h, fun _ _ h => h, fun _ _ _ h => h⟩

theorem Inv.forgets {s s' : Shared} (h : Inv c s) (hs : Forgets s s') : Inv c s' where
  keyed k e he := h.keyed k e (hs.entries k e he)
  distinct := hs.flights ▸ h.distinct
  issued f hf := hs.nextTicket ▸ h.issued f (hs.flights ▸ hf)
  covered rule user hu hl :=
    (h.covered rule user hu (hs.live hl)).mono (hs.kept _ _ hl) fun _ hf => hs.flights ▸ hf

/-! ### Every run -/

theorem Inv.step {s : Shared} (h : Inv c s) (e : CacheEvent) (he : e.ColonFree) :
    Inv c (s.step c e) := by
  cases e with
  | beginPut rule user roles => exact h.beginPut rule he roles
  | beginInvalidate user => exact h.beginInvalidate user
  | finish t => exact h.finish t
  | read rule user => exact h.forgets (forgets_read s rule user)
  | purge => exact h.forgets (forgets_purge s)
  | advance ms => exact h.forgets (forgets_advance s ms)

theorem Reachable.inv {s : Shared} (h : Reachable c s) : Inv c s := by
  induction h with
  | init => exact Inv.init
  | step e he _ ih => exact ih.step e he

theorem Reachable.run {s : Shared} (h : Reachable c s) :
    ∀ es : List CacheEvent, (∀ e ∈ es, e.ColonFree) → Reachable c (s.run c es) := by
  intro es hes
  induction es generalizing s with
  | nil => exact h
  | cons e es ih =>
    exact ih (.step e (hes e (List.mem_cons_self ..)) h) fun e' he' => hes e' (List.mem_cons_of_mem _ he')

/-- With no call in flight, a live entry of a user is listed in the user's index. -/
theorem Inv.listed_of_quiet {s : Shared} (h : Inv c s) (hq : s.flights = []) {rule user : String}
    (hu : NoColon user) (hl : s.LiveAt (c.entryKey rule user)) :
    c.entryKey rule user ∈ s.mem.indexes.getD (c.indexKey user) ∅ := by
  rcases h.covered rule user hu hl with hk | ⟨f, hf, _⟩ | ⟨f, hf, _⟩
  · exact hk
  · simp [hq] at hf
  · simp [hq] at hf

theorem ticket_gone_finish (s : Shared) (t : Nat) :
    ∀ f ∈ (s.step c (.finish t)).flights, f.ticket ≠ t := by
  simp only [step]
  split
  case h_1 =>
    intro f hf
    simpa using (List.mem_filter.mp hf).2
  case h_2 hnone =>
    intro f hf ht
    have := List.find?_eq_none.mp hnone f hf
    simp [ht] at this

end Invariant

/-! ## An invalidation that no put overlaps -/

section Clearing

variable {c : RuleCache} {user : String} {t : Nat}

/-- The state while the invalidation of `user` under ticket `t` is in flight, no put for the user
having begun since it did: no put for the user is in flight, the user's index lists nothing, and
every live entry of the user is among the keys that invalidation is to delete. -/
structure Clearing (c : RuleCache) (user : String) (t : Nat) (s : Shared) : Prop where
  noListing : ∀ f ∈ s.flights, ∀ key, f.pending ≠ .listing user key
  unlisted : ∀ key, key ∉ s.mem.indexes.getD (c.indexKey user) ∅
  doomed : ∀ rule, s.LiveAt (c.entryKey rule user) → ∃ f ∈ s.flights, f.ticket = t ∧
    ∃ keys, f.pending = .deleting user keys ∧ c.entryKey rule user ∈ keys

/-- Beginning a call that is not a put for the user keeps the state clearing. -/
theorem Clearing.launch {s : Shared} (h : Clearing c user t s) (p : Option Pending)
    (hp : ∀ key, p ≠ some (.listing user key)) : Clearing c user t (s.launch p) := by
  refine ⟨?_, h.unlisted, ?_⟩
  · intro f hf key hfp
    rcases (mem_flights_launch s).mp hf with hold | hnew
    · exact h.noListing f hold key hfp
    · obtain ⟨q, hq, rfl⟩ := Option.map_eq_some_iff.mp hnew
      exact hp key (hq.trans (congrArg some hfp))
  · intro rule hl
    obtain ⟨f, hf, hft, hdel⟩ := h.doomed rule hl
    exact ⟨f, (mem_flights_launch s).mpr (Or.inl hf), hft, hdel⟩

theorem Clearing.beginPut {s : Shared} (h : Clearing c user t s) (hu : NoColon user) (rule : Rule)
    {u : String} (hu' : NoColon u) (hne : u ≠ user) (roles : NameSet) :
    Clearing c user t (s.step c (.beginPut rule u roles)) := by
  simp only [step]
  split
  case isFalse => exact h.launch none (by simp)
  case isTrue =>
  -- the entry written is another user's; the listing in flight is for that user
  apply Clearing.launch
  · refine ⟨h.noListing, h.unlisted, ?_⟩
    intro r ⟨e, he, hl⟩
    simp only [MemoryStore.entries_replace] at he
    split at he
    case isTrue hk => exact absurd (RuleCache.entryKey_inj hu' hu hk).2 hne
    case isFalse => exact h.doomed r ⟨e, he, hl⟩
  · intro key hk
    simp only [Option.some.injEq, Pending.listing.injEq] at hk
    exact hne hk.1

theorem Clearing.beginInvalidate {s : Shared} (h : Clearing c user t s) (u : String) :
    Clearing c user t (s.step c (.beginInvalidate u)) := by
  simp only [step]
  apply Clearing.launch
  · refine ⟨h.noListing, ?_, h.doomed⟩
    intro key hk
    simp only [MemoryStore.indexDrain, MemoryStore.getD_erase_index] at hk
    split at hk
    · exact Std.TreeSet.not_mem_emptyc hk
    · exact h.unlisted key hk
  · intro key
    split <;> simp

theorem Clearing.finish {s : Shared} (hi : Inv c s) (h : Clearing c user t s) (t' : Nat) :
    Clearing c user t (s.step c (.finish t')) := by
  simp only [step]
  split
  case h_2 => exact h
  case h_1 f hf =>
  obtain ⟨hmem, hft, hstay⟩ := flights_finish hi hf
  have hnoListing : ∀ g ∈ s.flights.filter (·.ticket != t'), ∀ key, g.pending ≠ .listing user key :=
    fun g hg => h.noListing g (List.mem_filter.mp hg).1
  obtain ⟨t'', p⟩ := f
  cases p with
  | listing v k' =>
    -- another user's put lists its key; the entries stay as they are
    have hv : v ≠ user := fun hv => h.noListing _ hmem k' (by rw [hv])
    refine ⟨hnoListing, ?_, ?_⟩
    · intro key hk
      rcases (MemoryStore.mem_indexAdd _ _ _ _ _).mp hk with ⟨hik, -⟩ | hold
      · exact hv (RuleCache.indexKey_inj hik)
      · exact h.unlisted key hold
    · intro rule hl
      obtain ⟨g, hg, hgt, keys, hgp, hk⟩ := h.doomed rule hl
      have hgf : g ≠ ⟨t'', .listing v k'⟩ := by
        rintro rfl
        simp at hgp
      exact ⟨g, hstay g hg hgf, hgt, keys, hgp, hk⟩
  | deleting v keys =>
    refine ⟨hnoListing, h.unlisted, ?_⟩
    intro rule ⟨e, he, hl⟩
    simp only [Pending.complete, MemoryStore.entries_delete] at he
    split at he
    case isTrue => simp at he
    case isFalse hnot =>
    obtain ⟨g, hg, hgt, ks, hgp, hk⟩ := h.doomed rule ⟨e, he, hl⟩
    -- the deleting flight of the invalidation would have deleted the entry
    have hgf : g ≠ ⟨t'', .deleting v keys⟩ := by
      rintro rfl
      simp only [Pending.deleting.injEq] at hgp
      obtain ⟨-, rfl⟩ := hgp
      exact hnot hk
    exact ⟨g, hstay g hg hgf, hgt, ks, hgp, hk⟩

theorem Clearing.forgets {s s' : Shared} (h : Clearing c user t s) (hs : Forgets s s') :
    Clearing c user t s' where
  noListing f hf := h.noListing f (hs.flights ▸ hf)
  unlisted key hk := h.unlisted key (hs.listed _ _ hk)
  doomed rule hl := hs.flights ▸ h.doomed rule (hs.live hl)

theorem Clearing.step {s : Shared} (hi : Inv c s) (h : Clearing c user t s) (hu : NoColon user)
    (e : CacheEvent) (he : e.ColonFree) (hp : ¬ e.PutsFor user) :
    Clearing c user t (s.step c e) := by
  cases e with
  | beginPut rule u roles => exact h.beginPut hu rule he hp roles
  | beginInvalidate u => exact h.beginInvalidate u
  | finish t' => exact h.finish hi t'
  | read rule u => exact h.forgets (forgets_read s rule u)
  | purge => exact h.forgets (forgets_purge s)
  | advance ms => exact h.forgets (forgets_advance s ms)

/-- Other callers' steps keep the state clearing, as long as none begins a put for the user. -/
theorem Clearing.run {s : Shared} (hr : Reachable c s) (h : Clearing c user t s)
    (hu : NoColon user) :
    ∀ es : List CacheEvent, (∀ e ∈ es, e.ColonFree ∧ ¬ e.PutsFor user) →
      Clearing c user t (s.run c es) := by
  intro es hes
  induction es generalizing s with
  | nil => exact h
  | cons e es ih =>
    have he := hes e (List.mem_cons_self ..)
    exact ih (.step e he.1 hr) (h.step hr.inv hu e he.1 he.2)
      fun e' he' => hes e' (List.mem_cons_of_mem _ he')

/-- An invalidation begun with no call in flight drains every live entry of the user. -/
theorem Clearing.begin {s : Shared} (h : Inv c s) (hq : s.flights = []) (hu : NoColon user) :
    Clearing c user s.nextTicket (s.step c (.beginInvalidate user)) := by
  simp only [Shared.step]
  generalize hkeys : (s.mem.indexDrain (c.indexKey user)).1 = keys
  refine ⟨?_, ?_, ?_⟩
  · intro f hf key hfp
    rcases (mem_flights_launch _).mp hf with hold | hnew
    · simp [hq] at hold
    · split at hnew
      · simp at hnew
      · simp only [Option.map_some, Option.some.injEq] at hnew
        rw [← hnew] at hfp
        simp at hfp
  · intro key hk
    simp [MemoryStore.indexDrain] at hk
  · intro rule hl
    have hin : c.entryKey rule user ∈ keys := by
      rw [← hkeys]
      simpa [MemoryStore.indexDrain] using h.listed_of_quiet hq hu hl
    rw [List.isEmpty_eq_false_iff_exists_mem.mpr ⟨_, hin⟩]
    exact ⟨⟨s.nextTicket, .deleting user keys⟩, (mem_flights_launch _).mpr (Or.inr rfl), rfl,
      keys, rfl, hin⟩

theorem Clearing.not_live {s : Shared} (h : Clearing c user t s)
    (hg : ∀ f ∈ s.flights, f.ticket ≠ t) (rule : String) : ¬ s.LiveAt (c.entryKey rule user) := by
  intro hl
  obtain ⟨f, hf, hft, -⟩ := h.doomed rule hl
  exact hg f hf hft

end Clearing

end Shared

/-! ## Concurrent puts and invalidations -/

/-- Puts, invalidations, reads, purges and moves of the clock run step by step on one in-memory
store, interleaved in any order, by callers whose user ids have no ':'. In every state with no put
or invalidation in flight, every live entry is the entry of a rule and a user, listed in that
user's index. An invalidation of a user that begins in such a state, while no put for the user
begins before it completes, leaves no entry of the user to read and the user's index empty,
whatever else runs between its two halves. -/
theorem interleaved_puts_leave_entries_listed (c : RuleCache) {s : Shared} (hs : s.Reachable c)
    (hq : s.flights = []) :
    (∀ k e, s.mem.entries[k]? = some e → s.clock < e.expiresAt →
      ∃ rule user, k = c.entryKey rule user ∧ k ∈ s.mem.indexes.getD (c.indexKey user) ∅) ∧
    ∀ user, NoColon user → ∀ mid : List CacheEvent, (∀ e ∈ mid, e.ColonFree ∧ ¬ e.PutsFor user) →
      (∀ rule, (((s.invalidateAmid c user mid).cacheOf c).tryGet
        (s.invalidateAmid c user mid).clock rule user).1 = .ok .notFound) ∧
      (s.invalidateAmid c user mid).mem.indexMembers (c.indexKey user) = [] := by
  have hi := hs.inv
  refine ⟨fun k e he hl => ?_, fun user hu mid hmid => ?_⟩
  · obtain ⟨rule, user, hu, rfl⟩ := hi.keyed k e he
    exact ⟨rule, user, rfl, hi.listed_of_quiet hq hu ⟨e, he, hl⟩⟩
  · -- the invalidation's first half starts the clearing state, which the other callers keep
    have hstart : (s.step c (.beginInvalidate user)).Reachable c := .step _ hu hs
    have hreach : ((s.step c (.beginInvalidate user)).run c mid).Reachable c :=
      hstart.run mid fun e he => (hmid e he).1
    have hmiddle := (Shared.Clearing.begin hi hq hu).run hstart hu mid hmid
    have hend : Shared.Clearing c user s.nextTicket (s.invalidateAmid c user mid) :=
      hmiddle.finish hreach.inv s.nextTicket
    -- its own second half leaves no flight under its ticket
    have hgone := Shared.ticket_gone_finish (c := c) ((s.step c (.beginInvalidate user)).run c mid)
      s.nextTicket
    refine ⟨fun rule => RuleCache.tryGet_of_not_live _ rule user rfl rfl
      (hend.not_live hgone rule.name), ?_⟩
    rw [MemoryStore.indexMembers, List.eq_nil_iff_forall_not_mem]
    exact fun k hk => hend.unlisted k (Std.TreeSet.mem_toList.mp hk)

/-- One put run to its end for "alice", from the empty store. -/
theorem interleaved_puts_leave_entries_listed_after_put :
    let c : RuleCache := ⟨none, "rl_"⟩
    let s : Shared := ({} : Shared).run c
      [.beginPut ⟨"Staff", .weak, some 1000, .roles []⟩ "alice" (NameSet.ofList ["admin"]), .finish 0]
    s.Reachable c ∧ s.flights = [] ∧
    (∀ k e, s.mem.entries[k]? = some e → s.clock < e.expiresAt →
      ∃ rule user, k = c.entryKey rule user ∧ k ∈ s.mem.indexes.getD (c.indexKey user) ∅) ∧
    ∀ user, NoColon user → ∀ mid : List CacheEvent, (∀ e ∈ mid, e.ColonFree ∧ ¬ e.PutsFor user) →
      (∀ rule, (((s.invalidateAmid c user mid).cacheOf c).tryGet
        (s.invalidateAmid c user mid).clock rule user).1 = .ok .notFound) ∧
      (s.invalidateAmid c user mid).mem.indexMembers (c.indexKey user) = [] := by
  intro c s
  have hr : s.Reachable c := Shared.Reachable.init.run _ (by decide)
  have hq : s.flights = [] := rfl
  exact ⟨hr, hq, interleaved_puts_leave_entries_listed c hr hq⟩

end RoleSync
