import RoleSync.Proofs.ConfigCheck
/-!
What settings validation accepts and what it reports. The rules that settings must keep are
written out here twice, without the early exits and the running sets of names of the checks.
`WellFormed` lists them field by field. `complaints` lists every broken rule, section by section
in the order cache, sync, logging, roles, communities, the entries of a section in their own
order and the rules of one entry in the order they are checked; a declaration or a community is
measured against the names or trimmed ids of the entries before it.

Validation reports the first complaint and succeeds exactly when there is none
(`validate_eq`), which is exactly when the settings are well formed (`complaints_eq_nil_iff`).
A validated settings value differs from the given one only in its community ids, which are
trimmed; those are distinct, so the role configuration keeps one community per listed entry,
under its trimmed id and with its own name, mapping and sticky ids.

Main statement: `validate_accepts_exactly_well_formed`.
-/

namespace RoleSync.Settings

set_option autoImplicit false

/-! ## Complaints and verdicts -/

/-- A complaint, when a rule is broken. -/
def complainIf (broken : Prop) [Decidable broken] (text : String) : List String :=
  if broken then [text] else []

/-- What a list of complaints calls for: the first complaint, or the value when there is none. -/
def verdict {α : Type} : List String → α → Except String α
  | [], value => .ok value
  | e :: _, _ => .error e

section Verdicts

variable {α : Type}

theorem complainIf_eq_nil_iff (broken : Prop) [Decidable broken] (text : String) :
    complainIf broken text = [] ↔ ¬ broken := by
  unfold complainIf
  split <;> simp_all

theorem verdict_nil (value : α) : verdict [] value = .ok value := rfl

theorem verdict_complainIf_append (broken : Prop) [Decidable broken] (text : String)
    (rest : List String) (value : α) :
    verdict (complainIf broken text ++ rest) value =
      if broken then .error text else verdict rest value := by
  unfold complainIf
  split <;> rfl

theorem verdict_complainIf (broken : Prop) [Decidable broken] (text : String) (value : α) :
    verdict (complainIf broken text) value = if broken then .error text else .ok value := by
  simpa [verdict_nil] using verdict_complainIf_append broken text [] value

theorem verdict_nil_bind {β : Type} (value : α) (k : α → Except String β) :
    (verdict [] value >>= k) = k value := rfl

/-- A check that passes goes on to the next one. -/
theorem verdict_unit_bind (first rest : List String) (value : α) :
    (verdict first () >>= fun _ => verdict rest value) = verdict (first ++ rest) value := by
  cases first <;> rfl

theorem verdict_bind_cons {β : Type} (complaints : List String) (value : List β) (head : β) :
    (verdict complaints value >>= fun tail => pure (head :: tail)) =
      verdict complaints (head :: value) := by
  cases complaints <;> rfl

end Verdicts

/-! ## The rules, as complaints -/

/-- The complaints about a path-valued field, measured on its trimmed text. -/
def pathComplaints (field value : String) : List String :=
  complainIf (Text.trim value = "") (field ++ " must be non-empty") ++
  complainIf (maxPathBytes < (Text.trim value).utf8ByteSize) (field ++ " exceeds max length") ++
  complainIf (∃ c ∈ Host.components (Text.trim value), maxComponentBytes < c.utf8ByteSize)
    (field ++ " path component too long")

/-- The complaints about the cache section. -/
def cacheComplaints (c : CacheSettings) : List String :=
  complainIf (maxKeyPrefixBytes < c.keyPrefix.utf8ByteSize) "cache.key_prefix exceeds max length" ++
  complainIf (c.keyPrefix.toList.any Text.isBlankChar = true)
    "cache.key_prefix must not contain whitespace" ++
  complainIf (c.backend = .database ∧ c.databasePath.isNone = true)
    "cache.backend=sqlite requires cache.sqlite_path" ++
  match c.databasePath with
  | some path => pathComplaints "cache.sqlite_path" path
  | none => []

/-- The complaints about the sync section. -/
def syncComplaints (s : SyncSettings) : List String :=
  complainIf (s.maxParallelism < 1 ∨ maxParallelismLimit < s.maxParallelism)
    "sync.max_parallelism must be between 1 and 256" ++
  complainIf (s.ruleTimeoutMs = some 0) "sync.rule_timeout_ms must be greater than zero"

/-- The complaint about the log filter: the parser's text, when it refuses the filter. -/
def logComplaints (parseFilter : String → Except String Unit) (filter : String) : List String :=
  match parseFilter filter with
  | .ok () => []
  | .error e => ["logging.filter: " ++ e]

/-- The complaints about a role declaration, given the names declared before it. -/
def declarationComplaints (before : List String) (d : Declaration) : List String :=
  complainIf (Text.trim d.name = "") "roles.name must be non-empty" ++
  complainIf (isStandardName d.name = true)
    ("roles.name " ++ d.name ++ " is reserved for a standard role") ++
  complainIf (Text.trim d.rule = "") ("role " ++ d.name ++ " must name a rule") ++
  complainIf (d.name ∈ before) ("duplicate role name: " ++ d.name)

/-- The complaints about role declarations, each measured against the names before it. -/
def declarationsComplaints (before : List String) : List Declaration → List String
  | [] => []
  | d :: rest => declarationComplaints before d ++ declarationsComplaints (before ++ [d.name]) rest

/-- The complaints about one entry of a community's role mapping. -/
def mappingComplaints (id : String) (entry : String × String) : List String :=
  complainIf (Text.trim entry.1 = "") ("guild " ++ id ++ " maps an empty role name") ++
  complainIf (Text.trim entry.2 = "") ("guild " ++ id ++ " maps role " ++ entry.1 ++ " to an empty role id")

/-- The complaints about a community on its own, its id taken trimmed. -/
def communityComplaints (g : CommunitySettings) : List String :=
  complainIf (Text.trim g.id = "") "guilds.id must be non-empty" ++
  complainIf (g.name.map Text.trim = some "")
    ("guilds.name must be non-empty when set (guild " ++ Text.trim g.id ++ ")") ++
  g.roles.toList.flatMap (mappingComplaints (Text.trim g.id)) ++
  complainIf (∃ r ∈ g.sticky, Text.trim r = "")
    ("guild " ++ Text.trim g.id ++ " lists an empty sticky role id")

/-- A community with its id trimmed, as validation keeps it. -/
def withTrimmedId (g : CommunitySettings) : CommunitySettings := { g with id := Text.trim g.id }

/-- The complaints about communities, each also measured against the trimmed ids before it. -/
def communitiesComplaints (before : List String) : List CommunitySettings → List String
  | [] => []
  | g :: rest =>
    communityComplaints g ++
      complainIf (Text.trim g.id ∈ before) ("duplicate guild id: " ++ Text.trim g.id) ++
      communitiesComplaints (before ++ [Text.trim g.id]) rest

/-- Everything wrong with settings, section by section. -/
def complaints (parseFilter : String → Except String Unit) (s : Settings) : List String :=
  cacheComplaints s.cache ++ syncComplaints s.sync ++ logComplaints parseFilter s.logFilter ++
    declarationsComplaints [] s.roles ++ communitiesComplaints [] s.communities

/-! ## The checks give the first complaint -/

/-- The longest component of a path is over a bound exactly when some component is. -/
theorem lt_longestComponent_iff (path : String) (n : Nat) :
    n < Host.longestComponent path ↔ ∃ c ∈ Host.components path, n < c.utf8ByteSize := by
  -- the fold keeps the longest length so far
  have hfold : ∀ (cs : List String) (m : Nat),
      n < cs.foldl (fun m c => max m c.utf8ByteSize) m ↔ n < m ∨ ∃ c ∈ cs, n < c.utf8ByteSize := by
    intro cs
    induction cs with
    | nil => simp
    | cons c cs ih =>
      intro m
      have hmax : n < max m c.utf8ByteSize ↔ n < m ∨ n < c.utf8ByteSize := by omega
      rw [List.foldl_cons, ih, hmax, or_assoc]
      simp only [List.mem_cons, exists_eq_or_imp]
  unfold Host.longestComponent
  simpa using hfold (Host.components path) 0

theorem checkPathField_eq (field value : String) :
    checkPathField field value = verdict (pathComplaints field value) () := by
  unfold checkPathField pathComplaints
  simp only [List.append_assoc, verdict_complainIf_append, verdict_complainIf, String.isEmpty_iff,
    gt_iff_lt, lt_longestComponent_iff]

theorem checkCache_eq (c : CacheSettings) : checkCache c = verdict (cacheComplaints c) () := by
  unfold checkCache cacheComplaints
  simp only [List.append_assoc, verdict_complainIf_append, gt_iff_lt, Text.hasBlank,
    List.any_eq_true]
  rcases c with ⟨backend, keyPrefix, path, busy, journal⟩
  cases backend <;> cases path <;> simp [checkPathField_eq, verdict_nil]

theorem checkSync_eq (s : SyncSettings) : checkSync s = verdict (syncComplaints s) () := by
  have htext : "sync.max_parallelism must be between 1 and " ++ toString maxParallelismLimit =
      "sync.max_parallelism must be between 1 and 256" := rfl
  unfold checkSync syncComplaints
  simp only [verdict_complainIf_append, verdict_complainIf, Bool.or_eq_true, decide_eq_true_eq,
    gt_iff_lt, htext]

theorem checkLogFilter_eq (parseFilter : String → Except String Unit) (filter : String) :
    checkLogFilter parseFilter filter = verdict (logComplaints parseFilter filter) () := by
  unfold checkLogFilter logComplaints
  cases parseFilter filter <;> rfl

/-- The running list of names seen is the names declared before. -/
theorem checkRoles_go_eq (ds : List Declaration) :
    ∀ (seen before : List String), (∀ x, x ∈ seen ↔ x ∈ before) →
      checkRoles.go seen ds = verdict (declarationsComplaints before ds) () := by
  induction ds with
  | nil => intro _ _ _; rfl
  | cons d rest ih =>
    intro seen before hseen
    have hnext : ∀ x, x ∈ d.name :: seen ↔ x ∈ before ++ [d.name] := by
      intro x
      simp [hseen, or_comm]
    simp only [checkRoles.go, declarationsComplaints, declarationComplaints, List.append_assoc,
      verdict_complainIf_append, Text.isBlank_iff_trim_eq_empty, List.contains_iff_mem, hseen,
      ih (d.name :: seen) (before ++ [d.name]) hnext]

theorem checkRoles_eq (roles : List Declaration) :
    checkRoles roles = verdict (declarationsComplaints [] roles) () :=
  checkRoles_go_eq roles [] [] fun _ => Iff.rfl

section Mapping

variable {α : Type} (id : String) (p : String × String → Bool)
  (hp : ∀ e, p e = (Text.isBlank e.1 || Text.isBlank e.2)) (value : α)

include hp in
/-- Over a mapping with no blank name and no blank id, the mapping adds no complaint. -/
theorem verdict_mapping_of_find?_none :
    ∀ (l : List (String × String)) (rest : List String), l.find? p = none →
      verdict (l.flatMap (mappingComplaints id) ++ rest) value = verdict rest value
  | [], _, _ => rfl
  | e :: l, rest, hfind => by
    rw [List.find?_cons] at hfind
    cases he : p e with
    | true => rw [he] at hfind; cases hfind
    | false =>
      rw [he] at hfind
      have hgood : mappingComplaints id e = [] := by
        rw [hp, Bool.or_eq_false_iff] at he
        simp [mappingComplaints, complainIf, ← Text.isBlank_iff_trim_eq_empty, he]
      rw [List.flatMap_cons, hgood, List.nil_append,
        verdict_mapping_of_find?_none l rest hfind]

include hp in
/-- The first mapped role with a blank name or id is complained about, for its name first. -/
theorem verdict_mapping_of_find?_some {r rid : String} :
    ∀ (l : List (String × String)) (rest : List String), l.find? p = some (r, rid) →
      verdict (l.flatMap (mappingComplaints id) ++ rest) value =
        if Text.isBlank r then .error ("guild " ++ id ++ " maps an empty role name")
        else .error ("guild " ++ id ++ " maps role " ++ r ++ " to an empty role id")
  | [], _, hfind => by cases hfind
  | e :: l, rest, hfind => by
    rw [List.find?_cons] at hfind
    cases he : p e with
    | true =>
      rw [he] at hfind
      cases hfind
      rw [hp] at he
      rw [List.flatMap_cons, List.append_assoc, mappingComplaints, List.append_assoc,
        verdict_complainIf_append, verdict_complainIf_append]
      -- a blank name is complained about first; otherwise the id is the blank one
      by_cases hr : Text.isBlank r = true
      · simp [hr, (Text.isBlank_iff_trim_eq_empty r).mp hr]
      · have hrid : Text.isBlank rid = true := by simpa [hr] using he
        simp [hr, mt (Text.isBlank_iff_trim_eq_empty r).mpr hr,
          (Text.isBlank_iff_trim_eq_empty rid).mp hrid]
    | false =>
      rw [he] at hfind
      have hgood : mappingComplaints id e = [] := by
        rw [hp, Bool.or_eq_false_iff] at he
        simp [mappingComplaints, complainIf, ← Text.isBlank_iff_trim_eq_empty, he]
      rw [List.flatMap_cons, hgood, List.nil_append,
        verdict_mapping_of_find?_some l rest hfind]

end Mapping

theorem name_any_isBlank_iff (name : Option String) :
    name.any Text.isBlank = true ↔ name.map Text.trim = some "" := by
  cases name <;> simp [Text.isBlank_iff_trim_eq_empty]

theorem checkCommunity_eq (g : CommunitySettings) :
    checkCommunity g = verdict (communityComplaints g) (withTrimmedId g) := by
  unfold checkCommunity communityComplaints
  simp only [List.append_assoc, verdict_complainIf_append, String.isEmpty_iff,
    name_any_isBlank_iff]
  -- the id and name checks stand alike on both sides; the mapping's first blank decides the rest
  by_cases hid : Text.trim g.id = ""
  · rw [if_pos hid, if_pos hid]
  rw [if_neg hid, if_neg hid]
  by_cases hname : g.name.map Text.trim = some ""
  · rw [if_pos hname, if_pos hname]
  rw [if_neg hname, if_neg hname]
  split
  · rename_i r rid hfind
    rw [verdict_mapping_of_find?_some _ _ (fun _ => rfl) _ _ _ hfind]
  · rename_i hfind
    rw [verdict_mapping_of_find?_none _ _ (fun _ => rfl) _ _ _ hfind, verdict_complainIf]
    simp [List.any_eq_true, Text.isBlank_iff_trim_eq_empty, withTrimmedId]

/-- The running list of ids seen is the trimmed ids of the communities before. -/
theorem checkCommunities_eq (cs : List CommunitySettings) :
    ∀ (seen before : List String), (∀ x, x ∈ seen ↔ x ∈ before) →
      checkCommunities seen cs =
        verdict (communitiesComplaints before cs) (cs.map withTrimmedId) := by
  induction cs with
  | nil => intro _ _ _; rfl
  | cons g rest ih =>
    intro seen before hseen
    have hnext : ∀ x, x ∈ Text.trim g.id :: seen ↔ x ∈ before ++ [Text.trim g.id] := by
      intro x
      simp [hseen, or_comm]
    rw [checkCommunities, checkCommunity_eq, communitiesComplaints, List.append_assoc]
    cases hown : communityComplaints g with
    | cons e l => rfl
    | nil =>
      rw [List.nil_append, verdict_complainIf_append, verdict_nil_bind]
      by_cases hdup : Text.trim g.id ∈ before
      · have hseen' : seen.contains (withTrimmedId g).id = true := by
          simpa [withTrimmedId, hseen] using hdup
        simp only [hseen', if_true, if_pos hdup]
        rfl
      · have hseen' : seen.contains (withTrimmedId g).id = false := by
          simpa [withTrimmedId, hseen] using hdup
        simp only [hseen', Bool.false_eq_true, if_false, if_neg hdup, List.map_cons]
        rw [ih ((withTrimmedId g).id :: seen) _ hnext]
        exact verdict_bind_cons _ _ _

/-- The checks of validation, section after section, give the first complaint of all. -/
theorem validate_eq (parseFilter : String → Except String Unit) (s : Settings) :
    validate parseFilter s = ((verdict (complaints parseFilter s)
      (s.communities.map withTrimmedId)).mapError SettingsError.invalid).map
        fun gs => { s with communities := gs } := by
  unfold validate
  rw [checkCache_eq, checkSync_eq, checkLogFilter_eq, checkRoles_eq,
    checkCommunities_eq s.communities [] [] fun _ => Iff.rfl]
  simp only [verdict_unit_bind, complaints, List.append_assoc]
  generalize verdict _ (s.communities.map withTrimmedId) = r
  cases r <;> rfl

/-! ## Well-formed settings -/

/-- A path-valued field that settings accept: once trimmed, it is not empty, it has at most 4096
bytes, and none of its components has more than 255. -/
def PathAcceptable (value : String) : Prop :=
  Text.trim value ≠ "" ∧ (Text.trim value).utf8ByteSize ≤ maxPathBytes ∧
    ∀ c ∈ Host.components (Text.trim value), c.utf8ByteSize ≤ maxComponentBytes

/-- A role declaration that settings accept on its own: a name that is not blank and not
standard, and a rule that is not blank. -/
def DeclarationAcceptable (d : Declaration) : Prop :=
  Text.trim d.name ≠ "" ∧ (∀ r : StandardRole, d.name ≠ r.name) ∧ Text.trim d.rule ≠ ""

/-- A community entry that settings accept on its own: an id not blank, a name not blank when
set, no blank role name or role id in its mapping, and no blank sticky id. -/
def CommunityAcceptable (g : CommunitySettings) : Prop :=
  Text.trim g.id ≠ "" ∧ (∀ n, g.name = some n → Text.trim n ≠ "") ∧
    (∀ r rid, (r, rid) ∈ g.roles.toList → Text.trim r ≠ "" ∧ Text.trim rid ≠ "") ∧
    ∀ sticky ∈ g.sticky, Text.trim sticky ≠ ""

/-- The settings that validation accepts, rule by rule, the log filter by the given parser. -/
structure WellFormed (parseFilter : String → Except String Unit) (s : Settings) : Prop where
  keyPrefixShort : s.cache.keyPrefix.utf8ByteSize ≤ maxKeyPrefixBytes
  keyPrefixUnbroken : ∀ ch ∈ s.cache.keyPrefix.toList, Text.isBlankChar ch = false
  databasePathGiven : s.cache.backend = .database → s.cache.databasePath ≠ none
  databasePathAcceptable : ∀ path, s.cache.databasePath = some path → PathAcceptable path
  parallelismInRange : 1 ≤ s.sync.maxParallelism ∧ s.sync.maxParallelism ≤ maxParallelismLimit
  timeoutNotZero : s.sync.ruleTimeoutMs ≠ some 0
  logFilterParses : parseFilter s.logFilter = .ok ()
  declarationsAcceptable : ∀ d ∈ s.roles, DeclarationAcceptable d
  roleNamesDistinct : (s.roles.map (·.name)).Nodup
  communitiesAcceptable : ∀ g ∈ s.communities, CommunityAcceptable g
  communityIdsDistinct : (s.communities.map fun g => Text.trim g.id).Nodup

theorem isStandardName_eq_false_iff (x : String) :
    isStandardName x = false ↔ ∀ r : StandardRole, x ≠ r.name := by
  rw [← Bool.not_eq_true, isStandardName_iff]
  constructor
  · rintro h (_ | _) rfl
    · exact h (.inl rfl)
    · exact h (.inr rfl)
  · rintro h (rfl | rfl)
    · exact h .known rfl
    · exact h .identified rfl

theorem pathComplaints_eq_nil_iff (field value : String) :
    pathComplaints field value = [] ↔ PathAcceptable value := by
  simp [pathComplaints, PathAcceptable, complainIf_eq_nil_iff]

theorem cacheComplaints_eq_nil_iff (c : CacheSettings) :
    cacheComplaints c = [] ↔
      c.keyPrefix.utf8ByteSize ≤ maxKeyPrefixBytes ∧
      (∀ ch ∈ c.keyPrefix.toList, Text.isBlankChar ch = false) ∧
      (c.backend = .database → c.databasePath ≠ none) ∧
      ∀ path, c.databasePath = some path → PathAcceptable path := by
  rcases c with ⟨backend, keyPrefix, path, busy, journal⟩
  cases path <;> simp [cacheComplaints, complainIf_eq_nil_iff, pathComplaints_eq_nil_iff]

theorem syncComplaints_eq_nil_iff (s : SyncSettings) :
    syncComplaints s = [] ↔
      (1 ≤ s.maxParallelism ∧ s.maxParallelism ≤ maxParallelismLimit) ∧ s.ruleTimeoutMs ≠ some 0 := by
  simp only [syncComplaints, List.append_eq_nil_iff, complainIf_eq_nil_iff]
  exact and_congr (by omega) Iff.rfl

theorem declarationComplaints_eq_nil_iff (before : List String) (d : Declaration) :
    declarationComplaints before d = [] ↔ DeclarationAcceptable d ∧ d.name ∉ before := by
  simp [declarationComplaints, DeclarationAcceptable, complainIf_eq_nil_iff,
    ← isStandardName_eq_false_iff, and_assoc]

/-- Declarations draw no complaint when each is acceptable and the names are distinct, also from
those before. -/
theorem declarationsComplaints_eq_nil_iff (ds : List Declaration) :
    ∀ before : List String, declarationsComplaints before ds = [] ↔
      (∀ d ∈ ds, DeclarationAcceptable d) ∧ (ds.map (·.name)).Nodup ∧ ∀ d ∈ ds, d.name ∉ before := by
  induction ds with
  | nil => simp [declarationsComplaints]
  | cons d rest ih =>
    intro before
    rw [declarationsComplaints, List.append_eq_nil_iff, declarationComplaints_eq_nil_iff, ih]
    simp only [List.mem_cons, forall_eq_or_imp, List.map_cons, List.nodup_cons, List.mem_map,
      List.mem_append, List.not_mem_nil, or_false, not_or, not_exists, not_and]
    -- the names after `d` avoid the ones before and `d`'s own: split that both ways
    constructor
    · rintro ⟨⟨hd, hnew⟩, hrest, hnd, hout⟩
      exact ⟨⟨hd, hrest⟩, ⟨fun e he => (hout e he).2, hnd⟩, hnew, fun e he => (hout e he).1⟩
    · rintro ⟨⟨hd, hrest⟩, ⟨hfresh, hnd⟩, hnew, hout⟩
      exact ⟨⟨hd, hnew⟩, hrest, hnd, fun e he => ⟨hout e he, hfresh e he⟩⟩

theorem mappingComplaints_eq_nil_iff (id : String) (entry : String × String) :
    mappingComplaints id entry = [] ↔ Text.trim entry.1 ≠ "" ∧ Text.trim entry.2 ≠ "" := by
  simp [mappingComplaints, complainIf_eq_nil_iff]

theorem communityComplaints_eq_nil_iff (g : CommunitySettings) :
    communityComplaints g = [] ↔ CommunityAcceptable g := by
  rcases g with ⟨id, name, sticky, roles⟩
  cases name <;> simp [communityComplaints, CommunityAcceptable, complainIf_eq_nil_iff,
    List.flatMap_eq_nil_iff, mappingComplaints_eq_nil_iff]

/-- Communities draw no complaint when each is acceptable and the trimmed ids are distinct, also
from those before. -/
theorem communitiesComplaints_eq_nil_iff (cs : List CommunitySettings) :
    ∀ before : List String, communitiesComplaints before cs = [] ↔
      (∀ g ∈ cs, CommunityAcceptable g) ∧ (cs.map fun g => Text.trim g.id).Nodup ∧
        ∀ g ∈ cs, Text.trim g.id ∉ before := by
  induction cs with
  | nil => simp [communitiesComplaints]
  | cons g rest ih =>
    intro before
    rw [communitiesComplaints, List.append_eq_nil_iff, List.append_eq_nil_iff,
      communityComplaints_eq_nil_iff, complainIf_eq_nil_iff, ih]
    simp only [List.mem_cons, forall_eq_or_imp, List.map_cons, List.nodup_cons, List.mem_map,
      List.mem_append, List.not_mem_nil, or_false, not_or, not_exists, not_and]
    -- the ids after `g` avoid the ones before and `g`'s own: split that both ways
    constructor
    · rintro ⟨⟨hg, hnew⟩, hrest, hnd, hout⟩
      exact ⟨⟨hg, hrest⟩, ⟨fun e he => (hout e he).2, hnd⟩, hnew, fun e he => (hout e he).1⟩
    · rintro ⟨⟨hg, hrest⟩, ⟨hfresh, hnd⟩, hnew, hout⟩
      exact ⟨⟨hg, hnew⟩, hrest, hnd, fun e he => ⟨hout e he, hfresh e he⟩⟩

theorem logComplaints_eq_nil_iff (parseFilter : String → Except String Unit) (filter : String) :
    logComplaints parseFilter filter = [] ↔ parseFilter filter = .ok () := by
  unfold logComplaints
  cases parseFilter filter <;> simp

/-- Settings draw no complaint exactly when they are well formed. -/
theorem complaints_eq_nil_iff (parseFilter : String → Except String Unit) (s : Settings) :
    complaints parseFilter s = [] ↔ WellFormed parseFilter s := by
  simp only [complaints, List.append_eq_nil_iff, cacheComplaints_eq_nil_iff,
    syncComplaints_eq_nil_iff, logComplaints_eq_nil_iff,
    declarationsComplaints_eq_nil_iff, communitiesComplaints_eq_nil_iff, List.not_mem_nil,
    not_false_eq_true, implies_true, and_true]
  constructor
  · rintro ⟨⟨⟨⟨⟨hshort, hunbroken, hgiven, hpath⟩, hrange, htimeout⟩, hlog⟩, hroles, hnames⟩,
      hcommunities, hids⟩
    exact ⟨hshort, hunbroken, hgiven, hpath, hrange, htimeout, hlog, hroles, hnames, hcommunities,
      hids⟩
  · rintro ⟨hshort, hunbroken, hgiven, hpath, hrange, htimeout, hlog, hroles, hnames, hcommunities,
      hids⟩
    exact ⟨⟨⟨⟨⟨hshort, hunbroken, hgiven, hpath⟩, hrange, htimeout⟩, hlog⟩, hroles, hnames⟩,
      hcommunities, hids⟩

/-! ## The outcome of validation -/

theorem validate_of_complaints_nil {parseFilter : String → Except String Unit} {s : Settings}
    (h : complaints parseFilter s = []) :
    validate parseFilter s = .ok { s with communities := s.communities.map withTrimmedId } := by
  rw [validate_eq, h]
  rfl

theorem validate_of_complaints_cons {parseFilter : String → Except String Unit} {s : Settings}
    {e : String} {rest : List String} (h : complaints parseFilter s = e :: rest) :
    validate parseFilter s = .error (.invalid e) := by
  rw [validate_eq, h]
  rfl

/-! ## Tables built from distinct keys -/

section Insertion

variable {β : Type}

/-- Inserting pairs with distinct keys leaves under each key the value its pair gives. -/
theorem getElem?_foldl_insert (L : List (String × β)) (hnd : (L.map Prod.fst).Nodup)
    (x : String) :
    (L.foldl (fun m p => m.insert p.1 p.2) (∅ : Std.TreeMap String β compare))[x]? =
      L.lookup x := by
  have hinsert : ∀ (acc : Std.TreeMap String β compare) (k : String) (v : β) (y : String),
      (acc.insert k v)[y]? = if k = y then (some v).or acc[y]? else acc[y]? := by
    intro acc k v y
    rw [Std.TreeMap.getElem?_insert]
    by_cases hk : k = y
    · simp [hk]
    · simp [hk, Std.LawfulEqCmp.compare_eq_iff_eq]
  have hfold := getElem?_foldl_keys (fun m p => m.insert p.1 p.2) (fun _ v => some v)
    (fun acc k v y => hinsert acc k v y) L ∅ x hnd
  rw [hfold]
  cases L.lookup x <;> simp

/-- Inserting pairs with distinct keys, none of them already present, adds one entry per pair. -/
theorem size_foldl_insert :
    ∀ (L : List (String × β)) (acc : Std.TreeMap String β compare),
      (L.map Prod.fst).Nodup → (∀ p ∈ L, p.1 ∉ acc) →
        (L.foldl (fun m p => m.insert p.1 p.2) acc).size = acc.size + L.length
  | [], acc, _, _ => rfl
  | (k, v) :: L, acc, hnd, hfresh => by
    rw [List.map_cons, List.nodup_cons] at hnd
    have hk : acc.contains k = false := by
      rw [Bool.eq_false_iff, ne_eq, Std.TreeMap.contains_iff_mem]
      exact hfresh (k, v) (List.mem_cons_self ..)
    -- the later keys are neither in `acc` nor `k`
    have hrest : ∀ p ∈ L, p.1 ∉ acc.insert k v := by
      intro p hp hmem
      rcases Std.TreeMap.mem_insert.mp hmem with heq | hin
      · exact hnd.1 (List.mem_map.mpr ⟨p, hp, (Std.LawfulEqCmp.compare_eq_iff_eq.mp heq).symm⟩)
      · exact hfresh p (List.mem_cons_of_mem _ hp) hin
    rw [List.foldl_cons, size_foldl_insert L _ hnd.2 hrest, Std.TreeMap.size_insert, hk,
      if_neg Bool.false_ne_true, List.length_cons]
    omega

end Insertion

/-! ## The role configuration of validated settings -/

/-- The role configuration inserts each listed community under its id, in list order. -/
theorem communities_roleConfiguration (s : Settings) :
    (roleConfiguration s).communities =
      (s.communities.map fun g => (g.id, CommunitySettings.toCommunity g)).foldl
        (fun m p => m.insert p.1 p.2) ∅ := by
  simp only [roleConfiguration, communityConfigs, List.foldl_map]
  rfl

/-- When the trimmed ids are distinct, the role configuration of the settings with trimmed ids
has one entry per listed community: under its trimmed id, with its own name, mapping and
sticky ids. -/
theorem roleConfiguration_withTrimmedIds {s : Settings}
    (hids : (s.communities.map fun g => Text.trim g.id).Nodup) :
    let v := { s with communities := s.communities.map withTrimmedId }
    (roleConfiguration v).communities.size = s.communities.length ∧
      (∀ g ∈ s.communities, (roleConfiguration v).communities[Text.trim g.id]? =
        some (CommunitySettings.toCommunity (withTrimmedId g))) ∧
      ∀ k, k ∈ (roleConfiguration v).communities ↔ ∃ g ∈ s.communities, Text.trim g.id = k := by
  intro v
  -- the pairs inserted are the trimmed ids with their communities
  let pairs := s.communities.map fun g => (Text.trim g.id, CommunitySettings.toCommunity (withTrimmedId g))
  have hpairs : (roleConfiguration v).communities =
      pairs.foldl (fun m p => m.insert p.1 p.2) ∅ := by
    rw [communities_roleConfiguration, List.map_map]
    rfl
  have hnd : (pairs.map Prod.fst).Nodup := by
    rw [List.map_map]
    exact hids
  have hget : ∀ k, (roleConfiguration v).communities[k]? = pairs.lookup k := by
    intro k
    rw [hpairs, getElem?_foldl_insert pairs hnd]
  refine ⟨?_, fun g hg => ?_, fun k => ?_⟩
  · rw [hpairs, size_foldl_insert pairs ∅ hnd (by simp)]
    simp [pairs]
  · rw [hget, lookup_eq_some_iff_mem hnd]
    exact List.mem_map_of_mem hg
  · rw [Std.TreeMap.mem_iff_isSome_getElem?, hget, List.lookup_isSome_iff]
    simp only [pairs, List.mem_map, beq_iff_eq]
    constructor
    · rintro ⟨_, ⟨g, hg, rfl⟩, rfl⟩
      exact ⟨g, hg, rfl⟩
    · rintro ⟨g, hg, rfl⟩
      exact ⟨_, ⟨g, hg, rfl⟩, rfl⟩

/-! ## Validation -/

/-- Settings validation accepts exactly the well-formed settings, and otherwise reports the
first complaint of all, in the order cache, sync, logging, roles, communities. What it accepts
it keeps with the community ids trimmed and nothing else changed, and the role configuration
then holds one community per listed entry, under its trimmed id, with the entry's own name,
mapping and sticky ids. -/
theorem validate_accepts_exactly_well_formed (parseFilter : String → Except String Unit)
    (s : Settings) :
    ((∃ v, validate parseFilter s = .ok v) ↔ WellFormed parseFilter s) ∧
    (∀ err, validate parseFilter s = .error err ↔
      ∃ e, (complaints parseFilter s).head? = some e ∧ err = .invalid e) ∧
    ∀ v, validate parseFilter s = .ok v →
      v = { s with communities := s.communities.map withTrimmedId } ∧
      (roleConfiguration v).communities.size = s.communities.length ∧
      (∀ g ∈ s.communities, (roleConfiguration v).communities[Text.trim g.id]? =
        some (CommunitySettings.toCommunity (withTrimmedId g))) ∧
      ∀ k, k ∈ (roleConfiguration v).communities ↔ ∃ g ∈ s.communities, Text.trim g.id = k := by
  rcases hc : complaints parseFilter s with _ | ⟨e, rest⟩
  · -- no complaint: the settings are well formed, and validation keeps them with trimmed ids
    have hwf : WellFormed parseFilter s := (complaints_eq_nil_iff parseFilter s).mp hc
    have hok := validate_of_complaints_nil hc
    refine ⟨iff_of_true ⟨_, hok⟩ hwf, fun err => ?_, fun v hv => ?_⟩
    · simp [hok]
    · rw [hok] at hv
      cases hv
      exact ⟨rfl, roleConfiguration_withTrimmedIds hwf.communityIdsDistinct⟩
  · -- a complaint: the settings are not well formed, and validation reports the first
    have hnot : ¬ WellFormed parseFilter s := fun hwf => by
      rw [(complaints_eq_nil_iff parseFilter s).mpr hwf] at hc
      cases hc
    have herr := validate_of_complaints_cons hc
    refine ⟨iff_of_false ?_ hnot, fun err => ?_, fun v hv => ?_⟩
    · rintro ⟨v, hv⟩
      rw [herr] at hv
      cases hv
    · simp [herr, eq_comm]
    · rw [herr] at hv
      cases hv

end RoleSync.Settings
