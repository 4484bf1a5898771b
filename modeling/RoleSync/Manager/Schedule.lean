import Std.Data.TreeMap
/-!
Concurrent branches under a count of permits, on a virtual clock. The scheduler is the same for
every kind of branch (`BranchKind`); a kind says what starting a branch and finishing it do.

Every branch is spawned at once and started in order, at most the number of permits of them
holding one at a time, the others waiting first come first served. A started branch ends at
once, or pauses for some times in turn and then finishes, unless its deadline, counted from its
start, passes first. Time passes only while every branch waits: the clock then jumps to the
earliest due timer, and the timers due then fire in the order they were set, each waking its
branch. Woken branches run in the order they were woken, and a branch handed a freed permit runs
after those already woken. A pause is looked at before the deadline, so a branch whose pauses end
exactly at its deadline finishes.
-/

namespace RoleSync

set_option autoImplicit false

/-- How a started branch goes on: it has its outcome at once, or it pauses for each of the given
times in turn and then finishes with a result. -/
inductive Launch (ρ α : Type) where
  | done (outcome : α)
  | pausing (pauses : List Nat) (result : ρ)

/-- The number of pauses of a launch. -/
def Launch.pauseCount {ρ α : Type} : Launch ρ α → Nat
  | .done _ => 0
  | .pausing pauses _ => pauses.length

/-- A kind of branch. Branches are given as data of type `β` and share a state of type `σ`; a
pausing branch holds a result of type `ρ`, and a branch ends with an outcome of type `α`. -/
structure BranchKind (β σ ρ α : Type) where
  /-- Starts a branch, once it holds a permit, at a clock reading. -/
  start : β → Nat → σ → Launch ρ α × σ
  /-- Finishes a branch with its result once its pauses are over. -/
  finish : β → Nat → ρ → σ → α × σ
  /-- The deadline of a pausing branch, counted from its start, and the outcome of a branch that
  passes it. -/
  deadline : Option (Nat × (β → α))
  /-- How many pauses a branch makes at most. -/
  pauseBound : β → Nat
  pauseCount_le : ∀ b now shared, (start b now shared).1.pauseCount ≤ pauseBound b

/-- Where a branch stands. -/
inductive BranchPhase (ρ α : Type) where
  /-- Spawned and not yet run. -/
  | fresh
  /-- Waiting for a permit. -/
  | queued
  /-- Handed a freed permit and not yet run. -/
  | admitted
  /-- Pausing until a timer is due: the pause's due time, the pauses after it, the deadline
  with the outcome it gives, and the result the branch will finish with. -/
  | pausing (due : Nat) (rest : List Nat) (deadline : Option (Nat × α)) (result : ρ)
  | finished

/-- A timer: its due time, the order in which it was set, and the branch it wakes. -/
structure Timer where
  due : Nat
  seq : Nat
  branch : Nat
  deriving DecidableEq, Repr

/-- Branches in progress. -/
structure Schedule (σ ρ α : Type) where
  now : Nat
  nextSeq : Nat := 0
  ready : List Nat
  timers : List Timer := []
  permits : Nat
  waiting : List Nat := []
  phases : List (BranchPhase ρ α)
  shared : σ
  outcomes : List α := []

namespace Schedule

variable {β σ ρ α : Type}

/-- Sets a timer for a branch. -/
def setTimer (s : Schedule σ ρ α) (due branch : Nat) : Schedule σ ρ α :=
  { s with timers := s.timers ++ [⟨due, s.nextSeq, branch⟩], nextSeq := s.nextSeq + 1 }

/-- Changes the phase of a branch. -/
def setPhase (s : Schedule σ ρ α) (i : Nat) (p : BranchPhase ρ α) : Schedule σ ρ α :=
  { s with phases := s.phases.set i p }

/-- Ends a branch: records its outcome, drops its timers and frees its permit, which goes to the
first waiting branch if there is one. -/
def close (s : Schedule σ ρ α) (i : Nat) (o : α) : Schedule σ ρ α :=
  let s := { s.setPhase i .finished with
    outcomes := s.outcomes ++ [o]
    timers := s.timers.filter (·.branch ≠ i) }
  match s.waiting with
  | w :: ws => { s.setPhase w .admitted with waiting := ws, ready := s.ready ++ [w] }
  | [] => { s with permits := s.permits + 1 }

variable (K : BranchKind β σ ρ α) (bs : List β)

/-- Finishes a branch with its result. -/
def finish (s : Schedule σ ρ α) (i : Nat) (r : ρ) : Schedule σ ρ α :=
  match bs[i]? with
  | none => s
  | some b =>
    let (o, shared) := K.finish b s.now r s.shared
    { s with shared := shared }.close i o

/-- Starts a branch that holds a permit. -/
def start (s : Schedule σ ρ α) (i : Nat) : Schedule σ ρ α :=
  match bs[i]? with
  | none => s
  | some b =>
    let (launch, shared) := K.start b s.now s.shared
    let s := { s with shared := shared }
    match launch, K.deadline with
    | .done o, _ => s.close i o
    | .pausing [] r, _ => finish K bs s i r
    | .pausing (_ :: _) _, some (0, late) => s.close i (late b)
    | .pausing (k :: rest) r, some (d, late) =>
      let s := (s.setTimer (s.now + k) i).setTimer (s.now + d) i
      s.setPhase i (.pausing (s.now + k) rest (some (s.now + d, late b)) r)
    | .pausing (k :: rest) r, none =>
      (s.setTimer (s.now + k) i).setPhase i (.pausing (s.now + k) rest none r)

/-- Runs a woken branch. -/
def poll (s : Schedule σ ρ α) (i : Nat) : Schedule σ ρ α :=
  match s.phases[i]? with
  | some .fresh =>
    if s.permits > 0 then start K bs { s with permits := s.permits - 1 } i
    else { s.setPhase i .queued with waiting := s.waiting ++ [i] }
  | some .admitted => start K bs s i
  | some (.pausing due rest deadline result) =>
    let late : Option α := match deadline with
      | some (at_, o) => if at_ ≤ s.now then some o else none
      | none => none
    if due ≤ s.now then
      match rest, late with
      | [], _ => finish K bs s i result
      | _ :: _, some o => s.close i o
      | k :: more, none =>
        (s.setTimer (s.now + k) i).setPhase i (.pausing (s.now + k) more deadline result)
    else
      match late with
      | some o => s.close i o
      | none => s
  | _ => s

/-- Moves the clock to the earliest due timer and wakes the branches of the timers due then, in
the order the timers were set. -/
def fire (s : Schedule σ ρ α) : Schedule σ ρ α :=
  match s.timers.map (·.due) |>.min? with
  | none => s
  | some due =>
    let (fired, later) := s.timers.partition (·.due ≤ due)
    let woken := (fired.mergeSort fun a b => a.seq ≤ b.seq).map (·.branch)
    let ready := woken.foldl (fun acc b => if acc.contains b then acc else acc ++ [b]) s.ready
    { s with now := due, timers := later, ready := ready }

/-- Runs the branches for at most the given number of steps. -/
def runFor : Nat → Schedule σ ρ α → Schedule σ ρ α
  | 0, s => s
  | fuel + 1, s =>
    match s.ready with
    | i :: rest => runFor fuel (poll K bs { s with ready := rest } i)
    | [] => if s.timers.isEmpty then s else runFor fuel s.fire

/-- A number of steps after which every branch has finished: each branch is run at most twice
before it starts, once per pause and once more after it starts, and each of its timers fires
once. -/
def stepBound : Nat :=
  bs.foldl (fun acc b => acc + (2 * K.pauseBound b + 8)) 0 + 1

/-- The branches before any step: all spawned and ready, and every permit free. -/
def initial (permits now : Nat) (shared : σ) : Schedule σ ρ α :=
  { now := now, ready := List.range bs.length, permits := max permits 1,
    phases := bs.map fun _ => .fresh, shared := shared }

/-- Runs the branches to the end, from a clock reading and a count of permits, of which there is
at least one. -/
def run (permits now : Nat) (shared : σ) : Schedule σ ρ α :=
  runFor K bs (stepBound K bs) (initial bs permits now shared)

end Schedule

end RoleSync
