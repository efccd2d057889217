import Foreman.Script.Behaviour

/-!
# Routine groups

A group runs background routines under one context and counts per name how many run now,
were started, restarted and panicked, and the last failure. A routine failing while the
context is live fails the group, which keeps its first failure ("name: failure") and may
cancel its context with it; a panic fails with "panic: message". A restarting routine runs its
body again after each failure, a backoff apart, until restarted more than its limit. Waiting
ends when every routine returned, with the first failure, or at the deadline.
-/

namespace Foreman

structure RoutineStats where
  active : Nat := 0
  started : Nat := 0
  restarts : Nat := 0
  panics : Nat := 0
  lastErr : String := ""
  deriving Inhabited

/-- The restart policy of a restarting routine, its restarts so far, and whether it waits out
a backoff before its next run. -/
structure Restarts where
  limit : Int
  count : Nat := 0
  waiting : Bool := false
  deriving Inhabited

/-- A routine of the group: its name, what its body does, whether it still runs, and the
restart policy of a restarting routine. -/
structure Routine where
  name : String
  body : Behaviour
  alive : Bool := true
  restart : Option Restarts := none
  deriving Inhabited

def Routine.waiting (r : Routine) : Bool := (r.restart.map (·.waiting)).getD false

structure RoutineGroup where
  ctx : Ctx := Ctx.live
  cancelOnError : Bool := false
  firstErr : Option Fault := none
  stats : List (String × RoutineStats) := []
  routines : List Routine := []
  deriving Inhabited

namespace RoutineGroup

/-- Changes the counts of a name, adding the name when it is new. -/
def note (g : RoutineGroup) (name : String) (f : RoutineStats → RoutineStats) : RoutineGroup :=
  if g.stats.any (·.1 == name) then
    { g with stats := g.stats.map fun (n, s) => if n == name then (n, f s) else (n, s) }
  else { g with stats := g.stats ++ [(name, f {})] }

def noteStart (g : RoutineGroup) (name : String) : RoutineGroup :=
  g.note name fun s => { s with started := s.started + 1, active := s.active + 1 }

def clean (g : RoutineGroup) : Option Fault → Bool
  | none => true
  | some e => g.ctx.done || e.is .canceled

/-- Fails the group: the first failure is kept, and the context is cancelled with it when
the group cancels on failure. -/
def fail (g : RoutineGroup) (e : Fault) : RoutineGroup :=
  let g := { g with firstErr := g.firstErr.or (some e) }
  if g.cancelOnError then { g with ctx := g.ctx.cancel e } else g

/-- Records the end of one run of a name: its failure, a panic counted as one. -/
def record (g : RoutineGroup) (name : String) (o : Outcome (Option Fault)) : Option Fault × RoutineGroup :=
  let (err, panicked) := match o with
    | .returned e => (e, false)
    | .panicked m => (some (Fault.plain ("panic: " ++ m)), true)
  let update (s : RoutineStats) : RoutineStats :=
    let panics := if panicked then s.panics + 1 else s.panics
    { s with active := s.active - 1, panics := panics, lastErr := (err.map (·.message)).getD s.lastErr }
  (err, g.note name update)

/-- Records the end of a routine started on its own, failing the group unless the end is
clean. -/
def finish (g : RoutineGroup) (name : String) (o : Outcome (Option Fault)) : RoutineGroup :=
  let (err, g) := g.record name o
  match err with
  | some e => if g.clean err then g else g.fail (e.wrap name)
  | none => g

def stopAt (g : RoutineGroup) (i : Nat) : RoutineGroup :=
  { g with routines := g.routines.modify i fun r => { r with alive := false } }

/-- Ends routine `i` with its run's outcome `o`: a plain routine ends; a restarting one ends,
or counts a restart and waits out a backoff. -/
def endRun (g : RoutineGroup) (i : Nat) (o : Outcome (Option Fault)) : RoutineGroup :=
  let r := g.routines.getD i default
  match r.restart with
  | none => (g.finish r.name o).stopAt i
  | some p =>
    let (err, g) := g.record r.name o
    let wrapper := r.name ++ ".restart"
    match err with
    | none => (g.finish wrapper (.returned none)).stopAt i
    | some e =>
      if g.clean err then (g.finish wrapper (.returned none)).stopAt i
      else
        let count := p.count + 1
        if p.limit > 0 && (count : Int) > p.limit then
          (g.finish wrapper (.returned (some (e.wrap r.name)))).stopAt i
        else
          let g := g.note r.name fun s => { s with restarts := s.restarts + 1 }
          { g with routines := g.routines.modify i fun r =>
              { r with restart := some { p with count := count, waiting := true } } }

/-- The backoff of routine `i` ends with its timer: its next run starts. -/
def resume (g : RoutineGroup) (i : Nat) : RoutineGroup :=
  let g := g.noteStart (g.routines.getD i default).name
  { g with routines := g.routines.modify i fun r => { r with restart := r.restart.map ({ · with waiting := false }) } }

/-- Routine `i` sees the group cancelled while it waits out a backoff, and returns. -/
def quit (g : RoutineGroup) (i : Nat) : RoutineGroup :=
  (g.finish ((g.routines.getD i default).name ++ ".restart") (.returned none)).stopAt i

/-- How a routine moves: its run returns, or its backoff ends. -/
inductive Move where
  | ends (o : Outcome (Option Fault))
  | wakes

/-- The first live routine that moves now: a run that returns, or, when `timers` run, a
backoff. -/
def ready (g : RoutineGroup) (timers : Bool) : Option (Nat × Move) :=
  (g.routines.zipIdx.filterMap fun (r, i) =>
    if !r.alive then none
    else if r.waiting then (if timers then some (i, .wakes) else none)
    else (r.body.result g.ctx "").map fun o => (i, .ends o)).head?

/-- Lets routines move until none can, at most `fuel` of them; a backoff ends by the group's
cancellation when there is one, else by its timer. -/
def settle (timers : Bool) : Nat → RoutineGroup → RoutineGroup
  | 0, g => g
  | fuel + 1, g =>
    match g.ready timers with
    | some (i, .ends o) => settle timers fuel (g.endRun i o)
    | some (i, .wakes) => settle timers fuel (if g.ctx.done then g.quit i else g.resume i)
    | none => g

def settleBound (g : RoutineGroup) : Nat := 64 * (g.routines.length + 1)

/-- Cancels the group's context with a cause; the first cause stays. -/
def cancel (g : RoutineGroup) (cause : Fault) : RoutineGroup :=
  let g := { g with ctx := g.ctx.cancel cause }
  settle true g.settleBound g

def go (g : RoutineGroup) (name : String) (body : Behaviour) : RoutineGroup :=
  let g := g.noteStart name
  let g := { g with routines := g.routines ++ [{ name := name, body := body }] }
  settle true g.settleBound g

/-- Starts a restarting routine; with `cancelInBackoff`, the group is cancelled with that cause
as soon as the routine's first run failed, while it waits out its backoff. -/
def goRestart (g : RoutineGroup) (name : String) (body : Behaviour) (limit : Int) (cancelInBackoff : Option Fault) :
    RoutineGroup :=
  let i := g.routines.length
  let g := (g.noteStart (name ++ ".restart")).noteStart name
  let g := { g with routines := g.routines ++ [{ name := name, body := body, restart := some { limit := limit } }] }
  match cancelInBackoff with
  | none => settle true g.settleBound g
  | some c =>
    let g := settle false g.settleBound g
    if (g.routines.getD i default).waiting then g.cancel c else settle true g.settleBound g

/-- Releases every run of a name that waits to be released, ending it with `o`. -/
def release (g : RoutineGroup) (name : String) (o : Outcome (Option Fault)) : RoutineGroup :=
  let waiting := (g.routines.zipIdx.filter fun (r, _) => r.alive && !r.waiting && r.name == name && r.body.waitsForRelease).map (·.2)
  let g := waiting.foldl (fun g i => g.endRun i o) g
  settle true g.settleBound g

/-- Waits for every routine: the group's first failure, or the passed deadline while a
routine still runs. -/
def wait (g : RoutineGroup) : Option Fault :=
  if g.routines.any (·.alive) then some Fault.deadline else g.firstErr

/-- Cancels the context with the plain cancellation, then waits. -/
def stop (g : RoutineGroup) : Option Fault × RoutineGroup :=
  let g := g.cancel Fault.canceled
  (g.wait, g)

def snapshot (g : RoutineGroup) : List (String × RoutineStats) :=
  g.stats.mergeSort fun a b => a.2.active > b.2.active || (a.2.active == b.2.active && a.1 ≤ b.1)

end RoutineGroup

end Foreman
