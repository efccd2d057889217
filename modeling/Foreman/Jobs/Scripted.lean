import Foreman.Script.Behaviour
import Foreman.Job.Row

/-!
# Scripted job types

A scripted type exercises the scheduler without a database: a fixed ready-row query, and
executors that start, run and cancel as their behaviours say, counting their calls; the
type counts its clean-ups. A bench holds one such type and its executors; its stubborn
calls are held back, in order, until its latch is released, and return at once after.
-/

namespace Foreman

/-- A job type whose executors follow scripts: the n-th executor made starts, runs and
cancels as entry n of each script says, and the n-th clean-up as entry n of its script; the
last entry repeats, and an empty script starts the job and succeeds otherwise. -/
structure ScriptedType where
  query : String := ""
  starts : List Behaviour := []
  executes : List Behaviour := []
  cancels : List Behaviour := []
  cleanUps : List Behaviour := []
  deriving Inhabited

/-- The entry of a script for the n-th call: the last entry repeats, and an empty script
gives `default`. -/
def Behaviour.pick (script : List Behaviour) (n : Nat) (default : Behaviour) : Behaviour :=
  script.getD n (script.getLast?.getD default)

/-- One executor of a scripted type, with the number of times each method ran. -/
structure ScriptedRun where
  row : QueueRow
  start : Behaviour
  execute : Behaviour
  cancel : Behaviour
  starts : Nat := 0
  executes : Nat := 0
  cancels : Nat := 0
  /-- The number of executors of its type made before it. -/
  ordinal : Nat := 0
  deriving Inhabited

/-- The n-th executor of a scripted type, for a row. -/
def ScriptedType.new (t : ScriptedType) (n : Nat) (row : QueueRow) : ScriptedRun :=
  ⟨row, Behaviour.pick t.starts n (.started true none), Behaviour.pick t.executes n .ok,
    Behaviour.pick t.cancels n .ok, 0, 0, 0, n⟩

def ScriptedType.cleanUpAt (t : ScriptedType) (n : Nat) : Behaviour := Behaviour.pick t.cleanUps n .ok

inductive CallAnswer where
  /-- A start check: whether the job started, and its error. -/
  | start (started : Bool) (err : Option Fault)
  /-- Running, cancelling or cleaning up: the error, if any. -/
  | done (err : Option Fault)
  /-- The call panicked. -/
  | panicked (msg : String)
  deriving Inhabited

inductive BenchCall where
  | start (index : Nat) (ctx : Ctx)
  | execute (index : Nat) (ctx : Ctx)
  | cancel (index : Nat) (ctx : Ctx)
  | cleanUp (ctx : Ctx)
  deriving Inhabited

/-- A scripted type with its executors, its clean-up count and the latch of its stubborn
calls. -/
structure ScriptedBench where
  type : ScriptedType
  runs : List ScriptedRun := []
  cleanUps : Nat := 0
  released : Bool := false
  /-- The calls held back by the latch, each with the step that made it. -/
  held : List (Nat × BenchCall) := []
  deriving Inhabited

namespace ScriptedBench

/-- How a behaviour ends under `ctx`, given whether the latch was released; `none` while it
waits. -/
def settle (released : Bool) (b : Behaviour) (ctx : Ctx) (key : String) :
    Option (Outcome (Option Fault)) :=
  if b == .stubborn then (if released then some (.returned none) else none)
  else b.result ctx key

/-- How a start behaviour ends, given whether the latch was released. -/
def settleStart (released : Bool) (b : Behaviour) (ctx : Ctx) (key : String) :
    Option (Outcome (Bool × Option Fault)) :=
  if b == .stubborn then (if released then some (.returned (false, none)) else none)
  else b.startResult ctx key

def answerOf : Outcome (Option Fault) → CallAnswer
  | .returned e => .done e
  | .panicked m => .panicked m

def startAnswerOf : Outcome (Bool × Option Fault) → CallAnswer
  | .returned (s, e) => .start s e
  | .panicked m => .panicked m

/-- Makes the executor for a row; its index is the number of executors before it. -/
def new (b : ScriptedBench) (row : QueueRow) : Nat × ScriptedBench :=
  (b.runs.length, { b with runs := b.runs ++ [b.type.new b.runs.length row] })

def perform (b : ScriptedBench) (c : BenchCall) : Option CallAnswer × ScriptedBench :=
  let bump (i : Nat) (f : ScriptedRun → ScriptedRun) :=
    { b with runs := b.runs.modify i f }
  match c with
  | .start i ctx =>
    let r := b.runs.getD i default
    ((settleStart b.released r.start ctx r.row.key).map startAnswerOf,
      bump i fun r => { r with starts := r.starts + 1 })
  | .execute i ctx =>
    let r := b.runs.getD i default
    ((settle b.released r.execute ctx r.row.key).map answerOf,
      bump i fun r => { r with executes := r.executes + 1 })
  | .cancel i ctx =>
    let r := b.runs.getD i default
    ((settle b.released r.cancel ctx r.row.key).map answerOf,
      bump i fun r => { r with cancels := r.cancels + 1 })
  | .cleanUp ctx =>
    ((settle b.released (b.type.cleanUpAt b.cleanUps) ctx "").map answerOf, { b with cleanUps := b.cleanUps + 1 })

def waitsForLatch (b : ScriptedBench) : BenchCall → Bool
  | .start i _ => (b.runs.getD i default).start == .stubborn
  | .execute i _ => (b.runs.getD i default).execute == .stubborn
  | .cancel i _ => (b.runs.getD i default).cancel == .stubborn
  | .cleanUp _ => b.type.cleanUpAt b.cleanUps == .stubborn

/-- Makes a call at step `step`: a stubborn call before the latch is released is held back
and answers `none`. -/
def call (b : ScriptedBench) (step : Nat) (c : BenchCall) : Option CallAnswer × ScriptedBench :=
  if !b.released && b.waitsForLatch c then (none, { b with held := b.held ++ [(step, c)] })
  else b.perform c

def runHeld (b : ScriptedBench) : List (Nat × BenchCall) → List (Nat × CallAnswer) × ScriptedBench
  | [] => ([], b)
  | (step, c) :: rest =>
    let (a, b) := b.perform c
    let (out, b) := runHeld b rest
    (match a with
      | some a => (step, a) :: out
      | none => out, b)

/-- Releases the latch: the held calls run, in the order they were made. -/
def release (b : ScriptedBench) : List (Nat × CallAnswer) × ScriptedBench :=
  let held := b.held
  runHeld { b with released := true, held := [] } held

end ScriptedBench

end Foreman
