import Foreman.Fault
import Foreman.Text.Quote
import Foreman.Config.Settings

/-!
# Job types and the catalog

A registry maps executor names, each registered once, to job types. A catalog binds each
configured job, by name, to the type its executor names, refusing an unregistered executor
or a job configured twice. It is generic in the job type, so the same rules hold for the
program's types and the scriptable ones of its tests.
-/

namespace Foreman

/-- The static configuration of one job. Durations are in nanoseconds. -/
structure JobConfig where
  name : String
  executor : String
  timeout : Int
  maxJobPerProcess : Int
  extra : Option String := none
  deriving BEq, Inhabited

structure Registry (τ : Type) where
  entries : List (String × τ) := []

namespace Registry

variable {τ : Type}

def duplicate (name : String) : Fault :=
  .of .duplicateType ("job executor already registered: " ++ name)

def register (r : Registry τ) (name : String) (t : τ) : Except Fault (Registry τ) :=
  if r.entries.any (·.1 == name) then .error (duplicate name)
  else .ok ⟨r.entries ++ [(name, t)]⟩

def lookup (r : Registry τ) (name : String) : Option τ :=
  (r.entries.find? (·.1 == name)).map (·.2)

def names (r : Registry τ) : List String :=
  let rec insert (n : String) : List String → List String
    | [] => [n]
    | m :: rest => if n < m then n :: m :: rest else m :: insert n rest
  r.entries.foldr (fun (n, _) acc => insert n acc) []

end Registry

structure Definition (τ : Type) where
  config : JobConfig
  type : τ

/-- The job types a worker serves, in the order of their names, with an index giving the
position of each name's definition. -/
structure Catalog (τ : Type) where
  defs : List (Definition τ)
  byName : List (String × Nat)

instance {τ : Type} : Inhabited (Catalog τ) := ⟨⟨[], []⟩⟩

namespace Catalog

variable {τ : Type}

def unknownExecutor (c : JobConfig) : Fault :=
  .of .unknownExecutor ("unknown job executor: " ++ Quote.text c.executor ++ " (job " ++ c.name ++ ")")

def place (index : List (String × Nat)) (name : String) (i : Nat) : List (String × Nat) :=
  (name, i) :: index.filter (·.1 != name)

def sortDefs (ds : List (Definition τ)) : List (Definition τ) :=
  let rec insert (d : Definition τ) : List (Definition τ) → List (Definition τ)
    | [] => [d]
    | e :: rest => if d.config.name < e.config.name then d :: e :: rest else e :: insert d rest
  ds.foldr insert []

def configuredTwice (c : JobConfig) : Fault := .plain ("job " ++ c.name ++ " configured twice")

/-- Adds a configured job, bound to its executor's job type, at the end, and indexes its name;
an unregistered executor is refused before a name already indexed. -/
def enroll (reg : Registry τ) (c : Catalog τ) (cfg : JobConfig) : Except Fault (Catalog τ) := do
  let some t := reg.lookup cfg.executor | throw (unknownExecutor cfg)
  if (c.byName.lookup cfg.name).isSome then throw (configuredTwice cfg)
  return ⟨c.defs ++ [⟨cfg, t⟩], place c.byName cfg.name c.defs.length⟩

/-- Sorts the definitions by name, then writes every name's new position into the index. -/
def sortByName (c : Catalog τ) : Catalog τ :=
  let defs := sortDefs c.defs
  ⟨defs, defs.zipIdx.foldl (fun index (d, i) => place index d.config.name i) c.byName⟩

/-- Binds every configured job to its job type, in the order of their names. -/
def build (reg : Registry τ) (cfgs : List JobConfig) : Except Fault (Catalog τ) := do
  let c ← cfgs.foldlM (enroll reg) ⟨[], []⟩
  return c.sortByName

def ofSettings (reg : Registry τ) (s : Settings) : Except Fault (Catalog τ) :=
  build reg (s.jobs.map fun j => ⟨j.name, j.executor, j.timeout, j.maxJobPerProcess, j.extra⟩)

def lookup (c : Catalog τ) (name : String) : Option (Definition τ) :=
  (c.byName.lookup name).bind fun i => c.defs[i]?

def names (c : Catalog τ) : List String := c.defs.map (·.config.name)

def maxTimeout (c : Catalog τ) : Int := c.defs.foldl (fun m d => max m d.config.timeout) 0

end Catalog

end Foreman
