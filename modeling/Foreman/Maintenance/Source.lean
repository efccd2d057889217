import Foreman.Maintenance.Mode
import Foreman.Store.Backend

/-!
# Where the maintenance switches come from

A table of one row per switch, `MODE_NAME` and `SETTING_VALUE` (`T_COMN_MAINTENANCE_MODE`
unless another is named). A switch is on when its trimmed value is `1`; names match up to
case and surrounding blanks; a missing row or a null name or value leaves it off, and the
later of two rows wins. A fixed source always reports the same switches, a scripted one as
its script says.
-/

namespace Foreman

inductive ModeSource where
  /-- The switches table; an empty name means the default table. -/
  | table (name : String)
  /-- Always the same switches. -/
  | fixed (m : Mode)
  /-- Answers from a script: the n-th load gives entry n (a failure is its message), the last
  entry repeats, and an empty script gives the switches off. -/
  | scripted (answers : List (Except String Mode))
  deriving Inhabited

namespace ModeSource

def defaultTable : String := "T_COMN_MAINTENANCE_MODE"

def applyRow (m : Mode) : Option String × Option String → Mode
  | (some key, some value) =>
    let on := Text.trimSpace value == "1"
    let k := Text.lower (Text.trimSpace key)
    if k == "data_update_stop" then { m with dataUpdateStop := on }
    else if k == "backyard_execute_stop" then { m with backyardExecuteStop := on }
    else m
  | _ => m

def readRow (vs : List SqlValue) : Except (Nat × String) (Option String × Option String) := do
  let k ← Scan.col vs 0 Scan.textOrNull
  let v ← Scan.col vs 1 Scan.textOrNull
  return (k, v)

def answerAt (answers : List (Except String Mode)) (n : Nat) : Except Fault Mode :=
  (answers.getD n (answers.getLast?.getD (.ok {}))).mapError Fault.plain

def loadNth (s : ModeSource) (n : Nat) (ctx : Ctx) : BackendM (Except Fault Mode) :=
  match s with
  | .fixed m => return .ok m
  | .scripted answers => return answerAt answers n
  | .table name => do
    let name := if name == "" then defaultTable else name
    match ← Backend.onDb (ScriptedDb.query ctx ("SELECT MODE_NAME, SETTING_VALUE FROM " ++ name) []) with
    | .error e => return .error (e.wrap "maintenance mode")
    | .ok rs =>
      return ((rs.all 2 readRow).map fun rows => rows.foldl applyRow {}).mapError
        (Fault.wrap "maintenance mode")

/-- The current switches, read for the first time. -/
def load (s : ModeSource) (ctx : Ctx) : BackendM (Except Fault Mode) := s.loadNth 0 ctx

end ModeSource

end Foreman
