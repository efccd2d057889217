import Foreman.Text.Quote
import Foreman.Text.Split

/-!
# Command-line flags

Flags are read from the front of the arguments, as `-name value`, `-name=value` or the same
with two dashes, up to the first argument that is not a flag (a lone `-` included) or a
`--`, which is dropped; a flag given twice keeps its last value. Reading fails on `-`
followed by `-` or `=` (`bad flag syntax: ---x`), on a name the command does not know but
`h` and `help` (`flag provided but not defined: -x`), and on a last flag with no value
(`flag needs an argument: -x`). A failure is followed by `Usage of <command>:` and, by name,
each flag's `  -name string`, its description tab-indented below, its default quoted unless
empty.
-/

namespace Foreman

/-- A flag that takes a text: its name, what it is for and its default. -/
structure FlagSpec where
  name : String
  usage : String
  default : String := ""
  deriving Inhabited

/-- The flags of one command, and the command's name for its usage. -/
structure FlagSet where
  command : String
  flags : List FlagSpec
  deriving Inhabited

inductive FlagError where
  /-- The usage was asked for. -/
  | help
  /-- An argument starts like a flag but names none. -/
  | badSyntax (arg : String)
  /-- The command has no flag of that name. -/
  | undefined (name : String)
  /-- The flag is last and has no value. -/
  | needsArgument (name : String)
  deriving BEq, Inhabited

def FlagError.message : FlagError → Option String
  | .help => none
  | .badSyntax arg => some ("bad flag syntax: " ++ arg)
  | .undefined name => some ("flag provided but not defined: -" ++ name)
  | .needsArgument name => some ("flag needs an argument: -" ++ name)

inductive ArgForm where
  /-- Not a flag: reading stops here. -/
  | positional
  /-- The marker `--`: reading stops after it. -/
  | stop
  /-- A dash followed by a dash or `=`. -/
  | bad
  /-- A flag with the value written after `=`, if any. -/
  | flag (name : String) (value : Option String)
  deriving BEq, Inhabited

namespace ArgForm

/-- Splits the name of a flag at its first `=` after the first character. -/
def ofName : List Char → ArgForm
  | [] => .bad
  | c :: rest =>
    if c == '-' || c == '=' then .bad
    else
      match rest.findIdx? (· == '=') with
      | some i => .flag (String.ofList (c :: rest.take i)) (some (String.ofList (rest.drop (i + 1))))
      | none => .flag (String.ofList (c :: rest)) none

def of (arg : String) : ArgForm :=
  match arg.toList with
  | '-' :: '-' :: [] => .stop
  | '-' :: '-' :: name => ofName name
  | '-' :: c :: name => ofName (c :: name)
  | _ => .positional

end ArgForm

abbrev FlagValues := List (String × String)

namespace FlagSet

def knows (fs : FlagSet) (name : String) : Bool := fs.flags.any (·.name == name)

/-- Reads the flags at the front of the arguments: the values given and the positional
arguments. -/
def readArgs (fs : FlagSet) : List String → FlagValues → Except FlagError (FlagValues × List String)
  | [], vals => .ok (vals, [])
  | arg :: rest, vals =>
    match ArgForm.of arg with
    | .positional => .ok (vals, arg :: rest)
    | .stop => .ok (vals, rest)
    | .bad => .error (.badSyntax arg)
    | .flag name given =>
      if !fs.knows name then
        if name == "help" || name == "h" then .error .help else .error (.undefined name)
      else
        match given with
        | some v => readArgs fs rest ((name, v) :: vals)
        | none =>
          match rest with
          | v :: more => readArgs fs more ((name, v) :: vals)
          | [] => .error (.needsArgument name)
termination_by args => args.length
decreasing_by all_goals simp only [List.length_cons]; omega

def value (fs : FlagSet) (vals : FlagValues) (name : String) : String :=
  match vals.lookup name with
  | some v => v
  | none => ((fs.flags.find? (·.name == name)).map (·.default)).getD ""

/-- The usage: a heading, then two lines for each flag in the order of its name. -/
def usage (fs : FlagSet) : List String :=
  let sorted := fs.flags.mergeSort fun a b => decide (a.name ≤ b.name)
  let described (f : FlagSpec) : String :=
    let text := "\n    \t".intercalate (Text.splitOn f.usage "\n")
    if f.default == "" then text else text ++ " (default " ++ Quote.text f.default ++ ")"
  ("Usage of " ++ fs.command ++ ":") ::
    sorted.flatMap fun f => ("  -" ++ f.name ++ " string") :: Text.splitOn ("    \t" ++ described f) "\n"

/-- What a failure to read the flags prints: its message, then the usage. -/
def report (fs : FlagSet) (e : FlagError) : List String :=
  match e.message with
  | some m => m :: fs.usage
  | none => fs.usage

end FlagSet

end Foreman
