import Foreman.Text.Space
import Foreman.Number.IntText

/-!
# Log levels

A level is a rank from -128 to 127: `trace` -1, `debug` 0, `info` 1, `warn` 2, `error` 3,
`fatal` 4, `panic` 5, `disabled` 7; rank 6 means no level. A line is written when its level
is at least the logger's. Configuration names a level in any case, `warning` for `warn`, or
by rank in decimal, blanks ignored; an empty name selects a default.
-/

namespace Foreman

structure Level where
  rank : Int
  deriving DecidableEq, BEq, Inhabited

namespace Level

def trace : Level := ⟨-1⟩
def debug : Level := ⟨0⟩
def info : Level := ⟨1⟩
def warn : Level := ⟨2⟩
def error : Level := ⟨3⟩
def fatal : Level := ⟨4⟩
def panic : Level := ⟨5⟩
def none : Level := ⟨6⟩
def disabled : Level := ⟨7⟩

def named : List (String × Level) :=
  [("trace", trace), ("debug", debug), ("info", info), ("warn", warn), ("error", error),
    ("fatal", fatal), ("panic", panic), ("disabled", disabled), ("", none)]

/-- The name of a level as written in log lines: its name, or its rank. -/
def name (l : Level) : String :=
  match named.find? (fun (_, m) => m == l) with
  | some (n, _) => n
  | Option.none => toString l.rank

/-- A character folded for comparing names without regard to case. -/
def foldChar (c : Char) : Char :=
  if 'A' ≤ c && c ≤ 'Z' then Char.ofNat (c.toNat + 32)
  else if c.toNat == 0x17F then 's'
  else if c.toNat == 0x212A then 'k'
  else c

/-- The level a text names exactly: a name in any case, or a rank. -/
def byName? (s : String) : Option Level :=
  let folded := s.map foldChar
  match named.find? (fun (n, _) => n == folded) with
  | some (_, l) => some l
  | Option.none =>
    match IntText.atoi s with
    | .ok i => if i < -128 || i > 127 then Option.none else some ⟨i⟩
    | .error _ => Option.none

/-- The level a configuration text names, or `default` when it is empty or names none. -/
def ofText (s : String) (default : Level) : Level :=
  let t := Text.lower (Text.trimSpace s)
  let t := if t == "warning" then "warn" else t
  if t == "" then default
  else
    match byName? t with
    | some l => if l == none then default else l
    | Option.none => default

/-- Whether a configuration text names a level; an empty text does (it selects the
default). -/
def valid (s : String) : Bool :=
  Text.trimSpace s == "" || ofText s none != none

end Level

end Foreman
