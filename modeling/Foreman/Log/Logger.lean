import Foreman.Log.Line
import Foreman.Log.Config
import Foreman.Text.Path
import Foreman.Time.Instant

/-!
# Loggers and the log service

A logger writes lines to its sink with its own fields in front: the zero logger writes
nothing, a discarding one drops every line, a stream logger writes the lines of its level and
above, and a service logger writes through the log service as configured at that moment.

The service writes JSON lines of its level and above (`info` unless set) to its file, and to
the console when asked; configuring it again takes effect at once. The file, its path trimmed
(`./jobmanager.log` when empty), is opened for appending with its directories made first; a
file that cannot be opened disables file output. A rate-limited logger lets a burst through,
then one line per interval, the next line let through carrying the count held back as
`suppressed`.
-/

namespace Foreman

inductive LogSink where
  | none
  | discard
  | stream (threshold : Level)
  | service
  deriving BEq, Inhabited

/-- A logger: its sink and the fields it puts in front of every line. -/
structure Logger where
  sink : LogSink := .none
  fields : List LogField := []
  deriving Inhabited

/-- The log service: its settings, the level it writes from and the file it writes to. -/
structure LogService where
  config : LogConfig := {}
  threshold : Level := Level.info
  file : Option String := none
  deriving Inhabited

/-- Where log lines end up: the stream, the service, the files with their lines, and the
directories made. -/
structure LogWorld where
  stream : List LogLine := []
  service : LogService := {}
  files : List (String × List LogLine) := []
  dirs : List String := []
  deriving Inhabited

/-- Work that writes log lines. -/
abbrev LogM := StateM LogWorld

namespace LogWorld

def isFile (w : LogWorld) (p : String) : Bool := w.files.any (·.1 == p)

def isDir (w : LogWorld) (p : String) : Bool := w.dirs.contains p

/-- Opens a file for appending, making its directories first: its cleaned path, or `none`
when it cannot be opened. -/
def openAppend (w : LogWorld) (path : String) : Option String × LogWorld :=
  let p := Path.clean path
  let above := Path.ancestry (Path.dir p)
  if above.any w.isFile || w.isDir p then (none, w)
  else
    let w := { w with dirs := w.dirs ++ above.filter (!w.isDir ·) }
    (some p, if w.isFile p then w else { w with files := w.files ++ [(p, [])] })

def append (w : LogWorld) (p : String) (l : LogLine) : LogWorld :=
  { w with files := w.files.map fun (q, ls) => if q == p then (q, ls ++ [l]) else (q, ls) }

end LogWorld

/-- The file a service writes to when the default path is used. -/
def LogService.defaultPath : String := "./jobmanager.log"

def LogService.apply (cfg : LogConfig) : LogM Unit := modify fun w =>
  let threshold := Level.ofText cfg.level Level.info
  let (file, w) :=
    if cfg.file.enabled then
      let path := Text.trimSpace cfg.file.path
      w.openAppend (if path == "" then LogService.defaultPath else path)
    else (none, w)
  { w with service := ⟨cfg, threshold, file⟩ }

namespace Logger

def discard : Logger := { sink := .discard }

def stream (threshold : Level) : Logger := { sink := .stream threshold }

def service : Logger := { sink := .service }

def isZero (l : Logger) : Bool := l.sink == .none && l.fields.isEmpty

def withFields (l : Logger) (fs : List LogField) : Logger :=
  if fs.isEmpty then l else { l with fields := l.fields ++ fs }

def process (l : Logger) (role : String) (pid : Int) : Logger :=
  l.withFields [.text "role" role, .int "pid" pid]

def log (l : Logger) (level : Level) (msg : String) (fs : List LogField) : LogM Unit :=
  let line := LogLine.of level msg (l.fields ++ fs)
  modify fun w =>
    match l.sink with
    | .stream th => if level.rank ≥ th.rank then { w with stream := w.stream ++ [line] } else w
    | .service =>
      if level.rank ≥ w.service.threshold.rank then
        match w.service.file with
        | some p => w.append p line
        | none => w
      else w
    | _ => w

def debug (l : Logger) (msg : String) (fs : List LogField) : LogM Unit := l.log Level.debug msg fs

def info (l : Logger) (msg : String) (fs : List LogField) : LogM Unit := l.log Level.info msg fs

def warn (l : Logger) (msg : String) (fs : List LogField) : LogM Unit := l.log Level.warn msg fs

def error (l : Logger) (msg : String) (fs : List LogField) : LogM Unit := l.log Level.error msg fs

end Logger

/-- A rate-limited logger: `burst` lines at once, then one per `every` nanoseconds (always,
when `every` is not positive). The budget is kept in nanoseconds of waiting, `every` for a
line, and counted from the first line. -/
structure LimitedLogger where
  logger : Logger
  every : Int
  burst : Nat
  budget : Int := 0
  last : Option Instant := none
  suppressed : Nat := 0
  deriving Inhabited

namespace LimitedLogger

/-- A rate-limited logger over `l`; a burst below one is one. -/
def new (l : Logger) (every : Int) (burst : Int) : LimitedLogger :=
  { logger := l, every := every, burst := if burst < 1 then 1 else burst.toNat }

def allow (r : LimitedLogger) (now : Instant) : Bool × LimitedLogger :=
  if r.every ≤ 0 then (true, r)
  else
    let cap := (r.burst : Int) * r.every
    let budget := match r.last with
      | none => cap
      | some t => min cap (r.budget + max 0 (now.since t))
    if budget ≥ r.every then (true, { r with budget := budget - r.every, last := some now })
    else (false, { r with budget := budget, last := some now })

/-- Writes a line at `now` unless the rate holds it back: failures and warnings at their
level, anything else as an ordinary message. -/
def log (r : LimitedLogger) (now : Instant) (level : Level) (msg : String) (fs : List LogField) :
    LogM LimitedLogger := do
  let (ok, r) := r.allow now
  if !ok then return { r with suppressed := r.suppressed + 1 }
  let fs := if r.suppressed > 0 then fs ++ [.int "suppressed" r.suppressed] else fs
  let level := if level == Level.error || level == Level.warn then level else Level.info
  r.logger.log level msg fs
  return { r with suppressed := 0 }

end LimitedLogger

end Foreman
