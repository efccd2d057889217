import Foreman.Text.Path
import Foreman.Text.Glob

/-!
# Files on the host

Files and directories by cleaned path; a relative path lies in the working directory, which
starts empty. `/`, `/dev` and `/tmp` are directories and `/dev/null` a device; any other
absolute directory can be made. Making a directory makes those above it first, failing with
`mkdir P: not a directory` at the outermost one that is not a directory. A pattern without
special characters names the path if it exists; otherwise its last element is matched
against the names of the directory before it, in order, a directory part with special
characters expanded first. A malformed pattern finds nothing.
-/

namespace Foreman

/-- Files with their text, and the directories made, by cleaned path. -/
structure FileSpace where
  files : List (String × String) := []
  dirs : List String := []
  deriving Inhabited

namespace FileSpace

def hostDirs : List String := ["/", "/dev", "/tmp"]

def isFile (fs : FileSpace) (p : String) : Bool :=
  let p := Path.clean p
  p == "/dev/null" || fs.files.any (·.1 == p)

def hasDir (fs : FileSpace) (d : String) : Bool :=
  let d := Path.clean d
  d == "." || hostDirs.contains d || fs.dirs.contains d

/-- The text of a file, if it exists. -/
def read (fs : FileSpace) (p : String) : Option String := fs.files.lookup (Path.clean p)

/-- Makes a directory and those above it, or fails at the first path that is not a
directory. -/
def makeDirs (fs : FileSpace) (d : String) : Except String FileSpace :=
  let above := Path.ancestry d
  match above.find? fs.isFile with
  | some p => .error ("mkdir " ++ p ++ ": not a directory")
  | none => .ok { fs with dirs := fs.dirs ++ above.filter (!fs.hasDir ·) }

/-- Writes a file, making its directories; a path under a file is not written. -/
def write (fs : FileSpace) (p text : String) : FileSpace :=
  let p := Path.clean p
  match fs.makeDirs (Path.dir p) with
  | .ok fs => { fs with files := (p, text) :: fs.files.filter (·.1 != p) }
  | .error _ => fs

def touch (fs : FileSpace) (p : String) : FileSpace :=
  if (fs.read p).isSome then fs else fs.write p ""

/-- Removes a file: whether it existed, and the files without it. -/
def remove (fs : FileSpace) (p : String) : Bool × FileSpace :=
  let p := Path.clean p
  (fs.files.any (·.1 == p), { fs with files := fs.files.filter (·.1 != p) })

/-- The files of the working directory, in the order of their paths. -/
def listed (fs : FileSpace) : List String :=
  ((fs.files.map (·.1)).filter (!·.startsWith "/")).mergeSort fun a b => decide (a ≤ b)

def holds (fs : FileSpace) (p : String) : Bool := fs.isFile p || fs.hasDir p

/-- The names in a directory, files and directories alike, in their order. -/
def entries (fs : FileSpace) (d : String) : List String :=
  let d := Path.clean d
  let below (p : String) : Bool := p != d && Path.dir p == d
  let names := ((fs.files.map (·.1) ++ fs.dirs).filter below).map Path.base
  names.eraseDups.mergeSort fun a b => decide (a ≤ b)

def globIn (fs : FileSpace) (dir pattern : String) : List String :=
  if fs.hasDir dir then ((fs.entries dir).filter (Glob.fits pattern ·)).map (Path.join dir ·)
  else []

/-- The directory part of a pattern, before its last slash, and the last element. -/
def splitPattern (pattern : String) : String × String :=
  let cs := pattern.toList
  match (cs.reverse.findIdx? (· == '/')) with
  | some i =>
    let cut := cs.length - i
    let dir := cs.take cut
    let dir := if dir == ['/'] then dir else dir.dropLast
    (String.ofList dir, String.ofList (cs.drop cut))
  | none => (".", pattern)

/-- The paths a pattern finds, expanding at most `depth` directory parts. -/
def globUpTo (fs : FileSpace) : Nat → String → List String
  | depth, pattern =>
    if (Glob.parse pattern).isNone then []
    else if !Glob.hasMeta pattern then (if fs.holds pattern then [pattern] else [])
    else
      let (dir, file) := splitPattern pattern
      if !Glob.hasMeta dir then fs.globIn dir file
      else
        match depth with
        | 0 => []
        | d + 1 => (fs.globUpTo d dir).flatMap fun p => fs.globIn p file

def glob (fs : FileSpace) (pattern : String) : List String := fs.globUpTo pattern.length pattern

/-- Removes a file or an empty directory: whether it was removed. -/
def erase (fs : FileSpace) (p : String) : Bool × FileSpace :=
  let c := Path.clean p
  if fs.files.any (·.1 == c) then (true, { fs with files := fs.files.filter (·.1 != c) })
  else if fs.dirs.contains c && (fs.entries c).isEmpty then (true, { fs with dirs := fs.dirs.filter (· != c) })
  else (false, fs)

end FileSpace

end Foreman
