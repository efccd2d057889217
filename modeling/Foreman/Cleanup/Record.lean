import Foreman.Cleanup.Info
import Foreman.Fault
import Foreman.Text.Path
import Foreman.Text.Url

/-!
# The clean-up record on disk

The shared clean-up record is a 16-byte file mapped by every process using it: the pid and
the due time, each a little-endian signed 64-bit integer. Handles on one file see each
other's writes. Making the file again truncates it to zeros; a file removed and made anew is
a new file, and handles on the old one keep it.

* Making a record makes its directory first: `cleanup info: mkdir P: not a directory` when
  a path above is a file, `cleanup info: open P: is a directory`.
* Attaching fails on a missing file, a directory, or one under 16 bytes
  (`cleanup info: P is N bytes, want 16`).
* Checking fails on a closed handle or a path gone. Removing closes and removes the path,
  gathering the failures.
-/

namespace Foreman

/-- The files of a working directory as bytes: directories, the file each path names, and
the contents of every file ever made, by number. -/
structure RecordDisk where
  dirs : List String := []
  names : List (String × Nat) := []
  nodes : List (List Nat) := []
  deriving Inhabited

/-- A handle on a mapped record: the path it was opened with, the file, and whether it is
still mapped. -/
structure RecordHandle where
  path : String
  node : Nat
  mapped : Bool := true
  deriving Inhabited

namespace RecordDisk

def recordSize : Nat := 16

def isDir (d : RecordDisk) (p : String) : Bool :=
  let p := Path.clean p
  p == "." || d.dirs.contains p

def node? (d : RecordDisk) (p : String) : Option Nat := d.names.lookup (Path.clean p)

def bytes (d : RecordDisk) (n : Nat) : List Nat := d.nodes.getD n []

def makeDirs (d : RecordDisk) (dir : String) : Except String RecordDisk :=
  let above := Path.ancestry dir
  match above.find? fun p => (d.node? p).isSome with
  | some p => .error ("mkdir " ++ p ++ ": not a directory")
  | none => .ok { d with dirs := d.dirs ++ above.filter (!d.isDir ·) }

/-- Writes a file's bytes, making the file when the path names none. -/
def writeBytes (d : RecordDisk) (p : String) (bs : List Nat) : Nat × RecordDisk :=
  match d.node? p with
  | some n => (n, { d with nodes := d.nodes.set n bs })
  | none =>
    let n := d.nodes.length
    (n, { d with nodes := d.nodes ++ [bs], names := (Path.clean p, n) :: d.names })

def writeText (d : RecordDisk) (p text : String) : RecordDisk := (d.writeBytes p (Url.bytes text)).2

/-- Makes a record at a path, or truncates the one there to zeros. -/
def create (d : RecordDisk) (p : String) : Except String (RecordHandle × RecordDisk) := do
  let d ← (d.makeDirs (Path.dir p)).mapError ("cleanup info: " ++ ·)
  if d.isDir p then throw ("cleanup info: open " ++ p ++ ": is a directory")
  let (n, d) := d.writeBytes p (List.replicate recordSize 0)
  return (⟨p, n, true⟩, d)

def attach (d : RecordDisk) (p : String) : Except String RecordHandle := do
  if d.isDir p then throw ("cleanup info: open " ++ p ++ ": is a directory")
  match d.node? p with
  | none =>
    if (Path.ancestry (Path.dir p)).any fun a => (d.node? a).isSome then
      throw ("cleanup info: open " ++ p ++ ": not a directory")
    throw ("cleanup info: open " ++ p ++ ": no such file or directory")
  | some n =>
    let size := (d.bytes n).length
    if size < recordSize then
      throw ("cleanup info: " ++ p ++ " is " ++ toString size ++ " bytes, want " ++ toString recordSize)
    return ⟨p, n, true⟩

/-- The little-endian signed 64-bit integer at an offset of a file. -/
def word (d : RecordDisk) (n : Nat) (offset : Nat) : Int :=
  let bs := ((d.bytes n).drop offset).take 8
  let u : Nat := (bs.zipIdx.map fun (b, i) => b * Nat.pow 256 i).foldr (· + ·) 0
  if u ≥ 9223372036854775808 then (u : Int) - 18446744073709551616 else u

def setWord (d : RecordDisk) (n : Nat) (offset : Nat) (v : Int) : RecordDisk :=
  let u := (v % 18446744073709551616).toNat
  let word := (List.range 8).map fun i => u / Nat.pow 256 i % 256
  let bs := d.bytes n
  { d with nodes := d.nodes.set n (bs.take offset ++ word ++ bs.drop (offset + 8)) }

def read (d : RecordDisk) (h : RecordHandle) : CleanupInfo := ⟨d.word h.node 0, d.word h.node 8⟩

def write (d : RecordDisk) (h : RecordHandle) (i : CleanupInfo) : RecordDisk :=
  (d.setWord h.node 0 i.pid).setWord h.node 8 i.stamp

def check (d : RecordDisk) (h : RecordHandle) : Option String :=
  if !h.mapped then some ("cleanup info: " ++ h.path ++ " is closed")
  else if (d.node? h.path).isNone && !d.isDir h.path then
    some ("cleanup info: stat " ++ h.path ++ ": no such file or directory")
  else none

/-- Removes a handle's path after closing it: the gathered failures, if any. -/
def remove (d : RecordDisk) (h : RecordHandle) : Option Fault × RecordHandle × RecordDisk :=
  let h := { h with mapped := false }
  match d.node? h.path with
  | some _ =>
    (none, h, { d with names := d.names.filter (·.1 != Path.clean h.path) })
  | none =>
    (Fault.gather [Fault.plain ("remove " ++ h.path ++ ": no such file or directory")], h, d)

end RecordDisk

end Foreman
