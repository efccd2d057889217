import Foreman.Time.ZoneDatabase
import Foreman.Text.Path

/-!
# The host's own files

The host's directories and files outside the working directory: an ordinary Linux system's,
and the zone database under `/usr/share/zoneinfo`. A path is walked part by part as the
system does: `.` stays, `..` goes up, every part but the last must be a directory, and a
missing part ends the walk.
-/

namespace Foreman

namespace HostSystem

def directories : List String :=
  ["/", "/bin", "/boot", "/dev", "/dev/pts", "/dev/shm", "/etc", "/etc/ssl", "/home", "/lib",
   "/lib64", "/media", "/mnt", "/opt", "/proc", "/root", "/run", "/sbin", "/srv", "/sys", "/tmp",
   "/usr", "/usr/bin", "/usr/include", "/usr/lib", "/usr/lib64", "/usr/local", "/usr/local/bin",
   "/usr/local/lib", "/usr/local/sbin", "/usr/local/share", "/usr/sbin", "/usr/share",
   "/usr/src", "/var", "/var/cache", "/var/lib", "/var/local", "/var/lock", "/var/log",
   "/var/mail", "/var/opt", "/var/run", "/var/spool", "/var/tmp"]

/-- The files of the host that are no directories, devices included. -/
def files : List String :=
  ["/etc/passwd", "/etc/group", "/etc/shadow", "/etc/hosts", "/etc/hostname",
   "/etc/resolv.conf", "/etc/os-release", "/etc/localtime", "/etc/timezone", "/etc/fstab",
   "/etc/issue", "/etc/shells", "/etc/nsswitch.conf", "/dev/null", "/dev/zero", "/dev/full",
   "/dev/random", "/dev/urandom", "/dev/tty", "/bin/sh", "/bin/bash", "/usr/bin/env"]

def zoneRoot : String := "/usr/share/zoneinfo"

inductive Entry where
  | directory
  | file
  | missing
  deriving DecidableEq

def entry (path : String) : Entry :=
  if directories.contains path || path == zoneRoot then .directory
  else if files.contains path then .file
  else if path.startsWith (zoneRoot ++ "/") then
    let rest := String.ofList (path.toList.drop (zoneRoot.length + 1))
    if ZoneDatabase.isDirectory rest then .directory
    else if (ZoneDatabase.file? rest).isSome then .file
    else .missing
  else .missing

/-- How looking up a path fails: a part is missing, or a part that must be a directory is
a file. -/
inductive Lookup where
  | found
  | missing
  | notDirectory
  deriving DecidableEq

/-- Looks an absolute path up part by part, `cur` being the directory reached. -/
def walk (cur : String) : List String → Lookup
  | [] => .found
  | p :: rest =>
    if p == "" || p == "." then walk cur rest
    else
      let next := if p == ".." then Path.dir cur else if cur == "/" then "/" ++ p else cur ++ "/" ++ p
      match entry next with
      | .directory => walk next rest
      | .file => if rest.isEmpty then .found else .notDirectory
      | .missing => .missing

/-- Looks a path up; a relative path lies in a directory of its own, which is empty. -/
def lookup (path : String) : Lookup :=
  if path.startsWith "/" then walk "/" (Text.splitOn path "/") else .missing

end HostSystem

end Foreman
