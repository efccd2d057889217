import Foreman.Config.Settings
import Foreman.Config.Source
import Foreman.Log.Logger
import Foreman.Number.Fnv

/-!
# The configuration in force

A manager reads its file, checks it with its validator and keeps what it took; subscribers
receive each configuration taken on a reload. A rejected configuration changes nothing;
committing takes a configuration unchecked and tells nobody; an unreadable file, an unchanged
hash or a rejection leave a reload without effect. The hash is FNV-1a of the compact JSON
text, `0` with none in force. A full channel drops its oldest waiting configuration for a new
one.
-/

namespace Foreman

/-- A subscriber's channel: the configurations waiting in it, oldest first, and whether it is
still open. -/
structure ConfigChannel where
  capacity : Nat
  waiting : List Config := []
  isOpen : Bool := true
  deriving Inhabited

namespace ConfigChannel

/-- Takes out the oldest configuration waiting, if there is one. -/
def receive (ch : ConfigChannel) : Option Config × ConfigChannel :=
  match ch.waiting with
  | [] => (none, ch)
  | c :: rest => (some c, { ch with waiting := rest })

/-- Queues a configuration when there is room; also answers whether it did. -/
def trySend (ch : ConfigChannel) (c : Config) : Bool × ConfigChannel :=
  if ch.waiting.length < ch.capacity then (true, { ch with waiting := ch.waiting ++ [c] })
  else (false, ch)

/-- Offers a configuration: a send, and when that finds the channel full, a second one after
taking out the oldest waiting configuration. Also answers whether the channel took it. -/
def offer (ch : ConfigChannel) (c : Config) : Bool × ConfigChannel :=
  match ch.trySend c with
  | (true, ch) => (true, ch)
  | (false, ch) => ch.receive.2.trySend c

end ConfigChannel

/-- A configuration manager over one file. `current` is the configuration in force; every
channel ever handed out is kept, by the order of subscribing. -/
structure ConfigManager where
  path : String
  /-- What a configuration must pass to be taken on a load or reload. -/
  validator : Config → Except Fault Unit
  log : Logger := {}
  current : Option Config := none
  /-- The hash of the configuration in force, `0` while there is none. -/
  lastHash : Nat := 0
  channels : List ConfigChannel := []

namespace ConfigManager

def resolves (c : Config) : Except Fault Unit := do
  let _ ← Config.resolve (some c)
  return ()

/-- A manager over a file, checking that configurations resolve. -/
def new (path : String) : ConfigManager := { path := path, validator := resolves }

/-- Reads the file, given its text or `none` when it does not exist. -/
def parse (m : ConfigManager) (file : Option String) : Except Fault Config :=
  match file with
  | none => .error (.plain ("open " ++ m.path ++ ": no such file or directory"))
  | some text => Config.decode m.path text

def hashOf : Option Config → Nat
  | none => 0
  | some c => Fnv.hashText (Config.toJson c).render

def commit (m : ConfigManager) (c : Option Config) : ConfigManager :=
  { m with current := c, lastHash := hashOf c }

/-- Reads, checks and takes the file's configuration. -/
def load (m : ConfigManager) (file : Option String) : Except Fault Config × ConfigManager :=
  match m.parse file with
  | .error e => (.error e, m)
  | .ok c =>
    match m.validator c with
    | .error e => (.error e, m)
    | .ok () => (.ok c, m.commit (some c))

/-- Hands out a new channel of a capacity: its number and the manager. -/
def subscribe (m : ConfigManager) (capacity : Nat) : Nat × ConfigManager :=
  (m.channels.length, { m with channels := m.channels ++ [{ capacity := capacity }] })

def unsubscribe (m : ConfigManager) (i : Nat) : ConfigManager :=
  { m with channels := m.channels.modify i fun ch => { ch with isOpen := false } }

/-- Offers a configuration to every open channel, logging each channel that could not take
it. -/
def publish (m : ConfigManager) (c : Config) : LogM ConfigManager := do
  let channels ← m.channels.mapM fun ch => do
    if !ch.isOpen then return ch
    let (took, ch) := ch.offer c
    if !took then
      m.log.debug "config update dropped (subscriber slow)" [.int "queue_cap" ch.capacity]
    return ch
  return { m with channels := channels }

/-- Takes out everything waiting in a channel: the configurations, and whether the channel is
open; `none` for a number never handed out. -/
def drain (m : ConfigManager) (i : Nat) : Option (List Config × Bool) × ConfigManager :=
  match m.channels[i]? with
  | none => (none, m)
  | some ch =>
    (some (ch.waiting, ch.isOpen), { m with channels := m.channels.set i { ch with waiting := [] } })

/-- A subscriber's receive: the oldest configuration waiting in a channel, `none` when nothing
waits there or for a number never handed out. -/
def receive (m : ConfigManager) (i : Nat) : Option Config × ConfigManager :=
  match m.channels[i]? with
  | none => (none, m)
  | some ch =>
    let (got, ch) := ch.receive
    (got, { m with channels := m.channels.set i ch })

/-- Reloads after the file changed: a readable configuration whose hash differs from the one
in force and that passes the validator is taken and handed to the subscribers. -/
def reload (m : ConfigManager) (file : Option String) : LogM ConfigManager := do
  match m.parse file with
  | .error e =>
    m.log.warn "config parse failed" [.text "path" m.path, .err (some e.message)]
    return m
  | .ok c =>
    let h := hashOf (some c)
    if h != 0 && h == m.lastHash then
      m.log.debug "config unchanged; skipping publish" [.text "path" m.path]
      return m
    match m.validator c with
    | .error e =>
      m.log.warn "config rejected" [.text "path" m.path, .err (some e.message)]
      return m
    | .ok () =>
      let m ← (m.commit (some c)).publish c
      m.log.info "config reloaded" [.text "path" m.path, .text "hash" (Fnv.hex h)]
      return m

end ConfigManager

end Foreman
