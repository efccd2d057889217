import Foreman.Text.Quote
import Foreman.Text.Split
import Foreman.Text.Path
import Foreman.Host.System
import Foreman.Fault

/-!
# Reaching a database server

No server runs beside the program, so every attempt fails; what matters is how: a Unix socket
path is invalid, not found or refused, TCP to the host itself refused, to a port that is no
number an unknown port, to another host name not found, another network unknown. An attempt
out of time before it starts times out instead. Host and port join as `host:port`, a host
with a colon bracketed.
-/

namespace Foreman

namespace Dial

def joinHostPort (host port : String) : String :=
  if host.toList.contains ':' then "[" ++ host ++ "]:" ++ port else host ++ ":" ++ port

/-- Splits an address into host and port, or `none` when it is not one. -/
def splitHostPort (hostport : String) : Option (String × String) :=
  let cs := hostport.toList
  match cs.reverse.findIdx? (· == ':') with
  | none => none
  | some j =>
    let i := cs.length - 1 - j
    let port := String.ofList (cs.drop (i + 1))
    if cs.head? == some '[' then
      match cs.findIdx? (· == ']') with
      | none => none
      | some e =>
        if e + 1 != i then none
        else
          let host := cs.drop 1 |>.take (e - 1)
          if (cs.drop 1).contains '[' || (cs.drop (e + 1)).contains ']' then none
          else some (String.ofList host, port)
    else
      let host := cs.take i
      if host.contains ':' || cs.contains '[' || cs.contains ']' then none
      else some (String.ofList host, port)

def isIpLiteral (host : String) : Bool :=
  let parts := Text.splitOn host "."
  (parts.length == 4 && parts.all fun p =>
    p != "" && p.length ≤ 3 && p.toList.all Char.isDigit && p.toNat! ≤ 255) ||
  (host.toList.contains ':' && host.toList.all fun c => c.isDigit || ('a' ≤ c && c ≤ 'f') ||
    ('A' ≤ c && c ≤ 'F') || c == ':' || c == '.')

/-- How reaching an address over TCP fails; `expired` when the time was up at the start. -/
def tcpFailure (network addr : String) (expired : Bool) : Fault :=
  match splitHostPort addr with
  | none => .plain ("dial " ++ network ++ ": address " ++ addr ++ ": missing port in address")
  | some (host, port) =>
    if port == "" || !port.toList.all Char.isDigit then
      .plain ("dial " ++ network ++ ": lookup " ++ network ++ "/" ++ port ++ ": unknown port")
    else if expired then
      if host == "" || isIpLiteral host then
        Fault.of .deadline ("dial " ++ network ++ " " ++ addr ++ ": i/o timeout")
      else Fault.of .deadline ("dial " ++ network ++ ": lookup " ++ host ++ ": i/o timeout")
    else if host == "" || isIpLiteral host then
      .plain ("dial " ++ network ++ " " ++ addr ++ ": connect: connection refused")
    else if host == "localhost" then
      .plain ("dial " ++ network ++ " " ++ joinHostPort "127.0.0.1" port ++ ": connect: connection refused")
    else .plain ("dial " ++ network ++ ": lookup " ++ host ++ ": no such host")

def socketFailure (network path : String) (expired : Bool) : Fault :=
  let lead := "dial " ++ network ++ " " ++ path ++ ": "
  let n := path.utf8ByteSize
  if expired then Fault.of .deadline (lead ++ "i/o timeout")
  else if path == "" then .plain ("dial " ++ network ++ ": missing address")
  else if n > 108 || (n == 108 && !path.startsWith "@") then .plain (lead ++ "connect: invalid argument")
  else if path.startsWith "@" then .plain (lead ++ "connect: connection refused")
  else match HostSystem.lookup path with
    | .found => .plain (lead ++ "connect: connection refused")
    | .missing => .plain (lead ++ "connect: no such file or directory")
    | .notDirectory => .plain (lead ++ "connect: not a directory")

/-- How reaching an address over a network fails; `expired` when the time was up at the
start. -/
def failure (network addr : String) (expired : Bool := false) : Fault :=
  match network with
  | "unix" | "unixgram" | "unixpacket" => socketFailure network addr expired
  | "tcp" | "tcp4" | "tcp6" => tcpFailure network addr expired
  | _ => .plain ("dial " ++ network ++ ": unknown network " ++ network)

end Dial

end Foreman
