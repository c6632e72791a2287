import Switchboard.Settings.Basic
import Switchboard.Failure
import Switchboard.Text.Characters
import Switchboard.Text.Split

/-!
# Routes in one line

A route can be given as `NAME=HOST:PORT`. The name ends at the first equals sign and the port begins
after the last colon, so that a host may hold either; the brackets that set an IPv6 address off from
its port are not part of the host.
-/

namespace Switchboard

/-- The brackets around an IPv6 address. -/
def isBracket (c : Char) : Bool := c == '[' || c == ']'

def maxPort : Nat := 65535

namespace Route

def port? (text : List Char) : Option UInt16 :=
  (Text.natural? maxPort text).map UInt16.ofNat

/-- The route that a text of the form `NAME=HOST:PORT` gives. -/
def ofSpec (spec : String) : Except Settings.Error Route :=
  let invalid (reason : String) : Except Settings.Error Route :=
    .error (.invalidValue "protocol" (spec ++ ": " ++ reason))
  match Text.splitFirst '=' spec.toList with
  | none => invalid "expected NAME=HOST:PORT"
  | some (name, target) =>
    match Text.splitLast ':' target with
    | none => invalid "missing port"
    | some (host, portText) =>
      match port? portText with
      | none => invalid "port is not a number"
      | some port =>
        if name.isEmpty || host.isEmpty then invalid "empty name or host"
        else
          .ok { named (String.ofList name) with
            host := some (String.ofList (Text.strip isBracket host))
            port := some port }

end Route

end Switchboard
