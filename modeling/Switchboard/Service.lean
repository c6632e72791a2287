import Switchboard.Session

/-!
# Serving

A service listens at every listening address and gives each connection a session of its own. It
stops only when all its listeners have stopped.

* `Service.start` — the dispatcher and the listeners.
* `Service.stopped` — what a service without listeners comes to.
-/

namespace Switchboard

structure Service where
  dispatcher : Dispatcher
  listeners : List Endpoint

namespace Service

def listen (net : Network) (dispatcher : Dispatcher) (addresses : List String) :
    Except Failure Service := do
  return ⟨dispatcher, ← net.listenAll addresses⟩

/-- The protocol table first, and then a listener at each address. -/
def start (engine : Pattern.Engine) (net : Network) (settings : Settings) :
    Except Failure Service := do
  let dispatcher ← (Dispatcher.ofSettings engine settings).mapError Failure.ofSettings
  listen net dispatcher settings.listen

/-- The failure that a service without listeners ends with. -/
def stopped : Failure := .other "all listeners stopped"

/-! ## The log -/

def listeningRecords (listener : Endpoint) : List Record :=
  [⟨.info, "Listening on " ++ String.ofList listener.text⟩]

def acceptedRecords (client listener : Endpoint) : List Record :=
  [⟨.debug, "Accepted connection from " ++ String.ofList client.text ++ " on " ++
    String.ofList listener.text⟩]

def refusedRecords (listener : Endpoint) (reason : String) : List Record :=
  [⟨.error, "Error accepting connection on " ++ String.ofList listener.text ++ ": " ++ reason⟩]

def endedRecords : Except Failure Unit → List Record
  | .ok () => []
  | .error failure => [⟨.debug, "Connection ended with error: " ++ failure.message⟩]

end Service

end Switchboard
