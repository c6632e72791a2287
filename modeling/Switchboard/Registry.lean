import Switchboard.Detector.Basic
import Switchboard.Net.Backend
import Switchboard.Settings.Validity

/-!
# The registry

The protocol table ready for use: every route with its detector bound. There is at least one entry,
and names are unique; both are part of the type. The order of entries is their priority, and the
last one takes what no other takes.

* `Entry.ofRoute` — a route with its detector bound.
* `Registry.ofEntries`, `Registry.ofSettings` — the two ways to a registry.
-/

namespace Switchboard

/-- A protocol that connections can be routed to. -/
structure Entry where
  name : String
  /-- Entries without a detector are never asked. -/
  detector : Option Detector
  /-- The detector is not asked before this many bytes have come. -/
  minLength : Option UInt64
  backend : Option Backend
  /-- Zero silences the record of each routed connection. -/
  logLevel : UInt8

namespace Entry

/-- An entry without a gate or a backend. -/
def plain (name : String) (detector : Option Detector) : Entry :=
  ⟨name, detector, none, none, Route.defaultLogLevel⟩

/-- The entry has the name of the route that takes what no other takes. -/
def isCatchAll (entry : Entry) : Bool := entry.name == Route.catchAllName

def verdict? (entry : Entry) (data : Bytes) : Option Verdict :=
  entry.detector.map (·.verdict data)

def badPattern (text : String) : Settings.Error := .invalidValue "regex_patterns" text

/-- A detector of a kind with the data of a route. -/
def bindDetector (engine : Pattern.Engine) (kind : Kind) (data : DetectorData) :
    Except Settings.Error Detector :=
  (Detector.bind engine kind data).mapError badPattern

/-- The name of the detector of a route that is probed. -/
def detectorName (route : Route) : String :=
  match route.probe with
  | none => route.name
  | some probe => if probe = Route.builtinProbe then route.name else probe

def detectorOf (engine : Pattern.Engine) (route : Route) :
    Except Settings.Error (Option Detector) :=
  if route.probe = some Route.noProbe then .ok none
  else
    let probe := detectorName route
    match Kind.ofName? probe with
    | none => .error (.unknownProbe route.name probe)
    | some kind =>
      (bindDetector engine kind ⟨route.hosts, route.protocols, route.patterns⟩).map some

/-- The backend of a route that gives both a host and a port. -/
def backendOf (route : Route) : Option Backend :=
  match route.host, route.port with
  | some host, some port => some ⟨host, port⟩
  | _, _ => none

/-- A route with its detector bound. -/
def ofRoute (engine : Pattern.Engine) (route : Route) : Except Settings.Error Entry :=
  (detectorOf engine route).map fun detector =>
    ⟨route.name, detector, route.minLength, backendOf route, route.logLevel⟩

/-- The routes of a table with their detectors bound; fails with the first that has none. -/
def ofRoutes (engine : Pattern.Engine) (routes : List Route) : Except Settings.Error (List Entry) :=
  routes.mapM (ofRoute engine)

def registeredRecord (entry : Entry) : Record :=
  ⟨.debug, "Registered protocol " ++ entry.name ++ " (probe: " ++
    Text.optional (entry.detector.map fun d => d.kind.label) ++ ", min_length: " ++
    Text.optional (entry.minLength.map fun n => toString n.toNat) ++ ")"⟩

end Entry

/-- Entries in order of priority. -/
structure Registry where
  entries : List Entry
  ne_nil : entries ≠ []
  nodup : (entries.map Entry.name).Nodup

namespace Registry

/-- The first name that stands in a list for the second time. -/
def firstRepeated (seen : List String) : List String → Option String
  | [] => none
  | name :: rest => if name ∈ seen then some name else firstRepeated (name :: seen) rest

theorem firstRepeated_eq_none_iff {seen names : List String} :
    firstRepeated seen names = none ↔ names.Nodup ∧ ∀ n ∈ names, n ∉ seen := by
  induction names generalizing seen with
  | nil => simp [firstRepeated]
  | cons name rest ih =>
    by_cases h : name ∈ seen
    · simp [firstRepeated, h]
    · simp only [firstRepeated, h, if_false, ih, List.nodup_cons, List.mem_cons, not_or,
        forall_eq_or_imp]
      grind

/-- The registry of some entries: there must be one, and no two of a name. -/
def ofEntries (entries : List Entry) : Except Settings.Error Registry :=
  if ne_nil : entries = [] then .error (.missingValue "protocols")
  else
    match h : firstRepeated [] (entries.map Entry.name) with
    | some name => .error (Route.duplicate name)
    | none => .ok ⟨entries, ne_nil, (firstRepeated_eq_none_iff.1 h).1⟩

def ofSettings (engine : Pattern.Engine) (settings : Settings) :
    Except Settings.Error Registry := do
  ofEntries (← Entry.ofRoutes engine settings.routes)

def buildRecords (engine : Pattern.Engine) (settings : Settings) : List Record :=
  match Entry.ofRoutes engine settings.routes with
  | .ok entries => entries.map Entry.registeredRecord
  | .error _ => []

def first (registry : Registry) : Entry := registry.entries.head registry.ne_nil

/-- The entry that takes what no other takes. -/
def last (registry : Registry) : Entry := registry.entries.getLast registry.ne_nil

def get? (registry : Registry) (name : String) : Option Entry :=
  registry.entries.find? (·.name = name)

def size (registry : Registry) : Nat := registry.entries.length

theorem last_mem (registry : Registry) : registry.last ∈ registry.entries :=
  List.getLast_mem _

theorem first_mem (registry : Registry) : registry.first ∈ registry.entries :=
  List.head_mem _

end Registry

end Switchboard
