import Switchboard.Hexdump
import Switchboard.Registry

/-!
# Dispatching

The entries are asked in order of priority, and their answers are put together: the first one to
accept takes the connection; if none accepts and one still waits, the question is open; and if all
reject, the last entry takes the connection. A last entry that is named as the catch-all is not
asked at all. An entry may have a gate: before so many bytes have come it counts as waiting.

* `Registry.survey` — the answers, up to the first that accepts.
* `Dispatcher.outcome` — what follows from them.
* `Dispatcher.records` — what is logged of them.
-/

namespace Switchboard

/-- What an entry has to say of a stream. -/
inductive Answer
  /-- The gate is closed: so many bytes are needed. -/
  | gated (needed : Nat)
  | judged (verdict : Verdict)
  deriving DecidableEq, Repr

namespace Answer

/-- The entry may accept once more bytes have come. -/
def isPending : Answer → Bool
  | gated _ => true
  | judged verdict => verdict == .wait

end Answer

/-- An entry that was asked, and its answer. -/
structure Finding where
  entry : Entry
  answer : Answer

/-- What the answers come to. -/
inductive Outcome
  | decided (entry : Entry)
  | undecided

/-- The entry that takes the connection, if that is decided. -/
def Outcome.entry? : Outcome → Option Entry
  | decided entry => some entry
  | undecided => none

namespace Entry

/-- What the entry says of a stream; none if it has no detector. -/
def answer? (entry : Entry) (data : Bytes) : Option Answer :=
  entry.detector.map fun detector =>
    match entry.minLength with
    | some n => if data.length < n.toNat then .gated n.toNat else .judged (detector.verdict data)
    | none => .judged (detector.verdict data)

end Entry

namespace Registry

/-- The entries that are asked, in order, though some of them may have no detector. -/
def asked (registry : Registry) : List Entry :=
  if registry.last.isCatchAll then registry.entries.dropLast else registry.entries

/-- The answers of entries in order, up to the first that accepts. -/
def surveyOf (data : Bytes) : List Entry → List Finding
  | [] => []
  | entry :: rest =>
    match entry.answer? data with
    | none => surveyOf data rest
    | some answer =>
      ⟨entry, answer⟩ :: if answer = .judged .accept then [] else surveyOf data rest

def survey (registry : Registry) (data : Bytes) : List Finding :=
  surveyOf data registry.asked

end Registry

/-- What the answers come to, where `last` takes what no entry takes. -/
def Outcome.ofFindings (last : Entry) (findings : List Finding) : Outcome :=
  match findings.find? (·.answer = .judged .accept) with
  | some finding => .decided finding.entry
  | none => if findings.any (·.answer.isPending) then .undecided else .decided last

/-- A registry together with what concerns probing: the name of the entry for clients that stay
silent, and how much is logged. -/
structure Dispatcher where
  registry : Registry
  onTimeout : String
  verbose : UInt8

namespace Dispatcher

def ofSettings (engine : Pattern.Engine) (settings : Settings) :
    Except Settings.Error Dispatcher :=
  (Registry.ofSettings engine settings).map (⟨·, settings.onTimeout, settings.verbose⟩)

/-- What the entries' answers to a stream come to. -/
def outcome (d : Dispatcher) (data : Bytes) : Outcome :=
  .ofFindings d.registry.last (d.registry.survey data)

/-- The entry for clients that stay silent: the one named so, or else the first. -/
def timeoutEntry (d : Dispatcher) : Entry :=
  (d.registry.get? d.onTimeout).getD d.registry.first

/-! ## The log -/

def tracing (d : Dispatcher) (text : String) : List Record :=
  if 0 < d.verbose then [⟨.debug, text⟩] else []

def findingRecords (d : Dispatcher) (data : Bytes) (finding : Finding) : List Record :=
  let name := finding.entry.name
  d.tracing ("probing for " ++ name) ++
    match finding.answer with
    | .gated needed =>
      [⟨.debug, "input too short for " ++ name ++ ", " ++ toString data.length ++
        " bytes but need " ++ toString needed⟩]
    | .judged verdict =>
      (finding.entry.detector.map (·.records data)).getD [] ++
        d.tracing ("probed for " ++ name ++ ": " ++ verdict.label)

def records (d : Dispatcher) (data : Bytes) : List Record :=
  let dump := if 1 < d.verbose then
    [⟨.debug, "hexdump of incoming packet:\n" ++ Hexdump.render data⟩] else []
  dump ++ (d.registry.survey data).flatMap (d.findingRecords data)

end Dispatcher

end Switchboard
