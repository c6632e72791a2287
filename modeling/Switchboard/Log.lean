/-!
# The log

A record is a level and a text. Which records are shown is decided by a threshold, which is set by
name; a name that is not understood means `info`.

* `Threshold.ofName?` — the names understood, in any ASCII case.
* `Threshold.keep` — the records that a threshold lets through.
-/

namespace Switchboard

/-- How much a record matters, most urgent first. -/
inductive Level
  | error
  | warn
  | info
  | debug
  | trace
  deriving DecidableEq, Repr

namespace Level

def rank : Level → Nat
  | error => 1
  | warn => 2
  | info => 3
  | debug => 4
  | trace => 5

def label : Level → String
  | error => "ERROR"
  | warn => "WARN"
  | info => "INFO"
  | debug => "DEBUG"
  | trace => "TRACE"

def name : Level → String
  | error => "error"
  | warn => "warn"
  | info => "info"
  | debug => "debug"
  | trace => "trace"

def all : List Level := [error, warn, info, debug, trace]

/-- The level whose setting is spelled exactly so. -/
def ofName? (name : String) : Option Level :=
  all.find? (·.name = name)

/-- The level that shows what a verbosity asks for. -/
def forVerbosity (verbosity : UInt8) : Level :=
  if verbosity = 0 then info else if verbosity = 1 then debug else trace

end Level

/-- One entry of the log; its text may run over several lines. -/
structure Record where
  level : Level
  text : String
  deriving DecidableEq, Repr

/-- The least urgent level that is still shown. -/
inductive Threshold
  | off
  | upTo (level : Level)
  deriving DecidableEq, Repr

namespace Threshold

def label : Threshold → String
  | off => "OFF"
  | upTo level => level.label

def rank : Threshold → Nat
  | off => 0
  | upTo level => level.rank

/-- Two words that differ at most in the case of ASCII letters. -/
def sameWord (a b : String) : Bool :=
  a.toList.map Char.toLower == b.toList.map Char.toLower

/-- A level's name, or `off`, in any ASCII case. -/
def ofName? (name : String) : Option Threshold :=
  if sameWord name "off" then some off
  else (Level.all.find? fun level => sameWord name level.name).map upTo

/-- The threshold a setting asks for; a name not understood asks for `info`. -/
def ofSetting (name : String) : Threshold :=
  (ofName? name).getD (upTo .info)

/-- The records at least as urgent as the threshold. -/
def keep (threshold : Threshold) (records : List Record) : List Record :=
  records.filter fun r => r.level.rank ≤ threshold.rank

end Threshold

end Switchboard
