import Switchboard.Detector.Signature
import Switchboard.Tls.Criteria

/-!
# Detectors

A detector is a kind with the data that the kind needs. It judges the bytes seen so far, all of them
each time, and remembers nothing, so one detector serves any number of connections.

**Patterns** are the business of a library (`Pattern.Engine`). It says which texts are patterns, and
for each of them in which streams it is found. Nothing more is known of it, so a pattern that is
ready for use can be any predicate of streams.

* `Pattern.Set` — the patterns of one detector.
* `Detector.bind` — a kind given its data.
* `Detector.verdict` — what the detector says of a stream.
-/

namespace Switchboard

/-! ## Patterns -/

namespace Pattern

/-- The streams that a pattern is found in. -/
abbrev Search := Bytes → Bool

/-- A library of patterns. -/
structure Engine where
  /-- The search for a pattern; none if the text is not well formed. -/
  compile? : String → Option Search

/-- The patterns of one detector, in order. A stream that one of them is found in is accepted, any
other is rejected at once, however short it is. -/
structure Set where
  searches : List Search

namespace Set

/-- Fails with the first text that is no pattern. -/
def ofTexts (engine : Engine) (texts : List String) : Except String Set := do
  let searches ← texts.mapM fun text =>
    match engine.compile? text with
    | some search => .ok search
    | none => .error text
  return ⟨searches⟩

def size (set : Set) : Nat := set.searches.length

def isEmpty (set : Set) : Bool := set.searches.isEmpty

def matchesIn (set : Set) (data : Bytes) : Bool := set.searches.any fun search => search data

def verdict (set : Set) (data : Bytes) : Verdict := .ofBool (set.matchesIn data)

end Set

end Pattern

/-! ## Detectors -/

/-- What settings may attach to a detector; each kind takes what concerns it. -/
structure DetectorData where
  hosts : List String
  protocols : List String
  patterns : List String
  deriving DecidableEq, Repr

inductive Detector
  | ssh
  | openVpn
  | tinc
  | xmpp
  | http
  | tls (criteria : Tls.Criteria)
  | adb
  | socks5
  | pattern (set : Pattern.Set)
  | always

namespace Detector

/-- A kind given its data; fails with the first pattern that is not well formed. -/
def bind (engine : Pattern.Engine) (kind : Kind) (data : DetectorData) : Except String Detector :=
  match kind with
  | .ssh => .ok ssh
  | .openVpn => .ok openVpn
  | .tinc => .ok tinc
  | .xmpp => .ok xmpp
  | .http => .ok http
  | .tls => .ok (tls (.ofTexts data.hosts data.protocols))
  | .adb => .ok adb
  | .socks5 => .ok socks5
  | .pattern => (Pattern.Set.ofTexts engine data.patterns).map pattern
  | .always => .ok always

def kind : Detector → Kind
  | ssh => .ssh
  | openVpn => .openVpn
  | tinc => .tinc
  | xmpp => .xmpp
  | http => .http
  | tls _ => .tls
  | adb => .adb
  | socks5 => .socks5
  | pattern _ => .pattern
  | always => .always

theorem kind_of_bind {engine : Pattern.Engine} {kind : Kind} {data : DetectorData}
    {detector : Detector} (h : bind engine kind data = .ok detector) : detector.kind = kind := by
  cases kind <;> simp only [bind, Except.ok.injEq] at h
  case pattern =>
    cases hs : Pattern.Set.ofTexts engine data.patterns <;> simp [hs, Except.map] at h
    subst h; rfl
  all_goals subst h; rfl

def verdict (detector : Detector) (data : Bytes) : Verdict :=
  match detector with
  | ssh => Signature.ssh data
  | openVpn => Signature.openVpn data
  | tinc => Signature.tinc data
  | xmpp => Signature.xmpp data
  | http => Signature.http data
  | tls criteria => (criteria.inspect data).verdict
  | adb => Signature.adb data
  | socks5 => Signature.socks5 data
  | pattern set => set.verdict data
  | always => .accept

def records (detector : Detector) (data : Bytes) : List Record :=
  let found := match detector with
    | tls criteria => (criteria.inspect data).records
    | _ => []
  found ++ [⟨.trace, detector.kind.label ++ " over " ++ toString data.length ++ " bytes: " ++
    (detector.verdict data).label⟩]

end Detector

end Switchboard
