import Switchboard.Proofs.Addresses
import Switchboard.Proofs.Validity

/-!
# Which warnings are given

The check for doubtful settings appends the texts of five small checks. Here a doubt is told apart
from its text: `Settings.Raises` says when settings raise a doubt, without the lists and the
lookups of the check, and the texts in the list are those of the doubts raised (`mem_warnings_iff`).

**Texts.** The warnings of each kind begin with a letter of their own. Names stand in quotes in them
and may hold anything, so where a text has two names it does not say where the first one ends; but a
text with one name or number in it belongs to one doubt (`Doubt.eq_of_text_eq`).

Main results: `mem_warnings_iff`, `text_mem_warnings_iff`.
-/

namespace Switchboard

namespace Level

theorem mem_all (level : Level) : level ∈ all := by
  cases level <;> decide

end Level

namespace Settings

/-- What is doubtful about settings. -/
inductive Doubt
  | level (name : String)
  /-- More verbosity than there is. -/
  | verbosity (verbose : UInt8)
  /-- The route for silent clients is not there, and the first route serves instead. -/
  | timeout (name first : String)
  /-- Routes stand behind the catch-all, which has this name. -/
  | notLast (name : String)
  /-- A route with patterns that judges every beginning of a stream. -/
  | ungated (name : String)

namespace Doubt

def text : Doubt → String
  | level name => "Invalid log level '" ++ name ++ "', using default 'info'"
  | verbosity verbose => "verbose " ++ toString verbose.toNat ++ " is treated as 2"
  | timeout name first =>
    "on_timeout protocol '" ++ name ++ "' is not defined, timeouts will use '" ++ first ++ "'"
  | notLast name =>
    "'" ++ name ++ "' is not the last protocol, every protocol after it is unreachable"
  | ungated name =>
    "regex protocol '" ++ name ++ "' has no min_length; short prefixes are rejected immediately"

def initial : Doubt → Char
  | level _ => 'I'
  | verbosity _ => 'v'
  | timeout _ _ => 'o'
  | notLast _ => '\''
  | ungated _ => 'r'

theorem head?_text (doubt : Doubt) : doubt.text.toList.head? = some doubt.initial := by
  unfold text initial
  cases doubt <;> simp

theorem initial_eq_of_text_eq {doubt other : Doubt} (h : doubt.text = other.text) :
    doubt.initial = other.initial := by
  apply Option.some.inj
  rw [← head?_text, ← head?_text, h]

theorem eq_of_repr_eq {n m : Nat} (h : n.repr = m.repr) : n = m := by
  have hdigits : Nat.toDigits 10 n = Nat.toDigits 10 m := String.ofList_injective h
  have hn := Text.positional?_toDigits (by decide) Text.digit?_digitChar n
  have hm := Text.positional?_toDigits (by decide) Text.digit?_digitChar m
  rw [hdigits, hm] at hn
  exact (Option.some.inj hn).symm

/-- A text with one name or number in it tells which doubt it is about. -/
theorem eq_of_text_eq {doubt other : Doubt} (hone : ∀ name first, other ≠ timeout name first)
    (h : doubt.text = other.text) : doubt = other := by
  -- The first letters tell the texts of two kinds apart; within a kind the text gives the data.
  have hinitial := initial_eq_of_text_eq h
  unfold text at h
  cases other with
  | timeout name first => exact absurd rfl (hone name first)
  | level name =>
    cases doubt with
    | level => simpa using h
    | verbosity | timeout | notLast | ungated => simp [initial] at hinitial
  | notLast name =>
    cases doubt with
    | notLast => simpa using h
    | level | verbosity | timeout | ungated => simp [initial] at hinitial
  | ungated name =>
    cases doubt with
    | ungated => simpa using h
    | level | verbosity | timeout | notLast => simp [initial] at hinitial
  | verbosity verbose =>
    cases doubt with
    | verbosity another =>
      have hdigits : another.toNat.repr = verbose.toNat.repr := by simpa using h
      rw [UInt8.toNat_inj.1 (eq_of_repr_eq hdigits)]
    | level | timeout | notLast | ungated => simp [initial] at hinitial

end Doubt

/-- The doubts that settings raise. -/
inductive Raises (settings : Settings) : Doubt → Prop
  | level (h : ∀ level : Level, level.name ≠ settings.logLevel) :
      settings.Raises (.level settings.logLevel)
  | verbosity (h : 2 < settings.verbose) : settings.Raises (.verbosity settings.verbose)
  | timeout {first : Route} {rest : List Route} (hroutes : settings.routes = first :: rest)
      (h : ∀ route ∈ settings.routes, route.name ≠ settings.onTimeout) :
      settings.Raises (.timeout settings.onTimeout first.name)
  | notLast {before after : List Route} {route : Route}
      (hroutes : settings.routes = before ++ route :: after)
      (hname : route.name = Route.catchAllName) (hafter : after ≠ []) :
      settings.Raises (.notLast Route.catchAllName)
  | ungated {route : Route} (hroute : route ∈ settings.routes)
      (hkind : route.kind? = some .pattern) (hgate : route.minLength = none) :
      settings.Raises (.ungated route.name)

variable {settings : Settings} {doubt : Doubt} {text : String}

/-! ## The checks, one by one -/

theorem isSome_ofName?_iff {name : String} :
    (Level.ofName? name).isSome ↔ ∃ level : Level, level.name = name := by
  rw [Level.ofName?, List.find?_isSome]
  constructor
  · rintro ⟨level, -, hname⟩
    exact ⟨level, of_decide_eq_true hname⟩
  · rintro ⟨level, hname⟩
    exact ⟨level, level.mem_all, decide_eq_true hname⟩

theorem mem_levelWarning_iff :
    text ∈ settings.levelWarning ↔
      (∀ level : Level, level.name ≠ settings.logLevel) ∧
        text = (Doubt.level settings.logLevel).text := by
  rw [levelWarning, List.mem_ite_nil_left, List.mem_singleton, isSome_ofName?_iff, not_exists]
  rfl

theorem mem_verbosityWarning_iff :
    text ∈ settings.verbosityWarning ↔
      2 < settings.verbose ∧ text = (Doubt.verbosity settings.verbose).text := by
  rw [verbosityWarning, List.mem_ite_nil_right, List.mem_singleton]
  rfl

theorem mem_timeoutWarning_iff :
    text ∈ settings.timeoutWarning ↔
      ∃ first rest, settings.routes = first :: rest ∧
        (∀ route ∈ settings.routes, route.name ≠ settings.onTimeout) ∧
        text = (Doubt.timeout settings.onTimeout first.name).text := by
  have hnone : ¬ (settings.route? settings.onTimeout).isSome ↔
      ∀ route ∈ settings.routes, route.name ≠ settings.onTimeout := by
    simp [route?]
  cases hroutes : settings.routes with
  | nil => simp [timeoutWarning, hroutes]
  | cons first rest =>
    simp only [timeoutWarning, hroutes]
    rw [List.mem_ite_nil_left, List.mem_singleton, hnone, hroutes]
    constructor
    · exact fun h => ⟨first, rest, rfl, h.1, h.2⟩
    · rintro ⟨_, _, ⟨⟩, h⟩
      exact h

theorem mem_routeWarnings_iff {isLast : Bool} {route : Route} :
    text ∈ routeWarnings isLast route ↔
      (route.name = Route.catchAllName ∧ isLast = false ∧
        text = (Doubt.notLast Route.catchAllName).text) ∨
      (route.kind? = some .pattern ∧ route.minLength = none ∧
        text = (Doubt.ungated route.name).text) := by
  rw [routeWarnings, List.mem_append, List.mem_ite_nil_right, List.mem_ite_nil_right,
    List.mem_singleton, List.mem_singleton]
  simp only [Bool.and_eq_true, decide_eq_true_eq, Bool.not_eq_true', Option.isNone_iff_eq_none,
    and_assoc]
  rfl

/-- Each route is checked with what stands behind it. -/
theorem mem_tableWarnings_iff {routes : List Route} :
    text ∈ tableWarnings routes ↔
      ∃ before route after, routes = before ++ route :: after ∧
        text ∈ routeWarnings after.isEmpty route := by
  induction routes with
  | nil => simp [tableWarnings]
  | cons first rest ih =>
    rw [tableWarnings, List.mem_append, ih]
    constructor
    · rintro (h | ⟨before, route, after, rfl, h⟩)
      · exact ⟨[], first, rest, rfl, h⟩
      · exact ⟨first :: before, route, after, rfl, h⟩
    · rintro ⟨before, route, after, hroutes, h⟩
      rcases List.cons_eq_append_iff.1 hroutes with ⟨rfl, hfirst⟩ | ⟨tail, rfl, hrest⟩
      · cases hfirst
        exact .inl h
      · exact .inr ⟨tail, route, after, hrest, h⟩

/-! ## All warnings -/

/-- The warnings are the texts of the doubts that settings raise. -/
theorem mem_warnings_iff :
    text ∈ settings.warnings ↔ ∃ doubt, settings.Raises doubt ∧ text = doubt.text := by
  rw [warnings, List.mem_append, List.mem_append, List.mem_append, mem_levelWarning_iff,
    mem_verbosityWarning_iff, mem_timeoutWarning_iff, mem_tableWarnings_iff]
  -- One direction per list of warnings, the other per kind of doubt.
  constructor
  · rintro (((⟨h, rfl⟩ | ⟨h, rfl⟩) | ⟨first, rest, hroutes, h, rfl⟩) |
      ⟨before, route, after, hroutes, h⟩)
    · exact ⟨_, .level h, rfl⟩
    · exact ⟨_, .verbosity h, rfl⟩
    · exact ⟨_, .timeout hroutes h, rfl⟩
    · rcases mem_routeWarnings_iff.1 h with ⟨hname, hlast, rfl⟩ | ⟨hkind, hgate, rfl⟩
      · exact ⟨_, .notLast hroutes hname (List.isEmpty_eq_false_iff.1 hlast), rfl⟩
      · have hroute : route ∈ settings.routes := by
          rw [hroutes]
          exact List.mem_append_cons_self
        exact ⟨_, .ungated hroute hkind hgate, rfl⟩
  · rintro ⟨doubt, hraises, rfl⟩
    cases hraises with
    | level h => exact .inl (.inl (.inl ⟨h, rfl⟩))
    | verbosity h => exact .inl (.inl (.inr ⟨h, rfl⟩))
    | timeout hroutes h => exact .inl (.inr ⟨_, _, hroutes, h, rfl⟩)
    | notLast hroutes hname hafter =>
      have hlast := List.isEmpty_eq_false_iff.2 hafter
      exact .inr ⟨_, _, _, hroutes, mem_routeWarnings_iff.2 (.inl ⟨hname, hlast, rfl⟩)⟩
    | ungated hroute hkind hgate =>
      obtain ⟨before, after, hroutes⟩ := List.append_of_mem hroute
      exact .inr ⟨_, _, _, hroutes, mem_routeWarnings_iff.2 (.inr ⟨hkind, hgate, rfl⟩)⟩

/-- The warning about a doubt is given if the doubt is raised, and not by chance. -/
theorem text_mem_warnings_iff (hone : ∀ name first, doubt ≠ .timeout name first) :
    doubt.text ∈ settings.warnings ↔ settings.Raises doubt := by
  rw [mem_warnings_iff]
  constructor
  · rintro ⟨other, hraises, htext⟩
    rw [← Doubt.eq_of_text_eq hone htext.symm]
    exact hraises
  · exact fun hraises => ⟨doubt, hraises, rfl⟩

/-- The level is warned about unless it is spelled like one. -/
theorem level_mem_warnings_iff {name : String} :
    (Doubt.level name).text ∈ settings.warnings ↔
      name = settings.logLevel ∧ ∀ level : Level, level.name ≠ settings.logLevel := by
  have hone : ∀ other first, Doubt.level name ≠ .timeout other first := fun _ _ => nofun
  rw [text_mem_warnings_iff hone]
  constructor
  · intro hraises
    cases hraises with
    | level h => exact ⟨rfl, h⟩
  · rintro ⟨rfl, h⟩
    exact .level h

theorem notLast_mem_warnings_iff {name : String} :
    (Doubt.notLast name).text ∈ settings.warnings ↔
      name = Route.catchAllName ∧
        ∃ before route after, settings.routes = before ++ route :: after ∧
          route.name = Route.catchAllName ∧ after ≠ [] := by
  have hone : ∀ other first, Doubt.notLast name ≠ .timeout other first := fun _ _ => nofun
  rw [text_mem_warnings_iff hone]
  constructor
  · intro hraises
    cases hraises with
    | notLast hroutes hname hafter => exact ⟨rfl, _, _, _, hroutes, hname, hafter⟩
  · rintro ⟨rfl, before, route, after, hroutes, hname, hafter⟩
    exact .notLast hroutes hname hafter

end Settings

end Switchboard
