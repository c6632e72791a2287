import Mathlib.Data.List.Nodup
import Mathlib.Tactic.SplitIfs
import Switchboard.Settings.Validity

/-!
# What the check of settings demands

The check reports the first fault that it comes to, so settings pass exactly if no place of them has
a fault. A route is checked against those before it for its name, and otherwise by itself.

**One route** (`Route.Faultless`). What is demanded of a route wherever it stands.

**The table** (`faults_eq_none_iff`). The routes before a route make its name a repeated one, so
over the whole table the demand is that no two names are the same.

Main result: `validate_eq_ok_iff`.
-/

namespace Switchboard

/-! ## One route -/

namespace Route

variable {route : Route} {before routes : List Route}

/-- The detector of a route is known if it is probed, and it is given the data that it takes. -/
structure ProbeFaultless (route : Route) : Prop where
  known : route.probeName = none ∨ ∃ kind, route.kind? = some kind
  tls : route.hosts ≠ [] ∨ route.protocols ≠ [] → route.kind? = some .tls
  pattern : route.patterns ≠ [] ↔ route.kind? = some .pattern

/-- A route that has no fault of its own. -/
structure Faultless (route : Route) : Prop where
  name : route.name ≠ ""
  backend : ∃ host port, route.host = some host ∧ route.port = some port
  probe : route.ProbeFaultless
  gate : route.minLength ≠ some 0

/-- Behind the check that the detector is known, only its data can be at fault. -/
theorem probeFault_of_known (h : route.probeName = none ∨ ∃ kind, route.kind? = some kind) :
    route.probeFault =
      if (!route.hosts.isEmpty || !route.protocols.isEmpty) && route.kind? ≠ some .tls then
        some (.invalidCombination
          (route.name ++ ": sni_hostnames and alpn_protocols need the tls probe"))
      else if !route.patterns.isEmpty && route.kind? ≠ some .pattern then
        some (.invalidCombination (route.name ++ ": regex_patterns need the regex probe"))
      else if route.patterns.isEmpty && route.kind? = some .pattern then
        some (.missingValue (route.name ++ ": regex_patterns"))
      else none := by
  unfold probeFault
  split
  · rename_i probe hname hkind
    rcases h with hnone | ⟨kind, hsome⟩
    · rw [hname] at hnone
      cases hnone
    · rw [hkind] at hsome
      cases hsome
  · rfl

theorem probeFault_eq_none_iff : route.probeFault = none ↔ route.ProbeFaultless := by
  constructor
  · intro h
    -- The kind is settled first: the checks behind it all ask what was resolved.
    have hknown : route.probeName = none ∨ ∃ kind, route.kind? = some kind := by
      cases hname : route.probeName with
      | none => exact .inl rfl
      | some probe =>
        cases hkind : route.kind? with
        | none => simp [probeFault, hname, hkind] at h
        | some kind => exact .inr ⟨kind, rfl⟩
    rw [probeFault_of_known hknown] at h
    split_ifs at h with htls hpattern hmissing
    simp only [Bool.and_eq_true, Bool.or_eq_true, Bool.not_eq_true', List.isEmpty_eq_false_iff,
      List.isEmpty_iff, decide_eq_true_eq, not_and, not_not] at htls hpattern hmissing
    exact ⟨hknown, htls, hpattern, fun hkind hempty => hmissing hempty hkind⟩
  · rintro ⟨hknown, htls, hpattern⟩
    rw [probeFault_of_known hknown]
    have htls' : ¬ ((!route.hosts.isEmpty || !route.protocols.isEmpty) &&
        route.kind? ≠ some .tls) = true := by
      simpa using htls
    have hpattern' : ¬ (!route.patterns.isEmpty && route.kind? ≠ some .pattern) = true := by
      simpa using hpattern.1
    have hmissing : ¬ (route.patterns.isEmpty && route.kind? = some .pattern) = true := by
      simp only [Bool.and_eq_true, List.isEmpty_iff, decide_eq_true_eq, not_and]
      exact fun hempty hkind => hpattern.2 hkind hempty
    rw [if_neg htls', if_neg hpattern', if_neg hmissing]

/-- A route has no fault behind others exactly if it has none of its own and none of the others has
its name. -/
theorem fault_eq_none_iff {index : Nat} :
    route.fault before index = none ↔
      (∀ earlier ∈ before, earlier.name ≠ route.name) ∧ route.Faultless := by
  have hname : route.name.isEmpty = true ↔ route.name = "" := String.isEmpty_iff
  have hnew : ¬ before.any (·.name = route.name) = true ↔
      ∀ earlier ∈ before, earlier.name ≠ route.name := by
    simp
  have hbackend : ¬ (route.host.isNone || route.port.isNone) = true ↔
      ∃ host port, route.host = some host ∧ route.port = some port := by
    cases route.host <;> cases route.port <;> simp
  unfold fault
  constructor
  · intro h
    cases hprobe : route.probeFault with
    | some error =>
      simp only [hprobe] at h
      split_ifs at h
    | none =>
      simp only [hprobe] at h
      split_ifs at h with hempty hrepeated hmissing hgate
      exact ⟨hnew.1 hrepeated, mt hname.2 hempty, hbackend.1 hmissing,
        probeFault_eq_none_iff.1 hprobe, hgate⟩
  · rintro ⟨hrepeated, hfaultless⟩
    -- In the order of the checks, each refuted by its own demand.
    rw [if_neg (mt hname.1 hfaultless.name), if_neg (hnew.2 hrepeated),
      if_neg (hbackend.2 hfaultless.backend), probeFault_eq_none_iff.2 hfaultless.probe]
    exact if_neg hfaultless.gate

theorem faults_eq_none_iff :
    (∀ fault ∈ faults before routes, fault = none) ↔
      (∀ route ∈ routes, ∀ earlier ∈ before, earlier.name ≠ route.name) ∧
        (routes.map Route.name).Nodup ∧ ∀ route ∈ routes, route.Faultless := by
  induction routes generalizing before with
  | nil => simp [faults]
  | cons route routes ih =>
    rw [faults, List.forall_mem_cons, fault_eq_none_iff, ih, List.map_cons, List.nodup_cons]
    simp only [List.forall_mem_cons, List.mem_append, List.mem_singleton, or_imp, forall_and,
      forall_eq, List.mem_map, not_exists, not_and]
    constructor
    · rintro ⟨⟨hbefore, hroute⟩, ⟨hrest, hrepeated⟩, hnodup, hfaultless⟩
      exact ⟨⟨hbefore, hrest⟩, ⟨fun other ho heq => hrepeated other ho heq.symm, hnodup⟩, hroute,
        hfaultless⟩
    · rintro ⟨⟨hbefore, hrest⟩, ⟨hrepeated, hnodup⟩, hroute, hfaultless⟩
      exact ⟨⟨hbefore, hroute⟩, ⟨hrest, fun other ho heq => hrepeated other ho heq.symm⟩, hnodup,
        hfaultless⟩

end Route

/-! ## All settings -/

namespace Settings

/-- Settings in which nothing is missing and nothing contradicts itself. -/
structure Faultless (settings : Settings) : Prop where
  listen : settings.listen ≠ []
  bufferSize : settings.bufferSize ≠ 0
  timeout : settings.timeout ≠ 0
  connectTimeout : settings.connectTimeout ≠ 0
  ne_nil : settings.routes ≠ []
  nodup : (settings.routes.map Route.name).Nodup
  routes : ∀ route ∈ settings.routes, route.Faultless

theorem zeroFault_eq_none_iff {name reason : String} {value : UInt64} :
    zeroFault name reason value = none ↔ value ≠ 0 := by
  simp [zeroFault]

theorem generalFaults_eq_none_iff {settings : Settings} :
    (∀ fault ∈ settings.generalFaults, fault = none) ↔ settings.listen ≠ [] ∧
      settings.bufferSize ≠ 0 ∧ settings.timeout ≠ 0 ∧ settings.connectTimeout ≠ 0 := by
  simp [generalFaults, zeroFault_eq_none_iff]

/-- **Settings pass the check exactly if they are faultless.** -/
theorem validate_eq_ok_iff {settings : Settings} :
    settings.validate = .ok () ↔ settings.Faultless := by
  have hempty : (if settings.routes.isEmpty then some (Error.missingValue "protocols") else none) =
      none ↔ settings.routes ≠ [] := by
    simp
  rw [validate, firstError_eq_ok_iff, List.forall_mem_append, generalFaults_eq_none_iff,
    tableFaults, List.forall_mem_cons, hempty, Route.faults_eq_none_iff]
  constructor
  · rintro ⟨⟨hlisten, hbuffer, htimeout, hconnect⟩, hne, -, hnodup, hroutes⟩
    exact ⟨hlisten, hbuffer, htimeout, hconnect, hne, hnodup, hroutes⟩
  · rintro ⟨hlisten, hbuffer, htimeout, hconnect, hne, hnodup, hroutes⟩
    exact ⟨⟨hlisten, hbuffer, htimeout, hconnect⟩, hne, fun _ _ => nofun, hnodup, hroutes⟩

end Settings

end Switchboard
