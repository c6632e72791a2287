import Switchboard.Proofs.Building

/-!
# The first demand that is not met

What is demanded of settings, listed in the order in which the check comes to it, each demand with
the error that reports it (`Settings.generalDemands`, `Route.demands`). Settings pass if all is met,
and otherwise the error is that of the first demand that is not.

**Demands and checks** (`Demand.Checks`). A check finds the first of some demands that is not met.
It may look at a single one or go through several, so checks are put together as their demands are.

**The table** (`Route.SoundTable`). A route is looked at behind those before it, for its name must
not be one of theirs. Whether all routes meet their demands does not depend on their order, nor on
routes that are left out.

Main result: `Settings.validate_exact`.
-/

namespace Switchboard

open Settings (Error)

/-! ## Demands and checks -/

/-- Something that is demanded, and the error where it is not met. -/
structure Demand where
  met : Prop
  error : Error

namespace Demand

def AllMet (demands : List Demand) : Prop := ∀ demand ∈ demands, demand.met

/-- The first demand that is not met has this error. -/
def FirstUnmet (demands : List Demand) (e : Error) : Prop :=
  FirstFailure (fun demand e => ¬ demand.met ∧ e = demand.error) demands e

variable {demand : Demand} {demands more : List Demand} {e : Error}

theorem not_fails_iff : (∀ e, ¬ (¬ demand.met ∧ e = demand.error)) ↔ demand.met := by
  constructor
  · intro h
    by_contra hunmet
    exact h _ ⟨hunmet, rfl⟩
  · intro hmet e hfails
    exact hfails.1 hmet

theorem forall_not_firstUnmet_iff : (∀ e, ¬ FirstUnmet demands e) ↔ AllMet demands := by
  simp only [FirstUnmet, forall_not_firstFailure_iff, not_fails_iff, AllMet]

theorem allMet_nil : AllMet [] := List.forall_mem_nil _

theorem allMet_cons : AllMet (demand :: demands) ↔ demand.met ∧ AllMet demands :=
  List.forall_mem_cons

theorem firstUnmet_cons : FirstUnmet (demand :: demands) e ↔
    ¬ demand.met ∧ e = demand.error ∨ demand.met ∧ FirstUnmet demands e := by
  rw [FirstUnmet, firstFailure_cons, not_fails_iff]
  exact Iff.rfl

theorem firstUnmet_append : FirstUnmet (demands ++ more) e ↔
    FirstUnmet demands e ∨ AllMet demands ∧ FirstUnmet more e := by
  simp only [FirstUnmet, firstFailure_append, not_fails_iff, AllMet]

/-- A check reports the first of these demands that is not met. -/
def Checks (check : Option Error) (demands : List Demand) : Prop :=
  ∀ e, check = some e ↔ FirstUnmet demands e

theorem Checks.eq_none_iff {check : Option Error} (h : Checks check demands) :
    check = none ↔ AllMet demands := by
  rw [Option.eq_none_iff_forall_ne_some, ← forall_not_firstUnmet_iff]
  exact forall_congr' fun e => not_congr (h e)

theorem checks_nil : Checks none [] := by
  intro e
  exact iff_of_false nofun not_firstFailure_nil

theorem Checks.ite {rest : Option Error} {unmet met : Prop} {error : Error} [Decidable unmet]
    (hunmet : unmet ↔ ¬ met) (h : Checks rest demands) :
    Checks (if unmet then some error else rest) (⟨met, error⟩ :: demands) := by
  intro e
  rw [firstUnmet_cons, ← hunmet, ← h e, ← not_not (a := met), ← hunmet]
  by_cases hu : unmet
  · simp [hu, eq_comm]
  · simp [hu]

theorem checks_ite {unmet met : Prop} {error : Error} [Decidable unmet] (hunmet : unmet ↔ ¬ met) :
    Checks (if unmet then some error else none) [⟨met, error⟩] :=
  checks_nil.ite hunmet

theorem Checks.or {check rest : Option Error} (h : Checks check demands)
    (hrest : Checks rest more) : Checks (check.or rest) (demands ++ more) := by
  intro e
  rw [firstUnmet_append, ← h e, ← hrest e, ← h.eq_none_iff]
  cases check <;> simp

/-- Checks that are made one after another go through the demands of each. -/
theorem firstFailure_checks {checks : List (Option Error)} {demands : List (List Demand)}
    (h : List.Forall₂ Checks checks demands) :
    FirstFailure (fun check e => check = some e) checks e ↔ FirstUnmet demands.flatten e := by
  induction h with
  | nil => exact iff_of_false not_firstFailure_nil not_firstFailure_nil
  | cons hcheck _ ih =>
    rw [firstFailure_cons, List.flatten_cons, firstUnmet_append, ih, hcheck e,
      ← hcheck.eq_none_iff, Option.eq_none_iff_forall_ne_some]

end Demand

open Demand

/-! ## One route -/

namespace Route

variable {route : Route} {before routes : List Route}

/-- What is demanded of the detector of a route. -/
def probeDemands (route : Route) : List Demand :=
  [ ⟨route.Known, .unknownProbe route.name (route.probeName.getD route.name)⟩,
    ⟨route.hosts ≠ [] ∨ route.protocols ≠ [] → route.Resolves .tls,
      .invalidCombination (route.name ++ ": sni_hostnames and alpn_protocols need the tls probe")⟩,
    ⟨route.patterns ≠ [] → route.Resolves .pattern,
      .invalidCombination (route.name ++ ": regex_patterns need the regex probe")⟩,
    ⟨route.Resolves .pattern → route.patterns ≠ [],
      .missingValue (route.name ++ ": regex_patterns")⟩ ]

/-- What is demanded of a route behind others. -/
def demands (before : List Route) (route : Route) : List Demand :=
  ⟨route.name ≠ "", .invalidValue ("protocols[" ++ toString before.length ++ "].name")
    "Protocol name must not be empty"⟩ ::
  ⟨∀ earlier ∈ before, earlier.name ≠ route.name, duplicate route.name⟩ ::
  ⟨∃ host port, route.host = some host ∧ route.port = some port,
    .missingValue (route.name ++ ": host and port")⟩ ::
  (route.probeDemands ++
    [⟨route.minLength ≠ some 0,
      .invalidValue (route.name ++ ".min_length") "min_length must be greater than 0"⟩])

theorem known_iff : route.Known ↔ route.probeName = none ∨ ∃ kind, route.kind? = some kind := by
  simp only [Known, probeName_eq_none_iff, kind?_eq_some_iff]

theorem exists_unknown (h : ¬ route.Known) :
    ∃ probe, route.probeName = some probe ∧ route.kind? = none := by
  rw [known_iff, not_or] at h
  obtain ⟨probe, hprobe⟩ := Option.ne_none_iff_exists'.1 h.1
  refine ⟨probe, hprobe, Option.eq_none_iff_forall_ne_some.2 fun kind hkind => ?_⟩
  exact h.2 ⟨kind, hkind⟩

theorem checks_probeFault : Checks route.probeFault route.probeDemands := by
  have htls : ((!route.hosts.isEmpty || !route.protocols.isEmpty) && route.kind? ≠ some .tls) =
      true ↔ ¬ (route.hosts ≠ [] ∨ route.protocols ≠ [] → route.Resolves .tls) := by
    simp [← kind?_eq_some_iff]
  have hpattern : (!route.patterns.isEmpty && route.kind? ≠ some .pattern) = true ↔
      ¬ (route.patterns ≠ [] → route.Resolves .pattern) := by
    simp [← kind?_eq_some_iff]
  have hmissing : (route.patterns.isEmpty && route.kind? = some .pattern) = true ↔
      ¬ (route.Resolves .pattern → route.patterns ≠ []) := by
    simp [← kind?_eq_some_iff, and_comm]
  -- Only behind a detector that is known does the check come to the data.
  by_cases hknown : route.Known
  · intro e
    rw [probeFault_of_known (known_iff.1 hknown), probeDemands, firstUnmet_cons]
    simp only [hknown, not_true_eq_false, false_and, true_and, false_or]
    exact Checks.ite htls (Checks.ite hpattern (checks_ite hmissing)) e
  · obtain ⟨probe, hprobe, hkind⟩ := exists_unknown hknown
    intro e
    rw [probeDemands, firstUnmet_cons]
    simp [probeFault, hprobe, hkind, hknown, eq_comm]

/-- A route is checked for the first demand that it does not meet. -/
theorem checks_fault :
    Checks (route.fault before before.length) (route.demands before) := by
  have hname : route.name.isEmpty = true ↔ ¬ route.name ≠ "" := by simp
  have hnew : before.any (·.name = route.name) = true ↔
      ¬ ∀ earlier ∈ before, earlier.name ≠ route.name := by simp
  have hbackend : (route.host.isNone || route.port.isNone) = true ↔
      ¬ ∃ host port, route.host = some host ∧ route.port = some port := by
    cases route.host <;> cases route.port <;> simp
  have hgate : route.minLength = some 0 ↔ ¬ route.minLength ≠ some 0 := not_not.symm
  -- The fault of the detector is one of several, and the gate is looked at behind all of them.
  have hlast : Checks (route.probeFault.or (if route.minLength = some 0 then
      some (.invalidValue (route.name ++ ".min_length") "min_length must be greater than 0")
        else none)) (route.probeDemands ++ _) :=
    checks_probeFault.or (checks_ite hgate)
  unfold fault demands
  refine .ite hname (.ite hnew (.ite hbackend ?_))
  cases hprobe : route.probeFault with
  | none => rwa [hprobe, Option.none_or] at hlast
  | some error => rwa [hprobe, Option.some_or] at hlast

/-- What a route must be by itself. -/
structure Sound (route : Route) : Prop where
  name : route.name ≠ ""
  backend : ∃ host port, route.host = some host ∧ route.port = some port
  known : route.Known
  tls : route.hosts ≠ [] ∨ route.protocols ≠ [] → route.Resolves .tls
  pattern : route.patterns ≠ [] ↔ route.Resolves .pattern
  gate : route.minLength ≠ some 0

/-- What is demanded of a route is that it is sound and does not repeat a name. -/
theorem allMet_demands_iff : AllMet (route.demands before) ↔
    (∀ earlier ∈ before, earlier.name ≠ route.name) ∧ route.Sound := by
  simp only [demands, probeDemands, List.cons_append, List.nil_append, allMet_cons, allMet_nil,
    and_true]
  constructor
  · rintro ⟨hname, hnew, hbackend, hknown, htls, hpattern, hmissing, hgate⟩
    exact ⟨hnew, hname, hbackend, hknown, htls, ⟨hpattern, hmissing⟩, hgate⟩
  · rintro ⟨hnew, hname, hbackend, hknown, htls, hpattern, hgate⟩
    exact ⟨hname, hnew, hbackend, hknown, htls, hpattern.1, hpattern.2, hgate⟩

/-- The check demands the same of a route that has none before it. -/
theorem sound_iff_faultless : route.Sound ↔ route.Faultless := by
  have halone : ∀ earlier ∈ ([] : List Route), earlier.name ≠ route.name := List.forall_mem_nil _
  have hown : AllMet (route.demands []) ↔ route.Sound :=
    allMet_demands_iff.trans (and_iff_right halone)
  rw [← hown, ← checks_fault.eq_none_iff, fault_eq_none_iff, and_iff_right halone]

/-! ## The table -/

/-- The routes are sound, and no two have the same name. -/
structure SoundTable (routes : List Route) : Prop where
  nodup : (routes.map name).Nodup
  sound : ∀ route ∈ routes, route.Sound

theorem SoundTable.of_perm {others : List Route} (h : SoundTable routes)
    (hperm : others.Perm routes) : SoundTable others where
  nodup := (hperm.map name).nodup_iff.2 h.nodup
  sound route hroute := h.sound route (hperm.mem_iff.1 hroute)

theorem SoundTable.of_sublist {others : List Route} (h : SoundTable routes)
    (hsublist : others.Sublist routes) : SoundTable others where
  nodup := h.nodup.sublist (hsublist.map name)
  sound route hroute := h.sound route (hsublist.subset hroute)

theorem forall_faults_iff :
    (∀ fault ∈ faults [] routes, fault = none) ↔ SoundTable routes := by
  rw [faults_eq_none_iff]
  simp only [← sound_iff_faultless]
  constructor
  · rintro ⟨-, hnodup, hsound⟩
    exact ⟨hnodup, hsound⟩
  · intro h
    exact ⟨fun _ _ => List.forall_mem_nil _, h.nodup, h.sound⟩

/-- The first fault of a table is that of the first route that does not meet its demands, behind
those that do. -/
theorem firstFailure_faults {e : Error} :
    FirstFailure (fun fault e => fault = some e) (faults before routes) e ↔
      ∃ earlier route later, routes = earlier ++ route :: later ∧
        (∀ fault ∈ faults before earlier, fault = none) ∧
        FirstUnmet (route.demands (before ++ earlier)) e := by
  -- The first route is before all others, so `before` grows by it.
  induction routes generalizing before with
  | nil => exact iff_of_false not_firstFailure_nil (by simp)
  | cons first routes ih =>
    rw [faults, firstFailure_cons, ih, checks_fault e, ← Option.eq_none_iff_forall_ne_some]
    constructor
    · rintro (hfirst | ⟨hfirst, earlier, route, later, rfl, hearlier, hroute⟩)
      · exact ⟨[], first, routes, rfl, List.forall_mem_nil _, by rwa [List.append_nil]⟩
      · refine ⟨first :: earlier, route, later, rfl, List.forall_mem_cons.2 ⟨hfirst, hearlier⟩, ?_⟩
        rwa [List.append_cons]
    · rintro ⟨earlier, route, later, hroutes, hearlier, hroute⟩
      cases earlier with
      | nil =>
        obtain ⟨rfl, rfl⟩ := List.cons.inj hroutes
        rw [List.append_nil] at hroute
        exact .inl hroute
      | cons first' earlier =>
        obtain ⟨rfl, rfl⟩ := List.cons.inj hroutes
        obtain ⟨hfirst, hearlier⟩ := List.forall_mem_cons.1 hearlier
        rw [List.append_cons] at hroute
        exact .inr ⟨hfirst, earlier, route, later, rfl, hearlier, hroute⟩

end Route

/-! ## All settings -/

namespace Settings

variable {settings : Settings} {e : Error}

/-- What is demanded of settings but for the protocol table. -/
def generalDemands (settings : Settings) : List Demand :=
  [ ⟨settings.listen ≠ [], .missingValue "listen"⟩,
    ⟨settings.bufferSize ≠ 0, .invalidValue "buffer_size" "Buffer size must be greater than 0"⟩,
    ⟨settings.timeout ≠ 0, .invalidValue "timeout" "Probe timeout must be greater than 0"⟩,
    ⟨settings.connectTimeout ≠ 0,
      .invalidValue "connect_timeout" "Connect timeout must be greater than 0"⟩ ]

theorem firstFailure_generalFaults :
    FirstFailure (fun fault e => fault = some e) settings.generalFaults e ↔
      FirstUnmet settings.generalDemands e := by
  have hlisten : settings.listen.isEmpty = true ↔ ¬ settings.listen ≠ [] := by simp
  have hzero : ∀ name reason (value : UInt64),
      Checks (zeroFault name reason value) [⟨value ≠ 0, .invalidValue name reason⟩] :=
    fun _ _ _ => checks_ite not_not.symm
  exact firstFailure_checks (.cons (checks_ite hlisten)
    (.cons (hzero _ _ _) (.cons (hzero _ _ _) (.cons (hzero _ _ _) .nil))))

theorem forall_generalFaults_iff :
    (∀ fault ∈ settings.generalFaults, ∀ e, fault ≠ some e) ↔ AllMet settings.generalDemands := by
  rw [← forall_not_firstUnmet_iff, ← forall_not_firstFailure_iff]
  simp only [firstFailure_generalFaults]

/-- What settings must be. -/
structure Sound (settings : Settings) : Prop where
  listen : settings.listen ≠ []
  bufferSize : settings.bufferSize ≠ 0
  timeout : settings.timeout ≠ 0
  connectTimeout : settings.connectTimeout ≠ 0
  ne_nil : settings.routes ≠ []
  table : Route.SoundTable settings.routes

theorem sound_iff : settings.Sound ↔ AllMet settings.generalDemands ∧ settings.routes ≠ [] ∧
    Route.SoundTable settings.routes := by
  simp only [generalDemands, allMet_cons, allMet_nil, and_true]
  constructor
  · rintro ⟨hlisten, hbuffer, htimeout, hconnect, hne, htable⟩
    exact ⟨⟨hlisten, hbuffer, htimeout, hconnect⟩, hne, htable⟩
  · rintro ⟨⟨hlisten, hbuffer, htimeout, hconnect⟩, hne, htable⟩
    exact ⟨hlisten, hbuffer, htimeout, hconnect, hne, htable⟩

/-- Sound settings stay so with another table that is sound. -/
theorem Sound.with_routes {routes : List Route} (h : settings.Sound) (hne : routes ≠ [])
    (htable : Route.SoundTable routes) : { settings with routes := routes }.Sound :=
  ⟨h.listen, h.bufferSize, h.timeout, h.connectTimeout, hne, htable⟩

theorem validate_eq_ok_iff_sound : settings.validate = .ok () ↔ settings.Sound := by
  have hempty : (if settings.routes.isEmpty then some (Error.missingValue "protocols") else none) =
      none ↔ settings.routes ≠ [] := by
    simp
  rw [validate, firstError_eq_ok_iff, List.forall_mem_append, tableFaults, List.forall_mem_cons,
    hempty, Route.forall_faults_iff, sound_iff, ← forall_generalFaults_iff]
  simp only [Option.eq_none_iff_forall_ne_some]

/-- An error of the check is that of the first demand that is not met: first come those of the
whole, then that there is a route at all, then those of each route behind the routes before it. -/
theorem validate_eq_error_iff : settings.validate = .error e ↔
    FirstUnmet settings.generalDemands e ∨
      AllMet settings.generalDemands ∧
        (settings.routes = [] ∧ e = .missingValue "protocols" ∨
          ∃ earlier route later, settings.routes = earlier ++ route :: later ∧
            Route.SoundTable earlier ∧ FirstUnmet (route.demands earlier) e) := by
  rw [validate, firstError_eq_error_iff, firstFailure_append, firstFailure_generalFaults,
    forall_generalFaults_iff, tableFaults, firstFailure_cons, Route.firstFailure_faults]
  simp only [Route.forall_faults_iff, List.nil_append]
  by_cases hempty : settings.routes = []
  · simp [hempty, eq_comm]
  · simp [hempty]

/-- How the check decides. -/
structure ValidateExact (settings : Settings) : Prop where
  /-- What it lets pass. -/
  passes : settings.validate = .ok () ↔ settings.Sound
  /-- The order of the routes does not matter. -/
  perm : ∀ routes : List Route, routes.Perm settings.routes →
    ({ settings with routes := routes }.validate = .ok () ↔ settings.validate = .ok ())
  /-- Routes can be left out, but not all of them. -/
  sublist : ∀ routes : List Route, routes ≠ [] → routes.Sublist settings.routes →
    settings.validate = .ok () → { settings with routes := routes }.validate = .ok ()
  /-- What it reports. The routes before the one at fault are sound and differ in their names, so a
  repeated name is reported where it comes again. -/
  reports : ∀ e, settings.validate = .error e ↔
    FirstUnmet settings.generalDemands e ∨
      AllMet settings.generalDemands ∧
        (settings.routes = [] ∧ e = .missingValue "protocols" ∨
          ∃ earlier route later, settings.routes = earlier ++ route :: later ∧
            Route.SoundTable earlier ∧ FirstUnmet (route.demands earlier) e)

/-- **The check finds the first demand that is not met.** -/
theorem validate_exact (settings : Settings) : settings.ValidateExact where
  passes := validate_eq_ok_iff_sound
  perm := by
    intro routes hperm
    have hne : routes ≠ [] ↔ settings.routes ≠ [] := by
      rw [← List.length_pos_iff, hperm.length_eq, List.length_pos_iff]
    simp only [validate_eq_ok_iff_sound]
    constructor
    · intro h
      exact h.with_routes (hne.1 h.ne_nil) (h.table.of_perm hperm.symm)
    · intro h
      exact h.with_routes (hne.2 h.ne_nil) (h.table.of_perm hperm)
  sublist := by
    intro routes hne hsublist hvalid
    rw [validate_eq_ok_iff_sound] at hvalid ⊢
    exact hvalid.with_routes hne (hvalid.table.of_sublist hsublist)
  reports _ := validate_eq_error_iff

/-- Three routes, the last of which has the name of the first. -/
def repeating : Settings :=
  { Settings.default with
    routes := [
      { Route.named "ssh" with host := some "127.0.0.1", port := some 22 },
      { Route.named "web" with
        host := some "10.0.0.2", port := some 443, probe := some "tls", protocols := ["h2"] },
      { Route.named "ssh" with host := some "127.0.0.1", port := some 2222 }] }

theorem validate_exact_repeating :
    repeating.validate = .error (Route.duplicate "ssh") ∧
      ∀ routes : List Route, routes.Perm (repeating.routes.take 2) →
        { repeating with routes := routes }.validate = .ok () := by
  have hexact := validate_exact { repeating with routes := repeating.routes.take 2 }
  have hvalid : { repeating with routes := repeating.routes.take 2 }.validate = .ok () := rfl
  have hsound := hexact.passes.1 hvalid
  refine ⟨?_, fun routes hperm => (hexact.perm routes hperm).2 hvalid⟩
  have hrepeated : ¬ ∀ earlier ∈ repeating.routes.take 2, earlier.name ≠ "ssh" := by
    simp [repeating, Route.named]
  refine ((validate_exact repeating).reports _).2 (.inr ⟨(sound_iff.1 hsound).1, .inr ?_⟩)
  refine ⟨repeating.routes.take 2, _, [], rfl, hsound.table, firstUnmet_cons.2 (.inr ⟨?_, ?_⟩)⟩
  · exact (by decide : "ssh" ≠ "")
  · exact firstUnmet_cons.2 (.inl ⟨hrepeated, rfl⟩)

end Settings

end Switchboard
