import Mathlib.Data.List.Forall2
import Mathlib.Tactic.SplitIfs
import Switchboard.Proofs.Binding
import Switchboard.Proofs.Failing
import Switchboard.Proofs.Validity

/-!
# When a registry can be built

The check of settings and the construction of their registry look at the protocol table by
themselves, each with its own way to the detector of a route and its own search for repeated names.
They agree.

**Resolution** (`Route.Resolves`). Which kind of detector a route asks for. The check's `kind?` and
the construction's `detectorOf` both find this kind, and no other.

**Construction.** A detector can be bound unless one of its patterns is not well formed, an entry
can be made if its detector is known and can be bound, and a registry takes any entries that differ
in their names. So a table has a registry exactly if it is sound (`Settings.TableSound`) and its
patterns are well formed (`Settings.PatternsCompile`); and then each entry is made of its route
(`Entry.Realizes`). Which texts are well-formed patterns is for the library of patterns to say.

Main result: `Settings.check_agrees`.
-/

namespace Switchboard

variable {engine : Pattern.Engine}

/-! ## Patterns -/

namespace Pattern

/-- The library takes a text for a pattern. -/
def Engine.Compiles (engine : Engine) (text : String) : Prop :=
  ∃ search, engine.compile? text = some search

def Engine.compile (engine : Engine) (text : String) : Except String Search :=
  match engine.compile? text with
  | some search => .ok search
  | none => .error text

theorem Engine.exists_compile_iff {text : String} :
    (∃ search, engine.compile text = .ok search) ↔ engine.Compiles text := by
  unfold compile Compiles
  cases engine.compile? text <;> simp

theorem Engine.compile_eq_error {text other : String} (h : engine.compile text = .error other) :
    other = text ∧ ¬ engine.Compiles text := by
  rw [← exists_compile_iff, h]
  unfold compile at h
  cases hcompile : engine.compile? text <;> rw [hcompile] at h <;> cases h
  exact ⟨rfl, by simp⟩

theorem Set.ofTexts_eq (engine : Engine) (texts : List String) :
    ofTexts engine texts = (texts.mapM engine.compile).map mk := by
  show (do let searches ← texts.mapM engine.compile; return (⟨searches⟩ : Set)) = _
  cases texts.mapM engine.compile <;> rfl

theorem Set.exists_ofTexts_iff {texts : List String} :
    (∃ set, ofTexts engine texts = .ok set) ↔ ∀ text ∈ texts, engine.Compiles text := by
  simp only [← Engine.exists_compile_iff, ← exists_mapM_ok_iff, ofTexts_eq, exists_map_ok_iff]

theorem Set.ofTexts_eq_error {texts : List String} {text : String}
    (h : ofTexts engine texts = .error text) : text ∈ texts ∧ ¬ engine.Compiles text := by
  rw [ofTexts_eq, map_eq_error_iff] at h
  obtain ⟨text', hmem, hcompile⟩ := exists_mem_of_mapM_error h
  obtain ⟨rfl, hnot⟩ := Engine.compile_eq_error hcompile
  exact ⟨hmem, hnot⟩

end Pattern

/-! ## Resolution -/

namespace Route

variable {route : Route} {kind : Kind}

/-- The kind of detector that a route asks for: the one with the name of the route, or the one that
is chosen in its place. -/
inductive Resolves (route : Route) (kind : Kind) : Prop
  | byName : route.probe = none ∨ route.probe = some builtinProbe →
      Kind.ofName? route.name = some kind → Resolves route kind
  | byProbe {probe : String} : route.probe = some probe → probe ≠ noProbe → probe ≠ builtinProbe →
      Kind.ofName? probe = some kind → Resolves route kind

def Known (route : Route) : Prop := route.probe = some noProbe ∨ ∃ kind, route.Resolves kind

/-- The patterns of a route that asks for a pattern detector are well formed. -/
def PatternsCompile (engine : Pattern.Engine) (route : Route) : Prop :=
  route.Resolves .pattern → ∀ text ∈ route.patterns, engine.Compiles text

def detectorData (route : Route) : DetectorData := ⟨route.hosts, route.protocols, route.patterns⟩

theorem probeName_eq_none_iff : route.probeName = none ↔ route.probe = some noProbe := by
  unfold probeName
  cases route.probe with
  | none => simp
  | some probe => by_cases hno : probe = noProbe <;> by_cases hbuiltin : probe = builtinProbe <;>
      simp [hno, hbuiltin]

theorem kind?_eq_some_iff : route.kind? = some kind ↔ route.Resolves kind := by
  -- The two reserved words differ, so a probe of `builtin` is not one of `none`.
  have hdiffer : builtinProbe ≠ noProbe := by decide
  rw [kind?, probeName]
  constructor
  · intro h
    cases hprobe : route.probe with
    | none =>
      rw [hprobe] at h
      exact .byName (.inl hprobe) h
    | some probe =>
      simp only [hprobe] at h
      split_ifs at h with hno hbuiltin
      · cases h
      · exact .byName (.inr (hbuiltin ▸ hprobe)) h
      · exact .byProbe hprobe hno hbuiltin h
  · intro h
    cases h with
    | byName hprobe hkind =>
      rcases hprobe with hprobe | hprobe
      · rw [hprobe]
        exact hkind
      · simp only [hprobe, if_neg hdiffer, if_pos]
        exact hkind
    | byProbe hprobe hno hbuiltin hkind =>
      simp only [hprobe, if_neg hno, if_neg hbuiltin]
      exact hkind

theorem kind?_of_noProbe (h : route.probe = some noProbe) : route.kind? = none := by
  rw [kind?, probeName_eq_none_iff.2 h, Option.bind_none]

theorem Resolves.probe_ne (h : route.Resolves kind) : route.probe ≠ some noProbe := by
  intro hprobe
  rw [← kind?_eq_some_iff, kind?_of_noProbe hprobe] at h
  cases h

/-- A route asks for one kind of detector at most. -/
theorem Resolves.unique {other : Kind} (h : route.Resolves kind) (hother : route.Resolves other) :
    kind = other := by
  rw [← kind?_eq_some_iff] at h hother
  exact Option.some.inj (h.symm.trans hother)

theorem kind?_eq_ofName? (h : route.probe ≠ some noProbe) :
    route.kind? = Kind.ofName? (Entry.detectorName route) := by
  rw [kind?, probeName, Entry.detectorName]
  cases hprobe : route.probe with
  | none => rfl
  | some probe =>
    have hno : probe ≠ noProbe := fun heq => h (heq ▸ hprobe)
    simp only [if_neg hno]
    split_ifs <;> rfl

end Route

/-! ## Detectors and entries -/

namespace Detector

variable {kind : Kind} {data : DetectorData}

theorem exists_bind_iff :
    (∃ detector, bind engine kind data = .ok detector) ↔
      (kind = .pattern → ∀ text ∈ data.patterns, engine.Compiles text) := by
  cases kind
  case pattern =>
    simp only [bind, exists_map_ok_iff, Pattern.Set.exists_ofTexts_iff, true_implies]
  all_goals simp [bind]

theorem bind_eq_error {text : String} (h : bind engine kind data = .error text) :
    kind = .pattern ∧ text ∈ data.patterns ∧ ¬ engine.Compiles text := by
  cases kind
  case pattern =>
    rw [bind, map_eq_error_iff] at h
    exact ⟨rfl, Pattern.Set.ofTexts_eq_error h⟩
  all_goals cases h

end Detector

namespace Entry

variable {route : Route} {entry : Entry} {kind : Kind}

/-- An entry is made of a route. -/
structure Realizes (engine : Pattern.Engine) (route : Route) (entry : Entry) : Prop where
  name : entry.name = route.name
  minLength : entry.minLength = route.minLength
  logLevel : entry.logLevel = route.logLevel
  /-- There is a detector if the route is probed, and it is of the kind that the check found. -/
  kind : entry.detector.map Detector.kind = route.kind?
  /-- The detector has the route's data. -/
  data : ∀ detector, entry.detector = some detector →
    Detector.bind engine detector.kind route.detectorData = .ok detector
  /-- There is a backend if the route has both a host and a port, and it is made of these. -/
  backend : ∀ backend, entry.backend = some backend ↔
    route.host = some backend.host ∧ route.port = some backend.port

theorem backendOf_eq_some_iff {backend : Backend} :
    backendOf route = some backend ↔
      route.host = some backend.host ∧ route.port = some backend.port := by
  obtain ⟨host, port⟩ := backend
  unfold backendOf
  cases route.host <;> cases route.port <;> simp

theorem detectorOf_of_noProbe (h : route.probe = some Route.noProbe) :
    detectorOf engine route = .ok none :=
  if_pos h

theorem detectorOf_of_resolves (h : route.Resolves kind) :
    detectorOf engine route = (bindDetector engine kind route.detectorData).map some := by
  have hname := Route.kind?_eq_some_iff.2 h
  rw [Route.kind?_eq_ofName? h.probe_ne] at hname
  simp only [detectorOf, if_neg h.probe_ne, hname]
  rfl

theorem known_of_detectorOf {detector : Option Detector}
    (h : detectorOf engine route = .ok detector) : route.Known := by
  by_cases hprobe : route.probe = some Route.noProbe
  · exact .inl hprobe
  · simp only [detectorOf, if_neg hprobe, ← Route.kind?_eq_ofName? hprobe] at h
    cases hkind : route.kind? with
    | none =>
      rw [hkind] at h
      cases h
    | some kind => exact .inr ⟨kind, Route.kind?_eq_some_iff.1 hkind⟩

theorem bindDetector_eq_ok_iff {data : DetectorData} {detector : Detector} :
    bindDetector engine kind data = .ok detector ↔
      Detector.bind engine kind data = .ok detector := by
  unfold bindDetector
  cases Detector.bind engine kind data <;> simp [Except.mapError]

theorem bindDetector_eq_error {data : DetectorData} {error : Settings.Error}
    (h : bindDetector engine kind data = .error error) :
    ∃ text, Detector.bind engine kind data = .error text ∧ error = badPattern text := by
  unfold bindDetector at h
  cases hbind : Detector.bind engine kind data <;> rw [hbind] at h <;> cases h
  exact ⟨_, rfl, rfl⟩

theorem detectorOf_eq_ok_iff {detector : Option Detector} :
    detectorOf engine route = .ok detector ↔
      (route.probe = some Route.noProbe ∧ detector = none) ∨
        ∃ kind bound, route.Resolves kind ∧
          Detector.bind engine kind route.detectorData = .ok bound ∧ detector = some bound := by
  constructor
  · intro h
    rcases known_of_detectorOf h with hprobe | ⟨kind, hkind⟩
    · rw [detectorOf_of_noProbe hprobe] at h
      cases h
      exact .inl ⟨hprobe, rfl⟩
    · rw [detectorOf_of_resolves hkind, map_eq_ok_iff] at h
      obtain ⟨bound, hbind, rfl⟩ := h
      exact .inr ⟨kind, bound, hkind, bindDetector_eq_ok_iff.1 hbind, rfl⟩
  · rintro (⟨hprobe, rfl⟩ | ⟨kind, bound, hkind, hbind, rfl⟩)
    · exact detectorOf_of_noProbe hprobe
    · rw [detectorOf_of_resolves hkind, bindDetector_eq_ok_iff.2 hbind]
      rfl

theorem exists_ofRoute_iff :
    (∃ entry, ofRoute engine route = .ok entry) ↔
      route.Known ∧ route.PatternsCompile engine := by
  rw [ofRoute, exists_map_ok_iff]
  constructor
  · rintro ⟨detector, h⟩
    refine ⟨known_of_detectorOf h, fun hpattern => ?_⟩
    rcases detectorOf_eq_ok_iff.1 h with ⟨hprobe, -⟩ | ⟨kind, bound, hkind, hbind, -⟩
    · exact absurd hprobe hpattern.probe_ne
    · exact Detector.exists_bind_iff.1 ⟨bound, hbind⟩ (hkind.unique hpattern)
  · rintro ⟨hprobe | ⟨kind, hkind⟩, hpatterns⟩
    · exact ⟨none, detectorOf_of_noProbe hprobe⟩
    · have hbinds : ∃ bound, Detector.bind engine kind route.detectorData = .ok bound :=
        Detector.exists_bind_iff.2 fun hpattern => hpatterns (hpattern ▸ hkind)
      obtain ⟨bound, hbind⟩ := hbinds
      exact ⟨some bound, detectorOf_eq_ok_iff.2 (.inr ⟨kind, bound, hkind, hbind, rfl⟩)⟩

/-- Where the detector is known, only a pattern keeps the entry from being made. -/
theorem ofRoute_eq_error {error : Settings.Error} (hknown : route.Known)
    (h : ofRoute engine route = .error error) :
    route.Resolves .pattern ∧
      ∃ text ∈ route.patterns, ¬ engine.Compiles text ∧ error = badPattern text := by
  rw [ofRoute, map_eq_error_iff] at h
  rcases hknown with hprobe | ⟨kind, hkind⟩
  · rw [detectorOf_of_noProbe hprobe] at h
    cases h
  · rw [detectorOf_of_resolves hkind, map_eq_error_iff] at h
    obtain ⟨text, hbind, rfl⟩ := bindDetector_eq_error h
    obtain ⟨rfl, hmem, hnot⟩ := Detector.bind_eq_error hbind
    exact ⟨hkind, text, hmem, hnot, rfl⟩

theorem realizes_of_ofRoute (h : ofRoute engine route = .ok entry) :
    Realizes engine route entry := by
  rw [ofRoute, map_eq_ok_iff] at h
  obtain ⟨detector, hdetector, rfl⟩ := h
  refine ⟨rfl, rfl, rfl, ?_, ?_, fun _ => backendOf_eq_some_iff⟩
  · rcases detectorOf_eq_ok_iff.1 hdetector with ⟨hprobe, rfl⟩ | ⟨kind, bound, hkind, hbind, rfl⟩
    · exact (Route.kind?_of_noProbe hprobe).symm
    · rw [Route.kind?_eq_some_iff.2 hkind, ← Detector.kind_of_bind hbind]
      rfl
  · rintro bound rfl
    rcases detectorOf_eq_ok_iff.1 hdetector with ⟨-, hnone⟩ | ⟨kind, other, -, hbind, hsome⟩
    · cases hnone
    · cases hsome
      rw [Detector.kind_of_bind hbind]
      exact hbind

end Entry

/-! ## Registries -/

namespace Registry

variable {settings : Settings} {registry : Registry}

theorem ofEntries_eq_ok_iff {entries : List Entry} :
    ofEntries entries = .ok registry ↔ registry.entries = entries := by
  unfold ofEntries
  constructor
  · intro h
    split_ifs at h with hnil
    split at h
    · cases h
    · cases h
      rfl
  · rintro rfl
    rw [dif_neg registry.ne_nil]
    split
    · rename_i name hrepeated
      rw [firstRepeated_eq_none_iff.2 ⟨registry.nodup, fun _ _ => List.not_mem_nil⟩] at hrepeated
      cases hrepeated
    · rfl

theorem ofSettings_eq_ok_iff :
    ofSettings engine settings = .ok registry ↔
      List.Forall₂ (fun route entry => Entry.ofRoute engine route = .ok entry) settings.routes
        registry.entries := by
  rw [← mapM_eq_ok_iff, ofSettings, Entry.ofRoutes]
  cases settings.routes.mapM (Entry.ofRoute engine) with
  | error e => exact iff_of_false nofun nofun
  | ok entries =>
    rw [Except.ok.injEq]
    exact ofEntries_eq_ok_iff.trans eq_comm

end Registry

namespace Settings

variable {settings : Settings} {registry : Registry}

/-- A table from which a registry can be made, but for patterns that are not well formed. -/
structure TableSound (settings : Settings) : Prop where
  ne_nil : settings.routes ≠ []
  nodup : (settings.routes.map Route.name).Nodup
  known : ∀ route ∈ settings.routes, route.Known

/-- The patterns of the table are well formed. -/
def PatternsCompile (engine : Pattern.Engine) (settings : Settings) : Prop :=
  ∀ route ∈ settings.routes, route.PatternsCompile engine

theorem realizes_of_ofSettings (h : Registry.ofSettings engine settings = .ok registry) :
    List.Forall₂ (Entry.Realizes engine) settings.routes registry.entries :=
  (Registry.ofSettings_eq_ok_iff.1 h).imp fun _ _ => Entry.realizes_of_ofRoute

theorem map_name_of_ofRoutes {routes : List Route} {entries : List Entry}
    (h : List.Forall₂ (fun route entry => Entry.ofRoute engine route = .ok entry) routes entries) :
    entries.map Entry.name = routes.map Route.name := by
  induction h with
  | nil => rfl
  | cons hentry _ ih =>
    rw [List.map_cons, List.map_cons, ih, (Entry.realizes_of_ofRoute hentry).name]

theorem exists_ofSettings_iff :
    (∃ registry, Registry.ofSettings engine settings = .ok registry) ↔
      settings.TableSound ∧ settings.PatternsCompile engine := by
  simp only [Registry.ofSettings_eq_ok_iff]
  constructor
  · rintro ⟨registry, h⟩
    have hall : ∀ route ∈ settings.routes, route.Known ∧ route.PatternsCompile engine := by
      intro route hmem
      exact Entry.exists_ofRoute_iff.1 (exists_mapM_ok_iff.1 ⟨_, mapM_eq_ok_iff.2 h⟩ route hmem)
    refine ⟨⟨?_, ?_, fun route hmem => (hall route hmem).1⟩, fun route hmem => (hall route hmem).2⟩
    · intro hnil
      rw [hnil, List.forall₂_nil_left_iff] at h
      exact registry.ne_nil h
    · rw [← map_name_of_ofRoutes h]
      exact registry.nodup
  · rintro ⟨⟨hne, hnodup, hknown⟩, hpatterns⟩
    obtain ⟨entries, hentries⟩ := exists_mapM_ok_iff.2 fun route hmem =>
      Entry.exists_ofRoute_iff.2 ⟨hknown route hmem, hpatterns route hmem⟩
    have hall := mapM_eq_ok_iff.1 hentries
    -- One entry per route: the registry is as long as the table and bears its names.
    have hnil : entries ≠ [] := by
      rintro rfl
      exact hne (List.forall₂_nil_right_iff.1 hall)
    exact ⟨⟨entries, hnil, map_name_of_ofRoutes hall ▸ hnodup⟩, hall⟩

/-- A registry of a sound table can fail for its patterns only. -/
theorem ofSettings_eq_error {error : Error} (h : settings.TableSound)
    (hfails : Registry.ofSettings engine settings = .error error) :
    ∃ route ∈ settings.routes, route.Resolves .pattern ∧
      ∃ text ∈ route.patterns, ¬ engine.Compiles text ∧ error = Entry.badPattern text := by
  cases hentries : Entry.ofRoutes engine settings.routes with
  | ok entries =>
    have hall := mapM_eq_ok_iff.1 hentries
    have hnil : entries ≠ [] := by
      rintro rfl
      exact h.ne_nil (List.forall₂_nil_right_iff.1 hall)
    have hregistry : Registry.ofSettings engine settings =
        .ok ⟨entries, hnil, map_name_of_ofRoutes hall ▸ h.nodup⟩ :=
      Registry.ofSettings_eq_ok_iff.2 hall
    rw [hregistry] at hfails
    cases hfails
  | error other =>
    rw [Registry.ofSettings, hentries] at hfails
    cases hfails
    obtain ⟨route, hmem, hroute⟩ := exists_mem_of_mapM_error hentries
    exact ⟨route, hmem, Entry.ofRoute_eq_error (h.known route hmem) hroute⟩

theorem Faultless.tableSound (h : settings.Faultless) : settings.TableSound where
  ne_nil := h.ne_nil
  nodup := h.nodup
  known := by
    intro route hmem
    rcases (h.routes route hmem).probe.known with hnone | ⟨kind, hkind⟩
    · exact .inl (Route.probeName_eq_none_iff.1 hnone)
    · exact .inr ⟨kind, Route.kind?_eq_some_iff.1 hkind⟩

/-! ## The check and the construction -/

/-- The check of the settings agrees with the construction of their registry, whatever the library
of patterns takes for a pattern. -/
structure CheckAgrees (engine : Pattern.Engine) (settings : Settings) : Prop where
  /-- What the construction demands, whether or not the settings pass the check. -/
  built : (∃ registry, Registry.ofSettings engine settings = .ok registry) ↔
    settings.TableSound ∧ settings.PatternsCompile engine
  /-- What the construction makes: entries like the routes, as many and in the same order. -/
  realizes : ∀ registry, Registry.ofSettings engine settings = .ok registry →
    List.Forall₂ (Entry.Realizes engine) settings.routes registry.entries
  /-- Settings that pass the check leave nothing to demand but that patterns are well formed. -/
  sound : settings.validate = .ok () → settings.TableSound
  /-- So the construction can fail for a pattern only. -/
  failure : settings.validate = .ok () → ∀ error,
    Registry.ofSettings engine settings = .error error →
    ∃ route ∈ settings.routes, route.Resolves .pattern ∧
      ∃ text ∈ route.patterns, ¬ engine.Compiles text ∧ error = Entry.badPattern text
  /-- Every entry has the backend of its route. -/
  backends : settings.validate = .ok () → ∀ registry,
    Registry.ofSettings engine settings = .ok registry → List.Forall₂
      (fun route entry => ∃ host port, route.host = some host ∧ route.port = some port ∧
        entry.backend = some ⟨host, port⟩)
      settings.routes registry.entries
  /-- Whatever happens to a connection, it is not bound to an entry without a backend. -/
  bound : settings.validate = .ok () → ∀ d, Dispatcher.ofSettings engine settings = .ok d →
    ∀ (chunkSize : Nat) (source : Source) (moves : List Move) (entry : Entry),
      (Probing.run d chunkSize (.start source) moves).conn.bound = some entry →
      entry ∈ d.registry.entries ∧ ∃ backend, entry.backend = some backend

theorem Faultless.backends (h : settings.Faultless)
    (hregistry : Registry.ofSettings engine settings = .ok registry) :
    List.Forall₂
      (fun route entry => ∃ host port, route.host = some host ∧ route.port = some port ∧
        entry.backend = some ⟨host, port⟩)
      settings.routes registry.entries := by
  have hroutes : ∀ route ∈ settings.routes, ∃ host port, route.host = some host ∧
      route.port = some port := fun route hmem => (h.routes route hmem).backend
  refine List.Forall₂.imp ?_
    ((List.forall₂_and_left _ _).2 ⟨hroutes, realizes_of_ofSettings hregistry⟩)
  rintro route entry ⟨⟨host, port, hhost, hport⟩, hrealizes⟩
  exact ⟨host, port, hhost, hport, (hrealizes.backend ⟨host, port⟩).2 ⟨hhost, hport⟩⟩

theorem Faultless.exists_backend {entry : Entry} (h : settings.Faultless)
    (hregistry : Registry.ofSettings engine settings = .ok registry)
    (hmem : entry ∈ registry.entries) :
    ∃ backend, entry.backend = some backend := by
  obtain ⟨route, -, host, port, -, -, hbackend⟩ := exists_of_forall₂ (h.backends hregistry) hmem
  exact ⟨_, hbackend⟩

theorem registry_of_ofSettings {d : Dispatcher}
    (h : Dispatcher.ofSettings engine settings = .ok d) :
    Registry.ofSettings engine settings = .ok d.registry := by
  rw [Dispatcher.ofSettings, map_eq_ok_iff] at h
  obtain ⟨registry, hregistry, rfl⟩ := h
  exact hregistry

/-- Settings that pass the check have a dispatcher, if their patterns are well formed. -/
theorem Faultless.exists_dispatcher (h : settings.Faultless)
    (hpatterns : settings.PatternsCompile engine) :
    ∃ d, Dispatcher.ofSettings engine settings = .ok d := by
  obtain ⟨registry, hregistry⟩ := exists_ofSettings_iff.2 ⟨h.tableSound, hpatterns⟩
  rw [Dispatcher.ofSettings, hregistry]
  exact ⟨_, rfl⟩

/-- **The check and the construction agree.** -/
theorem check_agrees (engine : Pattern.Engine) (settings : Settings) :
    settings.CheckAgrees engine where
  built := exists_ofSettings_iff
  realizes _ := realizes_of_ofSettings
  sound h := (validate_eq_ok_iff.1 h).tableSound
  failure h _ := ofSettings_eq_error (validate_eq_ok_iff.1 h).tableSound
  backends h _ := (validate_eq_ok_iff.1 h).backends
  bound := by
    intro h d hd chunkSize source moves entry hbound
    have hmem := Probing.mem_of_bound_run rfl hbound
    exact ⟨hmem, (validate_eq_ok_iff.1 h).exists_backend (registry_of_ofSettings hd) hmem⟩

/-- A library for which letters, digits and dashes stand for themselves, and nothing else is a
pattern. -/
def wordEngine : Pattern.Engine where
  compile? text :=
    if text.toList.all fun c => c.isAlphanum || c == '-' then
      some fun data => data.includes (Utf8.encode text)
    else none

/-- Routes of each sort: named like their detector, with a detector of their own, and not probed. -/
def mixed (pattern : String) : Settings :=
  { Settings.default with
    routes := [
      { Route.named "ssh" with host := some "127.0.0.1", port := some 22 },
      { Route.named "web" with
        host := some "10.0.0.2", port := some 443, probe := some "tls", protocols := ["h2"] },
      { Route.named "git" with
        host := some "10.0.0.3", port := some 9418, probe := some "regex", minLength := some 4,
        patterns := ["git-upload-pack", pattern] },
      { Route.named "spare" with
        host := some "10.0.0.4", port := some 80, probe := some "none" },
      { Route.named "anyprot" with
        host := some "localhost", port := some 80, probe := some "builtin" }] }

/-- With a second pattern that is one, the table has a registry; with an open bracket in its place
it has none, though the settings pass the check. -/
theorem check_agrees_mixed :
    (mixed "git-receive-pack").validate = .ok () ∧
    (∃ d, Dispatcher.ofSettings wordEngine (mixed "git-receive-pack") = .ok d ∧
      d.registry.entries.map (·.detector.map Detector.kind) =
        [some .ssh, some .tls, some .pattern, none, some .always] ∧
      ∀ (chunkSize : Nat) (source : Source) (moves : List Move) (entry : Entry),
        (Probing.run d chunkSize (.start source) moves).conn.bound = some entry →
        ∃ backend, entry.backend = some backend) ∧
    (mixed "(unclosed").validate = .ok () ∧
    ¬ ∃ registry, Registry.ofSettings wordEngine (mixed "(unclosed") = .ok registry := by
  have hvalid : (mixed "git-receive-pack").validate = .ok () := rfl
  have hmixed : ∃ d, Dispatcher.ofSettings wordEngine (mixed "git-receive-pack") = .ok d ∧
      d.registry.entries.map (·.detector.map Detector.kind) =
        [some .ssh, some .tls, some .pattern, none, some .always] := ⟨_, rfl, rfl⟩
  obtain ⟨d, hd, hkinds⟩ := hmixed
  refine ⟨hvalid, ⟨d, hd, hkinds, ?_⟩, rfl, ?_⟩
  · intro chunkSize source moves entry hbound
    exact ((check_agrees wordEngine _).bound hvalid d hd chunkSize source moves entry hbound).2
  · intro hbuilt
    -- The route asks for its patterns to be looked for, and the open bracket is none.
    have hpatterns := ((check_agrees wordEngine _).built.1 hbuilt).2
    have hgit : (mixed "(unclosed").routes[2].Resolves .pattern :=
      .byProbe rfl (by decide) (by decide) rfl
    obtain ⟨search, hsearch⟩ := hpatterns _ (List.getElem_mem _) hgit "(unclosed"
      (List.mem_cons_of_mem _ List.mem_cons_self)
    cases hsearch

end Settings

end Switchboard
