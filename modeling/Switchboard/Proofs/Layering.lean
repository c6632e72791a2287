import Mathlib.Data.List.Induction
import Switchboard.Proofs.Overriding

/-!
# Layers over layers

Settings are made of layers over the defaults, the lowest first. A layer *says* something of a
setting if its value is not the default, and of the protocol table if it has a route. What it says
covers what is below; where it says nothing, what is below shows through.

**The last word** (`IsFromLast`). Of each setting the last layer that says something has the last
word. The protocol table goes by the same law, as a whole; only what it means to say something
differs (`isFromLast_ofLayers`).

**Laws.** Layers may be put together in any grouping, the defaults are no layer at all, and a layer
over itself is the layer.

**Loading.** No file, or an environment that gives nothing but defaults, is passed over when
settings are loaded. That is the same as to lay every layer there is over the defaults, and the file
is the one that is asked for, or the usual one if there is such a file (`loads`).

Main result: `last_layer_wins`.
-/

namespace Switchboard.Settings

/-! ## The last word -/

/-- A value is that of the last layer that says something, or the default if none does. -/
def IsFromLast {α : Type} (value : Settings → α) (Says : Settings → Prop) (layers : List Settings)
    (result : α) : Prop :=
  (∃ before layer after, layers = before ++ layer :: after ∧ Says layer ∧
    (∀ later ∈ after, ¬ Says later) ∧ result = value layer) ∨
  (∀ layer ∈ layers, ¬ Says layer) ∧ result = value default

/-- The last layer lies over all the others. -/
theorem ofLayers_concat (layers : List Settings) (layer : Settings) :
    ofLayers (layers ++ [layer]) = (ofLayers layers).overlay layer := by
  rw [ofLayers, List.foldl_append]
  rfl

/-- **Where each layer covers or shows through, the last that says something has the last word.** -/
theorem isFromLast_ofLayers {α : Type} {value : Settings → α} {Says : Settings → Prop}
    (hcovers : ∀ lower upper : Settings, Says upper → value (lower.overlay upper) = value upper)
    (hshows : ∀ lower upper : Settings, ¬ Says upper → value (lower.overlay upper) = value lower)
    (layers : List Settings) : IsFromLast value Says layers (value (ofLayers layers)) := by
  -- By induction from the last layer, since that is the one that wins.
  induction layers using List.reverseRecOn with
  | nil => exact .inr ⟨List.forall_mem_nil _, rfl⟩
  | append_singleton layers layer ih =>
    rw [ofLayers_concat]
    by_cases hsays : Says layer
    · rw [hcovers _ _ hsays]
      exact .inl ⟨layers, layer, [], rfl, hsays, List.forall_mem_nil _, rfl⟩
    · rw [hshows _ _ hsays]
      have hsilent : ∀ {others : List Settings}, (∀ other ∈ others, ¬ Says other) →
          ∀ other ∈ others ++ [layer], ¬ Says other := by
        intro others hothers other hother
        rcases List.mem_append.1 hother with hmem | hmem
        · exact hothers other hmem
        · exact List.mem_singleton.1 hmem ▸ hsays
      rcases ih with ⟨before, spoken, after, rfl, hspoken, hafter, hresult⟩ | ⟨hnone, hresult⟩
      · exact .inl ⟨before, spoken, after ++ [layer], List.append_assoc _ _ _, hspoken,
          hsilent hafter, hresult⟩
      · exact .inr ⟨hsilent hnone, hresult⟩

theorem get_isFromLast (layers : List Settings) (s : Setting) :
    IsFromLast (·.get s) (fun layer => layer.get s ≠ default.get s) layers
      ((ofLayers layers).get s) := by
  have hcovers : ∀ lower upper : Settings, upper.get s ≠ default.get s →
      (lower.overlay upper).get s = upper.get s := by
    intro lower upper hsays
    rw [get_overlay, cover, if_neg hsays]
  have hshows : ∀ lower upper : Settings, ¬ upper.get s ≠ default.get s →
      (lower.overlay upper).get s = lower.get s := by
    intro lower upper hsilent
    rw [get_overlay, cover, if_pos (not_not.1 hsilent)]
  exact isFromLast_ofLayers hcovers hshows layers

theorem routes_isFromLast (layers : List Settings) :
    IsFromLast routes (fun layer => layer.routes ≠ []) layers (ofLayers layers).routes := by
  have hcovers : ∀ lower upper : Settings, upper.routes ≠ [] →
      (lower.overlay upper).routes = upper.routes := fun _ _ hsays =>
    if_neg (mt List.isEmpty_iff.1 hsays)
  have hshows : ∀ lower upper : Settings, ¬ upper.routes ≠ [] →
      (lower.overlay upper).routes = lower.routes := fun _ _ hsilent =>
    if_pos (List.isEmpty_iff.2 (not_not.1 hsilent))
  exact isFromLast_ofLayers hcovers hshows layers

/-! ## Laws -/

theorem cover_assoc {α : Type} [DecidableEq α] (default a b c : α) :
    cover default (cover default a b) c = cover default a (cover default b c) := by
  unfold cover
  by_cases hc : c = default
  · rw [if_pos hc, if_pos hc]
  · rw [if_neg hc, if_neg hc, if_neg hc]

theorem overlay_assoc (a b c : Settings) :
    (a.overlay b).overlay c = a.overlay (b.overlay c) := by
  cases hc : c.routes with
  | nil => simp only [overlay, cover_assoc, hc, List.isEmpty_nil, if_true]
  | cons route routes => simp only [overlay, cover_assoc, hc, List.isEmpty_cons, Bool.false_eq_true,
      if_false]

theorem overlay_self (a : Settings) : a.overlay a = a := by
  simp only [overlay, cover, ite_self]

/-! ## Loading -/

section Loading

variable {parse : String → Option Json} {files : Files} {env : Environment} {asked : Option String}
  {path : String} {given : Except Error Settings}

/-- The file to load: the one that is asked for, or the usual one if its path leads anywhere. -/
inductive IsSettingsFile (files : Files) : Option String → String → Prop
  | asked {path : String} : IsSettingsFile files (some path) path
  | usual {entry : FileEntry} : files "portmux.json" = some entry →
      IsSettingsFile files none "portmux.json"

/-- What a settings file gives: settings, or what is wrong with it. -/
inductive FileGives (parse : String → Option Json) (files : Files) (path : String) :
    Except Error Settings → Prop
  | noFile : (∀ content, files path ≠ some (.file content)) →
      FileGives parse files path (.error (.fileNotFound path))
  | noText {content : Bytes} : files path = some (.file content) → Utf8.decode? content = none →
      FileGives parse files path (.error (.fileUnreadable path none))
  | noSettings {content : Bytes} {text : String} : files path = some (.file content) →
      Utf8.decode? content = some text →
      (∀ document settings, parse text = some document → ofJson? document ≠ some settings) →
      FileGives parse files path (.error (.malformed path))
  | settings {content : Bytes} {text : String} {document : Json} {layer : Settings} :
      files path = some (.file content) → Utf8.decode? content = some text →
      parse text = some document → ofJson? document = some layer →
      FileGives parse files path (.ok layer)

theorem fileGives_ofFile (parse : String → Option Json) (files : Files) (path : String) :
    FileGives parse files path (ofFile parse files path) := by
  rw [ofFile]
  split
  next content hfile =>
    split
    next htext => exact .noText hfile htext
    next text htext =>
      cases hread : (parse text).bind ofJson? with
      | none =>
        refine .noSettings hfile htext fun document settings hdocument hsettings => ?_
        rw [hdocument, Option.bind_some, hsettings] at hread
        cases hread
      | some layer =>
        obtain ⟨document, hdocument, hlayer⟩ := Option.bind_eq_some_iff.1 hread
        exact .settings hfile htext hdocument hlayer
  next hother => exact .noFile hother

theorem FileGives.eq_ofFile (h : FileGives parse files path given) :
    given = ofFile parse files path := by
  cases h with
  | noFile hother =>
    rw [ofFile]
    split
    next content hfile => exact absurd hfile (hother content)
    next => rfl
  | noText hfile htext => simp only [ofFile, hfile, htext]
  | @noSettings content text hfile htext hnone =>
    have hread : (parse text).bind ofJson? = none :=
      Option.bind_eq_none_iff.2 fun document hdocument =>
        Option.eq_none_iff_forall_ne_some.2 fun settings => hnone document settings hdocument
    simp only [ofFile, hfile, htext, hread]
  | settings hfile htext hdocument hlayer =>
    simp only [ofFile, hfile, htext, hdocument, Option.bind_some, hlayer]

theorem filePath_eq_some_iff :
    filePath files asked = some path ↔ IsSettingsFile files asked path := by
  cases asked with
  | some other =>
    constructor
    · rintro ⟨⟩
      exact .asked
    · rintro ⟨⟩
      rfl
  | none =>
    rw [filePath]
    constructor
    · intro h
      split_ifs at h with husual
      obtain ⟨entry, hentry⟩ := Option.isSome_iff_exists.1 husual
      cases h
      exact .usual hentry
    · rintro (- | hentry)
      exact if_pos (Option.isSome_iff_exists.2 ⟨_, hentry⟩)

/-- How settings are loaded. -/
structure Loads (parse : String → Option Json) (files : Files) (env : Environment)
    (asked : Option String) : Prop where
  /-- If there is a file to load, it and the environment are laid over the defaults. -/
  file : ∀ path, IsSettingsFile files asked path →
    ∃ given, FileGives parse files path given ∧
      load parse files env asked = do
        let file ← given
        let environment ← ofEnvironment env
        return (default.overlay file).overlay environment
  /-- If there is none, the environment alone is. -/
  noFile : (∀ path, ¬ IsSettingsFile files asked path) →
    load parse files env asked = (ofEnvironment env).map default.overlay
  /-- The error is that of the file, or else that of the environment. -/
  error : ∀ error, load parse files env asked = .error error ↔
    (∃ path, IsSettingsFile files asked path ∧ FileGives parse files path (.error error)) ∨
      (∀ path first, IsSettingsFile files asked path →
        ¬ FileGives parse files path (.error first)) ∧
      ofEnvironment env = .error error

theorem load_of_file (env : Environment) (h : IsSettingsFile files asked path) :
    load parse files env asked = do
      let file ← ofFile parse files path
      let environment ← ofEnvironment env
      return (default.overlay file).overlay environment := by
  rw [load_eq_ofLayers, fileLayer, filePath_eq_some_iff.2 h]
  rfl

theorem load_of_noFile (parse : String → Option Json) (env : Environment)
    (h : ∀ path, ¬ IsSettingsFile files asked path) :
    load parse files env asked = (ofEnvironment env).map default.overlay := by
  have hnone : filePath files asked = none :=
    Option.eq_none_iff_forall_ne_some.2 fun path => mt filePath_eq_some_iff.1 (h path)
  rw [load_eq_ofLayers, fileLayer, hnone]
  cases ofEnvironment env with
  | error _ => rfl
  | ok environment =>
    show Except.ok ((default.overlay default).overlay environment) = _
    rw [overlay_default]
    rfl

theorem fileLayer_eq_error_iff {error : Error} : fileLayer parse files asked = .error error ↔
    ∃ path, IsSettingsFile files asked path ∧ FileGives parse files path (.error error) := by
  rw [fileLayer]
  cases hpath : filePath files asked with
  | none =>
    constructor
    · rintro ⟨⟩
    · rintro ⟨path, hfile, -⟩
      cases hpath.symm.trans (filePath_eq_some_iff.2 hfile)
  | some path =>
    constructor
    · intro h
      exact ⟨path, filePath_eq_some_iff.1 hpath, h ▸ fileGives_ofFile parse files path⟩
    · rintro ⟨other, hfile, hgives⟩
      cases hpath.symm.trans (filePath_eq_some_iff.2 hfile)
      exact hgives.eq_ofFile.symm

theorem load_eq_error_iff {error : Error} : load parse files env asked = .error error ↔
    fileLayer parse files asked = .error error ∨
      (∀ first, fileLayer parse files asked ≠ .error first) ∧ ofEnvironment env = .error error := by
  rw [load_eq_ofLayers]
  cases fileLayer parse files asked with
  | error first => simp [bind, Except.bind]
  | ok file =>
    cases ofEnvironment env with
    | error second => simp [bind, Except.bind]
    | ok environment => simp [bind, Except.bind, pure, Except.pure]

/-- **Loading lays the file, if there is one, and the environment over the defaults.** -/
theorem loads (parse : String → Option Json) (files : Files) (env : Environment)
    (asked : Option String) : Loads parse files env asked where
  file path hpath := ⟨_, fileGives_ofFile parse files path, load_of_file env hpath⟩
  noFile := load_of_noFile parse env
  error error := by
    have hfile : (∀ first, fileLayer parse files asked ≠ .error first) ↔
        ∀ path first, IsSettingsFile files asked path →
          ¬ FileGives parse files path (.error first) := by
      simp only [ne_eq, fileLayer_eq_error_iff, not_exists, not_and]
      exact forall_comm
    rw [load_eq_error_iff, fileLayer_eq_error_iff, hfile]

end Loading

/-- **The last layer that says something wins.** Of each setting, and of the protocol table as a
whole, the last layer that says something has the last word. So layers may be grouped in any way,
the defaults are no layer, and a layer over itself is the layer. Loading lays the file, if there is
one, and the environment over the defaults, and fails with the error of the first of the two that
fails. -/
theorem last_layer_wins :
    (∀ (layers : List Settings) (s : Setting),
      IsFromLast (·.get s) (fun layer => layer.get s ≠ default.get s) layers
        ((ofLayers layers).get s)) ∧
    (∀ layers : List Settings,
      IsFromLast routes (fun layer => layer.routes ≠ []) layers (ofLayers layers).routes) ∧
    (∀ a b c : Settings, (a.overlay b).overlay c = a.overlay (b.overlay c)) ∧
    (∀ a : Settings, default.overlay a = a ∧ a.overlay default = a ∧ a.overlay a = a) ∧
    ∀ (parse : String → Option Json) (files : Files) (env : Environment) (asked : Option String),
      Loads parse files env asked :=
  ⟨get_isFromLast, routes_isFromLast, overlay_assoc,
    fun a => ⟨default_overlay a, overlay_default a, overlay_self a⟩, loads⟩

/-- Seven seconds in the environment lie over the five of the usual file. Two, the default, let
these show through. A file that is asked for and is not there is an error, whatever the environment.
-/
theorem last_layer_wins_seconds :
    (let run : Invocation := .ofSeconds "7" []
     load Json.read? run.files run.environment none = .ok { default with timeout := 7 }) ∧
    (let run : Invocation := .ofSeconds "2" []
     load Json.read? run.files run.environment none = .ok { default with timeout := 5 }) ∧
    (let run : Invocation := .ofSeconds "soon" []
     load Json.read? run.files run.environment (some "my.json") =
       .error (.fileNotFound "my.json")) := by
  have hloads := last_layer_wins.2.2.2.2 Json.read?
  have husual : ∀ {seconds : String} {n : UInt64}, wide "TIMEOUT" seconds = .ok n →
      (let run : Invocation := .ofSeconds seconds []
       load Json.read? run.files run.environment none =
         .ok ((default.overlay { default with timeout := 5 }).overlay
           { default with timeout := n })) := by
    intro seconds n hn run
    obtain ⟨given, hgives, hload⟩ := (hloads run.files run.environment none).file _ (.usual rfl)
    obtain rfl : given = .ok { default with timeout := 5 } :=
      hgives.eq_ofFile.trans (fileLayer_seconds seconds [])
    rw [hload, ofEnvironment_seconds [] hn]
    rfl
  refine ⟨husual (rfl : wide "TIMEOUT" "7" = .ok 7), husual (rfl : wide "TIMEOUT" "2" = .ok 2), ?_⟩
  have hmissing : (Invocation.ofSeconds "soon" []).files "my.json" = none := rfl
  refine ((hloads _ _ _).error _).2 (.inl ⟨"my.json", .asked, .noFile fun content => ?_⟩)
  rw [hmissing]
  exact nofun

end Switchboard.Settings
