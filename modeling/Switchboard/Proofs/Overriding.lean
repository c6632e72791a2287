import Switchboard.CommandLine.Program
import Switchboard.Json.Reader
import Switchboard.Proofs.Failing
import Switchboard.Proofs.Utf8

/-!
# Which layer a setting comes from

Settings are given in a file, by variables and by options, each of these over the one before
(`Settings.overlay`). A layer is the defaults with what is given written over them, so that a layer
knows a value and not whether it was given: a value that is the default is taken for one that was
not given, and what is below shows through.

For each setting but the protocol table, `Setting.ofOptions?`, `Setting.ofVariable?` and
`Setting.ofFile?` are what the three sources give; each layer holds that value, or else the default.

**What overrides what.** An option overrides a variable, which overrides the file, if its value is
not the default. With a default it does not: the seconds of a file stay, though a variable asks for
the usual ones (`Program.given_default_is_not_given`).

Main result: `Program.get_settings`.
-/

namespace Switchboard

/-- The settings but the protocol table. -/
inductive Setting
  | listen
  | timeout
  | onTimeout
  | verbose
  | logLevel
  | bufferSize
  | connectTimeout
  deriving DecidableEq, Repr

/-- The values of a setting. -/
def Setting.Value : Setting → Type
  | listen => List String
  | timeout | bufferSize | connectTimeout => UInt64
  | onTimeout | logLevel => String
  | verbose => UInt8

instance (setting : Setting) : DecidableEq setting.Value :=
  match setting with
  | .listen => inferInstanceAs (DecidableEq (List String))
  | .timeout | .bufferSize | .connectTimeout => inferInstanceAs (DecidableEq UInt64)
  | .onTimeout | .logLevel => inferInstanceAs (DecidableEq String)
  | .verbose => inferInstanceAs (DecidableEq UInt8)

def Settings.get (settings : Settings) : (setting : Setting) → setting.Value
  | .listen => settings.listen
  | .timeout => settings.timeout
  | .onTimeout => settings.onTimeout
  | .verbose => settings.verbose
  | .logLevel => settings.logLevel
  | .bufferSize => settings.bufferSize
  | .connectTimeout => settings.connectTimeout

/-! ## What is given -/

namespace Setting

/-- What options give: two of the settings have none. -/
def ofOptions? (options : Options) : (setting : Setting) → Option setting.Value
  | listen => if options.listen.isEmpty then none else some options.listen
  | timeout => options.timeout
  | onTimeout => options.onTimeout
  | verbose => if options.verbose = 0 then none else some options.verbose
  | logLevel => options.logLevel
  | bufferSize | connectTimeout => none

/-- The end of the name of the setting's variable. -/
def variableName : Setting → String
  | listen => "LISTEN"
  | timeout => "TIMEOUT"
  | onTimeout => "ON_TIMEOUT"
  | verbose => "VERBOSE"
  | logLevel => "LOG_LEVEL"
  | bufferSize => "BUFFER_SIZE"
  | connectTimeout => "CONNECT_TIMEOUT"

def ofText : (setting : Setting) → String → Except Settings.Error setting.Value
  | listen => fun text => .ok (Settings.items text)
  | timeout => Settings.wide "TIMEOUT"
  | onTimeout => .ok
  | verbose => Settings.narrow "VERBOSE"
  | logLevel => .ok
  | bufferSize => Settings.wide "BUFFER_SIZE"
  | connectTimeout => Settings.wide "CONNECT_TIMEOUT"

/-- What the environment gives. -/
def ofVariable? (env : Environment) (setting : Setting) : Option setting.Value :=
  (env.text? (Settings.variableName setting.variableName)).bind fun text =>
    (setting.ofText text).toOption

/-- The name of the setting's field. -/
def fieldName : Setting → String
  | listen => "listen"
  | timeout => "timeout"
  | onTimeout => "on_timeout"
  | verbose => "verbose"
  | logLevel => "log_level"
  | bufferSize => "buffer_size"
  | connectTimeout => "connect_timeout"

def ofJson? : (setting : Setting) → Json → Option setting.Value
  | listen => Json.texts?
  | timeout | bufferSize | connectTimeout => Json.uint64?
  | onTimeout | logLevel => Json.text?
  | verbose => Json.uint8?

def ofDocument? (document : Json) (setting : Setting) : Option setting.Value :=
  (document.fields? Settings.fieldNames []).bind fun fields =>
    (fields.lookup setting.fieldName).bind setting.ofJson?

end Setting

/-- The document in a file, if the path leads to one. -/
def Files.document? (parse : String → Option Json) (files : Files) (path : String) : Option Json :=
  match files path with
  | some (.file content) => (Utf8.decode? content).bind parse
  | some .folder | none => none

/-- What the settings file gives: the one that is asked for, or else the usual one. -/
def Setting.ofFile? (parse : String → Option Json) (files : Files) (asked : Option String)
    (setting : Setting) : Option setting.Value :=
  (files.document? parse (asked.getD "portmux.json")).bind fun document =>
    setting.ofDocument? document

/-! ## What a layer holds -/

namespace Settings

variable {env : Environment} {layer : Settings}

theorem get_layer {options : Options} (h : options.layer = .ok layer) (s : Setting) :
    layer.get s = (s.ofOptions? options).getD (default.get s) := by
  rw [Options.layer, bind_eq_ok_iff] at h
  obtain ⟨routes, -, h⟩ := h
  obtain rfl := Except.ok.inj h
  cases s with
  | listen =>
    show (if options.listen.isEmpty then default.listen else options.listen) = _
    rw [Setting.ofOptions?]
    split <;> rfl
  | verbose =>
    show options.verbose = _
    rw [Setting.ofOptions?]
    split
    · assumption
    · rfl
  | _ => rfl

theorem setting_eq_ok {α : Type} {name : String} {default value : α}
    {read : String → Except Error α} (h : setting env name default read = .ok value) :
    value =
      ((env.text? (variableName name)).bind fun text => (read text).toOption).getD default := by
  rw [setting] at h
  cases htext : env.text? (variableName name) with
  | none =>
    rw [htext] at h
    exact (Except.ok.inj h).symm
  | some text =>
    simp only [htext] at h
    simp [h, Except.toOption]

theorem get_ofEnvironment (h : ofEnvironment env = .ok layer) (s : Setting) :
    layer.get s = (s.ofVariable? env).getD (default.get s) := by
  simp only [ofEnvironment, bind_eq_ok_iff] at h
  obtain ⟨listen, hlisten, timeout, htimeout, onTimeout, honTimeout, verbose, hverbose, logLevel,
    hlogLevel, bufferSize, hbufferSize, connectTimeout, hconnectTimeout, routes, -, h⟩ := h
  obtain rfl := Except.ok.inj h
  cases s with
  | listen => exact setting_eq_ok hlisten
  | timeout => exact setting_eq_ok htimeout
  | onTimeout => exact setting_eq_ok honTimeout
  | verbose => exact setting_eq_ok hverbose
  | logLevel => exact setting_eq_ok hlogLevel
  | bufferSize => exact setting_eq_ok hbufferSize
  | connectTimeout => exact setting_eq_ok hconnectTimeout

theorem field?_eq_some {α : Type} {fields : List (String × Json)} {name : String}
    {read : Json → Option α} {default value : α}
    (h : Json.field? fields name read default = some value) :
    value = ((fields.lookup name).bind read).getD default := by
  rw [Json.field?] at h
  cases hfield : fields.lookup name with
  | none =>
    rw [hfield] at h
    exact (Option.some.inj h).symm
  | some json =>
    simp only [hfield] at h
    simp [h]

theorem get_ofJson? {document : Json} (h : ofJson? document = some layer) (s : Setting) :
    layer.get s = (s.ofDocument? document).getD (default.get s) := by
  simp only [ofJson?, Option.bind_eq_bind, Option.bind_eq_some_iff] at h
  obtain ⟨fields, hfields, listen, hlisten, timeout, htimeout, onTimeout, honTimeout, verbose,
    hverbose, logLevel, hlogLevel, bufferSize, hbufferSize, connectTimeout, hconnectTimeout, routes,
    -, h⟩ := h
  obtain rfl := Option.some.inj h
  rw [Setting.ofDocument?, hfields, Option.bind_some]
  cases s with
  | listen => exact field?_eq_some hlisten
  | timeout => exact field?_eq_some htimeout
  | onTimeout => exact field?_eq_some honTimeout
  | verbose => exact field?_eq_some hverbose
  | logLevel => exact field?_eq_some hlogLevel
  | bufferSize => exact field?_eq_some hbufferSize
  | connectTimeout => exact field?_eq_some hconnectTimeout

/-- A settings file that is read holds a document, and the document gives the layer. -/
theorem exists_document?_of_ofFile {parse : String → Option Json} {files : Files} {path : String}
    (h : ofFile parse files path = .ok layer) :
    ∃ document, files.document? parse path = some document ∧ ofJson? document = some layer := by
  rw [ofFile] at h
  rw [Files.document?]
  -- Following the reader: a file, text in UTF-8, then a document with the settings.
  cases hentry : files path with
  | none => simp [hentry] at h
  | some entry =>
    cases entry with
    | folder => simp [hentry] at h
    | file content =>
      cases htext : Utf8.decode? content with
      | none => simp [hentry, htext] at h
      | some text =>
        simp only [hentry, htext] at h
        cases hlayer : (parse text).bind ofJson? with
        | none => simp [hlayer] at h
        | some found =>
          simp only [hlayer] at h
          obtain rfl := Except.ok.inj h
          simpa [htext] using Option.bind_eq_some_iff.1 hlayer

theorem get_ofFile {parse : String → Option Json} {files : Files} {path : String}
    (h : ofFile parse files path = .ok layer) (s : Setting) :
    layer.get s = ((files.document? parse path).bind s.ofDocument?).getD (default.get s) := by
  obtain ⟨document, hdocument, hread⟩ := exists_document?_of_ofFile h
  rw [hdocument, Option.bind_some, get_ofJson? hread s]

theorem get_fileLayer {parse : String → Option Json} {files : Files} {asked : Option String}
    (h : fileLayer parse files asked = .ok layer) (s : Setting) :
    layer.get s = (s.ofFile? parse files asked).getD (default.get s) := by
  rw [fileLayer] at h
  cases asked with
  | some path => exact get_ofFile h s
  | none =>
    rw [filePath] at h
    split_ifs at h with husual
    · exact get_ofFile h s
    · obtain rfl := Except.ok.inj h
      have hnone : files "portmux.json" = none := Option.not_isSome_iff_eq_none.1 husual
      simp only [Setting.ofFile?, Files.document?, Option.getD_none, hnone, Option.bind_none]

/-! ## What shows through -/

theorem get_overlay (lower upper : Settings) (s : Setting) :
    (lower.overlay upper).get s = cover (default.get s) (lower.get s) (upper.get s) := by
  cases s <;> rfl

/-- A layer's value covers what is below if it was given and is not the default. -/
theorem cover_getD {α : Type} [DecidableEq α] (default lower : α) (given : Option α) :
    cover default lower (given.getD default) = (given.filter (· ≠ default)).getD lower := by
  cases given with
  | none => simp [cover]
  | some value =>
    rw [Option.getD_some, cover, Option.filter_some]
    by_cases hdefault : value = default
    · simp [hdefault]
    · simp [hdefault]

/-- The first layer lies over the defaults, which show nothing of their own. -/
theorem get_overlay_default (layer : Settings) (s : Setting) :
    (default.overlay layer).get s = layer.get s := by
  rw [default_overlay]

end Settings

/-- **What overrides what.** A setting has the value of the first source, the options before the
variables, that gives one other than the default. Else it has what the file gives, or the
default. -/
theorem Program.get_settings {parse : String → Option Json} {invocation : Invocation}
    {options : Options} {final : Settings} (h : settings parse invocation options = .ok final)
    (s : Setting) :
    final.get s =
      ((s.ofOptions? options).filter (· ≠ Settings.default.get s)).getD
        (((s.ofVariable? invocation.environment).filter (· ≠ Settings.default.get s)).getD
          ((s.ofFile? parse invocation.files options.configFile).getD
            (Settings.default.get s))) := by
  simp only [settings, bind_eq_ok_iff, Settings.load_eq_ofLayers] at h
  obtain ⟨loaded, ⟨file, hfile, environment, henvironment, hload⟩, upper, hupper, h⟩ := h
  obtain rfl := Except.ok.inj hload
  obtain rfl := Except.ok.inj h
  show (((Settings.default.overlay file).overlay environment).overlay upper).get s = _
  rw [Settings.get_overlay, Settings.get_layer hupper, Settings.cover_getD, Settings.get_overlay,
    Settings.get_ofEnvironment henvironment, Settings.cover_getD, Settings.get_overlay_default,
    Settings.get_fileLayer hfile]

/-! ## A default that is given -/

/-- A settings file with five seconds. -/
def Settings.fiveSeconds : String := "\x7b\"timeout\": 5\x7d"

/-- A run with that file and some number of seconds in the environment. -/
def Invocation.ofSeconds (seconds : String) (arguments : List String) : Invocation where
  arguments
  environment := [("PORTMUX_TIMEOUT", Utf8.encode seconds)]
  files path :=
    if path = Settings.usualFile then some (.file (Utf8.encode Settings.fiveSeconds)) else none

theorem Settings.read?_fiveSeconds :
    Json.read? fiveSeconds = some (.object [("timeout", .int 5)]) := by
  have hchars : fiveSeconds.toList =
      ['\x7b', '"', 't', 'i', 'm', 'e', 'o', 'u', 't', '"', ':', ' ', '5', '\x7d'] := by decide
  rw [Json.read?, ← String.length_toList, hchars]
  rfl

namespace Settings

theorem fileLayer_seconds (seconds : String) (arguments : List String) :
    fileLayer Json.read? (Invocation.ofSeconds seconds arguments).files none =
      .ok { default with timeout := 5 } := by
  simp only [fileLayer, filePath, ofFile, Invocation.ofSeconds, Utf8.decode?_eq_some.2 rfl,
    read?_fiveSeconds, if_true, Option.isSome_some]
  rfl

theorem ofEnvironment_seconds {seconds : String} {n : UInt64} (arguments : List String)
    (h : wide "TIMEOUT" seconds = .ok n) :
    ofEnvironment (Invocation.ofSeconds seconds arguments).environment =
      .ok { default with timeout := n } := by
  simp [ofEnvironment, setting, Environment.text?, Invocation.ofSeconds, variableName,
    List.lookup_cons, Utf8.decode?_eq_some.2 rfl, h]
  rfl

end Settings

theorem Setting.ofVariable?_seconds {seconds : String} {n : UInt64} (arguments : List String)
    (h : Settings.wide "TIMEOUT" seconds = .ok n) :
    timeout.ofVariable? (Invocation.ofSeconds seconds arguments).environment = some n := by
  simp [ofVariable?, variableName, Settings.variableName, Environment.text?, Invocation.ofSeconds,
    Utf8.decode?_eq_some.2 rfl, ofText, h, Except.toOption]
  rfl

namespace Program

theorem settings_seconds {seconds : String} {n : UInt64} {options : Options} {layer : Settings}
    (arguments : List String) (h : Settings.wide "TIMEOUT" seconds = .ok n)
    (hfile : options.configFile = none) (hlayer : options.layer = .ok layer) :
    settings Json.read? (.ofSeconds seconds arguments) options =
      .ok ((Settings.ofLayers
        [{ Settings.default with timeout := 5 }, { Settings.default with timeout := n }]).overlay
          layer) := by
  rw [settings, hfile, Settings.load_eq_ofLayers, Settings.fileLayer_seconds,
    Settings.ofEnvironment_seconds arguments h, hlayer]
  rfl

/-- An option for two seconds, the default, leaves the seven of the environment. -/
theorem get_settings_seconds :
    let invocation : Invocation := .ofSeconds "7" ["-t", "2"]
    ∃ options final, Options.read? invocation.arguments invocation.environment = some options ∧
      settings Json.read? invocation options = .ok final ∧ final.get .timeout = (7 : UInt64) := by
  intro invocation
  let options : Options := ⟨none, [], [], some 2, none, 0, none, false⟩
  have hread : Options.read? invocation.arguments invocation.environment = some options := by decide
  have hwide : Settings.wide "TIMEOUT" "7" = .ok 7 := rfl
  have hfinal := settings_seconds ["-t", "2"] hwide (rfl : options.configFile = none) rfl
  refine ⟨options, _, hread, hfinal, ?_⟩
  rw [get_settings hfinal, Setting.ofVariable?_seconds _ hwide]
  rfl

/-- **A default that is given is not given.** Variables do not always override the file: with five
seconds there, a variable that asks for two, the default, is overlooked. -/
theorem given_default_is_not_given :
    ¬ ∀ invocation options final,
      Options.read? invocation.arguments invocation.environment = some options →
      settings Json.read? invocation options = .ok final → ∀ s : Setting,
        final.get s = (s.ofOptions? options).getD ((s.ofVariable? invocation.environment).getD
          ((s.ofFile? Json.read? invocation.files options.configFile).getD
            (Settings.default.get s))) := by
  intro hall
  let options : Options := ⟨none, [], [], none, none, 0, none, false⟩
  have hread : Options.read? [] (Invocation.ofSeconds "2" []).environment = some options := by
    decide
  have hwide : Settings.wide "TIMEOUT" "2" = .ok 2 := rfl
  have hfinal := settings_seconds [] hwide (rfl : options.configFile = none) rfl
  have hget := hall (.ofSeconds "2" []) options _ hread hfinal .timeout
  rw [Setting.ofVariable?_seconds _ hwide] at hget
  have hseconds : (5 : UInt64) = 2 := hget
  exact absurd hseconds (by decide)

end Program

end Switchboard
