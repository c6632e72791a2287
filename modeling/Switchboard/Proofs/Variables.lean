import Switchboard.Proofs.Failing
import Switchboard.Proofs.SpecParts
import Switchboard.Proofs.Utf8
import Switchboard.Settings.Environment

/-!
# Settings from variables

What the environment gives, variable by variable: which values are refused and with which error, and
what is read from the others.

**Lists** (`IsList`). A list is written as pieces with commas in between, and a piece is blank or
holds one item with blanks around it (`Text.Holds`). The items are those that are held, in order.

**Variables** (`IsLayer`). Each setting is what its variable says, and the default where that is
unset. Five of the variables can be refused, four that are numbers and then the protocol table
(`Checked.order`); the error is that of the first one, and of the first item in the table.

Main results: `ofEnvironment_exact`, `names_and_hosts`.
-/

namespace Switchboard

open Text

/-! ## Lists -/

namespace Settings

/-- A text lists these items. -/
def IsList (text : String) (items : List String) : Prop :=
  (∀ item ∈ items, IsItem item.toList) ∧
    ∃ pieces, text.toList = [','].intercalate pieces ∧ Holds pieces (items.map String.toList)

theorem items_eq (text : String) :
    items text = (contents (pieces ',' text.toList)).map String.ofList := rfl

theorem isList_items (text : String) : IsList text (items text) := by
  have htoList : (items text).map String.toList = contents (pieces ',' text.toList) := by
    simp [items_eq, Function.comp_def]
  constructor
  · intro item hitem
    have hmem : item.toList ∈ (items text).map String.toList := List.mem_map_of_mem hitem
    rw [htoList] at hmem
    obtain ⟨htrimmed, hne⟩ := List.mem_filter.1 hmem
    obtain ⟨piece, hpiece, heq⟩ := List.mem_map.1 htrimmed
    rw [← heq] at hne ⊢
    exact isItem_trim (by simpa using hne) (notMem_of_mem_pieces piece hpiece)
  · exact ⟨_, (intercalate_pieces ',' text.toList).symm, htoList ▸ holds_contents _⟩

theorem items_eq_iff {text : String} {list : List String} :
    items text = list ↔ IsList text list := by
  constructor
  · rintro rfl
    exact isList_items text
  · rintro ⟨hitems, parts, htext, hholds⟩
    have hitems' : ∀ item ∈ list.map String.toList, IsItem item := by
      simpa using hitems
    have hparts : contents (pieces ',' text.toList) = contents parts := by
      rw [htext]
      by_cases hnil : parts = []
      · subst hnil
        rfl
      · rw [pieces_intercalate hnil (hholds.comma_notMem hitems')]
    rw [items_eq, hparts, hholds.contents_eq hitems']
    simp

/-! ## Numbers -/

/-- A numeral with blanks around it. -/
def IsNumber (text : String) (n : Nat) : Prop :=
  ∃ numeral, Strips isBlank text.toList numeral ∧ IsNumeral numeral n

theorem number_eq_ok_iff {name text : String} {limit n : Nat} :
    number name limit text = .ok n ↔ IsNumber text n ∧ n ≤ limit := by
  have hnumber : IsNumber text n ↔ IsNumeral (trim text.toList) n := by
    constructor
    · rintro ⟨numeral, hstrips, hnumeral⟩
      rwa [trim, hstrips.strip_eq]
    · intro h
      exact ⟨_, strips_strip isBlank _, h⟩
  rw [hnumber, ← natural?_eq_some_iff, number]
  cases natural? limit (trim text.toList) <;> simp

theorem number_eq_error_iff {name text : String} {limit : Nat} {e : Error} :
    number name limit text = .error e ↔ (∀ n ≤ limit, ¬ IsNumber text n) ∧
      e = .invalidValue (variableName name) ("not a number: " ++ text) := by
  have hnone : (∀ n ≤ limit, ¬ IsNumber text n) ↔ ∀ n, number name limit text ≠ .ok n := by
    simp only [ne_eq, number_eq_ok_iff, not_and]
    exact forall_congr' fun n => imp_not_comm
  rw [hnone, number]
  cases natural? limit (trim text.toList) with
  | none => simp [eq_comm]
  | some n => simp

/-- The settings that are numbers. -/
inductive Numeric
  | timeout
  | verbose
  | bufferSize
  | connectTimeout

namespace Numeric

/-- The end of the name of the variable. -/
def name : Numeric → String
  | timeout => "TIMEOUT"
  | verbose => "VERBOSE"
  | bufferSize => "BUFFER_SIZE"
  | connectTimeout => "CONNECT_TIMEOUT"

/-- The largest number that the setting can be. -/
def limit : Numeric → Nat
  | timeout | bufferSize | connectTimeout => UInt64.size - 1
  | verbose => UInt8.size - 1

def get (settings : Settings) : Numeric → Nat
  | timeout => settings.timeout.toNat
  | verbose => settings.verbose.toNat
  | bufferSize => settings.bufferSize.toNat
  | connectTimeout => settings.connectTimeout.toNat

end Numeric

theorem wide_eq_ok_iff {name text : String} {value : UInt64} :
    wide name text = .ok value ↔ IsNumber text value.toNat := by
  rw [wide, map_eq_ok_iff]
  simp only [number_eq_ok_iff]
  constructor
  · rintro ⟨n, ⟨hnumber, hle⟩, rfl⟩
    rwa [UInt64.toNat_ofNat_of_lt' (Nat.lt_of_le_pred (by decide) hle)]
  · intro h
    exact ⟨_, ⟨h, Nat.le_pred_of_lt value.toNat_lt⟩, UInt64.ofNat_toNat⟩

theorem narrow_eq_ok_iff {name text : String} {value : UInt8} :
    narrow name text = .ok value ↔ IsNumber text value.toNat := by
  rw [narrow, map_eq_ok_iff]
  simp only [number_eq_ok_iff]
  constructor
  · rintro ⟨n, ⟨hnumber, hle⟩, rfl⟩
    rwa [UInt8.toNat_ofNat_of_lt' (Nat.lt_of_le_pred (by decide) hle)]
  · intro h
    exact ⟨_, ⟨h, Nat.le_pred_of_lt value.toNat_lt⟩, UInt8.ofNat_toNat⟩

/-! ## Variables -/

variable {env : Environment}

/-- A setting is what its variable says, or the default if that is unset. -/
def FromVariable {α : Type} (env : Environment) (name : String) (default : α)
    (Says : String → α → Prop) (value : α) : Prop :=
  match env.text? (variableName name) with
  | none => value = default
  | some text => Says text value

theorem setting_eq_ok_iff {α : Type} {name : String} {default value : α}
    {read : String → Except Error α} : setting env name default read = .ok value ↔
      FromVariable env name default (fun text value => read text = .ok value) value := by
  rw [setting, FromVariable]
  cases env.text? (variableName name) with
  | none => simp [eq_comm]
  | some text => exact Iff.rfl

theorem setting_eq_error_iff {α : Type} {name : String} {default : α}
    {read : String → Except Error α} {e : Error} : setting env name default read = .error e ↔
      ∃ text, env.text? (variableName name) = some text ∧ read text = .error e := by
  rw [setting]
  cases env.text? (variableName name) <;> simp

theorem fromVariable_congr {α β : Type} {name : String} {default value : α} {default' value' : β}
    {Says : String → α → Prop} {Says' : String → β → Prop}
    (hdefault : value = default ↔ value' = default')
    (hvalue : ∀ text, Says text value ↔ Says' text value') :
    FromVariable env name default Says value ↔ FromVariable env name default' Says' value' := by
  rw [FromVariable, FromVariable]
  cases env.text? (variableName name) with
  | none => exact hdefault
  | some text => exact hvalue text

/-- What the environment gives. -/
structure IsLayer (env : Environment) (settings : Settings) : Prop where
  listen : FromVariable env "LISTEN" default.listen IsList settings.listen
  number : ∀ v : Numeric, FromVariable env v.name (v.get default) IsNumber (v.get settings)
  onTimeout : FromVariable env "ON_TIMEOUT" default.onTimeout (· = ·) settings.onTimeout
  logLevel : FromVariable env "LOG_LEVEL" default.logLevel (· = ·) settings.logLevel
  routes : FromVariable env "PROTOCOLS" default.routes
    (fun text routes => ∃ items, IsList text items ∧
      List.Forall₂ (fun item route => Route.ofSpec item = .ok route) items routes) settings.routes

theorem wide_iff {name : String} {default value : UInt64} :
    setting env name default (wide name) = .ok value ↔
      FromVariable env name default.toNat IsNumber value.toNat :=
  setting_eq_ok_iff.trans (fromVariable_congr UInt64.toNat_inj.symm fun _ => wide_eq_ok_iff)

theorem narrow_iff {name : String} {default value : UInt8} :
    setting env name default (narrow name) = .ok value ↔
      FromVariable env name default.toNat IsNumber value.toNat :=
  setting_eq_ok_iff.trans (fromVariable_congr UInt8.toNat_inj.symm fun _ => narrow_eq_ok_iff)

theorem text_iff {name default value : String} :
    setting env name default .ok = .ok value ↔ FromVariable env name default (· = ·) value :=
  setting_eq_ok_iff.trans (fromVariable_congr Iff.rfl fun _ => by simp)

theorem listen_iff {default value : List String} :
    setting env "LISTEN" default (fun text => .ok (items text)) = .ok value ↔
      FromVariable env "LISTEN" default IsList value :=
  setting_eq_ok_iff.trans (fromVariable_congr Iff.rfl fun _ => by
    rw [Except.ok.injEq, items_eq_iff])

theorem routes_iff {default value : List Route} :
    setting env "PROTOCOLS" default (fun text => (items text).mapM Route.ofSpec) = .ok value ↔
      FromVariable env "PROTOCOLS" default
        (fun text routes => ∃ items, IsList text items ∧
          List.Forall₂ (fun item route => Route.ofSpec item = .ok route) items routes) value := by
  refine setting_eq_ok_iff.trans (fromVariable_congr Iff.rfl fun text => ?_)
  simp only [← items_eq_iff, exists_eq_left', mapM_eq_ok_iff]

theorem ofEnvironment_eq_ok_iff {settings : Settings} :
    ofEnvironment env = .ok settings ↔ IsLayer env settings := by
  simp only [ofEnvironment, bind_eq_ok_iff, listen_iff, wide_iff, text_iff, narrow_iff, routes_iff]
  constructor
  · rintro ⟨listen, hlisten, timeout, htimeout, onTimeout, honTimeout, verbose, hverbose, logLevel,
      hlogLevel, bufferSize, hbufferSize, connectTimeout, hconnectTimeout, routes, hroutes, h⟩
    obtain rfl := Except.ok.inj h
    refine ⟨hlisten, fun v => ?_, honTimeout, hlogLevel, hroutes⟩
    cases v with
    | timeout => exact htimeout
    | verbose => exact hverbose
    | bufferSize => exact hbufferSize
    | connectTimeout => exact hconnectTimeout
  · rintro ⟨hlisten, hnumber, honTimeout, hlogLevel, hroutes⟩
    exact ⟨_, hlisten, _, hnumber .timeout, _, honTimeout, _, hnumber .verbose, _, hlogLevel, _,
      hnumber .bufferSize, _, hnumber .connectTimeout, _, hroutes, rfl⟩

/-! ## Refusals -/

/-- The variables that can be refused. -/
inductive Checked
  | number (v : Numeric)
  | routes

namespace Checked

/-- In the order in which they are looked at. -/
def order : List Checked :=
  [number .timeout, number .verbose, number .bufferSize, number .connectTimeout, routes]

/-- A variable is refused with this error: a number that is none or too large, or a protocol table
of which an item is refused, by the first such item. -/
def Fails (env : Environment) : Checked → Error → Prop
  | number v, e => ∃ text, env.text? (variableName v.name) = some text ∧
      (∀ n ≤ v.limit, ¬ IsNumber text n) ∧
      e = .invalidValue (variableName v.name) ("not a number: " ++ text)
  | routes, e => ∃ text, env.text? (variableName "PROTOCOLS") = some text ∧
      ∃ items, IsList text items ∧
        FirstFailure (fun item e => Route.ofSpec item = .error e) items e

end Checked

theorem wide_error_iff (v : Numeric) {default : UInt64} {e : Error}
    (hlimit : v.limit = UInt64.size - 1) :
    setting env v.name default (wide v.name) = .error e ↔ (Checked.number v).Fails env e := by
  simp only [setting_eq_error_iff, wide, map_eq_error_iff, number_eq_error_iff, Checked.Fails,
    hlimit]

theorem narrow_error_iff (v : Numeric) {default : UInt8} {e : Error}
    (hlimit : v.limit = UInt8.size - 1) :
    setting env v.name default (narrow v.name) = .error e ↔ (Checked.number v).Fails env e := by
  simp only [setting_eq_error_iff, narrow, map_eq_error_iff, number_eq_error_iff, Checked.Fails,
    hlimit]

theorem routes_error_iff {default : List Route} {e : Error} :
    setting env "PROTOCOLS" default (fun text => (items text).mapM Route.ofSpec) = .error e ↔
      Checked.routes.Fails env e := by
  simp only [setting_eq_error_iff, mapM_eq_error_iff, Checked.Fails, ← items_eq_iff,
    exists_eq_left']

theorem never_error {α : Type} (name : String) (default : α) (read : String → α) (e : Error) :
    ¬ setting env name default (fun text => .ok (read text)) = .error e := by
  simp [setting_eq_error_iff]

/-- The error is that of the first variable that is refused. -/
theorem ofEnvironment_eq_error_iff {e : Error} :
    ofEnvironment env = .error e ↔ FirstFailure (Checked.Fails env) Checked.order e := by
  have hlisten : ∀ e, ¬ setting env "LISTEN" default.listen (fun text => .ok (items text)) =
      .error e := never_error "LISTEN" default.listen items
  have htext : ∀ name (default : String) e, ¬ setting env name default .ok = .error e :=
    fun name default => never_error name default id
  have htimeout : ∀ e, setting env "TIMEOUT" default.timeout (wide "TIMEOUT") = .error e ↔
      (Checked.number .timeout).Fails env e := fun _ => wide_error_iff .timeout rfl
  have hverbose : ∀ e, setting env "VERBOSE" default.verbose (narrow "VERBOSE") = .error e ↔
      (Checked.number .verbose).Fails env e := fun _ => narrow_error_iff .verbose rfl
  have hbufferSize : ∀ e, setting env "BUFFER_SIZE" default.bufferSize (wide "BUFFER_SIZE") =
      .error e ↔ (Checked.number .bufferSize).Fails env e := fun _ => wide_error_iff .bufferSize rfl
  have hconnectTimeout : ∀ e, setting env "CONNECT_TIMEOUT" default.connectTimeout
      (wide "CONNECT_TIMEOUT") = .error e ↔ (Checked.number .connectTimeout).Fails env e :=
    fun _ => wide_error_iff .connectTimeout rfl
  have hlast : ∀ settings : Settings, ¬ (pure settings : Except Error Settings) = .error e := nofun
  -- The values that are read do not matter to what comes behind them, only that they are read.
  simp only [ofEnvironment, bind_eq_error_iff, exists_and_right, exists_ok_iff, ne_eq, hlisten,
    htext, htimeout, hverbose, hbufferSize, hconnectTimeout, routes_error_iff, hlast, Checked.order,
    firstFailure_cons, not_firstFailure_nil, not_false_eq_true, implies_true, true_and, false_or,
    and_false, exists_false, or_false]

theorem number_not_fails_iff {v : Numeric} : (∀ e, ¬ (Checked.number v).Fails env e) ↔
    ∀ text, env.text? (variableName v.name) = some text → ∃ n ≤ v.limit, IsNumber text n := by
  simp only [Checked.Fails, not_exists, not_and]
  constructor
  · intro h text htext
    by_contra hnone
    exact h _ text htext (fun n hle hn => hnone ⟨n, hle, hn⟩) rfl
  · intro h e text htext hnone
    obtain ⟨n, hle, hn⟩ := h text htext
    exact absurd hn (hnone n hle)

theorem routes_not_fails_iff : (∀ e, ¬ Checked.routes.Fails env e) ↔
    ∀ text items, env.text? (variableName "PROTOCOLS") = some text → IsList text items →
      ∀ item ∈ items, ∃ route, Route.ofSpec item = .ok route := by
  simp only [exists_ok_iff, ← forall_not_firstFailure_iff, Checked.Fails, not_exists, not_and]
  constructor
  · intro h text items htext hitems e
    exact h e text htext items hitems
  · intro h e text htext items hitems
    exact h text items htext hitems e

/-- Variables are read if each number is one within its limits and each item of the protocol table
is read. -/
theorem exists_ofEnvironment_iff : (∃ settings, ofEnvironment env = .ok settings) ↔
    (∀ (v : Numeric) (text : String), env.text? (variableName v.name) = some text →
      ∃ n ≤ v.limit, IsNumber text n) ∧
    ∀ text items, env.text? (variableName "PROTOCOLS") = some text → IsList text items →
      ∀ item ∈ items, ∃ route, Route.ofSpec item = .ok route := by
  have hnumbers : ∀ P : Numeric → Prop,
      (P .timeout ∧ P .verbose ∧ P .bufferSize ∧ P .connectTimeout) ↔ ∀ v, P v := by
    intro P
    constructor
    · rintro ⟨htimeout, hverbose, hbufferSize, hconnectTimeout⟩ v
      cases v <;> assumption
    · exact fun h => ⟨h _, h _, h _, h _⟩
  simp only [exists_ok_iff, ne_eq, ofEnvironment_eq_error_iff, forall_not_firstFailure_iff,
    Checked.order, List.forall_mem_cons]
  simp only [← exists_ok_iff, number_not_fails_iff, routes_not_fails_iff, ← hnumbers,
    List.not_mem_nil, false_implies, implies_true, and_true, and_assoc]

end Settings

/-! ## Routes in a list -/

theorem isBlank_of_isDigit {c : Char} (h : c.isDigit = true) : isBlank c = false := by
  simp only [Char.isDigit, Bool.and_eq_true, decide_eq_true_eq, ge_iff_le,
    UInt32.le_iff_toNat_le] at h
  have hlow : 48 ≤ c.toNat := h.1
  have hhigh : c.toNat ≤ 57 := h.2
  simp only [isBlank, Bool.or_eq_false_iff, Bool.and_eq_false_iff, decide_eq_false_iff_not,
    beq_eq_false_iff_ne]
  omega

namespace Route

/-- What a route in one line says. -/
structure Brief where
  name : String
  host : String
  port : UInt16

namespace Brief

variable {brief : Brief} {briefs : List Brief}

def text (brief : Brief) : String := line brief.name brief.host brief.port

def route (brief : Brief) : Route := backed brief.name brief.host brief.port

/-- A route that can be written in one line, and the line in a list. -/
structure Fits (brief : Brief) : Prop where
  name_ne_empty : brief.name ≠ ""
  sign_notMem : '=' ∉ brief.name.toList
  first : Stops isBlank brief.name.toList
  host : IsBare brief.host
  name_comma : ',' ∉ brief.name.toList
  host_comma : ',' ∉ brief.host.toList

theorem toList_text (brief : Brief) : brief.text.toList =
    brief.name.toList ++ '=' :: (brief.host.toList ++ ':' :: Nat.toDigits 10 brief.port.toNat) := by
  simp [text, line]

theorem Fits.isItem (h : brief.Fits) : IsItem brief.text.toList := by
  have hname : brief.name.toList ≠ [] := by simpa using h.name_ne_empty
  have hdigits : ∀ c ∈ Nat.toDigits 10 brief.port.toNat, c.isDigit = true := fun c hc =>
    Nat.isDigit_of_mem_toDigits (by decide) (by decide) hc
  have hcomma : ',' ∉ Nat.toDigits 10 brief.port.toNat := by
    intro hmem
    exact absurd (hdigits ',' hmem) (by decide)
  rw [toList_text]
  refine ⟨by simp, fun c hc => ?_, fun c hc => ?_, ?_⟩
  · rw [List.head?_append_of_ne_nil _ hname] at hc
    exact h.first c hc
  · have hlast : (Nat.toDigits 10 brief.port.toNat).reverse ≠ [] := by
      simp [Nat.toDigits_ne_nil]
    simp only [List.reverse_append, List.reverse_cons, List.append_assoc] at hc
    rw [List.head?_append_of_ne_nil _ hlast] at hc
    exact isBlank_of_isDigit (hdigits c (List.mem_reverse.1 (List.mem_of_mem_head? hc)))
  · simp [h.name_comma, h.host_comma, hcomma]

theorem Fits.ofSpec_text (h : brief.Fits) : ofSpec brief.text = .ok brief.route :=
  ofSpec_plainLine brief.port h.name_ne_empty h.sign_notMem h.host

/-- Routes are read from a list as they were written, whatever blanks are put between them. -/
theorem mapM_ofSpec_items {pieces : List (List Char)} (hfits : ∀ brief ∈ briefs, brief.Fits)
    (hholds : Holds pieces (briefs.map (·.text.toList))) :
    (Settings.items (String.ofList ([','].intercalate pieces))).mapM ofSpec =
      .ok (briefs.map Brief.route) := by
  have hlist : Settings.IsList (String.ofList ([','].intercalate pieces))
      (briefs.map Brief.text) := by
    refine ⟨?_, pieces, String.toList_ofList, by simpa [Function.comp_def] using hholds⟩
    intro item hitem
    obtain ⟨brief, hbrief, rfl⟩ := List.mem_map.1 hitem
    exact (hfits brief hbrief).isItem
  rw [Settings.items_eq_iff.2 hlist, mapM_eq_ok_iff, List.forall₂_map_left_iff,
    List.forall₂_map_right_iff, List.forall₂_same]
  exact fun brief hbrief => (hfits brief hbrief).ofSpec_text

end Brief

end Route

namespace Settings

variable {env : Environment}

theorem exists_of_briefs {briefs : List Route.Brief} {pieces : List (List Char)}
    (hfits : ∀ brief ∈ briefs, brief.Fits) (hholds : Holds pieces (briefs.map (·.text.toList)))
    (htext : env.text? (variableName "PROTOCOLS") = some (String.ofList ([','].intercalate pieces)))
    (hnumbers : ∀ (v : Numeric) (text : String), env.text? (variableName v.name) = some text →
      ∃ n ≤ v.limit, IsNumber text n) :
    ∃ settings, ofEnvironment env = .ok settings ∧
      settings.routes = briefs.map Route.Brief.route := by
  have hroutes := Route.Brief.mapM_ofSpec_items hfits hholds
  have hread : ∀ text items, env.text? (variableName "PROTOCOLS") = some text →
      IsList text items → ∀ item ∈ items, ∃ route, Route.ofSpec item = .ok route := by
    intro text list hvalue hlist
    obtain rfl := Option.some.inj (htext.symm.trans hvalue)
    rw [← items_eq_iff.2 hlist]
    exact exists_mapM_ok_iff.1 ⟨_, hroutes⟩
  obtain ⟨settings, hsettings⟩ := exists_ofEnvironment_iff.2 ⟨hnumbers, hread⟩
  refine ⟨settings, hsettings, ?_⟩
  have hvalue := routes_iff.2 (ofEnvironment_eq_ok_iff.1 hsettings).routes
  rw [setting, htext] at hvalue
  exact Except.ok.inj (hvalue.symm.trans hroutes)

/-- **What the environment gives.** Settings are read exactly if each number is one within its
limits and each item of the protocol table is read; the error is that of the first variable, and of
the first item of the table, that is not. What is read is what the variables say, item by item, and
the default for each that is unset. So a table that is written as a list is read as it was, whatever
blanks and blank items are put in between. -/
theorem ofEnvironment_exact (env : Environment) :
    ((∃ settings, ofEnvironment env = .ok settings) ↔
      (∀ (v : Numeric) (text : String), env.text? (variableName v.name) = some text →
        ∃ n ≤ v.limit, IsNumber text n) ∧
      ∀ text items, env.text? (variableName "PROTOCOLS") = some text → IsList text items →
        ∀ item ∈ items, ∃ route, Route.ofSpec item = .ok route) ∧
    (∀ e, ofEnvironment env = .error e ↔ FirstFailure (Checked.Fails env) Checked.order e) ∧
    (∀ settings, ofEnvironment env = .ok settings ↔ IsLayer env settings) ∧
    ∀ (briefs : List Route.Brief) (pieces : List (List Char)), (∀ brief ∈ briefs, brief.Fits) →
      Holds pieces (briefs.map (·.text.toList)) →
      env.text? (variableName "PROTOCOLS") = some (String.ofList ([','].intercalate pieces)) →
      (∀ (v : Numeric) (text : String), env.text? (variableName v.name) = some text →
        ∃ n ≤ v.limit, IsNumber text n) →
      ∃ settings, ofEnvironment env = .ok settings ∧
        settings.routes = briefs.map Route.Brief.route :=
  ⟨exists_ofEnvironment_iff, fun _ => ofEnvironment_eq_error_iff,
    fun _ => ofEnvironment_eq_ok_iff, fun _ _ => exists_of_briefs⟩

/-- A variable that holds the bytes of a text. -/
theorem text?_of_lookup {name text : String} (h : env.lookup name = some (Utf8.encode text)) :
    env.text? name = some text := by
  rw [Environment.text?, h, Option.bind_some, Utf8.decode?_eq_some]

/-- Two routes with blanks around them and a blank item in between, and a number with a sign. -/
def twoRoutes : Environment :=
  [("PORTMUX_TIMEOUT", Utf8.encode " +7 "),
    ("PORTMUX_PROTOCOLS", Utf8.encode " ssh=::1:22 ,, anyprot=web:80\t")]

theorem ofEnvironment_twoRoutes : ∃ settings, ofEnvironment twoRoutes = .ok settings ∧
    settings.routes = [Route.backed "ssh" "::1" 22, Route.backed "anyprot" "web" 80] := by
  have htimeout : twoRoutes.text? (variableName "TIMEOUT") = some " +7 " :=
    text?_of_lookup (by simp [twoRoutes, variableName])
  have hprotocols : twoRoutes.text? (variableName "PROTOCOLS") =
      some " ssh=::1:22 ,, anyprot=web:80\t" :=
    text?_of_lookup (by simp [twoRoutes, variableName, List.lookup_cons])
  have hfits : ∀ brief ∈ [(⟨"ssh", "::1", 22⟩ : Route.Brief), ⟨"anyprot", "web", 80⟩],
      brief.Fits := by
    refine List.forall_mem_cons.2 ⟨?_, List.forall_mem_singleton.2 ?_⟩
    · exact ⟨by decide, by decide, by simp [Stops, isBlank], ⟨by decide, by simp [Stops, isBracket],
        by simp [Stops, isBracket]⟩, by decide, by decide⟩
    · exact ⟨by decide, by decide, by simp [Stops, isBlank], ⟨by decide, by simp [Stops, isBracket],
        by simp [Stops, isBracket]⟩, by decide, by decide⟩
  have hspace : ∀ c ∈ [' '], isBlank c = true := by simp [isBlank]
  have htab : ∀ c ∈ ['\t'], isBlank c = true := by simp [isBlank]
  have hholds : Holds
      [[' '] ++ "ssh=::1:22".toList ++ [' '], [], [' '] ++ "anyprot=web:80".toList ++ ['\t']]
      ["ssh=::1:22".toList, "anyprot=web:80".toList] :=
    .item hspace hspace (.blank (List.forall_mem_nil _) (.item hspace htab .nil))
  refine (ofEnvironment_exact twoRoutes).2.2.2 [⟨"ssh", "::1", 22⟩, ⟨"anyprot", "web", 80⟩] _ hfits
    hholds hprotocols ?_
  intro v text htext
  cases v with
  | timeout =>
    obtain rfl := Option.some.inj (htimeout.symm.trans htext)
    exact ⟨7, by decide, ['+', '7'], ⟨⟨[' '], [' '], by decide, hspace, hspace⟩,
      by simp [Stops, isBlank], by simp [Stops, isBlank]⟩,
      ['7'], .inr rfl, by decide, by simp, by decide⟩
  | verbose | bufferSize | connectTimeout =>
    simp [Environment.text?, twoRoutes, variableName, Numeric.name, List.lookup_cons] at htext

end Settings

/-! ## Names and hosts -/

namespace Settings

variable {env : Environment} {settings : Settings} {items : List String} {routes : List Route}

/-- There is no table without the variable, and with it each item gives a route. -/
theorem routes_of_ofEnvironment (h : ofEnvironment env = .ok settings) :
    env.text? (variableName "PROTOCOLS") = none ∧ settings.routes = [] ∨
    ∃ text items, env.text? (variableName "PROTOCOLS") = some text ∧ IsList text items ∧
      List.Forall₂ (fun item route => Route.ofSpec item = .ok route) items settings.routes := by
  have hroutes := (ofEnvironment_eq_ok_iff.1 h).routes
  rw [FromVariable] at hroutes
  cases htext : env.text? (variableName "PROTOCOLS") with
  | none =>
    simp only [htext] at hroutes
    exact .inl ⟨rfl, hroutes⟩
  | some text =>
    simp only [htext] at hroutes
    obtain ⟨items, hitems, hread⟩ := hroutes
    exact .inr ⟨text, items, rfl, hitems, hread⟩

/-- No route of a table has a blank host exactly if no item has a host of brackets only. -/
theorem hosts_ne_blank_iff
    (h : List.Forall₂ (fun item route => Route.ofSpec item = .ok route) items routes) :
    (∀ route ∈ routes, route.host ≠ some "") ↔ ∀ item ∈ items, Route.HasHost item := by
  induction h with
  | nil => exact iff_of_true (List.forall_mem_nil _) (List.forall_mem_nil _)
  | cons hread _ ih =>
    rw [List.forall_mem_cons, List.forall_mem_cons, ih, Route.host_ne_blank_iff hread]

/-- **A route that is read has a name, and a host unless that is made of brackets.** -/
theorem names_and_hosts (spec : String) (env : Environment) :
    (∀ route, Route.ofSpec spec = .ok route → route.name ≠ "" ∧
      ∃ host, route.host = some host ∧ (host ≠ "" ↔ Route.HasHost spec)) ∧
    ∀ settings, ofEnvironment env = .ok settings →
      (∀ route ∈ settings.routes, route.name ≠ "" ∧ ∃ host, route.host = some host) ∧
      ((∀ route ∈ settings.routes, route.host ≠ some "") ↔
        ∀ text items, env.text? (variableName "PROTOCOLS") = some text → IsList text items →
          ∀ item ∈ items, Route.HasHost item) := by
  refine ⟨fun _ h => ⟨Route.name_ne_empty_of_ofSpec h, Route.exists_host_of_ofSpec h⟩, ?_⟩
  intro settings h
  rcases routes_of_ofEnvironment h with ⟨hunset, hroutes⟩ | ⟨text, items, htext, hitems, hread⟩
  · simp [hunset, hroutes]
  · constructor
    · intro route hroute
      obtain ⟨item, -, hitem⟩ := exists_of_forall₂ hread hroute
      obtain ⟨host, hhost, -⟩ := Route.exists_host_of_ofSpec hitem
      exact ⟨Route.name_ne_empty_of_ofSpec hitem, host, hhost⟩
    · rw [hosts_ne_blank_iff hread]
      constructor
      · intro hall text' items' htext' hitems'
        obtain rfl := Option.some.inj (htext.symm.trans htext')
        rwa [← items_eq_iff.2 hitems', items_eq_iff.2 hitems]
      · exact fun hall => hall text items htext hitems

theorem ofSpec_brackets : Route.ofSpec "ssh=[]:22" = .ok (Route.backed "ssh" "" 22) := rfl

/-- A table with brackets for a host. -/
def bracketsOnly : Environment := [("PORTMUX_PROTOCOLS", Utf8.encode "ssh=[]:22")]

theorem ofEnvironment_bracketsOnly : ofEnvironment bracketsOnly =
    .ok { default with routes := [Route.backed "ssh" "" 22] } := by
  have hprotocols : bracketsOnly.text? (variableName "PROTOCOLS") = some "ssh=[]:22" :=
    text?_of_lookup (by simp [bracketsOnly, variableName])
  have hunset : ∀ name ∈ ["LISTEN", "TIMEOUT", "ON_TIMEOUT", "VERBOSE", "LOG_LEVEL", "BUFFER_SIZE",
      "CONNECT_TIMEOUT"], bracketsOnly.text? (variableName name) = none := by
    simp [Environment.text?, bracketsOnly, variableName, List.lookup_cons]
  have hitems : (items "ssh=[]:22").mapM Route.ofSpec = .ok [Route.backed "ssh" "" 22] := rfl
  simp only [List.forall_mem_cons] at hunset
  obtain ⟨hlisten, htimeout, honTimeout, hverbose, hlogLevel, hbufferSize, hconnectTimeout, -⟩ :=
    hunset
  simp only [ofEnvironment, setting, hlisten, htimeout, honTimeout, hverbose, hlogLevel,
    hbufferSize, hconnectTimeout, hprotocols, hitems]
  rfl

theorem names_and_hosts_brackets :
    (Route.ofSpec "ssh=[::1]:22" = .ok (Route.backed "ssh" "::1" 22) ∧
      Route.HasHost "ssh=[::1]:22") ∧
    (Route.ofSpec "ssh=[]:22" = .ok (Route.backed "ssh" "" 22) ∧ ¬ Route.HasHost "ssh=[]:22") ∧
    ∃ settings, ofEnvironment bracketsOnly = .ok settings ∧
      ¬ ∀ text items, bracketsOnly.text? (variableName "PROTOCOLS") = some text →
        IsList text items → ∀ item ∈ items, Route.HasHost item := by
  have hread : Route.ofSpec "ssh=[::1]:22" = .ok (Route.backed "ssh" "::1" 22) := rfl
  refine ⟨⟨hread, ?_⟩, ⟨ofSpec_brackets, ?_⟩, _, ofEnvironment_bracketsOnly, ?_⟩
  · obtain ⟨-, host, hhost, hiff⟩ := (names_and_hosts _ []).1 _ hread
    obtain rfl := Option.some.inj hhost
    exact hiff.1 (by decide)
  · obtain ⟨-, host, hhost, hiff⟩ := (names_and_hosts _ []).1 _ ofSpec_brackets
    obtain rfl := Option.some.inj hhost
    exact fun hhas => hiff.2 hhas rfl
  · obtain ⟨-, hiff⟩ := (names_and_hosts "" _).2 _ ofEnvironment_bracketsOnly
    intro hall
    exact hiff.2 hall _ List.mem_cons_self rfl

/-- **A blank host is read.** Where brackets stand for the host, nothing is left of it. -/
theorem blank_host_is_read :
    (¬ ∀ spec route, Route.ofSpec spec = .ok route →
      route.name ≠ "" ∧ ∃ host, route.host = some host ∧ host ≠ "") ∧
    ¬ ∀ env settings, ofEnvironment env = .ok settings → ∀ route ∈ settings.routes,
      route.name ≠ "" ∧ ∃ host, route.host = some host ∧ host ≠ "" := by
  constructor
  · intro hall
    obtain ⟨-, host, hhost, hne⟩ := hall _ _ ofSpec_brackets
    exact hne (Option.some.inj hhost).symm
  · intro hall
    obtain ⟨-, host, hhost, hne⟩ := hall _ _ ofEnvironment_bracketsOnly _ List.mem_cons_self
    exact hne (Option.some.inj hhost).symm

end Settings

end Switchboard
