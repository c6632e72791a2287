import Mathlib.Data.List.Nodup
import Mathlib.Logic.Relation
import Switchboard.Settings.Document

/-!
# Settings as documents

A document gives settings by the values of its fields, where a field that is left out has its
default. So what gives settings once gives the same settings when its members are put in another
order, when a field with its default is left out, and when a field has its other name
(`Settings.Restated`): none of these changes the value of a field. On the other side, a member that
is no field spoils a document, and so do two names for one field (`Settings.Spoiled`).

**Fields and defaults.** Both readers see nothing of an object but its fields, filled up with the
defaults (`Json.filled`); `Route.ofFields` and `Settings.ofFields` are what they make of them.

**Writing.** The fields that are left out in writing are those whose value the defaults fill in
again, for a route and for the whole (`Route.ofJson?_toJson`, `Settings.ofJson?_toJson`).

Main result: `Settings.document_faithful`.
-/

namespace Switchboard

open Relation

/-! ## Objects -/

namespace Json

def members : Json → List (String × Json)
  | object members => members
  | _ => []

variable {names : List String} {aliases : List (String × String)}
  {defaults members others fields : List (String × Json)}

def toField (aliases : List (String × String)) (member : String × Json) : String × Json :=
  (fieldName aliases member.1, member.2)

/-- The fields of a record: each has one of the names, and no two have the same. -/
structure IsRecord (names : List String) (fields : List (String × Json)) : Prop where
  known : ∀ name ∈ fields.map (·.1), name ∈ names
  once : (fields.map (·.1)).Nodup

theorem fields?_eq_some :
    (object members).fields? names aliases = some fields ↔
      members.map (toField aliases) = fields ∧ IsRecord names fields := by
  show (if ((members.map (toField aliases)).all fun field => names.contains field.1) ∧
      ((members.map (toField aliases)).map (·.1)).Nodup
    then some (members.map (toField aliases)) else none) = some fields ↔ _
  rw [Option.ite_none_right_eq_some, Option.some_inj]
  have hall : ((members.map (toField aliases)).all fun field => names.contains field.1) = true ↔
      ∀ name ∈ (members.map (toField aliases)).map (·.1), name ∈ names := by
    simp only [List.all_eq_true, List.contains_iff_mem, List.forall_mem_map]
  rw [hall]
  constructor
  · rintro ⟨⟨hknown, honce⟩, rfl⟩
    exact ⟨rfl, hknown, honce⟩
  · rintro ⟨rfl, hknown, honce⟩
    exact ⟨⟨hknown, honce⟩, rfl⟩

/-- Without second names, the fields are the members. -/
theorem fields?_plain :
    (object members).fields? names [] = some fields ↔ members = fields ∧ IsRecord names fields := by
  have hsame : members.map (toField []) = members := List.map_id members
  rw [fields?_eq_some, hsame]

theorem lookup_cons_eq (name key : String) (value : Json) :
    ((key, value) :: fields).lookup name =
      if name = key then some value else fields.lookup name := by
  rw [List.lookup_cons]
  by_cases hname : name = key
  · simp [hname]
  · have hne : (name == key) = false := by simpa using hname
    rw [hne, if_neg hname]

/-- A field's value is the only one that is written under its name. -/
theorem lookup_eq_some_iff (h : (fields.map (·.1)).Nodup) {name : String} {value : Json} :
    fields.lookup name = some value ↔ (name, value) ∈ fields := by
  induction fields with
  | nil => simp
  | cons field fields ih =>
    obtain ⟨key, other⟩ := field
    simp only [List.map_cons, List.nodup_cons, List.mem_map, not_exists, not_and] at h
    rw [lookup_cons_eq, List.mem_cons]
    by_cases hkey : name = key
    · subst hkey
      have habsent : (name, value) ∉ fields := fun hmem => h.1 _ hmem rfl
      simp [habsent, eq_comm]
    · simp [hkey, ih h.2]

theorem lookup_perm (h : (fields.map (·.1)).Nodup) (hperm : fields.Perm others) (name : String) :
    others.lookup name = fields.lookup name := by
  have hothers : (others.map (·.1)).Nodup := (hperm.map _).nodup_iff.1 h
  apply Option.ext
  intro value
  rw [lookup_eq_some_iff h, lookup_eq_some_iff hothers, hperm.mem_iff]

/-- The value of a field, or its default. -/
def filled (defaults fields : List (String × Json)) (name : String) : Option Json :=
  (fields ++ defaults).lookup name

theorem filled_eq (name : String) :
    filled defaults fields name = (fields.lookup name).or (defaults.lookup name) :=
  List.lookup_append

theorem IsRecord.sublist (h : IsRecord names fields) (hsub : others.Sublist fields) :
    IsRecord names others where
  known name hname := h.known name ((hsub.map _).subset hname)
  once := h.once.sublist (hsub.map _)

theorem IsRecord.perm (h : IsRecord names fields) (hperm : fields.Perm others) :
    IsRecord names others where
  known name hname := h.known name ((hperm.map _).mem_iff.2 hname)
  once := (hperm.map _).nodup_iff.1 h.once

section Middle

variable {before after : List (String × Json)} {name : String} {value : Json}

theorem filled_middle (h : IsRecord names (before ++ (name, value) :: after)) (key : String) :
    filled defaults (before ++ (name, value) :: after) key =
      if key = name then some value else filled defaults (before ++ after) key := by
  rw [filled_eq, filled_eq, ← lookup_perm h.once List.perm_middle, lookup_cons_eq]
  by_cases hkey : key = name
  · simp [hkey]
  · simp [hkey]

/-- A field with its default need not be there. -/
theorem filled_leftOut (h : IsRecord names (before ++ (name, value) :: after))
    (hvalue : defaults.lookup name = some value) :
    filled defaults (before ++ after) = filled defaults (before ++ (name, value) :: after) := by
  have habsent : (before ++ after).lookup name = none := by
    have honce := (h.perm List.perm_middle).once
    rw [List.map_cons, List.nodup_cons] at honce
    rw [List.lookup_eq_none_iff]
    intro field hfield
    have hne : name ≠ field.1 := by
      intro heq
      exact honce.1 (List.mem_map.2 ⟨field, hfield, heq.symm⟩)
    simpa using hne
  funext key
  rw [filled_middle h]
  by_cases hkey : key = name
  · rw [if_pos hkey, hkey, filled_eq, habsent, hvalue, Option.none_or]
  · rw [if_neg hkey]

theorem IsRecord.replace (h : IsRecord names (before ++ (name, value) :: after)) (other : Json) :
    IsRecord names (before ++ (name, other) :: after) where
  known := by simpa using h.known
  once := by simpa using h.once

end Middle

/-- Ways to write an object that say the same. -/
inductive Restated (aliases : List (String × String)) (defaults : List (String × Json)) :
    List (String × Json) → List (String × Json) → Prop
  | reorder {members others : List (String × Json)} : members.Perm others →
      Restated aliases defaults members others
  | leaveOut {before after : List (String × Json)} {key : String} {value : Json} :
      defaults.lookup (fieldName aliases key) = some value →
      Restated aliases defaults (before ++ (key, value) :: after) (before ++ after)
  | respell {before after : List (String × Json)} {key other : String} {value : Json} :
      fieldName aliases other = fieldName aliases key →
      Restated aliases defaults (before ++ (key, value) :: after)
        (before ++ (other, value) :: after)

theorem Restated.fields? (h : Restated aliases defaults members others)
    (hfields : (object members).fields? names aliases = some fields) :
    ∃ fields', (object others).fields? names aliases = some fields' ∧
      filled defaults fields' = filled defaults fields := by
  obtain ⟨rfl, hrecord⟩ := fields?_eq_some.1 hfields
  cases h with
  -- No name occurs twice, so looking one up does not depend on the order.
  | reorder hperm =>
    have hmap := hperm.map (toField aliases)
    refine ⟨_, fields?_eq_some.2 ⟨rfl, hrecord.perm hmap⟩, ?_⟩
    funext name
    rw [filled_eq, filled_eq, lookup_perm hrecord.once hmap]
  | @leaveOut before after key value hvalue =>
    have hsub : (before ++ after).Sublist (before ++ (key, value) :: after) :=
      (List.sublist_cons_self _ _).append_left _
    refine ⟨_, fields?_eq_some.2 ⟨rfl, hrecord.sublist (hsub.map _)⟩, ?_⟩
    rw [List.map_append, List.map_cons] at hrecord
    rw [List.map_append, List.map_append, List.map_cons]
    exact filled_leftOut hrecord hvalue
  | respell hname =>
    refine ⟨_, fields?_eq_some.2 ⟨?_, hrecord⟩, rfl⟩
    simp [toField, hname]

theorem Restated.bind_fields? {α : Type} {read : (String → Option Json) → Option α} {x : α}
    (h : Restated aliases defaults members others)
    (hx : ((object members).fields? names aliases).bind
      (fun fields => read (filled defaults fields)) = some x) :
    ((object others).fields? names aliases).bind
      (fun fields => read (filled defaults fields)) = some x := by
  obtain ⟨fields, hfields, hread⟩ := Option.bind_eq_some_iff.1 hx
  obtain ⟨fields', hfields', hfilled⟩ := h.fields? hfields
  rw [hfields', Option.bind_some, hfilled, hread]

theorem fields?_of_stranger {key : String} {value : Json} (hmem : (key, value) ∈ members)
    (hkey : fieldName aliases key ∉ names) : (object members).fields? names aliases = none := by
  rw [Option.eq_none_iff_forall_ne_some]
  intro fields hfields
  obtain ⟨rfl, hrecord⟩ := fields?_eq_some.1 hfields
  exact hkey (hrecord.known _ (List.mem_map_of_mem (List.mem_map_of_mem hmem)))

theorem fields?_of_twice {key other : String} {value second : Json} (hmem : (key, value) ∈ members)
    (hother : (other, second) ∈ members) (hne : key ≠ other)
    (hsame : fieldName aliases key = fieldName aliases other) :
    (object members).fields? names aliases = none := by
  rw [Option.eq_none_iff_forall_ne_some]
  intro fields hfields
  obtain ⟨rfl, hrecord⟩ := fields?_eq_some.1 hfields
  have honce := hrecord.once
  rw [List.map_map] at honce
  have hone := List.inj_on_of_nodup_map honce hmem hother hsame
  exact hne (congrArg Prod.fst hone)

/-- Some of the fields, in their order and under their own names. -/
theorem fields?_of_sublist (hnames : names.Nodup)
    (hown : ∀ name ∈ names, fieldName aliases name = name)
    (h : (members.map (·.1)).Sublist names) :
    (object members).fields? names aliases = some members := by
  refine fields?_eq_some.2 ⟨?_, fun name hname => h.subset hname, h.nodup hnames⟩
  have hsame : ∀ member ∈ members, toField aliases member = member := by
    intro member hmember
    rw [toField, hown member.1 (h.subset (List.mem_map_of_mem hmember))]
  rw [List.map_congr_left hsame, List.map_id']

theorem field?_eq {α : Type} {read : Json → Option α} {default : α} {name : String}
    (h : (defaults.lookup name).bind read = some default) :
    field? fields name read default = (filled defaults fields name).bind read := by
  rw [field?, filled_eq]
  cases hfield : fields.lookup name with
  | none => exact h.symm
  | some value => rfl

/-! ### Values -/

theorem natBelow?_nat {bound n : Nat} (h : n < bound) : (nat n).natBelow? bound = some ⟨n, h⟩ :=
  dif_pos h

@[simp] theorem uint8?_nat (n : UInt8) : uint8? (nat n.toNat) = some n := by
  rw [uint8?, natBelow?_nat n.toNat_lt]
  rfl

@[simp] theorem uint16?_nat (n : UInt16) : uint16? (nat n.toNat) = some n := by
  rw [uint16?, natBelow?_nat n.toNat_lt]
  rfl

@[simp] theorem uint64?_nat (n : UInt64) : uint64? (nat n.toNat) = some n := by
  rw [uint64?, natBelow?_nat n.toNat_lt]
  rfl

/-- A value that may be missing, with `null` for a missing one. -/
theorem nullable?_getD {α : Type} {toJson : α → Json} {read : Json → Option α}
    (h : ∀ x, nullable? read (toJson x) = some (some x)) (value : Option α) :
    nullable? read ((value.map toJson).getD null) = some value := by
  cases value with
  | none => rfl
  | some x => exact h x

theorem nullable?_string (text : String) : nullable? text? (string text) = some (some text) := rfl

theorem nullable?_nat {α : Type} {read : Json → Option α} {n : Nat} {x : α}
    (h : read (nat n) = some x) : nullable? read (nat n) = some (some x) := by
  show (read (nat n)).map some = some (some x)
  rw [h, Option.map_some]

theorem mapM_map_eq {α β : Type} {f : α → β} {g : β → Option α} (h : ∀ x, g (f x) = some x)
    (items : List α) : (items.map f).mapM g = some items := by
  induction items with
  | nil => rfl
  | cons x items ih => simp [h, ih]

theorem exists_of_mapM_eq_some {α β : Type} {f : α → Option β} {items : List α} {out : List β}
    (h : items.mapM f = some out) {x : α} (hx : x ∈ items) : ∃ y, f x = some y := by
  induction items generalizing out with
  | nil => cases hx
  | cons item items ih =>
    simp only [List.mapM_cons, Option.bind_eq_bind, Option.bind_eq_some_iff] at h
    obtain ⟨y, hy, ys, hys, -⟩ := h
    rcases List.mem_cons.1 hx with rfl | hx
    · exact ⟨y, hy⟩
    · exact ih hys hx

@[simp] theorem texts?_strings (texts : List String) : texts? (strings texts) = some texts := by
  have hread : ∀ text, text? (string text) = some text := fun _ => rfl
  exact mapM_map_eq hread texts

/-- A list that may be left out, with the empty one where it is. -/
theorem texts?_getD (texts : List String) :
    ((if texts = [] then none else some (strings texts)).getD (array [])).texts? = some texts := by
  by_cases hempty : texts = []
  · subst hempty
    rfl
  · rw [if_neg hempty, Option.getD_some, texts?_strings]

end Json

/-! ## Routes -/

namespace Route

/-- What fills in the fields of a route. The name has no default. -/
def defaults : List (String × Json) :=
  [("host", .null), ("port", .null), ("probe", .null), ("min_length", .null),
    ("sni_hostnames", .array []), ("alpn_protocols", .array []), ("regex_patterns", .array []),
    ("log_level", .nat defaultLogLevel.toNat)]

def ofFields (value? : String → Option Json) : Option Route := do
  let name ← (value? "name").bind Json.text?
  let host ← (value? "host").bind (Json.nullable? Json.text?)
  let port ← (value? "port").bind (Json.nullable? Json.uint16?)
  let probe ← (value? "probe").bind (Json.nullable? Json.text?)
  let minLength ← (value? "min_length").bind (Json.nullable? Json.uint64?)
  let hosts ← (value? "sni_hostnames").bind Json.texts?
  let protocols ← (value? "alpn_protocols").bind Json.texts?
  let patterns ← (value? "regex_patterns").bind Json.texts?
  let logLevel ← (value? "log_level").bind Json.uint8?
  return { name, host, port, probe, minLength, hosts, protocols, patterns, logLevel }

theorem ofJson?_eq (json : Json) :
    ofJson? json = (json.fields? fieldNames fieldAliases).bind fun fields =>
      ofFields (Json.filled defaults fields) := by
  rw [ofJson?]
  cases json.fields? fieldNames fieldAliases with
  | none => rfl
  | some fields =>
    have hname : Json.filled defaults fields "name" = fields.lookup "name" := by
      rw [Json.filled_eq]
      exact Option.or_none
    have hfield {α : Type} {name : String} {read : Json → Option α} {default : α}
        (h : (defaults.lookup name).bind read = some default) :
        Json.field? fields name read default = (Json.filled defaults fields name).bind read :=
      Json.field?_eq h
    simp only [Option.bind_eq_bind, Option.bind_some, ofFields, hname]
    rw [hfield, hfield, hfield, hfield, hfield, hfield, hfield, hfield, Option.bind_assoc]
    all_goals rfl

/-- Ways to write a route that say the same. -/
inductive Restated : List (String × Json) → List (String × Json) → Prop
  | reorder {members others : List (String × Json)} : members.Perm others → Restated members others
  /-- A field with its default is left out. -/
  | leaveOut {before after : List (String × Json)} {key : String} {value : Json} :
      defaults.lookup key = some value →
      Restated (before ++ (key, value) :: after) (before ++ after)
  /-- The least length has its other name. -/
  | rename {before after : List (String × Json)} {value : Json} :
      Restated (before ++ ("min_length", value) :: after) (before ++ ("minlength", value) :: after)
  /-- It has its own name again. -/
  | renameBack {before after : List (String × Json)} {value : Json} :
      Restated (before ++ ("minlength", value) :: after) (before ++ ("min_length", value) :: after)

theorem fieldName_of_default {key : String} {value : Json}
    (h : defaults.lookup key = some value) : Json.fieldName fieldAliases key = key := by
  have hne : key ≠ "minlength" := by
    rintro rfl
    cases h
  simp [Json.fieldName, fieldAliases, hne]

theorem Restated.json {members others : List (String × Json)} (h : Restated members others) :
    Json.Restated fieldAliases defaults members others := by
  cases h with
  | reorder hperm => exact .reorder hperm
  | leaveOut hvalue => exact .leaveOut ((fieldName_of_default hvalue).symm ▸ hvalue)
  | rename | renameBack => exact .respell rfl

theorem Restated.ofJson? {members others : List (String × Json)} {route : Route}
    (h : Restated members others) (hroute : ofJson? (.object members) = some route) :
    ofJson? (.object others) = some route := by
  rw [ofJson?_eq] at hroute ⊢
  exact h.json.bind_fields? hroute

theorem names_optionalField {α : Type} (name : String) (toJson : α → Json) (value : Option α) :
    ((optionalField name toJson value).map (·.1)).Sublist [name] := by
  cases value <;> simp [optionalField]

theorem names_listField (name : String) (texts : List String) :
    ((listField name texts).map (·.1)).Sublist [name] := by
  rw [listField]
  split <;> simp

theorem lookup_optionalField {α : Type} (name key : String) (toJson : α → Json) (value : Option α) :
    (optionalField name toJson value).lookup key =
      if key = name then value.map toJson else none := by
  cases value with
  | none => simp [optionalField]
  | some value => simp [optionalField, Json.lookup_cons_eq]

theorem lookup_listField (name key : String) (texts : List String) :
    (listField name texts).lookup key =
      if key = name ∧ texts ≠ [] then some (.strings texts) else none := by
  cases texts with
  | nil => simp [listField]
  | cons text texts => simp [listField, Json.lookup_cons_eq]

theorem names_toJson (route : Route) : (route.toJson.members.map (·.1)).Sublist fieldNames := by
  simp only [toJson, Json.members, List.map_append]
  exact ((((((((List.Sublist.refl ["name"]).append (names_optionalField "host" _ _)).append
    (names_optionalField "port" _ _)).append (names_optionalField "probe" _ _)).append
    (names_optionalField "min_length" _ _)).append (names_listField "sni_hostnames" _)).append
    (names_listField "alpn_protocols" _)).append (names_listField "regex_patterns" _)).append
    (List.Sublist.refl ["log_level"])

theorem ofJson?_toJson (route : Route) : ofJson? route.toJson = some route := by
  have hfields : route.toJson.fields? fieldNames fieldAliases = some route.toJson.members :=
    Json.fields?_of_sublist (by decide) (by decide) route.names_toJson
  rw [ofJson?_eq, hfields, Option.bind_some]
  simp only [ofFields, Json.filled_eq, toJson, Json.members, List.lookup_append,
    lookup_optionalField, lookup_listField, Json.lookup_cons_eq, defaults]
  simp [Json.nullable?_getD Json.nullable?_string, Json.texts?_getD,
    Json.nullable?_getD fun port => Json.nullable?_nat (Json.uint16?_nat port),
    Json.nullable?_getD fun n => Json.nullable?_nat (Json.uint64?_nat n)]
  rfl

/-- What the object of a route cannot have: a member that is no field, or both names of one. -/
inductive Spoiled : List (String × Json) → Prop
  | stranger {members : List (String × Json)} {key : String} {value : Json} :
      (key, value) ∈ members → key ∉ fieldNames → key ≠ "minlength" → Spoiled members
  | twice {members : List (String × Json)} {value other : Json} :
      ("min_length", value) ∈ members → ("minlength", other) ∈ members → Spoiled members

theorem Spoiled.ofJson? {members : List (String × Json)} (h : Spoiled members) :
    ofJson? (.object members) = none := by
  have hnone : (Json.object members).fields? fieldNames fieldAliases = none := by
    cases h with
    | @stranger key _ hmem hkey halias =>
      have hown : Json.fieldName fieldAliases key = key := by
        simp [Json.fieldName, fieldAliases, halias]
      exact Json.fields?_of_stranger hmem (hown.symm ▸ hkey)
    | twice hmem hother => exact Json.fields?_of_twice hmem hother (by decide) (by decide)
  rw [ofJson?_eq, hnone, Option.bind_none]

end Route

/-! ## Settings -/

namespace Settings

/-- What fills in the fields of settings: the members of the default ones. -/
def defaults : List (String × Json) := default.toJson.members

def ofFields (value? : String → Option Json) : Option Settings := do
  let listen ← (value? "listen").bind Json.texts?
  let timeout ← (value? "timeout").bind Json.uint64?
  let onTimeout ← (value? "on_timeout").bind Json.text?
  let verbose ← (value? "verbose").bind Json.uint8?
  let logLevel ← (value? "log_level").bind Json.text?
  let bufferSize ← (value? "buffer_size").bind Json.uint64?
  let connectTimeout ← (value? "connect_timeout").bind Json.uint64?
  let routes ← (value? "protocols").bind routes?
  return { listen, timeout, onTimeout, verbose, logLevel, bufferSize, connectTimeout, routes }

theorem ofJson?_eq (json : Json) :
    ofJson? json = (json.fields? fieldNames []).bind fun fields =>
      ofFields (Json.filled defaults fields) := by
  rw [ofJson?]
  cases json.fields? fieldNames [] with
  | none => rfl
  | some fields =>
    have hfield {α : Type} {name : String} {read : Json → Option α} {value : α}
        (h : (defaults.lookup name).bind read = some value) :
        Json.field? fields name read value = (Json.filled defaults fields name).bind read :=
      Json.field?_eq h
    simp only [Option.bind_eq_bind, Option.bind_some, ofFields]
    rw [hfield, hfield, hfield, hfield, hfield, hfield, hfield, hfield]
    all_goals rfl

@[simp] theorem routes?_written (routes : List Route) :
    routes? (.array (routes.map Route.toJson)) = some routes :=
  Json.mapM_map_eq Route.ofJson?_toJson routes

theorem ofJson?_toJson (settings : Settings) : ofJson? settings.toJson = some settings := by
  have hfields : settings.toJson.fields? fieldNames [] = some settings.toJson.members :=
    Json.fields?_of_sublist (by decide) (by decide) (List.Sublist.refl fieldNames)
  rw [ofJson?_eq, hfields, Option.bind_some]
  simp only [ofFields, Json.filled_eq, toJson, Json.members, Json.lookup_cons_eq]
  simp
  rfl

/-! ### Restated documents -/

/-- Ways to write a document that say the same: changes of the whole, and of one of its routes. -/
inductive Restated : Json → Json → Prop
  | reorder {members others : List (String × Json)} : members.Perm others →
      Restated (.object members) (.object others)
  | leaveOut {before after : List (String × Json)} {key : String} {value : Json} :
      defaults.lookup key = some value →
      Restated (.object (before ++ (key, value) :: after)) (.object (before ++ after))
  | route {before after members others : List (String × Json)} {first rest : List Json} :
      Route.Restated members others →
      Restated
        (.object (before ++ ("protocols", .array (first ++ .object members :: rest)) :: after))
        (.object (before ++ ("protocols", .array (first ++ .object others :: rest)) :: after))

theorem ofFields_congr {value? other? : String → Option Json}
    (h : ∀ name, name ≠ "protocols" → other? name = value? name)
    (hroutes : (other? "protocols").bind routes? = (value? "protocols").bind routes?) :
    ofFields other? = ofFields value? := by
  simp only [ofFields, hroutes]
  rw [h, h, h, h, h, h, h]
  all_goals decide

theorem routes?_of_ofFields {value? : String → Option Json} {settings : Settings}
    (h : ofFields value? = some settings) :
    (value? "protocols").bind routes? = some settings.routes := by
  simp only [ofFields, Option.bind_eq_bind, Option.bind_eq_some_iff] at h
  obtain ⟨_, -, _, -, _, -, _, -, _, -, _, -, _, -, routes, hroutes, h⟩ := h
  obtain rfl := Option.some.inj h
  exact Option.bind_eq_some_iff.2 hroutes

/-- The routes of the table are read one by one. -/
theorem exists_route {items : List Json} {routes : List Route}
    (h : routes? (.array items) = some routes) {item : Json} (hitem : item ∈ items) :
    ∃ route, Route.ofJson? item = some route :=
  Json.exists_of_mapM_eq_some h hitem

/-- A route that says the same leaves the table as it is. -/
theorem routes?_of_restated {members others : List (String × Json)} {first rest : List Json}
    {routes : List Route} (h : Route.Restated members others)
    (hroutes : routes? (.array (first ++ .object members :: rest)) = some routes) :
    routes? (.array (first ++ .object others :: rest)) = some routes := by
  obtain ⟨route, hroute⟩ := exists_route hroutes (List.mem_append_right first List.mem_cons_self)
  have hother : Route.ofJson? (.object others) = some route := h.ofJson? hroute
  rw [← hroutes]
  show (first ++ .object others :: rest).mapM Route.ofJson? =
    (first ++ .object members :: rest).mapM Route.ofJson?
  rw [List.mapM_append, List.mapM_append, List.mapM_cons, List.mapM_cons, hother, hroute]

theorem Restated.ofJson? {json other : Json} {settings : Settings} (h : Restated json other)
    (hsettings : ofJson? json = some settings) : ofJson? other = some settings := by
  rw [ofJson?_eq] at hsettings ⊢
  cases h with
  | reorder hperm => exact (Json.Restated.reorder hperm).bind_fields? hsettings
  | @leaveOut before after key value hvalue =>
    have h : Json.Restated [] defaults (before ++ (key, value) :: after) (before ++ after) :=
      .leaveOut hvalue
    exact h.bind_fields? hsettings
  | @route before after members others first rest h =>
    obtain ⟨fields, hfields, hread⟩ := Option.bind_eq_some_iff.1 hsettings
    obtain ⟨rfl, hrecord⟩ := Json.fields?_plain.1 hfields
    -- Only the member with the routes differs, and its value reads back as the same table.
    have hother := hrecord.replace (.array (first ++ .object others :: rest))
    rw [Json.fields?_plain.2 ⟨rfl, hother⟩, Option.bind_some, ← hread]
    have htable := routes?_of_ofFields hread
    rw [Json.filled_middle hrecord, if_pos rfl, Option.bind_some] at htable
    apply ofFields_congr
    · intro name hname
      rw [Json.filled_middle hother, Json.filled_middle hrecord, if_neg hname, if_neg hname]
    · rw [Json.filled_middle hother, Json.filled_middle hrecord, if_pos rfl, if_pos rfl,
        Option.bind_some, Option.bind_some, htable, routes?_of_restated h htable]

/-! ### Spoiled documents -/

/-- What a document cannot have: a member that is no field, or a route that is spoiled. -/
inductive Spoiled : Json → Prop
  | stranger {members : List (String × Json)} {key : String} {value : Json} :
      (key, value) ∈ members → key ∉ fieldNames → Spoiled (.object members)
  | route {members fields : List (String × Json)} {items : List Json} :
      ("protocols", .array items) ∈ members → .object fields ∈ items → Route.Spoiled fields →
      Spoiled (.object members)

theorem Spoiled.ofJson? {json : Json} (h : Spoiled json) : ofJson? json = none := by
  rw [Option.eq_none_iff_forall_ne_some]
  intro settings hsettings
  rw [ofJson?_eq] at hsettings
  obtain ⟨fields, hfields, hread⟩ := Option.bind_eq_some_iff.1 hsettings
  cases h with
  | stranger hmem hkey =>
    rw [Json.fields?_of_stranger hmem hkey] at hfields
    cases hfields
  | route hmem hitem hspoiled =>
    obtain ⟨rfl, hrecord⟩ := Json.fields?_plain.1 hfields
    have htable := routes?_of_ofFields hread
    rw [Json.filled_eq, (Json.lookup_eq_some_iff hrecord.once).2 hmem] at htable
    obtain ⟨route, hroute⟩ := exists_route htable hitem
    rw [hspoiled.ofJson?] at hroute
    cases hroute

/-- **A document is as good as its settings.** What settings are written as is read back as them,
also after any of the changes that say the same; a document with a member that is no field, or with
both names of one, is refused. -/
theorem document_faithful (settings : Settings) :
    (∀ json, ReflTransGen Restated settings.toJson json → ofJson? json = some settings) ∧
      ∀ json, Spoiled json → ofJson? json = none := by
  refine ⟨fun json hjson => ?_, fun json hjson => hjson.ofJson?⟩
  induction hjson with
  | refl => exact ofJson?_toJson settings
  | tail _ hstep ih => exact hstep.ofJson? ih

/-- A table of one route, which waits for four bytes. -/
def patient : Settings :=
  { default with routes := [{ Route.named "ssh" with minLength := some 4 }] }

/-- The document of that table, with these members for its route. -/
def patientDocument (route : List (String × Json)) : Json :=
  .object
    [ ("listen", .strings ["0.0.0.0:443"]), ("timeout", .nat 2), ("on_timeout", .string "ssh"),
      ("verbose", .nat 0), ("log_level", .string "info"), ("buffer_size", .nat 8192),
      ("connect_timeout", .nat 10), ("protocols", .array [.object route]) ]

/-- The least length may have its other name and stand in front of the name, with the level of the
log left out. It may not have both names. -/
theorem document_faithful_patient :
    ofJson? (patientDocument [("minlength", .nat 4), ("name", .string "ssh")]) = some patient ∧
    ofJson? (patientDocument
      [("name", .string "ssh"), ("minlength", .nat 4), ("min_length", .nat 4)]) = none := by
  obtain ⟨hrestated, hspoiled⟩ := document_faithful patient
  have hroute : ∀ {members others : List (String × Json)}, Route.Restated members others →
      Restated (patientDocument members) (patientDocument others) := fun h =>
    @Restated.route (patientDocument []).members.dropLast [] _ _ [] [] h
  have hleftOut : Restated patient.toJson
      (patientDocument [("name", .string "ssh"), ("min_length", .nat 4)]) :=
    hroute (@Route.Restated.leaveOut [("name", .string "ssh"), ("min_length", .nat 4)] [] _ _ rfl)
  have hrenamed : Restated
      (patientDocument [("name", .string "ssh"), ("min_length", .nat 4)])
      (patientDocument [("name", .string "ssh"), ("minlength", .nat 4)]) :=
    hroute (@Route.Restated.rename [("name", .string "ssh")] [] _)
  have hswapped : Restated
      (patientDocument [("name", .string "ssh"), ("minlength", .nat 4)])
      (patientDocument [("minlength", .nat 4), ("name", .string "ssh")]) :=
    hroute (.reorder (.swap _ _ _))
  have htwice : Route.Spoiled
      [("name", .string "ssh"), ("minlength", .nat 4), ("min_length", .nat 4)] :=
    .twice (List.mem_of_getElem? (i := 2) rfl) (List.mem_of_getElem? (i := 1) rfl)
  exact ⟨hrestated _ (((ReflTransGen.single hleftOut).tail hrenamed).tail hswapped),
    hspoiled _ (.route (List.mem_of_getElem? (i := 7) rfl) List.mem_cons_self htwice)⟩

end Settings

end Switchboard
