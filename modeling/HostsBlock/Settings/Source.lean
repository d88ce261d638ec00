import HostsBlock.Json.Reader
import HostsBlock.Settings.Basic
import HostsBlock.Toml.Reader
import HostsBlock.Yaml.Reader

/-!
# Where settings come from

Settings can be written in three formats, which differ in what they take for a text, a truth value
or a table. Each format is turned into a common form, a source, that says for each scalar what it
can be read as; from there on the formats are alike.

A source is read strictly: a name that is known must stand at most once and hold what belongs there,
while unknown names do not matter. A table may also be written as the list of its values in order.
-/

namespace HostsBlock

/-- What a scalar can be read as. -/
structure SettingScalar where
  /-- The text, if it can be read as a text or its absence. -/
  text : Option (Option String)
  /-- The truth value, if it can be read as one. -/
  flag : Option Bool
  /-- Whether it can stand for a table without settings. -/
  isTable : Bool

/-- What a file of settings says, whatever its format. -/
inductive SettingSource where
  | scalar (s : SettingScalar)
  /-- A list; `strict` tells whether superfluous elements are an error. -/
  | list (strict : Bool) (items : List SettingSource)
  /-- A table with its names as they are written; a name that is no text is an error. -/
  | table (members : List (Option String × SettingSource))
deriving Inhabited

namespace SettingSource

/-! ## The three formats -/

mutual

/-- A value of JSON as a source. -/
def ofJson : Value → SettingSource
  | .null => .scalar ⟨some none, none, false⟩
  | .bool b => .scalar ⟨none, some b, false⟩
  | .string s => .scalar ⟨some (some s), none, false⟩
  | .int _ | .double _ => .scalar ⟨none, none, false⟩
  | .list items => .list true (ofJsonItems items)
  | .object members => .table (ofJsonMembers members)

/-- The elements of a list in JSON. -/
def ofJsonItems : List Value → List SettingSource
  | [] => []
  | v :: rest => ofJson v :: ofJsonItems rest

/-- The members of an object in JSON. -/
def ofJsonMembers : List (String × Value) → List (Option String × SettingSource)
  | [] => []
  | (name, v) :: rest => (some name, ofJson v) :: ofJsonMembers rest

end

mutual

/-- An item of TOML as a source. -/
def ofToml : Toml.Item → SettingSource
  | .text s => .scalar ⟨some (some s), none, false⟩
  | .bool b => .scalar ⟨none, some b, false⟩
  | .number => .scalar ⟨none, none, false⟩
  | .date => .scalar ⟨none, none, true⟩
  | .list items => .list false (ofTomlItems items)
  | .inline members | .table _ members => .table (ofTomlMembers members)
  | .tables elements => .list false (ofTomlTables elements)

/-- The elements of a list in TOML. -/
def ofTomlItems : List Toml.Item → List SettingSource
  | [] => []
  | item :: rest => ofToml item :: ofTomlItems rest

/-- The members of a table in TOML. -/
def ofTomlMembers : List (String × Toml.Item) → List (Option String × SettingSource)
  | [] => []
  | (name, item) :: rest => (some name, ofToml item) :: ofTomlMembers rest

/-- The tables of a list of tables in TOML. -/
def ofTomlTables : List (List (String × Toml.Item)) → List SettingSource
  | [] => []
  | members :: rest => .table (ofTomlMembers members) :: ofTomlTables rest

end

/-- A text of YAML as a scalar. Only a plain text can be a truth value or nothing. -/
def ofYamlText (tag : Option String) (content : String) (plain : Bool) : SettingScalar where
  text :=
    if !plain then some (some content)
    else match tag with
      | some "tag:yaml.org,2002:null" => if Yaml.isNullWord content then some none else none
      | some _ => some (some content)
      | none => some (if content.isEmpty || Yaml.isNullWord content then none else some content)
  flag := if plain then Yaml.bool? content else none
  isTable := plain && content.isEmpty

/-- A node of YAML as a source, with `depth` levels of tables and lists; below these nothing is
ever read. -/
def ofYaml (ctx : Yaml.Context) : (depth : Nat) → Yaml.Linked → SettingSource
  | depth, n =>
    match (ctx.target n).run 0, depth with
    | some (.text _ tag content plain, _), _ => .scalar (ofYamlText tag content plain)
    | some (.list _ _ items, _), depth + 1 => .list true (items.map (ofYaml ctx depth))
    | some (.map _ _ pairs, _), depth + 1 =>
      .table (pairs.map fun (key, value) =>
        (((ctx.key key).run 0).map (·.1), ofYaml ctx depth value))
    | some (.list .., _), 0 | some (.map .., _), 0 => .list true []
    | _, _ => .scalar ⟨none, none, false⟩

/-- A document of YAML as a source; one without anything in it stands for a table. -/
def ofYamlRoot : Option Yaml.Linked → SettingSource
  | none => .scalar ⟨some none, none, true⟩
  | some root => ofYaml (.ofRoot root) 3 root

/-! ## Reading a table -/

/-- The values of the known names in a table. -/
def members? (names : List String) (members : List (Option String × SettingSource)) :
    Option (List (Option SettingSource)) := do
  if members.any (·.1.isNone) then failure
  names.mapM fun name =>
    match members.filter (·.1 == some name) with
    | [] => some none
    | [m] => some (some m.2)
    | _ => none

/-- The values of a table in the order of the given names. -/
def values? (names : List String) : SettingSource → Option (List (Option SettingSource))
  | .table members => members? names members
  | .list strict items =>
    if strict && names.length < items.length then none
    else some (items.take names.length |>.map some)
  | .scalar s => if s.isTable then some [] else none

/-- The value at a position. -/
def valueAt (values : List (Option SettingSource)) (i : Nat) : Option SettingSource :=
  (values[i]?).join

/-- A text, which may be absent. -/
def text? : Option SettingSource → Option (Option String)
  | none => some none
  | some (.scalar s) => s.text
  | some _ => none

/-- A truth value, which may be left out. -/
def flag? : Option SettingSource → Option (Option Bool)
  | none => some none
  | some (.scalar s) => s.flag.map some
  | some _ => none

/-- The values of a table inside a table, which may be left out. -/
def section? (names : List String) : Option SettingSource → Option (List (Option SettingSource))
  | none => some []
  | some source => source.values? names

/-- The settings that a source sets. -/
def layer? (source : SettingSource) : Option SettingsLayer := do
  let parts ← source.values? ["defaults", "colors", "logging"]
  let defaults ← section? ["vars_file", "host", "stage"] (valueAt parts 0)
  let colors ← section? ["enabled"] (valueAt parts 1)
  let logging ← section? ["level"] (valueAt parts 2)
  pure
    { varsFile := ← text? (valueAt defaults 0)
      host := ← text? (valueAt defaults 1)
      stage := ← text? (valueAt defaults 2)
      colors := ← flag? (valueAt colors 0)
      logLevel := ← text? (valueAt logging 0) }

/-! ## Texts -/

/-- The settings of a text in YAML. -/
def layerOfYaml? (s : String) : Option SettingsLayer :=
  (Yaml.linked? s).bind fun root => (ofYamlRoot root).layer?

/-- The settings of a text in JSON. -/
def layerOfJson? (s : String) : Option SettingsLayer :=
  (Json.read? s Json.nestingLimit).bind fun v => (ofJson v).layer?

/-- The settings of a text in TOML. -/
def layerOfToml? (s : String) : Option SettingsLayer :=
  (Toml.parse? s).bind fun members => (ofToml (.table .header members)).layer?

end SettingSource

end HostsBlock
