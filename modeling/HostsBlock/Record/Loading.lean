import HostsBlock.Files
import HostsBlock.Json.Reader
import HostsBlock.Record.Basic
import HostsBlock.Text.Blank
import HostsBlock.Yaml.Reader

/-!
# Loading variables

A record is read from the text of a document, from a file, or built up by extra variables on a
command line, each of which sets one variable or merges a whole file.

A step that fails leaves the record as it was: every function here gives back either a record or the
reason why there is none.
-/

namespace HostsBlock

/-- Why a document is no record. -/
inductive DocumentError where
  | yaml
  | json
  /-- The document is a value of another kind. -/
  | notMapping (kind : String)
deriving DecidableEq

/-- The words for an error. What exactly is wrong with a text is left open. -/
def DocumentError.message : DocumentError → String
  | .yaml => "YAML error: <detail>"
  | .json => "JSON error: <detail>"
  | .notMapping kind => "Variables must be a mapping, got " ++ kind

/-- Why variables could not be loaded. -/
inductive LoadError where
  | document (e : DocumentError)
  /-- The file at a path could not be read. -/
  | file (path : String) (e : FileError)
  /-- The file at a path holds no record. -/
  | content (path : String) (e : DocumentError)
  /-- An extra variable neither sets a variable nor names a file. -/
  | badExtra (expression : String)
deriving DecidableEq

/-- The words for an error. -/
def LoadError.message : LoadError → String
  | .document e => e.message
  | .file path e => "Failed to read variables from '" ++ path ++ "': " ++ e.message
  | .content path e => "Failed to read variables from '" ++ path ++ "': " ++ e.message
  | .badExtra expression =>
    "Invalid extra variable '" ++ expression ++ "': expected key=value or @file"

namespace Record

/-- The record that a value stands for. -/
def ofValue (v : Value) : Except DocumentError Record :=
  match ofValue? v with
  | some r => .ok r
  | none => .error (.notMapping v.kindName)

/-- The record of a text in YAML; a blank text has no variables. -/
def ofYaml (text : String) : Except DocumentError Record :=
  if Text.isBlankText text then .ok empty
  else match Yaml.parse? text with
    | some v => ofValue v
    | none => .error .yaml

/-- The record of a text in JSON. -/
def ofJson (text : String) : Except DocumentError Record :=
  match Json.parse? text Json.nestingLimit with
  | some v => ofValue v
  | none => .error .json

/-- The record of a file: JSON if the path says so, else YAML. -/
def ofFile (files : Files) (path : String) : Except LoadError Record :=
  match files path with
  | .error e => .error (.file path e)
  | .ok text =>
    let record := if Files.extension? path = some "json" then ofJson text else ofYaml text
    record.mapError (.content path)

/-- The value of an extra variable: what YAML makes of the text, or the text itself. -/
def extraValue (text : String) : Value := (Yaml.parse? text).getD (.string text)

/-- A text before and after its first equals sign. -/
def splitAtEquals? (cs : List Char) : Option (List Char × List Char) :=
  match cs.span (· ≠ '=') with
  | (before, _ :: after) => some (before, after)
  | (_, []) => none

/-- The file that an extra variable names behind an at sign. -/
def extraFile? (expression : String) : Option String :=
  match expression.toList with
  | '@' :: path => some (String.ofList path)
  | _ => none

/-- Applies an extra variable: a file behind an at sign, or a name and a value. -/
def applyExtra (files : Files) (r : Record) (expression : String) : Except LoadError Record :=
  match extraFile? expression with
  | some path => (ofFile files path).map r.extend
  | none =>
    match splitAtEquals? expression.toList with
    | some (name, value) =>
      if name.all Text.isBlank then .error (.badExtra expression)
      else .ok (r.insert (Text.trim (String.ofList name)) (extraValue (String.ofList value)))
    | none => .error (.badExtra expression)

end Record

end HostsBlock
