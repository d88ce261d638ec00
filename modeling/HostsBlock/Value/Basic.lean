import HostsBlock.Binary64
import HostsBlock.Keyed

/-!
# Values

The value of a variable: what a data file, a command line or a caller can supply for it. There are
no dates and no references, only scalars, lists and objects with named members.

An object that was read from data holds its members in the order of their names and each name
once, which `Value.ofMembers` arranges. An object built for output holds them in the order in
which they are to be written.
-/

namespace HostsBlock

/-- A value, as data formats know it. -/
inductive Value where
  | null
  | bool (b : Bool)
  /-- A whole number between −2 ^ 63 and 2 ^ 64 − 1. -/
  | int (n : Int)
  | double (x : Binary64)
  | string (s : String)
  | list (items : List Value)
  | object (members : List (String × Value))
deriving Inhabited

namespace Value

/-- The object of the given members; of several with one name the last counts. -/
def ofMembers (members : List (String × Value)) : Value := .object (Keyed.ofList (·.1) members)

mutual

/-- The value with the members of all its objects in the order of their names. -/
def sorted : Value → Value
  | .list items => .list (sortedItems items)
  | .object members => .ofMembers (sortedMembers members)
  | v => v

/-- The elements of a list with their members in order. -/
def sortedItems : List Value → List Value
  | [] => []
  | v :: rest => v.sorted :: sortedItems rest

/-- The members of an object with their own members in order. -/
def sortedMembers : List (String × Value) → List (String × Value)
  | [] => []
  | (name, v) :: rest => (name, v.sorted) :: sortedMembers rest

end

/-- Whether the value is `null`. -/
def isNull : Value → Bool
  | .null => true
  | _ => false

/-- The members of an object. -/
def members? : Value → Option (List (String × Value))
  | .object members => some members
  | _ => none

/-- The value of a member, `null` included. -/
def member? (v : Value) (name : String) : Option Value :=
  v.members?.bind fun members => (Keyed.find? (·.1) name members).map (·.2)

/-- What kind of value it is, in words. -/
def kindName : Value → String
  | .null => "null"
  | .bool _ => "boolean"
  | .int _ | .double _ => "number"
  | .string _ => "string"
  | .list _ => "list"
  | .object _ => "mapping"

/-- A text, or `null` for none. -/
def ofText? (s : Option String) : Value := (s.map Value.string).getD .null

/-- A list of texts. -/
def ofTexts (texts : List String) : Value := .list (texts.map .string)

end Value

end HostsBlock
