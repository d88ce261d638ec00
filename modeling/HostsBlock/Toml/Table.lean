/-!
# Tables of settings

A document is a table of named items. Tables can be opened by a header, come into being because a
header or a key mentions something inside them, or be written out in one line. How a table came into
being decides what may still be added to it: a table that was opened is not opened again, a table
that was written out is complete, and a key with dots only adds to tables made by such keys.
-/

namespace HostsBlock.Toml

/-- How a table came into being. -/
inductive Origin where
  /-- Opened by a header, or the document itself. -/
  | header
  /-- Mentioned by a header of something inside it. -/
  | implied
  /-- Mentioned by a key with dots. -/
  | dotted
deriving DecidableEq

/-- What a name can stand for. -/
inductive Item where
  | text (s : String)
  | bool (b : Bool)
  /-- A whole number or a number with a fraction. -/
  | number
  /-- A date, a time, or both. -/
  | date
  | list (items : List Item)
  /-- A table that is written out and complete. -/
  | inline (members : List (String × Item))
  | table (origin : Origin) (members : List (String × Item))
  /-- Tables opened one after the other under the same name. -/
  | tables (elements : List (List (String × Item)))
deriving Inhabited

/-- Named items. -/
abbrev Members := List (String × Item)

namespace Members

/-- Puts an item in the place of the one of its name, or at the end. -/
def put (name : String) (item : Item) : Members → Members
  | [] => [(name, item)]
  | m :: rest => if m.1 = name then (name, item) :: rest else m :: put name item rest

/-- Adds an item under a new name. -/
def add? (name : String) (item : Item) (members : Members) : Option Members :=
  if (members.lookup name).isSome then none else some (members ++ [(name, item)])

/-- Changes the table at a path and gives back what the change gives. Tables on the way that are not
there are made, of several under one name the last is meant, and `byKey` tells whether the path
comes from a key with dots rather than from a header. -/
def changeAt? {α : Type} (byKey : Bool) (change : Origin → Members → Option (Members × α)) :
    List String → Origin → Members → Option (Members × α)
  | [], origin, members => change origin members
  | name :: path, _, members =>
    match members.lookup name with
    | none => do
      let origin := if byKey then .dotted else .implied
      let (inner, result) ← changeAt? byKey change path origin []
      pure (members ++ [(name, .table origin inner)], result)
    | some (.table origin inner) =>
      if byKey && origin == .header then none
      else do
        let (inner, result) ← changeAt? byKey change path origin inner
        pure (put name (.table origin inner) members, result)
    | some (.tables elements) => do
      let (inner, result) ← changeAt? byKey change path .header (← elements.getLast?)
      pure (put name (.tables (elements.dropLast ++ [inner])) members, result)
    | some _ => none

/-- Adds an item under a key, whose parts before the last lead through tables made by keys. -/
def addAt? (path : List String) (name : String) (item : Item) (members : Members) :
    Option Members :=
  (changeAt? true
    (fun origin inner =>
      if (origin == .dotted) == path.isEmpty then none
      else (inner.add? name item).map (·, ()))
    path .header members).map (·.1)

end Members

/-- A document in the making: the tables so far, and the one that is open. -/
structure Document where
  root : Members
  /-- The path of the open table, empty before the first header. -/
  path : List String
  /-- Whether the open table is one of several under its name. -/
  isElement : Bool
  /-- The members of the open table. -/
  members : Members

namespace Document

/-- The document in which nothing is written yet. -/
def empty : Document := ⟨[], [], false, []⟩

/-- The tables with the open one in its place. -/
def closed? (d : Document) : Option Members :=
  match d.path.getLast? with
  | none => some d.members
  | some name =>
    (Members.changeAt? false
      (fun _ inner =>
        if d.isElement then
          match inner.lookup name with
          | none => some (inner ++ [(name, .tables [d.members])], ())
          | some (.tables elements) =>
            some (inner.put name (.tables (elements ++ [d.members])), ())
          | some _ => none
        else (inner.add? name (.table .header d.members)).map (·, ()))
      d.path.dropLast .header d.root).map (·.1)

/-- Opens a table; one that was only mentioned so far keeps its members. -/
def openTable? (d : Document) (path : List String) : Option Document := do
  let root ← d.closed?
  let name ← path.getLast?
  let (root, members) ← Members.changeAt? false
    (fun _ inner =>
      match inner.lookup name with
      | none => some (inner, [])
      | some (.table .implied members) => some (inner.filter (·.1 ≠ name), members)
      | some _ => none)
    path.dropLast .header root
  pure ⟨root, path, false, members⟩

/-- Opens one more table under a name. -/
def openElement? (d : Document) (path : List String) : Option Document := do
  let root ← d.closed?
  let name ← path.getLast?
  let (root, _) ← Members.changeAt? false
    (fun _ inner =>
      match inner.lookup name with
      | none | some (.tables _) => some (inner, ())
      | some _ => none)
    path.dropLast .header root
  pure ⟨root, path, true, []⟩

/-- Adds an item to the open table. -/
def add? (d : Document) (path : List String) (name : String) (item : Item) : Option Document := do
  pure { d with members := ← d.members.addAt? path name item }

end Document

end HostsBlock.Toml
