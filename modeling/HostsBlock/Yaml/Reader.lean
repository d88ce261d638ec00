import HostsBlock.Yaml.Node
import HostsBlock.Yaml.Resolution

/-!
# Values of YAML documents

A document is read as a value like any other: maps become objects whose names are the texts of the
keys, whatever these would stand for as values, and aliases become copies of the nodes they name.

Two limits keep a document from growing without bounds when it is read: nodes lie at most 128 levels
deep, and there are at most a hundred times as many copies as parts in the document.
-/

namespace HostsBlock.Yaml

/-! ## Anchors

An anchor is numbered by how many different names came before it, and an alias refers to the last
node of its number. The names that are known stand in a list, the latest first. -/

/-- A node whose aliases and anchors are numbers. -/
inductive Linked where
  | alias (number : Nat)
  | text (anchor : Option Nat) (tag : Option String) (content : String) (plain : Bool)
  | list (anchor : Option Nat) (tag : Option String) (items : List Linked)
  | map (anchor : Option Nat) (tag : Option String) (pairs : List (Linked × Linked))
deriving Inhabited

namespace Linked

/-- How many names are known. -/
def nameCount (numbers : List (String × Nat)) : Nat := ((numbers.map (·.1)).eraseDups).length

/-- Numbers the anchor of a node. -/
def addAnchor (numbers : List (String × Nat)) :
    Option String → Option Nat × List (String × Nat)
  | none => (none, numbers)
  | some name => (some (nameCount numbers), (name, nameCount numbers) :: numbers)

mutual

/-- Numbers the anchors and aliases of a node, given the names known before it. -/
def ofNode? (numbers : List (String × Nat)) : Node → Option (Linked × List (String × Nat))
  | .alias name => (numbers.lookup name).map fun n => (.alias n, numbers)
  | .text p content plain =>
    let (anchor, numbers) := addAnchor numbers p.anchor
    some (.text anchor p.tag content plain, numbers)
  | .list p items => do
    let (anchor, numbers) := addAnchor numbers p.anchor
    let (items, numbers) ← ofItems? numbers items
    pure (.list anchor p.tag items, numbers)
  | .map p pairs => do
    let (anchor, numbers) := addAnchor numbers p.anchor
    let (pairs, numbers) ← ofPairs? numbers pairs
    pure (.map anchor p.tag pairs, numbers)

/-- Numbers the anchors and aliases of nodes in a row. -/
def ofItems? (numbers : List (String × Nat)) :
    List Node → Option (List Linked × List (String × Nat))
  | [] => some ([], numbers)
  | item :: rest => do
    let (item, numbers) ← ofNode? numbers item
    let (rest, numbers) ← ofItems? numbers rest
    pure (item :: rest, numbers)

/-- Numbers the anchors and aliases of pairs in a row. -/
def ofPairs? (numbers : List (String × Nat)) :
    List (Node × Node) → Option (List (Linked × Linked) × List (String × Nat))
  | [] => some ([], numbers)
  | (key, value) :: rest => do
    let (key, numbers) ← ofNode? numbers key
    let (value, numbers) ← ofNode? numbers value
    let (rest, numbers) ← ofPairs? numbers rest
    pure ((key, value) :: rest, numbers)

end

/-- The anchor of a node. -/
def anchor? : Linked → Option Nat
  | .alias _ => none
  | .text anchor .. | .list anchor .. | .map anchor .. => anchor

mutual

/-- A node and all nodes in it, in the order in which they start. -/
def nodes (n : Linked) : List Linked :=
  n :: match n with
    | .list _ _ items => nodesOfItems items
    | .map _ _ pairs => nodesOfPairs pairs
    | _ => []

/-- All nodes in a row of nodes. -/
def nodesOfItems : List Linked → List Linked
  | [] => []
  | item :: rest => nodes item ++ nodesOfItems rest

/-- All nodes in a row of pairs. -/
def nodesOfPairs : List (Linked × Linked) → List Linked
  | [] => []
  | (key, value) :: rest => nodes key ++ nodes value ++ nodesOfPairs rest

end

/-- How many parts a node has: texts and aliases have one, all others a start and an end. -/
def partCount : Linked → Nat
  | .list .. | .map .. => 2
  | _ => 1

end Linked

/-! ## Values -/

/-- What the values of a document depend on. -/
structure Context where
  /-- The anchored nodes by number, the last in the document first. -/
  anchored : List (Nat × Linked)
  /-- How many copies may be made. -/
  copyLimit : Nat

/-- The context of a document. -/
def Context.ofRoot (root : Linked) : Context :=
  let nodes := root.nodes
  { anchored := (nodes.filterMap fun n => n.anchor?.map fun a => (a, n)).reverse
    copyLimit := 100 * nodes.foldl (fun count n => count + n.partCount) 0 }

/-- A computation that counts the copies made so far. -/
abbrev Copying := StateT Nat Option

/-- The node itself, or the node that an alias stands for. -/
def Context.target (ctx : Context) : Linked → Copying Linked
  | .alias number => do
    let copies := (← get) + 1
    if ctx.copyLimit < copies then failure
    set copies
    (ctx.anchored.lookup number : Option Linked)
  | n => pure n

/-- The value of a text whose type is named. -/
def tagged? (tag : String) (content : String) : Option Value :=
  match tag with
  | "tag:yaml.org,2002:bool" => (bool? content).map .bool
  | "tag:yaml.org,2002:int" =>
    match (int? content.toList).map ofInt with
    | some (.int n) => some (.int n)
    | _ => none
  | "tag:yaml.org,2002:float" =>
    match float? content with
    | some (.double x) => some (.double x)
    | some .notFinite => some .null
    | _ => none
  | "tag:yaml.org,2002:null" => if isNullWord content then some .null else none
  | tag => if tag.startsWith "!" then none else some (.string content)

/-- The value of a text. -/
def textValue? (tag : Option String) (content : String) (plain : Bool) : Option Value :=
  match tag with
  | some tag => tagged? tag content
  | none =>
    if !plain then some (.string content)
    else match resolve content with
      | .null | .notFinite => some .null
      | .bool b => some (.bool b)
      | .int n => some (.int n)
      | .double x => some (.double x)
      | .tooLarge => none
      | .text => some (.string content)

/-- Whether a list or map may carry a tag: not one of a type of its own. -/
def isOpenTag (tag : Option String) : Bool := !tag.any (·.startsWith "!")

/-- The text of a key. -/
def Context.key (ctx : Context) (n : Linked) : Copying String := do
  let .text _ _ content _ ← ctx.target n | failure
  pure content

/-- The value of a node with at most `depth` levels below it. -/
def Context.value (ctx : Context) : (depth : Nat) → Linked → Copying Value
  | 0, n => do
    let .text _ tag content plain ← ctx.target n | failure
    (textValue? tag content plain : Option Value)
  | depth + 1, n => do
    match ← ctx.target n with
    | .text _ tag content plain => (textValue? tag content plain : Option Value)
    | .list _ tag items =>
      if !isOpenTag tag then failure
      pure (.list (← items.mapM (ctx.value depth)))
    | .map _ tag pairs =>
      if !isOpenTag tag then failure
      let members ← pairs.mapM fun (key, value) => do
        pure (← ctx.key key, ← ctx.value depth value)
      pure (.ofMembers members)
    | .alias _ => failure

/-- How many levels of lists and maps a document may have. -/
def nestingLimit : Nat := 128

/-- The root of a text with its anchors and aliases numbered, if there is a root. -/
def linked? (s : String) : Option (Option Linked) := do
  match ← Node.parse? s with
  | none => pure none
  | some root => pure (some (← Linked.ofNode? [] root).1)

/-- The value of a document; without anything in it, it is `null`. -/
def parse? (s : String) : Option Value := do
  match ← linked? s with
  | none => pure .null
  | some root => (((Context.ofRoot root).value nestingLimit root).run 0).map (·.1)

end HostsBlock.Yaml
