import HostsBlock.Yaml.Token

/-!
# Nodes

The tokens of a document form a tree: texts, lists of nodes, maps of nodes to nodes, and aliases
that stand for a node elsewhere. Where a node is missing, an empty plain text stands in for it.

Only one document is read. An end mark may follow it, but no second document.
-/

namespace HostsBlock.Yaml

/-- What may stand in front of a node. -/
structure Properties where
  /-- The name by which aliases refer to the node. -/
  anchor : Option String
  /-- The full name of the node's type. -/
  tag : Option String

/-- A node of a document. -/
inductive Node where
  | alias (name : String)
  | text (properties : Properties) (content : String) (plain : Bool)
  | list (properties : Properties) (items : List Node)
  | map (properties : Properties) (pairs : List (Node × Node))
deriving Inhabited

namespace Node

/-- The node that stands in for a missing one. -/
def empty : Node := .text ⟨none, none⟩ "" true

/-! ## Properties -/

/-- Handles and what they abbreviate; the first entry of a handle counts. -/
abbrev Handles := List (String × String)

/-- The full name of a tag, if its handle is known. -/
def tagName? (handles : Handles) (t : Tag) : Option String :=
  if t.handle.isEmpty then some t.suffix else (handles.lookup t.handle).map (· ++ t.suffix)

/-- Reads an anchor and a tag, in either order, both of which may be missing. -/
def properties? (handles : Handles) : List Token → Option (Properties × List Token)
  | .anchor a :: .tag t :: rest | .tag t :: .anchor a :: rest => do
    pure (⟨some a, some (← tagName? handles t)⟩, rest)
  | .anchor a :: rest => some (⟨some a, none⟩, rest)
  | .tag t :: rest => do pure (⟨none, some (← tagName? handles t)⟩, rest)
  | rest => some (⟨none, none⟩, rest)

/-- The node of a text. The tag of a lone exclamation mark says nothing and is dropped. -/
def ofText (p : Properties) (content : String) (plain : Bool) : Node :=
  .text { p with tag := p.tag.filter (· ≠ "!") } content plain

/-! ## Nodes

All functions take the tokens that are left and give back those behind what they have read. Each
call uses up one of `fuel` steps. -/

/-- Whether the entry of a block is missing in front of these tokens. -/
def missingInBlock : List Token → Bool
  | .key :: _ | .value :: _ | .blockEnd :: _ => true
  | _ => false

/-- Whether the entry of a block list is missing in front of these tokens. -/
def missingInList : List Token → Bool
  | .hyphen :: _ | .blockEnd :: _ => true
  | _ => false

/-- Whether the entry of a list without indentation is missing in front of these tokens. -/
def missingInPlainList (ts : List Token) : Bool := missingInList ts || missingInBlock ts

/-- Whether an entry between brackets is missing in front of these tokens. -/
def missingInFlow : List Token → Bool
  | .comma :: _ | .flowListEnd :: _ | .flowMapEnd :: _ => true
  | _ => false

/-- The empty text in place of a node of which nothing but properties is written. -/
def absent? (p : Properties) (ts : List Token) : Option (Node × List Token) :=
  if p.anchor.isSome || p.tag.isSome then some (.text p "" true, ts) else none

/-- The tokens of an entry between brackets, behind its comma unless it is the first. -/
def behindComma? : (first : Bool) → List Token → Option (List Token)
  | true, ts => some ts
  | false, .comma :: rest => some rest
  | false, _ => none

mutual

/-- A node. In a block it may itself be a block, and as part of a map it may be a list that is not
indented. -/
def node? (handles : Handles) : (fuel : Nat) → (block inMap : Bool) → List Token →
    Option (Node × List Token)
  | 0, _, _, _ => none
  | _ + 1, _, _, .alias name :: rest => some (.alias name, rest)
  | fuel + 1, block, inMap, ts => do
    let (p, ts) ← properties? handles ts
    match ts with
    | .text content plain :: rest => pure (ofText p content plain, rest)
    | .flowListStart :: rest =>
      let (items, rest) ← flowItems? handles fuel true rest
      pure (.list p items, rest)
    | .flowMapStart :: rest =>
      let (pairs, rest) ← flowPairs? handles fuel true rest
      pure (.map p pairs, rest)
    | .hyphen :: _ =>
      if inMap then
        let (items, rest) ← plainItems? handles fuel ts
        pure (.list p items, rest)
      else absent? p ts
    | .blockListStart :: rest =>
      if block then
        let (items, rest) ← blockItems? handles fuel rest
        pure (.list p items, rest)
      else absent? p ts
    | .blockMapStart :: rest =>
      if block then
        let (pairs, rest) ← blockPairs? handles fuel rest
        pure (.map p pairs, rest)
      else absent? p ts
    | ts => absent? p ts

/-- The entries of a block list up to its end. -/
def blockItems? (handles : Handles) : (fuel : Nat) → List Token → Option (List Node × List Token)
  | fuel + 1, .hyphen :: rest => do
    let (item, rest) ←
      if missingInList rest then pure (empty, rest) else node? handles fuel true false rest
    let (items, rest) ← blockItems? handles fuel rest
    pure (item :: items, rest)
  | _ + 1, .blockEnd :: rest => some ([], rest)
  | _, _ => none

/-- The entries of a list that is not indented, up to what is not one. -/
def plainItems? (handles : Handles) : (fuel : Nat) → List Token → Option (List Node × List Token)
  | 0, _ => none
  | fuel + 1, .hyphen :: rest => do
    let (item, rest) ←
      if missingInPlainList rest then pure (empty, rest) else node? handles fuel true false rest
    let (items, rest) ← plainItems? handles fuel rest
    pure (item :: items, rest)
  | _ + 1, rest => some ([], rest)

/-- The pairs of a block map up to its end. -/
def blockPairs? (handles : Handles) : (fuel : Nat) → List Token →
    Option (List (Node × Node) × List Token)
  | fuel + 1, .key :: rest => do
    let (key, rest) ←
      if missingInBlock rest then pure (empty, rest) else node? handles fuel true true rest
    let (value, rest) ← blockValue? handles fuel rest
    let (pairs, rest) ← blockPairs? handles fuel rest
    pure ((key, value) :: pairs, rest)
  | _ + 1, .blockEnd :: rest => some ([], rest)
  | _, _ => none

/-- The value behind a key of a block map. -/
def blockValue? (handles : Handles) : (fuel : Nat) → List Token → Option (Node × List Token)
  | fuel + 1, .value :: rest =>
    if missingInBlock rest then some (empty, rest) else node? handles fuel true true rest
  | _, rest => some (empty, rest)

/-- The value behind a key between brackets. -/
def flowValue? (handles : Handles) : (fuel : Nat) → List Token → Option (Node × List Token)
  | fuel + 1, .value :: rest =>
    if missingInFlow rest then some (empty, rest) else node? handles fuel false false rest
  | _, rest => some (empty, rest)

/-- The entries of a list between brackets, from the `first` one or from the comma behind one. An
entry may be a single pair; a key that is missing there uses up the token in its place. -/
def flowItems? (handles : Handles) : (fuel : Nat) → (first : Bool) → List Token →
    Option (List Node × List Token)
  | 0, _, _ => none
  | _ + 1, _, .flowListEnd :: rest => some ([], rest)
  | fuel + 1, first, ts => do
    let ts ← behindComma? first ts
    match ts with
    | .flowListEnd :: rest => pure ([], rest)
    | .key :: rest =>
      let (key, rest) ← match rest with
        | .value :: rest | .comma :: rest | .flowListEnd :: rest => pure (empty, rest)
        | rest => node? handles fuel false false rest
      let (value, rest) ← flowValue? handles fuel rest
      let (items, rest) ← flowItems? handles fuel false rest
      pure (.map ⟨none, none⟩ [(key, value)] :: items, rest)
    | ts =>
      let (item, rest) ← node? handles fuel false false ts
      let (items, rest) ← flowItems? handles fuel false rest
      pure (item :: items, rest)

/-- The pairs of a map between brackets, from the `first` one or from the comma behind one. -/
def flowPairs? (handles : Handles) : (fuel : Nat) → (first : Bool) → List Token →
    Option (List (Node × Node) × List Token)
  | 0, _, _ => none
  | _ + 1, _, .flowMapEnd :: rest => some ([], rest)
  | fuel + 1, first, ts => do
    let ts ← behindComma? first ts
    match ts with
    | .flowMapEnd :: rest => pure ([], rest)
    | .key :: rest =>
      let (key, rest) ← match rest with
        | .value :: _ | .comma :: _ | .flowMapEnd :: _ => pure (empty, rest)
        | rest => node? handles fuel false false rest
      let (value, rest) ← flowValue? handles fuel rest
      let (pairs, rest) ← flowPairs? handles fuel false rest
      pure ((key, value) :: pairs, rest)
    | ts =>
      let (key, rest) ← node? handles fuel false false ts
      let (pairs, rest) ← flowPairs? handles fuel false rest
      pure ((key, empty) :: pairs, rest)

end

/-! ## Documents -/

/-- The handles that need no directive. -/
def standardHandles : Handles := [("!", "!"), ("!!", "tag:yaml.org,2002:")]

/-- Reads directives: one version at most, of the format 1.1 or 1.2, and each handle at most
once. -/
def directives? (versioned : Bool) (handles : Handles) :
    List Token → Option (Handles × List Token)
  | .directive (.version major minor) :: rest =>
    if versioned || major ≠ 1 || (minor ≠ 1 && minor ≠ 2) then none
    else directives? true handles rest
  | .directive (.abbreviation handle start) :: rest =>
    if (handles.lookup handle).isSome then none
    else directives? versioned ((handle, start) :: handles) rest
  | rest => some (handles, rest)

/-- Whether no node follows a document's start. -/
def atDocumentEnd : List Token → Bool
  | [] | .directive _ :: _ | .documentStart :: _ | .documentEnd :: _ => true
  | _ => false

/-- Whether nothing is left but end marks. -/
def onlyEndMarks : List Token → Bool
  | [] => true
  | .documentEnd :: rest => onlyEndMarks rest
  | _ => false

/-- The node of a document that starts with directives or a start mark, or at once. -/
def root? (ts : List Token) : Option (Node × List Token) :=
  let fuel := 4 * ts.length + 4
  match ts with
  | .directive _ :: _ | .documentStart :: _ => do
    let (handles, ts) ← directives? false [] ts
    let .documentStart :: rest := ts | failure
    if atDocumentEnd rest then pure (empty, rest)
    else node? (handles ++ standardHandles) fuel true false rest
  | ts => node? standardHandles fuel true false ts

/-- The root of a stream of tokens, with nothing but end marks behind it; there is none in a stream
without tokens. -/
def ofTokens? (ts : List Token) : Option (Option Node) :=
  if ts.isEmpty then some none
  else do
    let (root, rest) ← root? ts
    if onlyEndMarks rest then pure (some root) else failure

/-- The root of a text, if there is one. -/
def parse? (s : String) : Option (Option Node) := tokens? s >>= ofTokens?

end Node

end HostsBlock.Yaml
