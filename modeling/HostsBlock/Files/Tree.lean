import HostsBlock.Files

/-!
# Files in a tree of directories

Files whose contents are at hand, found by path from a directory in which one stands. A path is
walked part by part; what lies above the directory, and what an absolute path leads to, are
directories in which nothing is found.
-/

namespace HostsBlock.Files

/-- A file with its octets, or a directory, at a path from the directory in which one stands. -/
structure Item where
  /-- The parts of the path. -/
  path : List String
  /-- The octets of a file; a directory has none. -/
  content : Option ByteArray

/-- The parts of a path; empty parts say nothing. -/
def parts (path : String) : List String := (partsAt '/' path).filter (· ≠ "")

/-- The item at a path as it is usually written, with a slash behind a directory. -/
def Item.ofPath (path : String) (content : ByteArray) : Item :=
  ⟨parts path, if path.endsWith "/" then none else some content⟩

/-- Where a walk along a path stands. -/
inductive Place where
  /-- A directory of the tree, the innermost part of its path first. -/
  | inside (path : List String)
  /-- A directory outside the tree. -/
  | outside
  | file (content : ByteArray)

/-- One part further along a path. -/
def step (items : List Item) : Place → String → Except FileError Place
  | .file _, _ => .error .notDirectory
  | .outside, part => if part = "." || part = ".." then .ok .outside else .error .notFound
  | .inside path, part =>
    if part = "." then .ok (.inside path)
    else if part = ".." then .ok (match path with | [] => .outside | _ :: above => .inside above)
    else if 255 < part.utf8ByteSize then .error .nameTooLong
    else
      let here := (part :: path).reverse
      match items.find? fun item => item.path = here && item.content.isSome with
      | some ⟨_, some content⟩ => .ok (.file content)
      | _ => if items.any fun item => here.isPrefixOf item.path then .ok (.inside (part :: path))
        else .error .notFound

/-- The files of a tree. -/
def ofTree (items : List Item) : Files := fun path => do
  if path.contains '\x00' then throw .badPath
  if path.isEmpty then throw .notFound
  if 4096 ≤ path.utf8ByteSize then throw .nameTooLong
  let start := if path.startsWith "/" then .outside else .inside []
  match ← (parts path).foldlM (step items) start with
  | .file content =>
    if path.endsWith "/" then throw .notDirectory
    match String.fromUTF8? content with
    | some text => pure text
    | none => throw .notText
  | _ => throw .isDirectory

end HostsBlock.Files
