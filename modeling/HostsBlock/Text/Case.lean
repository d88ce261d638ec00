import HostsBlock.Text.CaseTable

/-!
# Letter case

Upper and lower case of a whole text, by the full mappings of Unicode: one letter may become
several (`ß` becomes `SS`), and a capital sigma at the end of a word becomes `ς` instead of `σ`.
ASCII letters are handled by arithmetic before any table is consulted.
-/

namespace HostsBlock.Text

open CaseTable

/-- Whether a code point lies in one of the given ranges. -/
def inRanges (ranges : List (Nat × Nat)) (n : Nat) : Bool :=
  ranges.any fun (first, last) => first ≤ n && n ≤ last

/-- The image of a code point under the first run that holds it. -/
def runImage? (runs : List (Nat × Nat × Nat × Nat)) (n : Nat) : Option Nat :=
  (runs.find? fun (first, last, step, _) =>
    first ≤ n && n ≤ last && (n - first) % step == 0).map fun (first, _, _, image) =>
      image + (n - first)

/-- The characters that a character outside ASCII maps to, by a table of special cases and one
of runs. -/
def mapped (special : List (Nat × List Nat)) (runs : List (Nat × Nat × Nat × Nat)) (c : Char) :
    List Char :=
  match special.lookup c.toNat with
  | some image => image.map Char.ofNat
  | none =>
    match runImage? runs c.toNat with
    | some image => [Char.ofNat image]
    | none => [c]

/-- The upper case of one character. -/
def upperChar (c : Char) : List Char :=
  if c.toNat < 0x80 then [c.toUpper] else mapped upperSpecial upperRuns c

/-- The lower case of one character, whatever stands next to it. -/
def lowerChar (c : Char) : List Char :=
  if c.toNat < 0x80 then [c.toLower] else mapped lowerSpecial lowerRuns c

/-- The characters of a text in upper case. -/
def upperChars (cs : List Char) : List Char := cs.flatMap upperChar

/-- A text in upper case. -/
def upper (s : String) : String := String.ofList (upperChars s.toList)

/-- Whether the first character that is not case-ignorable is a cased letter. -/
def startsCased (cs : List Char) : Bool :=
  (cs.dropWhile fun c => inRanges caseIgnorable c.toNat).head?.any fun c => inRanges cased c.toNat

/-- The lower case of `cs` after the characters `before`, which stand nearest first.

A capital sigma is final when a cased letter comes before it and none comes after it. -/
def lowerFrom (before : List Char) : List Char → List Char
  | [] => []
  | c :: rest =>
    (if c = 'Σ' then [if startsCased before && !startsCased rest then 'ς' else 'σ']
      else lowerChar c) ++ lowerFrom (c :: before) rest

/-- The characters of a text in lower case. -/
def lowerChars (cs : List Char) : List Char := lowerFrom [] cs

/-- A text in lower case. -/
def lower (s : String) : String := String.ofList (lowerChars s.toList)

end HostsBlock.Text
