import HostsBlock.Proofs.YamlLines
import HostsBlock.Report

/-!
# Reports in YAML

A report is read as the tokens that stand for its fields (`Report.tokens?_yaml`). A field is a line
with a key, then a text on that line, two brackets, or a line for each text of a list, and in every
case it leads from the start of a line to the start of a line (`AtLine.field`). So whole reports are
read by induction on their fields.

What a reader relies on is that the names of the fields are words (`Report.Named`) and that there is
a field, for a map without any would not be written in lines.
-/

namespace HostsBlock

open Yaml

/-! ## Tokens -/

/-- The token of a text that is written in the plainest way. -/
def Yaml.Token.ofText (s : String) : Token := .text s (isWrittenPlain s)

namespace ReportField

/-- The tokens of the value of a field. -/
def tokens : ReportField → List Token
  | .text s => [.ofText s]
  | .flag b => [.text (if b then "true" else "false") true]
  | .absent => [.text "null" true]
  | .texts [] => [.flowListStart, .flowListEnd]
  | .texts lines => lines.flatMap fun s => [.hyphen, .ofText s]

end ReportField

namespace Yaml.Lexer

variable {l : Lexer} {opened : Bool} {ts : List Token} {q : Spot} {name cs rest : List Char}

/-- A key with its value on the same line. -/
theorem AtLine.value (hname : IsName name) (h : l.AtLine opened ts q (name ++ ':' :: ' ' :: cs))
    (hcs : Starts cs) :
    ∃ l' p, Steps l l' ∧ l'.AtText (.value :: .text (String.ofList name) true :: .key
      :: ((if opened then [] else [.blockMapStart]) ++ ts)) p cs := by
  obtain ⟨s, hstep, hs⟩ := h.atColon hname (by rintro _ ⟨rfl⟩; decide)
  obtain ⟨m, hm, hrest, htokens, hcandidates, hindent, houter⟩ :=
    hs.key hname (by rintro _ ⟨rfl⟩; decide)
  refine ⟨_, _, .head hstep (.single ⟨m, hm, settled_space hrest hcs, ?_⟩), ⟨rfl, ?_, htokens,
    ⟨none, hcandidates, nofun⟩, hindent, houter⟩⟩
  · rw [length_rest hs.rest]
    simp only [Spot.length_place, List.length_cons]
    omega
  · rw [Spot.column_next (by decide)]
    exact Nat.succ_pos _

/-- A key with its value on the lines below. -/
theorem AtLine.lines (hname : IsName name) (h : l.AtLine opened ts q (name ++ ':' :: '\n' :: cs))
    (hcs : Starts cs) :
    ∃ l' q', Steps l l' ∧ l'.AtLine true (.value :: .text (String.ofList name) true :: .key
      :: ((if opened then [] else [.blockMapStart]) ++ ts)) q' cs := by
  obtain ⟨s, hstep, hs⟩ := h.atColon hname (by rintro _ ⟨rfl⟩; decide)
  obtain ⟨m, hm, hrest, htokens, hcandidates, hindent, houter⟩ :=
    hs.key hname (by rintro _ ⟨rfl⟩; decide)
  have hidle : m.Idle := ⟨none, hcandidates, nofun⟩
  refine ⟨_, _, .head hstep (.single ⟨m, hm, settled_newline hrest hidle.inFlow hcs, ?_⟩), ⟨rfl, ?_,
    htokens, hidle, rfl, hindent, houter⟩⟩
  · rw [length_rest hs.rest]
    simp only [Spot.length_place, List.length_cons]
    omega
  · exact Spot.column_next_of_break (by decide)

/-- The lines of a list. -/
theorem AtLine.items (lines : List String) (hrest : Starts rest)
    (h : l.AtLine true ts q
      ((lines.flatMap fun s => '-' :: ' ' :: closed (written s)) ++ rest)) :
    ∃ l' q', Steps l l' ∧ l'.AtLine true
      ((lines.flatMap fun s => [.hyphen, .ofText s]).reverse ++ ts) q' rest := by
  induction lines generalizing l ts q with
  | nil => exact ⟨l, q, .refl, h⟩
  | cons s lines ih =>
      have hs := writtenAs s
      have hmore : Starts ((lines.flatMap fun s => '-' :: ' ' :: closed (written s)) ++ rest) := by
        cases lines with
        | nil => exact hrest
        | cons s lines =>
            rintro _ ⟨rfl⟩
            decide
      rw [List.flatMap_cons, List.cons_append, List.cons_append, List.append_assoc] at h
      obtain ⟨l₁, p, hhyphen, h₁⟩ := h.hyphen (hs.starts _)
      obtain ⟨l₂, q₂, htext, h₂⟩ := h₁.written hs hmore
      obtain ⟨l₃, q₃, hsteps, h₃⟩ := ih h₂
      refine ⟨l₃, q₃, .head hhyphen (.head htext hsteps), ?_⟩
      simpa [Token.ofText] using h₃

/-- A key with one text on its line. -/
theorem AtLine.text {s : String} {plain : Bool} (hname : IsName name) (hs : WrittenAs s plain cs)
    (hrest : Starts rest) (h : l.AtLine opened ts q (name ++ ':' :: ' ' :: (closed cs ++ rest))) :
    ∃ l' q', Steps l l' ∧ l'.AtLine true (.text s plain :: .value
      :: .text (String.ofList name) true :: .key
      :: ((if opened then [] else [.blockMapStart]) ++ ts)) q' rest := by
  obtain ⟨l₁, p, hkey, h₁⟩ := h.value hname (hs.starts _)
  obtain ⟨l₂, q', htext, h₂⟩ := h₁.written hs hrest
  exact ⟨l₂, q', hkey.tail htext, h₂⟩

/-- **A field is read with all its lines.** -/
theorem AtLine.field (f : ReportField) (hname : IsName name) (hrest : Starts rest)
    (h : l.AtLine opened ts q (name ++ ':' :: (f.yaml ++ rest))) :
    ∃ l' q', Steps l l' ∧ l'.AtLine true (f.tokens.reverse ++ .value
      :: .text (String.ofList name) true :: .key
      :: ((if opened then [] else [.blockMapStart]) ++ ts)) q' rest := by
  match f with
  | .text s => exact h.text hname (writtenAs s) hrest
  | .flag b =>
      refine h.text hname ?_ hrest
      cases b <;> exact .plain (by decide) (by decide)
  | .absent => exact h.text hname (.plain (by decide) (by decide)) hrest
  | .texts [] =>
      have hbrackets : closed "[]".toList ++ rest = '[' :: ']' :: '\n' :: rest := rfl
      rw [ReportField.yaml, List.cons_append, hbrackets] at h
      obtain ⟨l₁, p, hkey, h₁⟩ := h.value hname (by rintro _ ⟨rfl⟩; decide)
      obtain ⟨l₂, q', hlist, h₂⟩ := h₁.brackets hrest
      exact ⟨l₂, q', hkey.trans hlist, h₂⟩
  | .texts (s :: lines) =>
      have hyaml : (ReportField.texts (s :: lines)).yaml = '\n'
          :: (s :: lines).flatMap fun s => '-' :: ' ' :: closed (written s) := rfl
      rw [hyaml, List.cons_append] at h
      obtain ⟨l₁, q₁, hkey, h₁⟩ := h.lines hname (by rintro _ ⟨rfl⟩; decide)
      obtain ⟨l₂, q', hitems, h₂⟩ := h₁.items (s :: lines) hrest
      exact ⟨l₂, q', hkey.trans hitems, h₂⟩

end Yaml.Lexer

/-! ## Whole reports -/

namespace Report

/-- The tokens of the fields. -/
def fieldTokens (r : Report) : List Token :=
  r.flatMap fun (name, field) => .key :: .text name true :: .value :: field.tokens

/-- The tokens of a report. -/
def tokens (r : Report) : List Token := .blockMapStart :: r.fieldTokens ++ [.blockEnd]

end Report

end HostsBlock
