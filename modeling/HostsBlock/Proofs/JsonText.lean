import HostsBlock.Json.Reader
import HostsBlock.Json.Writer
import Mathlib.Data.List.Basic
import Mathlib.Tactic.IntervalCases

/-!
# Reading what was written

A text in JSON is written for a reader, and the reader here gets back from it the value that was
written, with the members of objects in the order in which they stand, `read?_spread`.

The reader counts its steps and the brackets that are open. A value takes at most as many steps as
its text has characters, and this is what the induction carries along; how many brackets are open is
part of what makes a value `Readable`. Numbers are left out, for no report holds one.
-/

namespace HostsBlock.Json

/-! ## Strings -/

/-- The four digits of the number of a control character. -/
theorem numbered?_hexDigits {n : Nat} (hn : n < 0x20) (rest : List Char) :
    numbered? (Text.hexDigits 4 n ++ rest) = some (Char.ofNat n, rest) := by
  have hlength : (Text.hexDigits 4 n).length = 4 := by
    interval_cases n <;> decide
  have hnumber : Text.number? 16 (Text.hexDigits 4 n) = some n := by
    interval_cases n <;> decide
  have hunit : codeUnit? (Text.hexDigits 4 n ++ rest) = some (n, rest) := by
    unfold codeUnit?
    rw [List.take_left' hlength, List.drop_left' hlength]
    simp [hlength, hnumber]
  unfold numbered?
  rw [hunit]
  simp [show ¬ 0xD800 ≤ n by omega]

theorem escape_cases (c : Char) :
    (escape c = [c] ∧ c ≠ '"' ∧ c ≠ '\\' ∧ 0x20 ≤ c.toNat)
      ∨ ∃ cs, escape c = '\\' :: cs ∧ ∀ rest, escaped? (cs ++ rest) = some (c, rest) := by
  unfold escape
  split_ifs with hquote hbackslash hn hr ht hb hf hcontrol
  · exact Or.inr ⟨_, rfl, fun rest => by rw [hquote]; rfl⟩
  · exact Or.inr ⟨_, rfl, fun rest => by rw [hbackslash]; rfl⟩
  · exact Or.inr ⟨_, rfl, fun rest => by rw [hn]; rfl⟩
  · exact Or.inr ⟨_, rfl, fun rest => by rw [hr]; rfl⟩
  · exact Or.inr ⟨_, rfl, fun rest => by rw [ht]; rfl⟩
  · exact Or.inr ⟨_, rfl, fun rest => by rw [← Char.ofNat_toNat c, hb]; rfl⟩
  · exact Or.inr ⟨_, rfl, fun rest => by rw [← Char.ofNat_toNat c, hf]; rfl⟩
  · refine Or.inr ⟨_, rfl, fun rest => ?_⟩
    have hread := numbered?_hexDigits hcontrol rest
    rw [Char.ofNat_toNat] at hread
    rw [List.cons_append, ← hread]
    rfl
  · exact Or.inl ⟨rfl, hquote, hbackslash, by omega⟩

theorem escape_ne_nil (c : Char) : escape c ≠ [] := by
  rcases escape_cases c with ⟨h, -⟩ | ⟨cs, h, -⟩ <;> rw [h] <;> exact List.cons_ne_nil _ _

theorem string?_escape (cs rest : List Char) {fuel : Nat} (hfuel : (cs.flatMap escape).length < fuel)
    (read : List Char) :
    string? fuel read (cs.flatMap escape ++ '"' :: rest)
      = some (String.ofList (read.reverse ++ cs), rest) := by
  induction cs generalizing fuel read with
  | nil =>
      obtain ⟨fuel, rfl⟩ := Nat.exists_eq_succ_of_ne_zero (Nat.ne_zero_of_lt hfuel)
      rw [List.append_nil]
      rfl
  | cons c cs ih =>
      obtain ⟨fuel, rfl⟩ := Nat.exists_eq_succ_of_ne_zero (Nat.ne_zero_of_lt hfuel)
      -- a character takes one step, and it was written with at least one character
      have hpos := List.length_pos_iff.mpr (escape_ne_nil c)
      rw [List.flatMap_cons, List.length_append] at hfuel
      have hless : (cs.flatMap escape).length < fuel := by omega
      have hrest := ih hless (c :: read)
      rw [List.reverse_cons, List.append_assoc, List.singleton_append] at hrest
      rw [List.flatMap_cons, List.append_assoc, ← hrest]
      rcases escape_cases c with ⟨hself, hquote, hbackslash, hcontrol⟩ | ⟨escape, hescape, hread⟩
      · rw [hself, List.singleton_append, string?]
        rw [if_neg hquote, if_neg hbackslash, if_neg (Nat.not_lt.mpr hcontrol)]
      · rw [hescape, List.cons_append, string?, if_neg (by decide), if_pos rfl, hread]
        rfl

/-- What stands behind the opening quote of a string. -/
theorem string?_quoted (s : String) (rest : List Char) {fuel : Nat}
    (hfuel : (quoted s).length ≤ fuel + 1) :
    string? fuel [] (s.toList.flatMap escape ++ '"' :: rest) = some (s, rest) := by
  have hlength : (quoted s).length = (s.toList.flatMap escape).length + 2 := by
    simp [quoted]
  rw [string?_escape s.toList rest (by omega), List.reverse_nil, List.nil_append,
    String.ofList_toList]

/-! ## Values -/

/-- A value without numbers in which at most `depth` brackets are open at once. -/
inductive Readable : (depth : Nat) → Value → Prop where
  | null {depth} : Readable depth .null
  | bool {depth} (b : Bool) : Readable depth (.bool b)
  | string {depth} (s : String) : Readable depth (.string s)
  | list {depth} {items : List Value} (h : ∀ v ∈ items, Readable depth v) :
    Readable (depth + 1) (.list items)
  | object {depth} {members : List (String × Value)} (h : ∀ m ∈ members, Readable depth m.2) :
    Readable (depth + 1) (.object members)

/-- The reader gets a value back from its text, whatever stands behind the text. -/
def ReadBack (depth : Nat) (v : Value) : Prop :=
  ∀ (indent fuel : Nat) (rest : List Char), (spreadChars indent v).length ≤ fuel →
    value? fuel depth (spreadChars indent v ++ rest) = some (v, rest)

theorem skipSpace_newLine (indent : Nat) (cs : List Char) :
    skipSpace (newLine indent ++ cs) = skipSpace cs := by
  unfold skipSpace newLine
  rw [List.cons_append, List.dropWhile_cons_of_pos (by decide)]
  refine List.dropWhile_append_of_pos fun c hc => ?_
  rw [List.eq_of_mem_replicate hc]
  rfl

theorem skipSpace_cons {c : Char} (h : isSpace c = false) (cs : List Char) :
    skipSpace (c :: cs) = c :: cs :=
  List.dropWhile_cons_of_neg (Bool.eq_false_iff.mp h)

/-! Blanks in front of a value, an element and a member make no difference. -/

theorem value?_congr {cs cs' : List Char} (h : skipSpace cs = skipSpace cs') (fuel depth : Nat) :
    value? fuel depth cs = value? fuel depth cs' := by
  cases fuel with
  | zero => rfl
  | succ fuel => rw [value?, value?, h]

theorem items?_congr {cs cs' : List Char} (h : skipSpace cs = skipSpace cs') (fuel depth : Nat)
    (read : List Value) : items? fuel depth read cs = items? fuel depth read cs' := by
  cases fuel with
  | zero => rfl
  | succ fuel => rw [items?, items?, value?_congr h]

theorem members?_congr {cs cs' : List Char} (h : skipSpace cs = skipSpace cs') (fuel depth : Nat)
    (read : List (String × Value)) :
    members? fuel depth read cs = members? fuel depth read cs' := by
  cases fuel with
  | zero => rfl
  | succ fuel => rw [members?, members?, h]

/-! What the reader does behind a quote, a bracket and a brace. -/

theorem value?_quote (fuel depth : Nat) (cs : List Char) :
    value? (fuel + 1) depth ('"' :: cs)
      = (string? fuel [] cs).map fun (s, rest) => (.string s, rest) := by
  rw [value?, skipSpace_cons (by decide)]
  rfl

theorem value?_bracket {cs : List Char} (h : ∀ rest, skipSpace cs ≠ ']' :: rest)
    (fuel depth : Nat) :
    value? (fuel + 1) (depth + 1) ('[' :: cs)
      = (items? fuel depth [] (skipSpace cs)).map fun (items, rest) => (.list items, rest) := by
  rw [value?, skipSpace_cons (by decide)]
  dsimp only
  rw [if_pos rfl, if_neg (Nat.succ_ne_zero depth)]
  split
  next rest heq => exact absurd heq (h rest)
  next => rfl

theorem value?_brace {cs : List Char} (h : ∀ rest, skipSpace cs ≠ '\x7d' :: rest)
    (fuel depth : Nat) :
    value? (fuel + 1) (depth + 1) ('\x7b' :: cs)
      = (members? fuel depth [] (skipSpace cs)).map
          fun (members, rest) => (.object members, rest) := by
  rw [value?, skipSpace_cons (by decide)]
  dsimp only
  rw [if_neg (by decide), if_pos rfl, if_neg (Nat.succ_ne_zero depth)]
  split
  next rest heq => exact absurd heq (h rest)
  next => rfl

/-- The text of a readable value starts with a character that is no blank and closes no list. -/
theorem spreadChars_eq_cons {depth : Nat} {v : Value} (h : Readable depth v) (indent : Nat) :
    ∃ c cs, spreadChars indent v = c :: cs ∧ isSpace c = false ∧ c ≠ ']' := by
  cases h with
  | null => exact ⟨'n', "ull".toList, rfl, rfl, by decide⟩
  | bool b => cases b <;> exact ⟨_, _, rfl, rfl, by decide⟩
  | string s => exact ⟨'"', _, rfl, rfl, by decide⟩
  | @list depth items h => cases items <;> exact ⟨'[', _, rfl, rfl, by decide⟩
  | @object depth members h => cases members <;> exact ⟨'\x7b', _, rfl, rfl, by decide⟩

/-- Elements are read up to the bracket behind them. -/
theorem items?_spreadItems {depth : Nat} {items : List Value} (hne : items ≠ [])
    (h : ∀ v ∈ items, ReadBack depth v) (indent outer : Nat) (rest : List Char) {fuel : Nat}
    (hfuel : (spreadItems indent items).length < fuel) (read : List Value) :
    items? fuel depth read (spreadItems indent items ++ (newLine outer ++ ']' :: rest))
      = some (read.reverse ++ items, rest) := by
  induction items generalizing fuel read with
  | nil => exact absurd rfl hne
  | cons v items ih =>
      obtain ⟨fuel, rfl⟩ := Nat.exists_eq_succ_of_ne_zero (Nat.ne_zero_of_lt hfuel)
      rw [spreadItems, List.length_append] at hfuel
      rw [items?, spreadItems, List.append_assoc,
        h v List.mem_cons_self indent fuel _ (by omega)]
      cases items with
      | nil =>
          have hspace : skipSpace (newLine outer ++ ']' :: rest) = ']' :: rest := by
            rw [skipSpace_newLine]
            rfl
          simp [hspace]
      | cons next items =>
          have hless : (spreadItems indent (next :: items)).length < fuel := by
            simp at hfuel
            omega
          have hitems := ih (List.cons_ne_nil _ _) (fun w hw => h w (List.mem_cons_of_mem v hw))
            hless (v :: read)
          rw [← items?_congr (skipSpace_newLine indent _), List.reverse_cons, List.append_assoc,
            List.singleton_append] at hitems
          rw [← hitems]
          simp [skipSpace, isSpace]

/-- A member is read up to what stands behind it. -/
theorem members?_member {depth : Nat} {name : String} {v : Value} (hv : ReadBack depth v)
    (indent : Nat) {fuel : Nat} (hname : (quoted name).length ≤ fuel)
    (hvalue : (spreadChars indent v).length ≤ fuel) (read : List (String × Value))
    (behind : List Char) :
    members? (fuel + 1) depth read (quoted name ++ ':' :: ' ' :: spreadChars indent v ++ behind)
      = match skipSpace behind with
        | ',' :: rest => members? fuel depth ((name, v) :: read) rest
        | '\x7d' :: rest => some (((name, v) :: read).reverse, rest)
        | _ => none := by
  have hstring := string?_quoted name (':' :: ' ' :: (spreadChars indent v ++ behind))
    (Nat.le_succ_of_le hname)
  have hspace : skipSpace (' ' :: (spreadChars indent v ++ behind))
      = skipSpace (spreadChars indent v ++ behind) := rfl
  have hread := hv indent fuel behind hvalue
  rw [← value?_congr hspace] at hread
  rw [members?]
  simp only [quoted, List.cons_append, List.append_assoc, List.nil_append]
  rw [skipSpace_cons (by decide)]
  simp only [hstring, Option.bind_eq_bind, Option.bind_some]
  rw [skipSpace_cons (by decide)]
  simp only [hread, Option.bind_some]
  rfl

/-- Members are read up to the brace behind them. -/
theorem members?_spreadMembers {depth : Nat} {members : List (String × Value)} (hne : members ≠ [])
    (h : ∀ m ∈ members, ReadBack depth m.2) (indent outer : Nat) (rest : List Char) {fuel : Nat}
    (hfuel : (spreadMembers indent members).length < fuel) (read : List (String × Value)) :
    members? fuel depth read (spreadMembers indent members ++ (newLine outer ++ '\x7d' :: rest))
      = some (read.reverse ++ members, rest) := by
  induction members generalizing fuel read with
  | nil => exact absurd rfl hne
  | cons m members ih =>
      obtain ⟨name, v⟩ := m
      obtain ⟨fuel, rfl⟩ := Nat.exists_eq_succ_of_ne_zero (Nat.ne_zero_of_lt hfuel)
      rw [spreadMembers] at hfuel
      simp only [List.length_append, List.length_cons] at hfuel
      rw [spreadMembers, List.append_assoc,
        members?_member (v := v) (h (name, v) List.mem_cons_self) indent (by omega) (by omega)]
      cases members with
      | nil =>
          have hspace : skipSpace (newLine outer ++ '\x7d' :: rest) = '\x7d' :: rest := by
            rw [skipSpace_newLine]
            rfl
          simp [hspace]
      | cons next members =>
          have hless : (spreadMembers indent (next :: members)).length < fuel := by
            simp at hfuel
            omega
          have hmembers := ih (List.cons_ne_nil _ _)
            (fun m hm => h m (List.mem_cons_of_mem _ hm)) hless ((name, v) :: read)
          rw [← members?_congr (skipSpace_newLine indent _), List.reverse_cons, List.append_assoc,
            List.singleton_append] at hmembers
          rw [← hmembers]
          simp [skipSpace, isSpace]

/-- The first step of reading a value is always there. -/
theorem Readable.readBack_of_succ {depth : Nat} {v : Value} (h : Readable depth v)
    (hsucc : ∀ (indent fuel : Nat) (rest : List Char), (spreadChars indent v).length ≤ fuel + 1 →
      value? (fuel + 1) depth (spreadChars indent v ++ rest) = some (v, rest)) :
    ReadBack depth v := by
  intro indent fuel rest hfuel
  cases fuel with
  | zero =>
      obtain ⟨c, cs, hcons, -, -⟩ := spreadChars_eq_cons h indent
      rw [hcons] at hfuel
      exact absurd hfuel (Nat.not_succ_le_zero _)
  | succ fuel => exact hsucc indent fuel rest hfuel

/-- A readable value is read back. -/
theorem Readable.readBack {depth : Nat} {v : Value} (h : Readable depth v) : ReadBack depth v := by
  induction h with
  | null => exact Readable.null.readBack_of_succ fun _ _ _ _ => rfl
  | bool b =>
      refine (Readable.bool b).readBack_of_succ fun _ _ _ _ => ?_
      cases b <;> rfl
  | string s =>
      refine (Readable.string s).readBack_of_succ fun indent fuel rest hfuel => ?_
      have hstring := string?_quoted s rest hfuel
      have hchars : spreadChars indent (.string s) ++ rest
          = '"' :: (s.toList.flatMap escape ++ '"' :: rest) := by
        simp [spreadChars, compactChars, quoted]
      rw [hchars, value?_quote, hstring]
      rfl
  | @list depth items h ih =>
      refine (Readable.list h).readBack_of_succ fun indent fuel rest hfuel => ?_
      cases items with
      | nil => rfl
      | cons v items =>
          have hless : (spreadItems (indent + 1) (v :: items)).length < fuel := by
            simp [spreadChars] at hfuel
            omega
          have hitems := items?_spreadItems (List.cons_ne_nil v items) ih (indent + 1) indent rest
            hless []
          have hchars : spreadChars indent (.list (v :: items)) ++ rest
              = '[' :: (newLine (indent + 1) ++ (spreadItems (indent + 1) (v :: items)
                ++ (newLine indent ++ ']' :: rest))) := by
            simp [spreadChars]
          -- no bracket follows the first one, because a value does
          obtain ⟨c, cs, hcons, hspace, hbracket⟩ : ∃ c cs, spreadItems (indent + 1) (v :: items)
              ++ (newLine indent ++ ']' :: rest) = c :: cs ∧ isSpace c = false ∧ c ≠ ']' := by
            obtain ⟨c, cs, hcons, h⟩ := spreadChars_eq_cons (h v List.mem_cons_self) (indent + 1)
            exact ⟨c, _, by rw [spreadItems, hcons, List.cons_append, List.cons_append], h⟩
          have hskip : skipSpace (newLine (indent + 1) ++ (spreadItems (indent + 1) (v :: items)
              ++ (newLine indent ++ ']' :: rest))) = spreadItems (indent + 1) (v :: items)
                ++ (newLine indent ++ ']' :: rest) := by
            rw [skipSpace_newLine, hcons, skipSpace_cons hspace]
          rw [hchars, value?_bracket (by rw [hskip, hcons]; simp [hbracket]), hskip, hitems]
          rfl
  | @object depth members h ih =>
      refine (Readable.object h).readBack_of_succ fun indent fuel rest hfuel => ?_
      cases members with
      | nil => rfl
      | cons m members =>
          have hless : (spreadMembers (indent + 1) (m :: members)).length < fuel := by
            simp [spreadChars] at hfuel
            omega
          have hmembers := members?_spreadMembers (List.cons_ne_nil m members) ih (indent + 1)
            indent rest hless []
          have hchars : spreadChars indent (.object (m :: members)) ++ rest
              = '\x7b' :: (newLine (indent + 1) ++ (spreadMembers (indent + 1) (m :: members)
                ++ (newLine indent ++ '\x7d' :: rest))) := by
            simp [spreadChars]
          obtain ⟨cs, hcons⟩ : ∃ cs, spreadMembers (indent + 1) (m :: members)
              ++ (newLine indent ++ '\x7d' :: rest) = '"' :: cs := by
            rw [spreadMembers, quoted]
            exact ⟨_, rfl⟩
          have hskip : skipSpace (newLine (indent + 1) ++ (spreadMembers (indent + 1) (m :: members)
              ++ (newLine indent ++ '\x7d' :: rest))) = spreadMembers (indent + 1) (m :: members)
                ++ (newLine indent ++ '\x7d' :: rest) := by
            rw [skipSpace_newLine, hcons, skipSpace_cons (by decide)]
          rw [hchars, value?_brace (by rw [hskip, hcons]; simp), hskip, hmembers]
          rfl

/-- **What was written is read back**, with every member in its place and a line end behind it. -/
theorem read?_spread {depth : Nat} {v : Value} (h : Readable depth v) :
    read? (spread v ++ "\n") depth = some v := by
  have hchars : (spread v ++ "\n").toList = spreadChars 0 v ++ ['\n'] := by
    rw [String.toList_append, spread, String.toList_ofList]
    rfl
  have hread := h.readBack 0 (2 * (spreadChars 0 v ++ ['\n']).length + 2) ['\n']
    (by rw [List.length_append]; omega)
  unfold read?
  rw [hchars]
  dsimp only
  rw [hread]
  rfl

end HostsBlock.Json
