import HostsBlock.Proofs.ReadBack

/-!
# The grammar of a block

Whoever updates a hosts file finds a block by its comment lines, and whoever reads one skips
comments and empty lines. Both look at the start of a line only, while a block is full of texts that
anybody may have chosen. So this file gives a reader that knows nothing of blocks: `lineKind` sorts
lines by how they start, and `readSections?` goes through them once, in and out of sections, and
gives up on a section within a section, an end that does not fit and an entry outside.

**The reader gets back the sections that the block was made of**, with their entries. It comes down
to two facts about starts of lines. An entry starts with a character of an address, which is never
the sign of a comment, whatever the names behind it. And a comment at the head of the block goes on
with a fixed word or with the digits of a number, never like the lines at the ends of a section.
-/

namespace HostsBlock

open Text Section

/-! ## How lines start -/

/-- What stands behind a mark at the start of a line. -/
def behind? (mark line : String) : Option String :=
  (mark.toList.isPrefixOf? line.toList).map String.ofList

/-- Neither empty nor a comment. -/
def isEntryLine (line : String) : Bool := line.toList.head?.any (· != '#')

/-- The line at one end of a section. -/
def isMarker (line : String) : Bool :=
  (behind? "# BEGIN " line).isSome || (behind? "# END " line).isSome

/-- What a reader takes a line for. -/
inductive LineKind where
  | opening (title : String)
  | closing (title : String)
  | comment
  | empty
  | entry
deriving DecidableEq

def lineKind (line : String) : LineKind :=
  match behind? "# BEGIN " line, behind? "# END " line with
  | some title, _ => .opening title
  | none, some title => .closing title
  | none, none =>
    match line.toList with
    | [] => .empty
    | c :: _ => if c = '#' then .comment else .entry

theorem behind?_append (mark title : String) : behind? mark (mark ++ title) = some title := by
  unfold behind?
  rw [String.toList_append, List.isPrefixOf?_eq_some_iff_append_eq.mpr rfl, Option.map_some,
    String.ofList_toList]

theorem behind?_eq_some_iff {mark line title : String} :
    behind? mark line = some title ↔ line = mark ++ title := by
  constructor
  · intro h
    obtain ⟨cs, hprefix, rfl⟩ := Option.map_eq_some_iff.mp h
    have hline := List.isPrefixOf?_eq_some_iff_append_eq.mp hprefix
    rw [← String.toList_inj, String.toList_append, String.toList_ofList, hline]
  · rintro rfl
    exact behind?_append mark title

/-- A mark and a line that differ somewhere. -/
theorem behind?_eq_none (shared : List Char) {mark line : String} {mark' line' : List Char}
    {c c' : Char} (hmark : mark.toList = shared ++ c :: mark')
    (hline : line.toList = shared ++ c' :: line') (hne : c ≠ c') : behind? mark line = none := by
  cases h : behind? mark line with
  | none => rfl
  | some title =>
      rw [behind?_eq_some_iff] at h
      rw [h, String.toList_append, hmark, List.append_assoc, List.append_cancel_left_eq] at hline
      exact absurd (List.cons.inj hline).1 hne

theorem beginMark_toList : "# BEGIN ".toList = ['#', ' ', 'B', 'E', 'G', 'I', 'N', ' '] := by
  decide

theorem endMark_toList : "# END ".toList = ['#', ' ', 'E', 'N', 'D', ' '] := by
  decide

theorem lineKind_beginLine (title : String) : lineKind (beginLine title) = .opening title := by
  unfold lineKind beginLine
  rw [behind?_append]

theorem lineKind_endLine (title : String) : lineKind (endLine title) = .closing title := by
  have hline : (endLine title).toList = ['#', ' '] ++ 'E' :: (['N', 'D', ' '] ++ title.toList) := by
    rw [endLine, String.toList_append, endMark_toList]
    rfl
  -- the marks agree up to the blank, so it is the letter behind it that tells
  have hother : behind? "# BEGIN " (endLine title) = none :=
    behind?_eq_none ['#', ' '] beginMark_toList hline (by decide)
  unfold lineKind
  rw [hother, endLine, behind?_append]

theorem lineKind_empty : lineKind "" = .empty := by decide

theorem lineKind_of_entryStart {line : String} {c : Char} {rest : List Char}
    (hline : line.toList = c :: rest) (hc : c ≠ '#') : lineKind line = .entry := by
  have hbegin : behind? "# BEGIN " line = none :=
    behind?_eq_none [] beginMark_toList hline (Ne.symm hc)
  have hend : behind? "# END " line = none :=
    behind?_eq_none [] endMark_toList hline (Ne.symm hc)
  unfold lineKind
  rw [hbegin, hend, hline]
  exact if_neg hc

/-- A comment that goes on unlike the lines at the ends of sections. -/
def isPlainComment : List Char → Bool
  | '#' :: ' ' :: c :: _ => c != 'B' && c != 'E'
  | _ => false

theorem isPlainComment_iff {cs : List Char} :
    isPlainComment cs = true ↔ ∃ c rest, cs = '#' :: ' ' :: c :: rest ∧ c ≠ 'B' ∧ c ≠ 'E' := by
  constructor
  · intro h
    unfold isPlainComment at h
    split at h
    · rename_i c rest
      rw [Bool.and_eq_true, bne_iff_ne, bne_iff_ne] at h
      exact ⟨c, rest, rfl, h.1, h.2⟩
    · exact absurd h (by simp)
  · rintro ⟨c, rest, rfl, hB, hE⟩
    rw [isPlainComment, Bool.and_eq_true, bne_iff_ne, bne_iff_ne]
    exact ⟨hB, hE⟩

theorem isPlainComment_append {s : String} (h : isPlainComment s.toList = true) (t : String) :
    isPlainComment (s ++ t).toList = true := by
  obtain ⟨c, rest, hs, hletters⟩ := isPlainComment_iff.mp h
  rw [String.toList_append, hs]
  exact isPlainComment_iff.mpr ⟨c, rest ++ t.toList, rfl, hletters⟩

theorem lineKind_of_isPlainComment {line : String} (h : isPlainComment line.toList = true) :
    lineKind line = .comment := by
  obtain ⟨c, rest, hline, hB, hE⟩ := isPlainComment_iff.mp h
  have hbegin : behind? "# BEGIN " line = none :=
    behind?_eq_none ['#', ' '] beginMark_toList hline (Ne.symm hB)
  have hend : behind? "# END " line = none :=
    behind?_eq_none ['#', ' '] endMark_toList hline (Ne.symm hE)
  unfold lineKind
  rw [hbegin, hend, hline]
  rfl

/-- The two predicates on lines are about the kinds of lines. -/
theorem isEntryLine_eq (line : String) : isEntryLine line = (lineKind line == .entry) := by
  unfold isEntryLine lineKind
  split
  · rename_i title hbegin
    rw [behind?_eq_some_iff.mp hbegin, String.toList_append, beginMark_toList]
    rfl
  · rename_i title _ hend
    rw [behind?_eq_some_iff.mp hend, String.toList_append, endMark_toList]
    rfl
  · cases line.toList with
    | nil => rfl
    | cons c rest => by_cases hc : c = '#' <;> simp [hc]

theorem isMarker_eq (line : String) :
    isMarker line = match lineKind line with
      | .opening _ | .closing _ => true
      | _ => false := by
  unfold isMarker lineKind
  cases behind? "# BEGIN " line with
  | some title => rfl
  | none =>
      cases behind? "# END " line with
      | some title => rfl
      | none =>
          cases line.toList with
          | nil => rfl
          | cons c rest => by_cases hc : c = '#' <;> simp [hc]

theorem isEntryLine_beginLine (title : String) : isEntryLine (beginLine title) = false := by
  rw [isEntryLine_eq, lineKind_beginLine]
  rfl

theorem isEntryLine_endLine (title : String) : isEntryLine (endLine title) = false := by
  rw [isEntryLine_eq, lineKind_endLine]
  rfl

theorem isMarker_beginLine (title : String) : isMarker (beginLine title) = true := by
  rw [isMarker_eq, lineKind_beginLine]

theorem isMarker_endLine (title : String) : isMarker (endLine title) = true := by
  rw [isMarker_eq, lineKind_endLine]

/-- Comments within sections and empty lines. -/
def IsSkipped (line : String) : Prop := lineKind line = .comment ∨ lineKind line = .empty

theorem IsSkipped.isEntryLine_eq_false {line : String} (h : IsSkipped line) :
    isEntryLine line = false := by
  rw [isEntryLine_eq]
  rcases h with h | h
  · rw [h]; decide
  · rw [h]; decide

theorem IsSkipped.isMarker_eq_false {line : String} (h : IsSkipped line) :
    isMarker line = false := by
  rw [isMarker_eq]
  rcases h with h | h
  · rw [h]
  · rw [h]

theorem isSkipped_empty : IsSkipped "" := Or.inr lineKind_empty

/-! ## Reading sections -/

/-- How far a reader has come: the sections behind it and the one it is in, each with its title and
the lines of its entries. -/
structure Reading where
  closed : List (String × List String)
  current : Option (String × List String)

/-- One line more. -/
def Reading.step (r : Reading) (line : String) : Option Reading :=
  match lineKind line, r.current with
  | .comment, _ => some r
  | .empty, _ => some r
  | .opening title, none => some { r with current := some (title, []) }
  | .entry, some (title, entries) => some { r with current := some (title, entries ++ [line]) }
  | .closing title, some (opened, entries) =>
    if title = opened then some ⟨r.closed ++ [(opened, entries)], none⟩ else none
  | _, _ => none

/-- The sections of a text in lines, if no line is out of place and the last section is closed. -/
def readSections? (lines : List String) : Option (List (String × List String)) :=
  (lines.foldlM Reading.step ⟨[], none⟩).bind fun r =>
    if r.current.isNone then some r.closed else none

namespace Reading

variable {closed : List (String × List String)} {title line : String} {entries : List String}

theorem step_opening : step ⟨closed, none⟩ (beginLine title) = some ⟨closed, some (title, [])⟩ := by
  unfold step
  rw [lineKind_beginLine]

theorem step_closing :
    step ⟨closed, some (title, entries)⟩ (endLine title)
      = some ⟨closed ++ [(title, entries)], none⟩ := by
  unfold step
  rw [lineKind_endLine]
  exact if_pos rfl

theorem step_entry (h : lineKind line = .entry) :
    step ⟨closed, some (title, entries)⟩ line
      = some ⟨closed, some (title, entries ++ [line])⟩ := by
  unfold step
  rw [h]

theorem step_skipped (r : Reading) (h : IsSkipped line) :
    r.step line = some r := by
  unfold step
  rcases h with h | h
  · rw [h]
  · rw [h]

theorem foldlM_step_skipped (r : Reading) {lines : List String}
    (h : ∀ line ∈ lines, IsSkipped line) :
    lines.foldlM step r = some r := by
  induction lines with
  | nil => rfl
  | cons line lines ih =>
      obtain ⟨hline, hlines⟩ := List.forall_mem_cons.mp h
      rw [List.foldlM_cons, step_skipped r hline]
      exact ih hlines

theorem foldlM_step_entries (closed : List (String × List String)) (title : String)
    {lines : List String} (h : ∀ line ∈ lines, lineKind line = .entry) :
    ∀ entries, lines.foldlM step ⟨closed, some (title, entries)⟩
      = some ⟨closed, some (title, entries ++ lines)⟩ := by
  -- every line goes to the end of the entries, so they are general in the induction
  induction lines with
  | nil => intro entries; rw [List.append_nil]; rfl
  | cons line lines ih =>
      intro entries
      obtain ⟨hline, hlines⟩ := List.forall_mem_cons.mp h
      have hrest := ih hlines (entries ++ [line])
      rw [List.append_assoc] at hrest
      rw [List.foldlM_cons, step_entry hline]
      exact hrest

end Reading

/-! ## Sections and their lines -/

namespace Section

/-- The lines of a section with other lines between its first one and its entries. -/
def framed (others : List String) (s : Section) : List String :=
  beginLine s.title :: others ++ s.entries.map Entry.line ++ [endLine s.title]

theorem lines_eq_framed (s : Section) : s.lines = s.framed [] := rfl

/-- A section whose entries have addresses. -/
def Addressed (s : Section) : Prop := ∀ e ∈ s.entries, (Address.parse? e.address).isSome = true

end Section

/-- **The line of an entry is taken for one**, whatever the names in it. -/
theorem lineKind_line {e : Entry} (h : (Address.parse? e.address).isSome = true) :
    lineKind e.line = .entry := by
  -- the address is not padded in front, so its first character is that of the line
  obtain ⟨c, cs, haddress⟩ := List.exists_cons_of_ne_nil fun hnil =>
    Address.ne_empty_of_parse? h (String.toList_eq_nil_iff.mp hnil)
  have hc : Address.IsAddressChar c := Address.parse?_addressChars h c (by rw [haddress]; simp)
  have hline : e.line.toList = c :: (cs
      ++ List.replicate (Entry.addressWidth - (c :: cs).length) ' '
      ++ Entry.padded Entry.fqdnWidth e.fqdn.toList
      ++ Entry.padded Entry.hostnameWidth e.hostname.toList) := by
    rw [Entry.line, String.toList_ofList, Entry.lineChars, haddress]
    rfl
  exact lineKind_of_entryStart hline hc.ne_sharp

namespace Section

variable {s : Section} {others : List String}

theorem lineKind_of_mem_entries (hs : s.Addressed) :
    ∀ line ∈ s.entries.map Entry.line, lineKind line = .entry := by
  intro line hline
  obtain ⟨e, he, rfl⟩ := List.mem_map.mp hline
  exact lineKind_line (hs e he)

/-- Lines in front of the entries make no difference to a predicate that they do not have. -/
theorem filter_framed {p : String → Bool} (hothers : ∀ line ∈ others, p line = false) :
    (s.framed others).filter p = s.lines.filter p := by
  have hskipped : others.filter p = [] :=
    List.filter_eq_nil_iff.mpr fun line hline => Bool.eq_false_iff.mp (hothers line hline)
  unfold framed lines
  simp only [List.cons_append, List.filter_cons, List.filter_append, hskipped, List.nil_append]

theorem filter_isEntryLine_lines (hs : s.Addressed) :
    s.lines.filter isEntryLine = s.entries.map Entry.line := by
  have hkept : (s.entries.map Entry.line).filter isEntryLine = s.entries.map Entry.line := by
    refine List.filter_eq_self.mpr fun line hline => ?_
    rw [isEntryLine_eq, lineKind_of_mem_entries hs line hline]
    rfl
  unfold lines
  rw [List.filter_append, List.filter_cons_of_neg (by simp [isEntryLine_beginLine]), hkept,
    List.filter_cons_of_neg (by simp [isEntryLine_endLine]), List.filter_nil, List.append_nil]

theorem filter_isMarker_lines (hs : s.Addressed) :
    s.lines.filter isMarker = [beginLine s.title, endLine s.title] := by
  have hentries : (s.entries.map Entry.line).filter isMarker = [] := by
    refine List.filter_eq_nil_iff.mpr fun line hline => ?_
    rw [isMarker_eq, lineKind_of_mem_entries hs line hline]
    decide
  unfold lines
  rw [List.filter_append, List.filter_cons_of_pos (isMarker_beginLine _), hentries,
    List.filter_cons_of_pos (isMarker_endLine _), List.filter_nil]
  rfl

/-- **A reader that is in no section goes through a section and comes out of it.** -/
theorem foldlM_step_framed (closed : List (String × List String)) (hs : s.Addressed)
    (hothers : ∀ line ∈ others, IsSkipped line) :
    (s.framed others).foldlM Reading.step ⟨closed, none⟩
      = some ⟨closed ++ [(s.title, s.entries.map Entry.line)], none⟩ := by
  have hskipped := Reading.foldlM_step_skipped ⟨closed, some (s.title, [])⟩ hothers
  have hentries := Reading.foldlM_step_entries closed s.title (lineKind_of_mem_entries hs) []
  unfold framed
  rw [List.foldlM_append, List.foldlM_append, List.foldlM_cons, Reading.step_opening]
  simp only [Option.bind_eq_bind, Option.bind_some, hskipped, hentries, List.nil_append,
    List.foldlM_cons, List.foldlM_nil, Reading.step_closing]
  rfl

/-- A reader goes through sections behind empty lines one after the other. -/
theorem foldlM_step_flatMap {ss : List Section} (hss : ∀ s ∈ ss, s.Addressed) :
    ∀ closed, (ss.flatMap fun s => "" :: s.lines).foldlM Reading.step ⟨closed, none⟩
      = some ⟨closed ++ ss.map fun s => (s.title, s.entries.map Entry.line), none⟩ := by
  -- each section leaves the reader outside, with one more section behind it
  induction ss with
  | nil => intro closed; rw [List.map_nil, List.append_nil]; rfl
  | cons s ss ih =>
      intro closed
      obtain ⟨hs, hss⟩ := List.forall_mem_cons.mp hss
      have hempty := Reading.step_skipped ⟨closed, none⟩ isSkipped_empty
      have hsection : s.lines.foldlM Reading.step ⟨closed, none⟩
          = some ⟨closed ++ [(s.title, s.entries.map Entry.line)], none⟩ := by
        rw [lines_eq_framed]
        exact foldlM_step_framed closed hs (List.forall_mem_nil _)
      have hrest := ih hss (closed ++ [(s.title, s.entries.map Entry.line)])
      rw [List.append_assoc] at hrest
      rw [List.flatMap_cons, List.foldlM_append, List.foldlM_cons, hempty]
      simp only [Option.bind_eq_bind, Option.bind_some, hsection]
      exact hrest

theorem filter_isEntryLine_flatMap {ss : List Section} (hss : ∀ s ∈ ss, s.Addressed) :
    (ss.flatMap fun s => "" :: s.lines).filter isEntryLine
      = (ss.flatMap Section.entries).map Entry.line := by
  rw [List.filter_flatMap, List.map_flatMap]
  refine List.flatMap_congr fun s hs => ?_
  rw [List.filter_cons_of_neg (by simp [isSkipped_empty.isEntryLine_eq_false])]
  exact filter_isEntryLine_lines (hss s hs)

theorem filter_isMarker_flatMap {ss : List Section} (hss : ∀ s ∈ ss, s.Addressed) :
    (ss.flatMap fun s => "" :: s.lines).filter isMarker
      = ss.flatMap fun s => [beginLine s.title, endLine s.title] := by
  rw [List.filter_flatMap]
  refine List.flatMap_congr fun s hs => ?_
  rw [List.filter_cons_of_neg (by simp [isSkipped_empty.isMarker_eq_false])]
  exact filter_isMarker_lines (hss s hs)

/-! ## Load balancers -/

/-- The entry of the central services, if the block has one. -/
def scsLine? (d : Deployment) : Option Entry :=
  if d.scsHighAvailability then balancerLine? d d.scsLoadBalancer d.scsName else none

/-- The entry of the enqueue replication, if the block has one. -/
def ersLine? (d : Deployment) : Option Entry :=
  if d.scsHighAvailability then balancerLine? d d.ersLoadBalancer d.ersName else none

/-- The entry of the database, if the block has one. -/
def dbLine? (d : Deployment) : Option Entry :=
  if d.dbHighAvailability then balancerLine? d d.dbLoadBalancer d.dbName else none

theorem virtual_eq (d : Deployment) :
    virtual d
      = (if d.scsHighAvailability then
          [⟨"ASCS/ERS Entries " ++ d.scsName, (scsLine? d).toList ++ (ersLine? d).toList⟩]
        else [])
        ++ (dbLine? d).toList.map fun e => ⟨"DB Entries " ++ d.dbName, [e]⟩ := by
  unfold virtual scsErs? database? scsLine? ersLine? dbLine?
  cases d.scsHighAvailability <;> cases d.dbHighAvailability <;>
    cases balancerLine? d d.dbLoadBalancer d.dbName <;> rfl

theorem flatMap_entries_virtual (d : Deployment) :
    (virtual d).flatMap Section.entries
      = (scsLine? d).toList ++ (ersLine? d).toList ++ (dbLine? d).toList := by
  unfold virtual scsErs? database? scsLine? ersLine? dbLine?
  cases d.scsHighAvailability <;> cases d.dbHighAvailability <;>
    cases balancerLine? d d.dbLoadBalancer d.dbName <;> simp

theorem isSome_dbLine?_iff (d : Deployment) :
    (dbLine? d).isSome = true ↔
      d.dbHighAvailability = true
      ∧ (∃ address, d.dbLoadBalancer = some address ∧ (Address.parse? address).isSome = true)
      ∧ isBlankText d.dbName = false := by
  unfold dbLine?
  cases d.dbHighAvailability with
  | false => simp
  | true =>
      rw [if_pos rfl, Option.isSome_iff_exists]
      simp only [balancerLine?_eq_some_iff]
      constructor
      · rintro ⟨e, address, haddress, hparse, hname, -⟩
        exact ⟨trivial, ⟨address, haddress, hparse⟩, hname⟩
      · rintro ⟨-, ⟨address, haddress, hparse⟩, hname⟩
        exact ⟨_, address, haddress, hparse, hname, rfl⟩

end Section

/-! ## The block -/

namespace Rendering

/-- The sections of a block. -/
def sections (r : Rendering) : List Section :=
  ⟨mainTitle r.deployment, r.hostEntries⟩ :: Section.virtual r.deployment

theorem addressed_of_mem_sections (r : Rendering) : ∀ s ∈ r.sections, s.Addressed := by
  refine List.forall_mem_cons.mpr ⟨?_, fun s hs e he => ?_⟩
  · intro e he
    obtain ⟨h, -, he⟩ := List.mem_flatMap.mp he
    exact Host.parse?_isSome_of_mem_entries he
  · obtain ⟨address, name, -, hbalancer⟩ :=
      Section.balancerLine?_of_mem_virtual (List.mem_flatMap.mpr ⟨s, hs, he⟩)
    obtain ⟨a, -, hparse, -, rfl⟩ := Section.balancerLine?_eq_some_iff.mp hbalancer
    exact hparse

/-- The number of hosts begins with a digit. -/
theorem isPlainComment_hosts (n : Nat) :
    isPlainComment ("# " ++ toString n ++ " Hosts").toList = true := by
  have hdigits : (toString n).toList = Nat.toDigits 10 n := by
    rw [Nat.toString_eq_repr, Nat.repr, String.toList_ofList]
  obtain ⟨c, rest, hc⟩ := List.exists_cons_of_ne_nil (@Nat.toDigits_ne_nil n 10)
  have hmem : c ∈ Nat.toDigits 10 n := by
    rw [hc]
    exact List.mem_cons_self
  have hdigit : c.isDigit = true := Nat.isDigit_of_mem_toDigits (by decide) (by decide) hmem
  refine isPlainComment_append (isPlainComment_iff.mpr ⟨c, rest, ?_, ?_, ?_⟩) _
  · have hstart : "# ".toList = ['#', ' '] := by decide
    rw [String.toList_append, hdigits, hc, hstart]
    rfl
  · rintro rfl
    exact absurd hdigit (by decide)
  · rintro rfl
    exact absurd hdigit (by decide)

/-- The comments at the head of the block, behind the first line. -/
theorem isPlainComment_of_mem_header (r : Rendering) :
    ∀ line ∈ r.header.tail, isPlainComment line.toList = true := by
  have htail : r.header.tail
      = ["# SID: " ++ r.deployment.sapSid, "# " ++ toString r.inventory.playHostCount ++ " Hosts",
          "# Scale out: " ++ flag r.deployment.scaleOut,
          "# High availability: " ++ flag r.deployment.dbHighAvailability]
        ++ Subnet.all.map (fun kind =>
          "# Subnet " ++ kind.label ++ " valid: " ++ flag (r.subnets.isPresent kind))
        ++ (r.isolation.map isolationLine).toList := rfl
  rw [htail]
  refine List.forall_mem_append.mpr ⟨List.forall_mem_append.mpr ⟨?_, ?_⟩, ?_⟩
  · simp only [List.forall_mem_cons]
    refine ⟨isPlainComment_append (by decide) _, isPlainComment_hosts _,
      isPlainComment_append (by decide) _, isPlainComment_append (by decide) _,
      List.forall_mem_nil _⟩
  · -- what follows the word is the label of the subnet, but the word decides
    intro line hline
    obtain ⟨kind, -, rfl⟩ := List.mem_map.mp hline
    have hstart : isPlainComment "# Subnet ".toList = true := by decide
    exact isPlainComment_append (isPlainComment_append (isPlainComment_append hstart _) _) _
  · intro line hline
    obtain ⟨isolation, -, rfl⟩ := Option.map_eq_some_iff.mp (Option.mem_toList.mp hline)
    cases isolation with
    | filtered => decide
    | full => decide

/-- Between the first line and the entries there are comments and an empty line. -/
theorem isSkipped_before_entries (r : Rendering) :
    ∀ line ∈ r.header.tail ++ [""], IsSkipped line := by
  refine List.forall_mem_append.mpr ⟨fun line hline => Or.inl ?_, ?_⟩
  · exact lineKind_of_isPlainComment (isPlainComment_of_mem_header r line hline)
  · exact List.forall_mem_singleton.mpr isSkipped_empty

theorem mainLines_eq (r : Rendering) :
    r.mainLines
      = Section.framed (r.header.tail ++ [""]) ⟨mainTitle r.deployment, r.hostEntries⟩ := by
  have hheader : r.header = beginLine (mainTitle r.deployment) :: r.header.tail := rfl
  unfold mainLines Section.framed
  rw [hheader, List.tail_cons]
  simp only [List.cons_append, List.append_assoc, List.nil_append]

/-! ### Where it is empty -/

/-- Lists behind a mark each are what lies between the marks. -/
theorem splitOn_append_flatMap {α : Type} [BEq α] [LawfulBEq α] {mark : α} {first : List α}
    {others : List (List α)} (hfirst : mark ∉ first) (hothers : ∀ xs ∈ others, mark ∉ xs) :
    (first ++ others.flatMap (mark :: ·)).splitOn mark = first :: others := by
  induction others generalizing first with
  | nil => rw [List.flatMap_nil, List.append_nil]; exact List.splitOn_eq_singleton hfirst
  | cons xs others ih =>
      obtain ⟨hxs, hothers⟩ := List.forall_mem_cons.mp hothers
      have hsplit : (first ++ mark :: (xs ++ others.flatMap (mark :: ·))).splitOn mark
          = first.splitOn mark ++ (xs ++ others.flatMap (mark :: ·)).splitOn mark :=
        List.splitOnP_append_cons _ _ (beq_self_eq_true mark)
      rw [List.flatMap_cons, List.cons_append, hsplit, List.splitOn_eq_singleton hfirst,
        ih hxs hothers]
      rfl

theorem empty_not_mem_of_lineKind {lines : List String}
    (h : ∀ line ∈ lines, lineKind line ≠ .empty) : "" ∉ lines := by
  intro hmem
  exact h "" hmem lineKind_empty

theorem empty_not_mem_header (r : Rendering) : "" ∉ r.header := by
  have hheader : r.header = beginLine (mainTitle r.deployment) :: r.header.tail := rfl
  rw [hheader]
  refine empty_not_mem_of_lineKind (List.forall_mem_cons.mpr ⟨?_, fun line hline => ?_⟩)
  · rw [lineKind_beginLine]
    exact LineKind.noConfusion
  · rw [lineKind_of_isPlainComment (isPlainComment_of_mem_header r line hline)]
    exact LineKind.noConfusion

theorem empty_not_mem_lines {s : Section} (hs : s.Addressed) : "" ∉ s.lines := by
  refine empty_not_mem_of_lineKind (List.forall_mem_append.mpr
    ⟨List.forall_mem_cons.mpr ⟨?_, fun line hline => ?_⟩, List.forall_mem_singleton.mpr ?_⟩)
  · rw [lineKind_beginLine]
    exact LineKind.noConfusion
  · rw [Section.lineKind_of_mem_entries hs line hline]
    exact LineKind.noConfusion
  · rw [lineKind_endLine]
    exact LineKind.noConfusion

theorem empty_not_mem_entries {s : Section} (hs : s.Addressed) :
    "" ∉ s.entries.map Entry.line ++ [endLine s.title] :=
  fun hmem => empty_not_mem_lines hs (List.mem_cons_of_mem _ hmem)

/-- **The empty lines of a block** stand behind its header and in front of each section but the
first. -/
theorem splitOn_lines (r : Rendering) :
    r.lines.splitOn ""
      = r.header
        :: (r.hostEntries.map Entry.line ++ [endLine (mainTitle r.deployment)])
        :: (Section.virtual r.deployment).map Section.lines := by
  obtain ⟨hmain, hvirtual⟩ := List.forall_mem_cons.mp r.addressed_of_mem_sections
  have hlines : r.lines
      = r.header ++ ((r.hostEntries.map Entry.line ++ [endLine (mainTitle r.deployment)])
        :: (Section.virtual r.deployment).map Section.lines).flatMap ("" :: ·) := by
    rw [List.flatMap_cons, List.flatMap_map]
    unfold lines mainLines virtualLines
    simp only [List.append_assoc, List.cons_append]
  rw [hlines]
  refine splitOn_append_flatMap (empty_not_mem_header r) (List.forall_mem_cons.mpr ⟨?_, ?_⟩)
  · exact empty_not_mem_entries hmain
  · intro xs hxs
    obtain ⟨s, hs, rfl⟩ := List.mem_map.mp hxs
    exact empty_not_mem_lines (hvirtual s hs)

end Rendering

/--
**The grammar of a block.** Take any block, whatever texts and numbers it is made of.

The lines that are neither empty nor comments are those of the entries of the hosts and then of the
load balancers for the central services, the enqueue replication and the database, as far as these
have entries. The lines at the ends of sections come in pairs, one for each section, and a reader
that follows them finds every section with exactly its own entries. There is always the main section
with the entries of the hosts. The section of the central services is there exactly if they are
highly available; that of the database if it is highly available, its load balancer has an address
and its name is not blank. And the block is empty in one line behind its header and in one before
each further section.
-/
theorem block_grammar (r : Rendering) :
    r.lines.filter isEntryLine
        = (r.hostEntries ++ (scsLine? r.deployment).toList ++ (ersLine? r.deployment).toList
            ++ (dbLine? r.deployment).toList).map Entry.line
    ∧ r.lines.filter isMarker
        = r.sections.flatMap (fun s => ["# BEGIN " ++ s.title, "# END " ++ s.title])
    ∧ readSections? r.lines = some (r.sections.map fun s => (s.title, s.entries.map Entry.line))
    ∧ r.sections
        = [⟨"ANSIBLE MANAGED BLOCK - " ++ r.deployment.sapSid, r.hostEntries⟩]
          ++ (if r.deployment.scsHighAvailability then
                [⟨"ASCS/ERS Entries " ++ r.deployment.scsName,
                  (scsLine? r.deployment).toList ++ (ersLine? r.deployment).toList⟩]
              else [])
          ++ (dbLine? r.deployment).toList.map (fun e =>
                ⟨"DB Entries " ++ r.deployment.dbName, [e]⟩)
    ∧ ((dbLine? r.deployment).isSome = true ↔
        r.deployment.dbHighAvailability = true
        ∧ (∃ address, r.deployment.dbLoadBalancer = some address
          ∧ (Address.parse? address).isSome = true)
        ∧ isBlankText r.deployment.dbName = false)
    ∧ r.lines.splitOn ""
        = r.header
          :: (r.hostEntries.map Entry.line ++ [endLine (mainTitle r.deployment)])
          :: (Section.virtual r.deployment).map Section.lines := by
  obtain ⟨hmain, hvirtual⟩ := List.forall_mem_cons.mp r.addressed_of_mem_sections
  -- the main section is one like the others, apart from what stands in front of its entries
  have hbefore := r.isSkipped_before_entries
  have hlines : r.lines = r.mainLines ++ r.virtualLines := rfl
  refine ⟨?_, ?_, ?_, ?_, isSome_dbLine?_iff _, Rendering.splitOn_lines r⟩
  · rw [hlines, Rendering.mainLines_eq, List.filter_append,
      Section.filter_framed fun line hline => (hbefore line hline).isEntryLine_eq_false,
      Section.filter_isEntryLine_lines hmain, Rendering.virtualLines,
      Section.filter_isEntryLine_flatMap hvirtual, Section.flatMap_entries_virtual,
      ← List.map_append]
    simp only [List.append_assoc]
  · rw [hlines, Rendering.mainLines_eq, List.filter_append,
      Section.filter_framed fun line hline => (hbefore line hline).isMarker_eq_false,
      Section.filter_isMarker_lines hmain, Rendering.virtualLines,
      Section.filter_isMarker_flatMap hvirtual]
    rfl
  · have hread := Section.foldlM_step_framed [] hmain hbefore
    have hrest := Section.foldlM_step_flatMap hvirtual
      ([] ++ [(mainTitle r.deployment, r.hostEntries.map Entry.line)])
    unfold readSections?
    rw [hlines, Rendering.mainLines_eq, List.foldlM_append, hread, Rendering.virtualLines]
    simp only [Option.bind_eq_bind, Option.bind_some, hrest]
    rfl
  · unfold Rendering.sections
    rw [Section.virtual_eq]
    rfl

end HostsBlock
