import HostsBlock.Proofs.BlankFree
import HostsBlock.Proofs.Records
import HostsBlock.Proofs.Runs
import Mathlib.Data.List.TakeDrop
import Mathlib.Data.List.TakeWhile

/-!
# Records over whole runs

A record is built up step by step: variables are set, other records are merged into it, and a
command line brings extra variables, each of which sets a variable or merges a file. Some of these
steps fail. This file says what is left of such a run, whatever the record was before it.

A step that fails leaves no trace, and whether it fails does not depend on the record. All other
steps **write a list of variables that does not depend on the record either**, `Step.written?`. So a
run comes down to one list of variables, those of its steps one after the other, and a record after
a run is the record before it with that list set in it, `Record.run_eq`. The order of names and the
value under each name are then what they are for any list of variables.

Which steps fail, `Step.Fails`, and what the others write, `Step.Writes`, is said in terms of the
texts on the command line, without the way in which they are taken apart.
-/

namespace HostsBlock

namespace Record

open Text

/-- A step that may change a record. -/
inductive Step where
  | insert (name : String) (v : Value)
  | extend (other : Record)
  /-- An extra variable of a command line. -/
  | extra (expression : String)

namespace Step

/-- Applies a step to a record. -/
def apply (files : Files) (r : Record) : Step → Except LoadError Record
  | .insert name v => .ok (r.insert name v)
  | .extend other => .ok (r.extend other)
  | .extra expression => r.applyExtra files expression

/-- The variables that a step writes, which are those of an empty record after it. -/
def written? (files : Files) (step : Step) : Option (List Variable) :=
  (step.apply files empty).toOption.map (·.bindings)

/-- A step that cannot be applied. -/
inductive Fails (files : Files) : Step → Prop where
  /-- The file behind an at sign cannot be loaded. -/
  | badFile {path : String} {e : LoadError} (unread : ofFile files path = .error e) :
    Fails files (.extra ("@" ++ path))
  | noEquals {expression : String} (plain : expression.toList.head? ≠ some '@')
    (noEquals : '=' ∉ expression.toList) : Fails files (.extra expression)
  /-- There is no name in front of the first equals sign. -/
  | noName {name value : String} (blank : isBlankText name = true) :
    Fails files (.extra (name ++ "=" ++ value))

/-- What a step writes. -/
inductive Writes (files : Files) : Step → List Variable → Prop where
  | insert (name : String) (v : Value) : Writes files (.insert name v) [(name, v)]
  | extend (other : Record) : Writes files (.extend other) other.bindings
  /-- All variables of the file behind an at sign. -/
  | file {path : String} {other : Record} (read : ofFile files path = .ok other) :
    Writes files (.extra ("@" ++ path)) other.bindings
  /-- The variable in front of the first equals sign. -/
  | pair {name value : String} (plain : name.toList.head? ≠ some '@')
    (noEquals : '=' ∉ name.toList) (named : isBlankText name = false) :
    Writes files (.extra (name ++ "=" ++ value)) [(trim name, extraValue value)]

end Step

/-- The record after a step; one that fails leaves it as it is. -/
def after (files : Files) (r : Record) (step : Step) : Record :=
  (step.apply files r).toOption.getD r

/-- The record after some steps, one after the other. -/
def run (files : Files) (r : Record) (steps : List Step) : Record := steps.foldl (after files) r

/-- All variables that some steps write, in order. -/
def given (files : Files) (steps : List Step) : List Variable :=
  (steps.filterMap (Step.written? files)).flatten

/-! ## Taking an extra variable apart -/

theorem extraFile?_at (path : String) : extraFile? ("@" ++ path) = some path := by
  unfold extraFile?
  rw [String.toList_append]
  exact congrArg some String.ofList_toList

theorem extraFile?_of_plain {expression : String} (h : expression.toList.head? ≠ some '@') :
    extraFile? expression = none := by
  unfold extraFile?
  split
  · rename_i path hchars
    rw [hchars] at h
    exact absurd rfl h
  · rfl

theorem splitAtEquals?_append {name : List Char} (h : '=' ∉ name) (value : List Char) :
    splitAtEquals? (name ++ '=' :: value) = some (name, value) := by
  have hname : ∀ c ∈ name, decide (c ≠ '=') = true := fun c hc =>
    decide_eq_true (ne_of_mem_of_not_mem hc h)
  unfold splitAtEquals?
  rw [List.span_eq_takeWhile_dropWhile, List.takeWhile_append_of_pos hname,
    List.dropWhile_append_of_pos hname, List.takeWhile_cons_of_neg (by decide),
    List.dropWhile_cons_of_neg (by decide), List.append_nil]

theorem splitAtEquals?_eq_none {cs : List Char} (h : '=' ∉ cs) : splitAtEquals? cs = none := by
  have hrest : cs.dropWhile (fun c => decide (c ≠ '=')) = [] :=
    List.dropWhile_eq_nil_iff.mpr fun c hc => decide_eq_true (ne_of_mem_of_not_mem hc h)
  unfold splitAtEquals?
  rw [List.span_eq_takeWhile_dropWhile, hrest]

theorem toList_pair (name value : String) :
    (name ++ "=" ++ value).toList = name.toList ++ '=' :: value.toList := by
  rw [String.toList_append, String.toList_append, List.append_assoc]
  rfl

/-- With a sign of equality behind it, a text begins with an at sign only if it did before. -/
theorem plain_pair {name : String} (h : name.toList.head? ≠ some '@') (value : String) :
    (name ++ "=" ++ value).toList.head? ≠ some '@' := by
  rw [toList_pair]
  cases hname : name.toList with
  | nil => exact fun heq => absurd (Option.some.inj heq) (by decide)
  | cons c cs => rwa [hname] at h

theorem plain_of_blank {name : String} (h : isBlankText name = true) :
    name.toList.head? ≠ some '@' := by
  intro hat
  have hblank : isBlank '@' = true :=
    List.all_eq_true.mp h '@' (List.mem_of_head? hat)
  exact absurd hblank (by decide)

theorem noEquals_of_blank {name : String} (h : isBlankText name = true) : '=' ∉ name.toList := by
  intro hmem
  exact absurd (List.all_eq_true.mp h '=' hmem) (by decide)

/-! ## The three forms of an extra variable -/

theorem applyExtra_at (files : Files) (r : Record) (path : String) :
    r.applyExtra files ("@" ++ path) = (ofFile files path).map r.extend := by
  unfold applyExtra
  rw [extraFile?_at]

theorem applyExtra_noEquals {expression : String} (files : Files) (r : Record)
    (plain : expression.toList.head? ≠ some '@') (noEquals : '=' ∉ expression.toList) :
    r.applyExtra files expression = .error (.badExtra expression) := by
  unfold applyExtra
  rw [extraFile?_of_plain plain, splitAtEquals?_eq_none noEquals]

theorem applyExtra_equals {name : String} (files : Files) (r : Record)
    (plain : name.toList.head? ≠ some '@') (noEquals : '=' ∉ name.toList) (value : String) :
    r.applyExtra files (name ++ "=" ++ value)
      = if isBlankText name then .error (.badExtra (name ++ "=" ++ value))
        else .ok (r.insert (trim name) (extraValue value)) := by
  unfold applyExtra
  rw [extraFile?_of_plain (plain_pair plain value)]
  dsimp only
  rw [toList_pair, splitAtEquals?_append noEquals]
  dsimp only
  rw [String.ofList_toList, String.ofList_toList]
  rfl

/-- **A name, a sign of equality and a value set one variable.** -/
theorem applyExtra_pair {name : String} (files : Files) (r : Record)
    (plain : name.toList.head? ≠ some '@') (noEquals : '=' ∉ name.toList)
    (named : isBlankText name = false) (value : String) :
    r.applyExtra files (name ++ "=" ++ value)
      = .ok (r.insert (trim name) (extraValue value)) := by
  rw [applyExtra_equals files r plain noEquals, named, if_neg Bool.false_ne_true]

/-- Every text is of one of the three forms. -/
theorem extra_cases (expression : String) :
    (∃ path, expression = "@" ++ path)
    ∨ expression.toList.head? ≠ some '@' ∧ '=' ∉ expression.toList
    ∨ ∃ name value, expression = name ++ "=" ++ value ∧ name.toList.head? ≠ some '@'
      ∧ '=' ∉ name.toList := by
  by_cases hat : expression.toList.head? = some '@'
  · obtain ⟨path, hpath⟩ := List.head?_eq_some_iff.mp hat
    refine Or.inl ⟨String.ofList path, ?_⟩
    rw [← String.toList_inj, hpath, String.toList_append, String.toList_ofList]
    exact congrArg ('@' :: ·) String.toList_ofList.symm
  · by_cases hequals : '=' ∈ expression.toList
    · -- the first sign of equality is where the name ends
      obtain ⟨name, value, hchars, hname⟩ := List.eq_append_cons_of_mem hequals
      refine Or.inr (Or.inr ⟨String.ofList name, String.ofList value, ?_, ?_, ?_⟩)
      · rw [← String.toList_inj, toList_pair, String.toList_ofList, String.toList_ofList, hchars]
      · rw [String.toList_ofList]
        intro hhead
        refine hat ?_
        rw [hchars, List.head?_append, hhead]
        rfl
      · rwa [String.toList_ofList]
    · exact Or.inr (Or.inl ⟨hat, hequals⟩)

/-! ## One step -/

namespace Step

variable {files : Files} {step : Step} {xs : List Variable}

/-- Every step fails or writes something. -/
theorem fails_or_writes (files : Files) (step : Step) :
    step.Fails files ∨ ∃ xs, step.Writes files xs := by
  cases step with
  | insert name v => exact Or.inr ⟨_, .insert name v⟩
  | extend other => exact Or.inr ⟨_, .extend other⟩
  | extra expression =>
      obtain ⟨path, rfl⟩ | ⟨hplain, hequals⟩ | ⟨name, value, rfl, hplain, hequals⟩ :=
        extra_cases expression
      · cases hread : ofFile files path with
        | error e => exact Or.inl (.badFile hread)
        | ok other => exact Or.inr ⟨_, .file hread⟩
      · exact Or.inl (.noEquals hplain hequals)
      · cases hblank : isBlankText name with
        | true => exact Or.inl (.noName hblank)
        | false => exact Or.inr ⟨_, .pair hplain hequals hblank⟩

/-- A step that fails does so for every record. -/
theorem Fails.apply_eq (h : step.Fails files) :
    ∃ e, ∀ r : Record, step.apply files r = .error e := by
  cases h with
  | @badFile path e unread =>
      refine ⟨e, fun r => (applyExtra_at files r path).trans ?_⟩
      rw [unread]
      rfl
  | noEquals plain noEquals => exact ⟨_, fun r => applyExtra_noEquals files r plain noEquals⟩
  | @noName name value blank =>
      refine ⟨.badExtra (name ++ "=" ++ value), fun r => ?_⟩
      exact (applyExtra_equals files r (plain_of_blank blank) (noEquals_of_blank blank)
        value).trans (if_pos blank)

/-- All that a step does to a record is that it writes its variables. -/
theorem Writes.apply_eq (h : step.Writes files xs) (r : Record) :
    step.apply files r = .ok (r.insertAll xs) := by
  cases h with
  | insert name v => rfl
  | extend other => rfl
  | @file path other read =>
      refine (applyExtra_at files r path).trans ?_
      rw [read]
      rfl
  | @pair name value plain noEquals named =>
      exact applyExtra_pair files r plain noEquals named value

/-- A step writes each name once. -/
theorem Writes.nodup (h : step.Writes files xs) : (xs.map (·.1)).Nodup := by
  cases h with
  | insert name v => exact List.nodup_singleton name
  | @extend other => exact other.unique
  | @file path other read => exact other.unique
  | pair plain noEquals named => exact List.nodup_singleton _

theorem Fails.written?_eq (h : step.Fails files) : step.written? files = none := by
  obtain ⟨e, he⟩ := h.apply_eq
  unfold written?
  rw [he]
  rfl

theorem Writes.written?_eq (h : step.Writes files xs) : step.written? files = some xs := by
  -- into the empty record its variables go one behind the other, since their names are distinct
  have hbindings : (empty.insertAll xs).bindings = xs :=
    insertAll_empty ⟨xs, h.nodup⟩
  unfold written?
  rw [h.apply_eq]
  exact congrArg some hbindings

theorem written?_eq_none_iff : step.written? files = none ↔ step.Fails files := by
  refine ⟨fun hnone => ?_, Fails.written?_eq⟩
  obtain hfails | ⟨xs, hwrites⟩ := fails_or_writes files step
  · exact hfails
  · exact absurd (hwrites.written?_eq.symm.trans hnone) nofun

theorem written?_eq_some_iff : step.written? files = some xs ↔ step.Writes files xs := by
  refine ⟨fun hsome => ?_, Writes.written?_eq⟩
  obtain hfails | ⟨ys, hwrites⟩ := fails_or_writes files step
  · exact absurd (hfails.written?_eq.symm.trans hsome) nofun
  · cases hwrites.written?_eq.symm.trans hsome
    exact hwrites

instance (files : Files) : DecidablePred (Fails files) := fun _ =>
  decidable_of_iff _ written?_eq_none_iff

theorem exists_error_iff (files : Files) (r : Record) (step : Step) :
    (∃ e, step.apply files r = .error e) ↔ step.Fails files := by
  constructor
  · rintro ⟨e, he⟩
    obtain hfails | ⟨xs, hwrites⟩ := fails_or_writes files step
    · exact hfails
    · exact absurd ((hwrites.apply_eq r).symm.trans he) nofun
  · intro h
    obtain ⟨e, he⟩ := h.apply_eq
    exact ⟨e, he r⟩

/-- The value that a step writes under a name. -/
def value? (files : Files) (name : String) (step : Step) : Option Value :=
  (step.written? files).bind (·.lookup name)

end Step

/-! ## Steps one after the other -/

variable {files : Files}

theorem after_of_fails {step : Step} (h : step.Fails files) (r : Record) :
    r.after files step = r := by
  obtain ⟨e, he⟩ := h.apply_eq
  unfold after
  rw [he]
  rfl

theorem after_of_writes {step : Step} {xs : List Variable} (h : step.Writes files xs)
    (r : Record) : r.after files step = r.insertAll xs := by
  unfold after
  rw [h.apply_eq]
  rfl

theorem run_cons (files : Files) (r : Record) (step : Step) (steps : List Step) :
    r.run files (step :: steps) = (r.after files step).run files steps := rfl

theorem run_append (files : Files) (r : Record) (front back : List Step) :
    r.run files (front ++ back) = (r.run files front).run files back := List.foldl_append

theorem given_cons_of_fails {step : Step} (h : step.Fails files) (steps : List Step) :
    given files (step :: steps) = given files steps := by
  unfold given
  rw [List.filterMap_cons_none h.written?_eq]

theorem given_cons_of_writes {step : Step} {xs : List Variable} (h : step.Writes files xs)
    (steps : List Step) : given files (step :: steps) = xs ++ given files steps := by
  unfold given
  rw [List.filterMap_cons_some h.written?_eq, List.flatten_cons]

/-- **A run sets what its steps write, in order.** -/
theorem run_eq (files : Files) (r : Record) (steps : List Step) :
    r.run files steps = r.insertAll (given files steps) := by
  induction steps generalizing r with
  | nil => rfl
  | cons step steps ih =>
      rw [run_cons, ih]
      obtain hfails | ⟨xs, hwrites⟩ := step.fails_or_writes files
      · rw [after_of_fails hfails, given_cons_of_fails hfails]
      · rw [after_of_writes hwrites, given_cons_of_writes hwrites, insertAll_append]

/-- Steps that fail can be left out. -/
theorem run_filter (files : Files) (r : Record) (steps : List Step) :
    r.run files (steps.filter fun step => ¬ step.Fails files) = r.run files steps := by
  induction steps generalizing r with
  | nil => rfl
  | cons step steps ih =>
      by_cases hfails : step.Fails files
      · rw [List.filter_cons_of_neg (by simpa using hfails), ih, run_cons, after_of_fails hfails]
      · rw [List.filter_cons_of_pos (by simpa using hfails), run_cons, run_cons, ih]

/-- A step changes the values that it writes and no others. -/
theorem raw?_after (files : Files) (r : Record) (step : Step) (name : String) :
    (r.after files step).raw? name = (step.value? files name).or (r.raw? name) := by
  unfold Step.value?
  obtain hfails | ⟨xs, hwrites⟩ := step.fails_or_writes files
  · rw [after_of_fails hfails, hfails.written?_eq]
    rfl
  · -- no name comes twice, so it makes no difference from which end a list is searched
    rw [after_of_writes hwrites, hwrites.written?_eq, raw?_insertAll,
      lookup_reverse hwrites.nodup]
    rfl

/-- **The last step that writes a name decides its value.** -/
theorem raw?_run (files : Files) (r : Record) (steps : List Step) (name : String) :
    (r.run files steps).raw? name
      = (steps.reverse.findSome? (Step.value? files name)).or (r.raw? name) := by
  -- the first step comes last in the search, right before the value from before the run
  induction steps generalizing r with
  | nil => rfl
  | cons step steps ih =>
      rw [run_cons, ih, raw?_after, List.reverse_cons, List.findSome?_append, Option.or_assoc,
        List.findSome?_singleton]

/-- An extra variable that is rejected is a step that fails. -/
theorem rejectsExtra_iff {expression : String} :
    RejectsExtra files expression ↔ (Step.extra expression).Fails files := by
  refine ⟨?_, Step.Fails.apply_eq⟩
  rintro ⟨e, he⟩
  exact (Step.exists_error_iff files empty (.extra expression)).mp ⟨e, he empty⟩

end Record

/-! ## Loading a record -/

namespace Command

variable {files : Files} {path : String} {extra : List String} {start r : Record}

theorem run_of_foldlM (h : extra.foldlM (fun r expression =>
    (r.applyExtra files expression).mapError (.extra expression)) start
      = (.ok r : Except Failure Record)) : start.run files (extra.map .extra) = r := by
  induction extra generalizing start with
  | nil => exact Except.ok.inj h
  | cons expression extra ih =>
      rw [List.foldlM_cons] at h
      rw [List.map_cons, Record.run_cons]
      cases happlied : start.applyExtra files expression with
      | error e =>
          rw [happlied] at h
          exact absurd h nofun
      | ok next =>
          have hafter : start.after files (.extra expression) = next := by
            show (start.applyExtra files expression).toOption.getD start = next
            rw [happlied]
            rfl
          rw [happlied] at h
          rw [hafter]
          exact ih h

theorem run_of_loadRecord (hfile : Record.ofFile files path = .ok start)
    (h : loadRecord files path extra = .ok r) : start.run files (extra.map .extra) = r := by
  unfold loadRecord at h
  rw [hfile] at h
  exact run_of_foldlM h

/-- A command line works on the record of a file after a run in which no step fails. -/
theorem loadRecord_eq_ok : loadRecord files path extra = .ok r ↔
    ∃ start, Record.ofFile files path = .ok start
    ∧ (∀ expression ∈ extra, ¬ (Record.Step.extra expression).Fails files)
    ∧ start.run files (extra.map .extra) = r := by
  simp only [← Record.rejectsExtra_iff]
  constructor
  · intro h
    obtain ⟨⟨start, hfile⟩, haccepted⟩ := loadRecord_eq_ok_iff.mp ⟨r, h⟩
    exact ⟨start, hfile, haccepted, run_of_loadRecord hfile h⟩
  · rintro ⟨start, hfile, haccepted, hrun⟩
    obtain ⟨loaded, hloaded⟩ := loadRecord_eq_ok_iff.mpr ⟨⟨start, hfile⟩, haccepted⟩
    rw [hloaded, ← run_of_loadRecord hfile hloaded, hrun]

end Command

/-! ## What is left of a run -/

/--
**A record after any run.**

Each name stands in it once, and the names come in the order in which they were first given. The
value of a name is the one that the last step wrote that wrote the name at all, or else the one from
before the run, and a name is absent if there is no such value or it is `null`.

Whether a step fails does not depend on the record. One that fails might as well not have been made,
in front of any steps and behind any, and a run is what its other steps make it. They write what
`Step.Writes` lists; a command line that gives a name and a value writes just that variable.
-/
theorem record_after_run (files : Files) (r : Record) (steps : List Record.Step) :
    (r.run files steps).names.Nodup
    ∧ (r.run files steps).names
      = (r.names ++ (Record.given files steps).map (·.1)).eraseDups
    ∧ (∀ name, (r.run files steps).raw? name
      = (steps.reverse.findSome? (Record.Step.value? files name)).or (r.raw? name))
    ∧ (∀ name, ((r.run files steps).contains name = false ↔
        (r.run files steps).raw? name = none ∨ (r.run files steps).raw? name = some .null)
      ∧ ((r.run files steps).get? name = none ↔
        (r.run files steps).raw? name = none ∨ (r.run files steps).raw? name = some .null))
    ∧ (∀ step : Record.Step,
      ((∃ e, step.apply files (r.run files steps) = .error e) ↔ step.Fails files)
      ∧ (step.written? files = none ↔ step.Fails files)
      ∧ (∀ xs, step.written? files = some xs ↔ step.Writes files xs)
      ∧ (step.Fails files → ∀ back,
        r.run files (steps ++ step :: back) = r.run files (steps ++ back)))
    ∧ r.run files (steps.filter fun step => ¬ step.Fails files) = r.run files steps
    ∧ (∀ name value : String, name.toList.head? ≠ some '@' → '=' ∉ name.toList →
      Text.isBlankText name = false →
      (r.run files steps).applyExtra files (name ++ "=" ++ value)
        = .ok ((r.run files steps).insert (Text.trim name)
          ((Yaml.parse? value).getD (.string value))))
    ∧ (∀ path extra r', Command.loadRecord files path extra = .ok r' ↔
      ∃ start, Record.ofFile files path = .ok start
      ∧ (∀ expression ∈ extra, ¬ (Record.Step.extra expression).Fails files)
      ∧ start.run files (extra.map .extra) = r') := by
  refine ⟨(r.run files steps).unique, ?_, r.raw?_run files steps,
    fun name => ⟨Record.contains_eq_false_iff, Record.get?_eq_none_iff⟩,
    fun step => ⟨Record.Step.exists_error_iff files _ step, Record.Step.written?_eq_none_iff,
      fun xs => Record.Step.written?_eq_some_iff, fun hfails back => ?_⟩,
    r.run_filter files steps, fun name value hplain hequals hnamed => ?_,
    fun path extra r' => Command.loadRecord_eq_ok⟩
  · rw [Record.run_eq, Record.names_insertAll]
  · rw [Record.run_append, Record.run_cons, Record.after_of_fails hfails, Record.run_append]
  · exact Record.applyExtra_pair files _ hplain hequals hnamed value

/-- The value begins behind the first sign of equality, and a known name keeps its place. -/
example :
    let r := Record.empty.run (.ofList [])
      [.insert "a" .null, .insert "b" .null, .extra " =c", .extra " a =b=c"]
    r.names = ["a", "b"] ∧ (r.get? "a").map Value.text = some "b=c" := by decide +kernel

end HostsBlock
