import HostsBlock.Proofs.OlderNames
import HostsBlock.Proofs.RecordRuns

/-!
# Merging records

A record is merged into another one by setting its variables there, one after the other. What comes
out is best seen from the two sides from which a record is observed: the values under its names, and
the order of the names. There are no others, `Record.eq_of_names_of_raw?`, so **an equation between
records is one between lists of names and one between the values of each name**.

Under each name the record that is merged in wins, `Record.raw?_extend`, also with a value that is
`null`. Of the names, those that were there keep their places and the new ones follow behind,
`Record.names_extend`. The laws of merging come from these two facts.

As a value, a record is an object, and there the names are in order. So writing a record and reading
it back may move its variables about, but it changes none of them, and the order matters to nobody
who asks for values.
-/

namespace HostsBlock

namespace Record

variable {v w : Record}

/-! ## From two sides -/

theorem eq_of_bindings (h : v.bindings = w.bindings) : v = w := by
  cases v
  cases w
  congr

/-- The variables of a record are its names with the values under them. -/
theorem bindings_eq (v : Record) :
    v.bindings = v.names.filterMap fun name => (v.raw? name).map (Prod.mk name) := by
  have hvalue : ∀ x ∈ v.bindings, (v.raw? x.1).map (Prod.mk x.1) = some x := by
    intro x hx
    rw [raw?_eq_some_iff.mpr hx, Option.map_some]
  unfold names
  rw [List.filterMap_map]
  exact ((List.filterMap_congr hvalue).trans List.filterMap_some).symm

/-- **Records with the same names in the same order and the same values are equal.** -/
theorem eq_of_names_of_raw? (hnames : v.names = w.names)
    (hraw : ∀ name, v.raw? name = w.raw? name) : v = w := by
  refine eq_of_bindings ?_
  rw [bindings_eq v, bindings_eq w, hnames]
  simp only [hraw]

/-- The record that is merged in wins. -/
theorem raw?_extend (v w : Record) (name : String) :
    (v.extend w).raw? name = (w.raw? name).or (v.raw? name) := by
  have hlookup : w.bindings.reverse.lookup name = w.raw? name := lookup_reverse w.unique name
  unfold extend
  rw [raw?_insertAll, hlookup]

/-- Known names keep their places, and new ones follow behind. -/
theorem names_extend (v w : Record) :
    (v.extend w).names = v.names ++ w.names.filter (· ∉ v.names) := by
  have hset : (v.extend w).names = (v.names ++ w.names).eraseDups := names_insertAll v w.bindings
  have hknown : v.names.eraseDups = v.names := eraseDups_of_nodup v.unique
  have hnew : w.names.removeAll v.names = w.names.filter (· ∉ v.names) := by
    unfold List.removeAll
    refine List.filter_congr fun name _ => ?_
    rw [List.elem_eq_contains, List.contains_eq_mem, decide_not]
  have hunique : (w.names.filter (· ∉ v.names)).Nodup := w.unique.filter _
  rw [hset, List.eraseDups_append, hnew, hknown, eraseDups_of_nodup hunique]

theorem mem_names_extend {name : String} :
    name ∈ (v.extend w).names ↔ name ∈ v.names ∨ name ∈ w.names := by
  rw [names_extend, List.mem_append, List.mem_filter, decide_eq_true_iff]
  tauto

/-! ## The laws -/

theorem extend_assoc (a b c : Record) : (a.extend b).extend c = a.extend (b.extend c) := by
  refine eq_of_names_of_raw? ?_ fun name => ?_
  · -- a name of the last record is new if neither of the others has it
    have hnew : c.names.filter (· ∉ (a.extend b).names)
        = (c.names.filter (· ∉ b.names)).filter (· ∉ a.names) := by
      rw [List.filter_filter]
      refine List.filter_congr fun name _ => ?_
      rw [Bool.eq_iff_iff, Bool.and_eq_true, decide_eq_true_iff, decide_eq_true_iff,
        decide_eq_true_iff, mem_names_extend, not_or]
    rw [names_extend (a.extend b), hnew, names_extend a, names_extend a (b.extend c),
      names_extend b, List.filter_append, List.append_assoc]
  · simp only [raw?_extend]
    rw [Option.or_assoc]

theorem extend_empty (v : Record) : v.extend empty = v := rfl

theorem empty_extend (v : Record) : empty.extend v = v := eq_of_bindings (insertAll_empty v)

theorem extend_self (v : Record) : v.extend v = v := by
  refine eq_of_names_of_raw? ?_ fun name => ?_
  · have hnone : v.names.filter (· ∉ v.names) = [] := by
      refine List.filter_eq_nil_iff.mpr fun name hname => ?_
      rw [decide_eq_true_iff]
      exact not_not_intro hname
    rw [names_extend, hnone, List.append_nil]
  · rw [raw?_extend, Option.or_self]

/-! ## Writing and reading back -/

/-- Looking up a name finds the first variable that has it. -/
theorem lookup_eq_find? (xs : List Variable) (name : String) :
    xs.lookup name = (Keyed.find? (·.1) name xs).map (·.2) := by
  induction xs with
  | nil => rfl
  | cons x xs ih =>
      rw [lookup_cons_eq]
      split
      · rename_i hname
        rw [Keyed.find?_cons_of_eq xs hname, Option.map_some]
      · rename_i hname
        rw [Keyed.find?_cons_of_ne xs hname, ih]

/-- The variables of a record in the order of their names. -/
def arranged (v : Record) : List Variable := Keyed.ofList (·.1) v.bindings

theorem sorted_arranged (v : Record) : (v.arranged.map (·.1)).Pairwise (· < ·) :=
  List.pairwise_map.mpr (Keyed.sorted_ofList v.bindings)

theorem nodup_arranged (v : Record) : (v.arranged.map (·.1)).Nodup := by
  refine (sorted_arranged v).imp ?_
  rintro m n hlt rfl
  exact lt_irrefl m hlt

theorem lookup_arranged (v : Record) (name : String) :
    v.arranged.lookup name = v.raw? name := by
  have hlast : Keyed.find? (·.1) name v.arranged = Keyed.find? (·.1) name v.bindings.reverse :=
    Keyed.find?_ofList v.bindings name
  rw [lookup_eq_find?, hlast, ← lookup_eq_find?]
  exact lookup_reverse v.unique name

/-- The record that is read back has the variables in the order of their names. -/
def reread (v : Record) : Record := ⟨v.arranged, v.nodup_arranged⟩

theorem ofValue_toValue (v : Record) : ofValue v.toValue = .ok v.reread := by
  have hread : ofList v.arranged = v.reread := empty_extend v.reread
  show Except.ok (ofList v.arranged) = _
  rw [hread]

theorem raw?_reread (v : Record) (name : String) : v.reread.raw? name = v.raw? name :=
  lookup_arranged v name

/-- Nothing that comes out of a record depends on where its variables stand. -/
theorem sameOutcome_of_raw?_eq (h : ∀ name, v.raw? name = w.raw? name) : v.SameOutcome w := by
  have hread : v.ReadAlike w :=
    readAlike_of_find?_eq fun _ _ => find?_congr fun name _ => get?_congr (h name)
  exact hread.sameOutcome

/-! ## Files one after the other -/

/-- Two files of variables may be merged with each other first. -/
theorem applyExtra_files (files : Files) (v : Record) (front back : String) :
    (do (← v.applyExtra files ("@" ++ front)).applyExtra files ("@" ++ back))
      = (do return v.extend ((← ofFile files front).extend (← ofFile files back))) := by
  rw [applyExtra_at]
  -- a file that cannot be read is the error of both sides, and the first such file counts
  cases ofFile files front with
  | error e => rfl
  | ok first =>
      show (v.extend first).applyExtra files ("@" ++ back) = _
      rw [applyExtra_at]
      cases ofFile files back with
      | error e => rfl
      | ok second => exact congrArg Except.ok (extend_assoc v first second)

end Record

/--
**Records are merged as lists are put together, and the last value counts.** Take any records. It
does not matter which two of three are merged first; a record without variables adds nothing on
either side, and neither does a record merged into itself. All this holds of the records as they
are, with the order of their names.

The names of the first record keep their places, and the new ones of the second follow in its order.
Under each name the value of the second record counts, even a `null`, and that of the first one if
there is none.

A record that is made a value and read back has the same value under each name. Its names are in
order now, but every block and every report comes out the same.

So two files that are named one after the other on a command line have the effect of one file with
both merged, and they fail in the same way.
-/
theorem merging_laws (files : Files) (a b c : Record) :
    (a.extend b).extend c = a.extend (b.extend c)
    ∧ a.extend .empty = a
    ∧ Record.empty.extend a = a
    ∧ a.extend a = a
    ∧ (a.extend b).names = a.names ++ b.names.filter (· ∉ a.names)
    ∧ (∀ name, (a.extend b).raw? name = (b.raw? name).or (a.raw? name))
    ∧ (∃ r, Record.ofValue a.toValue = .ok r
      ∧ (∀ name, r.raw? name = a.raw? name)
      ∧ r.names.Pairwise (· < ·)
      ∧ r.SameOutcome a)
    ∧ ∀ front back : String,
      (do (← a.applyExtra files ("@" ++ front)).applyExtra files ("@" ++ back))
        = (do return a.extend ((← Record.ofFile files front).extend
            (← Record.ofFile files back))) := by
  refine ⟨Record.extend_assoc a b c, Record.extend_empty a, Record.empty_extend a,
    Record.extend_self a, Record.names_extend a b, Record.raw?_extend a b,
    ⟨a.reread, Record.ofValue_toValue a, Record.raw?_reread a, Record.sorted_arranged a, ?_⟩,
    Record.applyExtra_files files a⟩
  exact Record.sameOutcome_of_raw?_eq (Record.raw?_reread a)

/-- A value that is given again stays in its place, also as a `null`. -/
example :
    let a : Record := .ofList [("sap_sid", .string "AAA"), ("sap_fqdn", .string "a.com")]
    let b : Record := .ofList [("db_sid", .string "HDB"), ("sap_sid", .null)]
    (a.extend b).names = ["sap_sid", "sap_fqdn", "db_sid"]
      ∧ (a.extend b).contains "sap_sid" = false := by
  decide +kernel

end HostsBlock
