import HostsBlock.Record.Key
import Mathlib.Data.List.Nodup

/-!
# What a record holds

A record is a list of named values, but it is asked for the value of a name. Each name stands in it
once, so the answers are what the list says, `Record.raw?_eq_some_iff`, and the order of the list
does not matter to them.

Variables that are set one after the other leave two traces: under each name the last value counts,
`Record.raw?_insertAll`, and the names stand in the order in which they first came,
`Record.names_insertAll`.

What an edit of a record does is said through its answers: `Record.AgreeBesides` holds of two
records that give the same ones under all names but one.
-/

namespace HostsBlock

theorem lookup_cons_eq (x : Variable) (xs : List Variable) (n : String) :
    (x :: xs).lookup n = if x.1 = n then some x.2 else xs.lookup n := by
  by_cases hn : x.1 = n
  · subst hn
    rw [if_pos rfl, List.lookup_cons_self]
  · have hbeq : (n == x.1) = false := beq_false_of_ne (Ne.symm hn)
    rw [if_neg hn, List.lookup_cons, hbeq]

theorem lookup_putVariable (name : String) (v : Value) (xs : List Variable) (n : String) :
    (putVariable name v xs).lookup n = if name = n then some v else xs.lookup n := by
  induction xs with
  | nil => rw [putVariable, lookup_cons_eq]
  | cons x xs ih =>
      by_cases hx : x.1 = name
      · -- the old value gives way in its place
        rw [putVariable, if_pos hx, lookup_cons_eq, lookup_cons_eq, hx]
        split <;> rfl
      · rw [putVariable, if_neg hx, lookup_cons_eq, lookup_cons_eq, ih]
        by_cases hn : x.1 = n
        · have hname : name ≠ n := fun h => hx (hn.trans h.symm)
          rw [if_pos hn, if_neg hname, if_pos hn]
        · rw [if_neg hn, if_neg hn]

theorem lookup_eq_some_iff_mem {name : String} {v : Value} {xs : List Variable}
    (h : (xs.map (·.1)).Nodup) : xs.lookup name = some v ↔ (name, v) ∈ xs := by
  constructor
  · intro hlookup
    obtain ⟨front, back, rfl, -⟩ := List.lookup_eq_some_iff.mp hlookup
    exact List.mem_append_right _ List.mem_cons_self
  · intro hmem
    obtain ⟨front, back, rfl⟩ := List.append_of_mem hmem
    refine List.lookup_eq_some_iff.mpr ⟨front, back, rfl, ?_⟩
    intro x hx
    rw [List.map_append, List.map_cons] at h
    have hdisjoint := List.disjoint_of_nodup_append h
    rw [bne_iff_ne]
    rintro rfl
    exact hdisjoint (List.mem_map_of_mem hx) List.mem_cons_self

theorem lookup_reverse {xs : List Variable} (h : (xs.map (·.1)).Nodup) (name : String) :
    xs.reverse.lookup name = xs.lookup name := by
  have hreverse : (xs.reverse.map (·.1)).Nodup := by
    rw [List.map_reverse]
    exact List.nodup_reverse.mpr h
  refine Option.ext fun v => ?_
  rw [lookup_eq_some_iff_mem hreverse, lookup_eq_some_iff_mem h, List.mem_reverse]

/-- A new name goes to the end. -/
theorem putVariable_of_not_mem {name : String} {v : Value} {xs : List Variable}
    (h : name ∉ xs.map (·.1)) : putVariable name v xs = xs ++ [(name, v)] := by
  induction xs with
  | nil => rfl
  | cons x xs ih =>
      rw [List.map_cons, List.mem_cons, not_or] at h
      rw [putVariable, if_neg (Ne.symm h.1), ih h.2, List.cons_append]

theorem eraseDups_of_nodup {α : Type} [BEq α] [LawfulBEq α] {l : List α} (h : l.Nodup) :
    l.eraseDups = l := by
  induction l with
  | nil => rfl
  | cons a l ih =>
      obtain ⟨hnew, hrest⟩ := List.nodup_cons.mp h
      have hkeep : l.filter (fun b => !b == a) = l := by
        refine List.filter_eq_self.mpr fun b hb => ?_
        have hne : b ≠ a := fun heq => hnew (heq ▸ hb)
        rw [beq_false_of_ne hne]
        rfl
      rw [List.eraseDups_cons, hkeep, ih hrest]

theorem eraseDups_append_cons_of_mem {α : Type} [BEq α] [LawfulBEq α] {a : α} {l : List α}
    (h : a ∈ l) (rest : List α) : (l ++ a :: rest).eraseDups = (l ++ rest).eraseDups := by
  have hremoved : (a :: rest).removeAll l = rest.removeAll l := by
    unfold List.removeAll
    rw [List.filter_cons_of_neg]
    rw [List.elem_eq_true_of_mem h]
    exact Bool.false_ne_true
  rw [List.eraseDups_append, hremoved, List.eraseDups_append]

namespace Record

variable {v w : Record}

theorem raw?_eq_some_iff {name : String} {value : Value} :
    v.raw? name = some value ↔ (name, value) ∈ v.bindings :=
  lookup_eq_some_iff_mem v.unique

theorem raw?_insert (v : Record) (name : String) (value : Value) (n : String) :
    (v.insert name value).raw? n = if name = n then some value else v.raw? n :=
  lookup_putVariable name value v.bindings n

/-! ## Several variables one after the other -/

theorem insertAll_cons (v : Record) (x : Variable) (xs : List Variable) :
    v.insertAll (x :: xs) = (v.insert x.1 x.2).insertAll xs := rfl

theorem insertAll_append (v : Record) (xs ys : List Variable) :
    v.insertAll (xs ++ ys) = (v.insertAll xs).insertAll ys := List.foldl_append

/-- **The last value that is given under a name counts.** -/
theorem raw?_insertAll (v : Record) (xs : List Variable) (n : String) :
    (v.insertAll xs).raw? n = (xs.reverse.lookup n).or (v.raw? n) := by
  induction xs generalizing v with
  | nil => rfl
  | cons x xs ih =>
      -- the first variable is tried last, before the record as it was
      rw [insertAll_cons, ih, raw?_insert, List.reverse_cons, List.lookup_append, lookup_cons_eq,
        Option.or_assoc]
      split <;> rfl

theorem names_insert (v : Record) (name : String) (value : Value) :
    (v.insert name value).names
      = if name ∈ v.names then v.names else v.names ++ [name] :=
  map_fst_putVariable name value v.bindings

/-- **Names stand in the order in which they were first given.** -/
theorem names_insertAll (v : Record) (xs : List Variable) :
    (v.insertAll xs).names = (v.names ++ xs.map (·.1)).eraseDups := by
  induction xs generalizing v with
  | nil =>
      rw [List.map_nil, List.append_nil]
      exact (eraseDups_of_nodup v.unique).symm
  | cons x xs ih =>
      rw [insertAll_cons, ih, names_insert, List.map_cons]
      split
      · rename_i hmem
        rw [eraseDups_append_cons_of_mem hmem]
      · rw [List.append_assoc, List.singleton_append]

/-- Variables with new names come behind the others as they are. -/
theorem bindings_insertAll_of_new {xs : List Variable}
    (hnew : (v.bindings ++ xs).Pairwise fun x y => x.1 ≠ y.1) :
    (v.insertAll xs).bindings = v.bindings ++ xs := by
  induction xs generalizing v with
  | nil => exact (List.append_nil _).symm
  | cons x xs ih =>
      have hput : (v.insert x.1 x.2).bindings = v.bindings ++ [x] := by
        refine putVariable_of_not_mem fun hmem => ?_
        obtain ⟨y, hy, hname⟩ := List.mem_map.mp hmem
        exact (List.pairwise_append.mp hnew).2.2 y hy x List.mem_cons_self hname
      rw [insertAll_cons, ih, hput, List.append_assoc, List.singleton_append]
      rw [hput, List.append_assoc, List.singleton_append]
      exact hnew

/-- Merging a record into one without variables gives the record. -/
theorem insertAll_empty (v : Record) : (empty.insertAll v.bindings).bindings = v.bindings :=
  bindings_insertAll_of_new (List.pairwise_map.mp v.unique)

/-- **The order of variables does not matter.** -/
theorem raw?_eq_of_perm (h : v.bindings.Perm w.bindings) (name : String) :
    v.raw? name = w.raw? name := by
  refine Option.ext fun value => ?_
  rw [raw?_eq_some_iff, raw?_eq_some_iff]
  exact h.mem_iff

theorem get?_congr {name : String} (h : v.raw? name = w.raw? name) :
    v.get? name = w.get? name := by
  unfold get?
  rw [h]

/-- A name is absent if there is no value under it or if the value is `null`. -/
theorem get?_eq_none_iff {name : String} :
    v.get? name = none ↔ v.raw? name = none ∨ v.raw? name = some .null := by
  unfold get?
  cases v.raw? name with
  | none => exact iff_of_true rfl (Or.inl rfl)
  | some value =>
      cases value with
      | null => exact iff_of_true rfl (Or.inr rfl)
      | _ => exact iff_of_false nofun nofun

theorem get?_eq_none_of_raw? {name : String}
    (h : v.raw? name = none ∨ v.raw? name = some .null) : v.get? name = none :=
  get?_eq_none_iff.mpr h

theorem contains_eq_false_iff {name : String} :
    v.contains name = false ↔ v.raw? name = none ∨ v.raw? name = some .null := by
  unfold contains
  rw [Option.isSome_eq_false_iff, Option.isNone_iff_eq_none, get?_eq_none_iff]

theorem find?_ofName (v : Record) (name : String) : v.find? (.ofName name) = v.get? name := by
  unfold find?
  show [name].findSome? v.get? = _
  rw [List.findSome?_singleton]

theorem find?_congr {k : Key} (h : ∀ name ∈ k.names, v.get? name = w.get? name) :
    v.find? k = w.find? k := by
  unfold find?
  generalize k.names = names at h ⊢
  induction names with
  | nil => rfl
  | cons name names ih =>
      obtain ⟨hname, hnames⟩ := List.forall_mem_cons.mp h
      rw [List.findSome?_cons, List.findSome?_cons, hname, ih hnames]

/-- The same values under all names but one. -/
def AgreeBesides (v w : Record) (name : String) : Prop := ∀ n, n ≠ name → v.raw? n = w.raw? n

theorem AgreeBesides.get?_eq {name n : String} (h : v.AgreeBesides w name) (hn : n ≠ name) :
    v.get? n = w.get? n := get?_congr (h n hn)

theorem AgreeBesides.find?_eq {name : String} (h : v.AgreeBesides w name) {k : Key}
    (hk : name ∉ k.names) : v.find? k = w.find? k := by
  refine find?_congr fun n hn => h.get?_eq ?_
  rintro rfl
  exact hk hn

theorem agreeBesides_insert (v : Record) (name : String) (value : Value) :
    v.AgreeBesides (v.insert name value) name := by
  intro n hn
  rw [raw?_insert, if_neg (Ne.symm hn)]

theorem agreeBesides_insert_insert (v : Record) (name : String) (x y : Value) :
    (v.insert name x).AgreeBesides (v.insert name y) name := by
  intro n hn
  rw [← v.agreeBesides_insert name x n hn, ← v.agreeBesides_insert name y n hn]

end Record

end HostsBlock
