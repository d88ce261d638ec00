import HostsBlock.Value.Basic

/-!
# Variable records

What is known of a deployment is a flat record of named values in the order in which names were
first given. A value that is given again replaces the old one in its place, and merging a record
into another gives each of its values in turn.

A name stands in a record at most once; the type says so. A variable whose value is `null` is in the
record but counts as absent.
-/

namespace HostsBlock

/-- A named value. -/
abbrev Variable := String × Value

/-- Puts a value in the place of the old one of its name, or at the end. -/
def putVariable (name : String) (v : Value) : List Variable → List Variable
  | [] => [(name, v)]
  | x :: rest => if x.1 = name then (name, v) :: rest else x :: putVariable name v rest

/-- The names keep their order, and a new one comes last. -/
theorem map_fst_putVariable (name : String) (v : Value) (xs : List Variable) :
    (putVariable name v xs).map (·.1)
      = if name ∈ xs.map (·.1) then xs.map (·.1) else xs.map (·.1) ++ [name] := by
  induction xs with
  | nil => simp [putVariable]
  | cons x rest ih =>
    by_cases h : x.1 = name
    · simp [putVariable, h]
    · have h' : ¬ name = x.1 := fun e => h e.symm
      simp only [putVariable, if_neg h, List.map_cons, ih, List.mem_cons, h', false_or]
      split <;> rfl

/-- Names that differ stay so. -/
theorem nodup_putVariable {name : String} {v : Value} {xs : List Variable}
    (h : (xs.map (·.1)).Nodup) : ((putVariable name v xs).map (·.1)).Nodup := by
  rw [map_fst_putVariable]
  split
  · exact h
  · next hnew =>
    refine List.nodup_append.2 ⟨h, by simp, ?_⟩
    intro a ha b hb hab
    exact hnew (by rw [← List.mem_singleton.1 hb, ← hab]; exact ha)

/-- A record of variables in the order of their first appearance. -/
structure Record where
  bindings : List Variable
  /-- Each name stands in the record once. -/
  unique : (bindings.map (·.1)).Nodup

namespace Record

/-- The record without variables. -/
def empty : Record := ⟨[], List.nodup_nil⟩

instance : Inhabited Record := ⟨empty⟩

/-- Sets a variable; one of the same name is replaced in its place. -/
def insert (r : Record) (name : String) (v : Value) : Record :=
  ⟨putVariable name v r.bindings, nodup_putVariable r.unique⟩

/-- Sets variables one after the other. -/
def insertAll (r : Record) (xs : List Variable) : Record :=
  xs.foldl (fun r x => r.insert x.1 x.2) r

/-- The record of the given variables; of several with one name the last value counts. -/
def ofList (xs : List Variable) : Record := empty.insertAll xs

/-- Merges another record on top of this one. -/
def extend (r other : Record) : Record := r.insertAll other.bindings

/-- The names in order. -/
def names (r : Record) : List String := r.bindings.map (·.1)

/-- The number of variables, those that are `null` included. -/
def size (r : Record) : Nat := r.bindings.length

/-- Whether there are no variables. -/
def isEmpty (r : Record) : Bool := r.bindings.isEmpty

/-- The value of a variable, which may be `null`. -/
def raw? (r : Record) (name : String) : Option Value := r.bindings.lookup name

/-- The value of a variable unless it is `null`. -/
def get? (r : Record) (name : String) : Option Value := (r.raw? name).filter (!·.isNull)

/-- Whether a variable has a value. -/
def contains (r : Record) (name : String) : Bool := (r.get? name).isSome

/-- The record as an object, whose members are in the order of their names. -/
def toValue (r : Record) : Value := .ofMembers r.bindings

/-- The record that a value stands for: the members of an object, nothing for `null`. -/
def ofValue? : Value → Option Record
  | .object members => some (ofList members)
  | .null => some empty
  | _ => none

end Record

end HostsBlock
