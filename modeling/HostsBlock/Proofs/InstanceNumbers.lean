import HostsBlock.Proofs.Membership
import HostsBlock.Proofs.Outcome
import HostsBlock.Proofs.Records

/-!
# Instance numbers

An instance number has two digits and is part of a host name. Whoever writes `00` without quotes has
written the number zero, and whoever writes it with quotes may have written blanks around it. This
file is about the text that the program makes of all that.

Such a text is not blank and has no blanks at its ends, so there is nothing left to trim off, and
**reading it again gives the same text**, `Value.IsNormal.instanceNumber?_string`. A number is
written in its decimal digits, with a zero in front if there is only one. The zero adds nothing to
what the digits stand for, so no two numbers are written alike, `Value.decimal_twoDigits`.

Nothing but this text goes from an instance number into a block or a report. So **it does not matter
how an instance number is written**, `Record.Renumbers.sameOutcome`.
-/

namespace HostsBlock

namespace Text

variable {cs : List Char} {c : Char}

/-! ## Trimming -/

/-- A row of characters with no blank at either end. -/
structure Trimmed (cs : List Char) : Prop where
  first : ∀ c, cs.head? = some c → isBlank c = false
  last : ∀ c, cs.getLast? = some c → isBlank c = false

theorem isBlank_of_head?_dropWhile (h : (cs.dropWhile isBlank).head? = some c) :
    isBlank c = false := by
  have hstop := List.head?_dropWhile_not isBlank cs
  rwa [h] at hstop

/-- What is taken off at the end leaves the beginning as it is. -/
theorem trimChars_prefix (cs : List Char) : trimChars cs <+: cs.dropWhile isBlank := by
  have hsuffix : (cs.dropWhile isBlank).reverse.dropWhile isBlank <:+
      (cs.dropWhile isBlank).reverse := List.dropWhile_suffix _
  rwa [← List.reverse_prefix, List.reverse_reverse] at hsuffix

theorem trimmed_trimChars (cs : List Char) : Trimmed (trimChars cs) where
  first := by
    intro c hc
    obtain ⟨rest, hrest⟩ := trimChars_prefix cs
    have hhead : (cs.dropWhile isBlank).head? = some c := by
      rw [← hrest, List.head?_append, hc, Option.some_or]
    exact isBlank_of_head?_dropWhile hhead
  last := by
    -- the end was trimmed last, so here nothing can have changed
    intro c hc
    unfold trimChars at hc
    rw [List.getLast?_reverse] at hc
    exact isBlank_of_head?_dropWhile hc

theorem trimChars_eq_self (h : Trimmed cs) : trimChars cs = cs := by
  have hlast : ∀ c, cs.reverse.head? = some c → isBlank c = false := by
    intro c hc
    rw [List.head?_reverse] at hc
    exact h.last c hc
  unfold trimChars
  rw [dropWhile_isBlank_eq_self h.first, dropWhile_isBlank_eq_self hlast, List.reverse_reverse]

/-- Only a row of blanks is trimmed away. -/
theorem trimChars_ne_nil (hmem : c ∈ cs) (hc : isBlank c = false) : trimChars cs ≠ [] := by
  obtain ⟨front, back, rfl⟩ := List.append_of_mem hmem
  rw [trimChars_append_cons hc]
  exact List.append_ne_nil_of_right_ne_nil _ (List.cons_ne_nil _ _)

/-! ## Decimal digits -/

theorem isBlank_eq_false_of_isDigit (h : isDigit c = true) : isBlank c = false := by
  have hvalue : c.toNat ≤ 57 := by
    unfold isDigit at h
    rw [Bool.and_eq_true, decide_eq_true_eq, decide_eq_true_eq] at h
    exact h.2
  have hten : isDigitOf 10 c = true := by
    unfold isDigitOf digitValue?
    rw [if_pos h, Option.any_some, decide_eq_true_eq]
    omega
  exact isBlank_eq_false_of_isDigitOf hten

theorem trimmed_of_digits (h : ∀ c ∈ cs, isDigit c = true) : Trimmed cs where
  first := fun _ hc => isBlank_eq_false_of_isDigit (h _ (List.mem_of_mem_head? hc))
  last := fun _ hc => isBlank_eq_false_of_isDigit (h _ (List.mem_of_mem_getLast? hc))

theorem isDigit_of_mem_toDigits {n : Nat} (h : c ∈ Nat.toDigits 10 n) : isDigit c = true :=
  Nat.isDigit_of_mem_toDigits (by decide) (by decide) h

/-- The decimal digits of a number stand for it. -/
theorem decimal_toDigits (n : Nat) : decimal (Nat.toDigits 10 n) = n := by
  have hread : ∀ m, ∀ c ∈ Nat.toDigits 10 n,
      10 * m + (digitValue? c).getD 0 = 10 * m + (c.toNat - '0'.toNat) := by
    intro m c hc
    unfold digitValue?
    rw [if_pos (isDigit_of_mem_toDigits hc)]
    rfl
  calc decimal (Nat.toDigits 10 n)
      = Nat.ofDigitChars 10 (Nat.toDigits 10 n) 0 := by
        rw [Nat.ofDigitChars_eq_foldl]
        exact List.foldl_ext _ _ 0 hread
    _ = n := Nat.ofDigitChars_ten_toDigits

/-- A number does not begin with a zero, unless it is zero. -/
theorem head?_toDigits_ne {n : Nat} (hn : n ≠ 0) : (Nat.toDigits 10 n).head? ≠ some '0' := by
  induction n using Nat.strongRecOn with
  | ind n ih =>
      by_cases hone : n < 10
      · intro hzero
        rw [Nat.toDigits_of_lt_base hone] at hzero
        have hvalue := Nat.toNat_digitChar_of_lt_ten hone
        rw [Option.some.inj hzero] at hvalue
        exact hn (by simpa using hvalue.symm)
      · -- the first digit is that of the number without its last one
        obtain ⟨c, rest, hc⟩ := List.exists_cons_of_ne_nil (@Nat.toDigits_ne_nil (n / 10) 10)
        have hfirst := ih (n / 10) (by omega) (by omega)
        rw [Nat.toDigits_of_base_le (by decide) (by omega), hc]
        rwa [hc] at hfirst

end Text

namespace Value

/-! ## The text of an instance number -/

/-- A text that is an instance number as it stands. -/
structure IsNormal (s : String) : Prop where
  nonempty : s ≠ ""
  trimmed : Text.Trimmed s.toList

theorem IsNormal.isBlankText {s : String} (h : IsNormal s) : Text.isBlankText s = false := by
  have hne : s.toList ≠ [] := fun hnil => h.nonempty (String.toList_inj.mp hnil)
  obtain ⟨c, rest, hc⟩ := List.exists_cons_of_ne_nil hne
  unfold Text.isBlankText
  rw [hc, List.all_cons, h.trimmed.first c (by rw [hc]; rfl), Bool.false_and]

/-- **An instance number is read as it stands.** -/
theorem IsNormal.instanceNumber?_string {s : String} (h : IsNormal s) :
    (Value.string s).instanceNumber? = some s := by
  have htrim : Text.trim s = s := by
    unfold Text.trim
    rw [Text.trimChars_eq_self h.trimmed, String.ofList_toList]
  have htext : (Value.string s).nonBlank? = some s :=
    if_neg (Bool.eq_false_iff.mp h.isBlankText)
  show ((Value.string s).nonBlank?).map Text.trim = some s
  rw [htext, Option.map_some, htrim]

theorem toList_twoDigits (n : Nat) :
    (twoDigits n).toList
      = if n < 10 then '0' :: Nat.toDigits 10 n else Nat.toDigits 10 n := by
  have hdigits : (toString n).toList = Nat.toDigits 10 n := by
    rw [Nat.toString_eq_ofList_toDigits, String.toList_ofList]
  unfold twoDigits
  split
  · rw [String.toList_append, hdigits]
    rfl
  · exact hdigits

theorem isDigit_of_mem_twoDigits {n : Nat} {c : Char} (h : c ∈ (twoDigits n).toList) :
    Text.isDigit c = true := by
  rw [toList_twoDigits] at h
  split at h
  · rcases List.mem_cons.mp h with rfl | h
    · rfl
    · exact Text.isDigit_of_mem_toDigits h
  · exact Text.isDigit_of_mem_toDigits h

/-- **The zero in front does not count.** -/
theorem decimal_twoDigits (n : Nat) : Text.decimal (twoDigits n).toList = n := by
  rw [toList_twoDigits]
  split
  · exact Text.decimal_toDigits n
  · exact Text.decimal_toDigits n

theorem two_le_length_twoDigits (n : Nat) : 2 ≤ (twoDigits n).length := by
  rw [← String.length_toList, toList_twoDigits]
  split
  · have hone := List.length_pos_of_ne_nil (@Nat.toDigits_ne_nil n 10)
    rw [List.length_cons]
    omega
  · rename_i hn
    have htwo : ¬ (Nat.toDigits 10 n).length ≤ 1 := by
      rw [Nat.length_toDigits_le_iff (by decide) (by decide)]
      omega
    omega

theorem head?_twoDigits_iff (n : Nat) : (twoDigits n).toList.head? = some '0' ↔ n < 10 := by
  rw [toList_twoDigits]
  split
  · rename_i hn
    exact ⟨fun _ => hn, fun _ => rfl⟩
  · rename_i hn
    exact ⟨fun hzero => absurd hzero (Text.head?_toDigits_ne (by omega)), fun h => absurd h hn⟩

theorem isNormal_twoDigits (n : Nat) : IsNormal (twoDigits n) where
  nonempty := by
    intro hempty
    have hlength := two_le_length_twoDigits n
    rw [hempty] at hlength
    exact absurd hlength (by decide)
  trimmed := Text.trimmed_of_digits fun _ hc => isDigit_of_mem_twoDigits hc

theorem isNormal_trim {s : String} (h : Text.isBlankText s = false) : IsNormal (Text.trim s) where
  nonempty := by
    intro hempty
    obtain ⟨c, hmem, hc⟩ := List.all_eq_false.mp h
    refine Text.trimChars_ne_nil hmem (Bool.eq_false_iff.mpr hc) ?_
    exact String.ofList_eq_empty_iff.mp hempty
  trimmed := by
    unfold Text.trim
    rw [String.toList_ofList]
    exact Text.trimmed_trimChars _

/-- **The ways to read an instance number.** -/
theorem instanceNumber?_cases (x : Value) :
    (∃ n : Int, x = .int n ∧ x.instanceNumber? = if 0 ≤ n then some (twoDigits n.toNat) else none)
    ∨ x.instanceNumber? = none
    ∨ x.instanceNumber? = x.nonBlank?.map Text.trim := by
  cases x with
  | int n => exact Or.inl ⟨n, rfl, rfl⟩
  | double d => exact Or.inr (Or.inl rfl)
  | _ => exact Or.inr (Or.inr rfl)

theorem instanceNumber?_nat (n : Nat) : (Value.int n).instanceNumber? = some (twoDigits n) := by
  show (if 0 ≤ (n : Int) then some (twoDigits (n : Int).toNat) else none) = _
  rw [if_pos (Int.natCast_nonneg n), Int.toNat_natCast]

/-- A `null` is no instance number. -/
theorem isNull_of_instanceNumber? {x : Value} {s : String} (h : x.instanceNumber? = some s) :
    x.isNull = false := by
  cases x with
  | null =>
      have hnone : Value.null.instanceNumber? = none := by decide
      rw [hnone] at h
      exact absurd h (by simp)
  | _ => rfl

/-- Whatever an instance number was written as, its text stands for itself. -/
theorem isNormal_of_instanceNumber? {x : Value} {s : String} (h : x.instanceNumber? = some s) :
    IsNormal s := by
  rcases instanceNumber?_cases x with ⟨n, -, hint⟩ | hnone | htext
  · rw [hint] at h
    split at h
    · obtain rfl := Option.some.inj h
      exact isNormal_twoDigits _
    · exact absurd h (by simp)
  · rw [hnone] at h
    exact absurd h (by simp)
  · rw [htext] at h
    unfold nonBlank? at h
    split at h
    · exact absurd h (by simp)
    · rename_i hblank
      obtain rfl := Option.some.inj h
      exact isNormal_trim (Bool.eq_false_iff.mpr hblank)

end Value

/-! ## Records that write their instance numbers in other ways -/

namespace Record

variable {v w : Record}

/-- The same is read for each instance number, and everything else is equal. -/
structure Renumbers (v w : Record) : Prop where
  elsewhere : ∀ name, name ∉ Deployment.numberKeys.map Key.name → v.raw? name = w.raw? name
  numbers : ∀ k ∈ Deployment.numberKeys,
    (v.find? k).bind Value.instanceNumber? = (w.find? k).bind Value.instanceNumber?

theorem find?_of_mem_numberKeys {k : Key} (hk : k ∈ Deployment.numberKeys) (v : Record) :
    v.find? k = v.get? k.name := by
  have hname : ∀ k ∈ Deployment.numberKeys, k.legacy = [] := by decide
  unfold find? Key.names
  rw [hname k hk, List.findSome?_cons, List.findSome?_nil]
  cases v.get? k.name <;> rfl

namespace Renumbers

theorem find?_eq (h : v.Renumbers w) {k : Key}
    (hk : ∀ name ∈ k.names, name ∉ Deployment.numberKeys.map Key.name) : v.find? k = w.find? k :=
  find?_congr fun name hname => get?_congr (h.elsewhere name (hk name hname))

/-- **It does not matter how an instance number is written.** -/
theorem sameOutcome (h : v.Renumbers w) : v.SameOutcome w := by
  -- older names of a setting are none of an instance number either
  have hnames : ∀ k ∈ Deployment.keys, k.name ∉ Deployment.numberKeys.map Key.name →
      ∀ name ∈ k.names, name ∉ Deployment.numberKeys.map Key.name := by decide
  have hdeployment : Deployment.ofRecord v = Deployment.ofRecord w :=
    Deployment.ofRecord_congr_of_numbers (fun k hk hother => h.find?_eq (hnames k hk hother))
      h.numbers fun role => nonBlank?_congr (h.find?_eq (by cases role <;> decide))
  have hothers : ∀ k ∈ Subnet.all.map Subnet.key
      ++ [.inventoryHostname, .playHosts, .hostVariables],
      ∀ name ∈ k.names, name ∉ Deployment.numberKeys.map Key.name := by decide
  exact sameOutcome_of_deployment hdeployment fun k hk => h.find?_eq (hothers k hk)

end Renumbers

/-- An instance number may be replaced by its text. -/
theorem renumbers_insert {k : Key} (hk : k ∈ Deployment.numberKeys) {x : Value} {s : String}
    (hx : v.raw? k.name = some x) (hs : x.instanceNumber? = some s) :
    v.Renumbers (v.insert k.name (.string s)) where
  elsewhere := by
    intro name hname
    have hne : name ≠ k.name := by
      rintro rfl
      exact hname (List.mem_map_of_mem hk)
    exact v.agreeBesides_insert k.name (.string s) name hne
  numbers := by
    intro other hother
    rw [find?_of_mem_numberKeys hother, find?_of_mem_numberKeys hother]
    by_cases hname : other.name = k.name
    · have hold : v.get? k.name = some x := by
        unfold get?
        rw [hx, Option.filter_some, if_pos (by rw [Value.isNull_of_instanceNumber? hs]; rfl)]
      have hnew : (v.insert k.name (.string s)).get? k.name = some (.string s) := by
        unfold get?
        rw [raw?_insert, if_pos rfl]
        rfl
      rw [hname, hold, hnew, Option.bind_some, Option.bind_some, hs,
        (Value.isNormal_of_instanceNumber? hs).instanceNumber?_string]
    · -- the other two instance numbers are not touched
      rw [(v.agreeBesides_insert k.name (.string s)).get?_eq hname]

end Record

/--
**Instance numbers are brought into one form.** Take any value that is read as an instance number.
The text it is read as is not empty and has no blanks at its ends, and read as an instance number it
is itself again.

A whole number, however large, is read as at least two decimal digits that stand for it. The first
of them is a zero exactly if the number is less than ten. So no two numbers are read as one text.

Take any record. Where it has an instance number of the central services, of the enqueue replication
or of the database, the text may stand in place of the value: the blocks stay the same, whoever they
are made for, and so do the report on the subnets and the report on each stage.
-/
theorem instance_numbers_normal (vars : Record) :
    (∀ (x : Value) s, x.instanceNumber? = some s →
      s ≠ "" ∧ Text.Trimmed s.toList ∧ (Value.string s).instanceNumber? = some s)
    ∧ (∀ n : Nat, ∃ s, (Value.int n).instanceNumber? = some s
      ∧ 2 ≤ s.length
      ∧ (∀ c ∈ s.toList, Text.isDigit c = true)
      ∧ Text.decimal s.toList = n
      ∧ (s.toList.head? = some '0' ↔ n < 10))
    ∧ (∀ m n : Nat, (Value.int m).instanceNumber? = (Value.int n).instanceNumber? → m = n)
    ∧ ∀ k ∈ [Key.scsInstanceNumber, .ersInstanceNumber, .dbInstanceNumber], ∀ x s,
        vars.raw? k.name = some x → x.instanceNumber? = some s →
          vars.SameOutcome (vars.insert k.name (.string s)) := by
  refine ⟨fun x s hs => ?_, fun n => ?_, fun m n h => ?_, fun k hk x s hx hs => ?_⟩
  · have hnormal := Value.isNormal_of_instanceNumber? hs
    exact ⟨hnormal.nonempty, hnormal.trimmed, hnormal.instanceNumber?_string⟩
  · exact ⟨Value.twoDigits n, Value.instanceNumber?_nat n, Value.two_le_length_twoDigits n,
      fun c hc => Value.isDigit_of_mem_twoDigits hc, Value.decimal_twoDigits n,
      Value.head?_twoDigits_iff n⟩
  · rw [Value.instanceNumber?_nat, Value.instanceNumber?_nat] at h
    calc m = Text.decimal (Value.twoDigits m).toList := (Value.decimal_twoDigits m).symm
      _ = Text.decimal (Value.twoDigits n).toList := by rw [Option.some.inj h]
      _ = n := Value.decimal_twoDigits n
  · exact (Record.renumbers_insert hk hx hs).sameOutcome

/-- A landscape with one instance number that is written as a number and one with blanks. -/
def numberedRecord : Record := .ofList
  [("sap_sid", .string "X00"), ("scs_instance_number", .int 7),
    ("ers_instance_number", .string " 02 ")]

/-- Both instance numbers may be written with two digits, and so they stand in the host names. -/
theorem numberedRecord_instance_numbers :
    (Value.string " 02 ").instanceNumber? = some "02"
      ∧ (Value.string "02").instanceNumber? = some "02"
      ∧ (Value.int 7).instanceNumber? ≠ (Value.int 70).instanceNumber?
      ∧ numberedRecord.SameOutcome (numberedRecord.insert "scs_instance_number" (.string "07"))
      ∧ numberedRecord.SameOutcome (numberedRecord.insert "ers_instance_number" (.string "02"))
      ∧ (Deployment.ofRecord numberedRecord).scsName = "x00scs07cl1"
      ∧ (Deployment.ofRecord numberedRecord).ersName = "x00ers02cl2" := by
  have hblanks : (Value.string " 02 ").instanceNumber? = some "02" := by decide +kernel
  obtain ⟨hnormal, -, hinjective, hreplace⟩ := instance_numbers_normal numberedRecord
  obtain ⟨-, -, hagain⟩ := hnormal _ _ hblanks
  refine ⟨hblanks, hagain, fun h => absurd (hinjective 7 70 h) (by decide), ?_, ?_,
    by decide +kernel, by decide +kernel⟩
  · exact hreplace .scsInstanceNumber (by simp) (.int 7) "07" rfl (by decide +kernel)
  · exact hreplace .ersInstanceNumber (by simp) (.string " 02 ") "02" rfl hblanks

end HostsBlock
