import HostsBlock.Proofs.Outcome
import HostsBlock.Proofs.Records
import Mathlib.Logic.Relation

/-!
# Records that say the same in other words

One landscape can be written down in many ways. Variables come in any order, and some are meant for
other programs. A `null` is written out or left away. A list of one element is written as that
element, and a list may have nulls in it.

An edit of one of these kinds is invisible to a `Reader`, who looks under some names only and takes
the values under some of these as lists of texts. `Record.Rewords` is such an edit, either of a
record or of the variables of one of its hosts. A play host may also lose or gain an entry that is
`null`, and the entry of any other host may become anything.

Each edit leaves alone what is read, `Record.Rewords.readAlike`. To be read alike is an equivalence,
so **no sequence of edits, there and back, changes what comes out of a record**,
`sameOutcome_of_rewordings`.
-/

namespace HostsBlock

/-- The names under which something is read, and those under which it is read as a list. -/
structure Reader where
  names : List String
  lists : List String

namespace Reader

/-- What is read of a whole record. -/
def landscape : Reader where
  names := Record.keys.flatMap Key.names
  lists := Key.playHosts.names

/-- What is read of the variables of a host. -/
def host : Reader where
  names := ([Key.addresses, Key.tiers] ++ Role.all.map Role.key).flatMap Key.names
  lists := Key.addresses.names ++ Key.tiers.names

example : host.names =
    ["ipadd", "supported_tiers", "custom_scs_virtual_hostname", "custom_ers_virtual_hostname",
      "custom_db_virtual_hostname", "custom_pas_virtual_hostname", "custom_app_virtual_hostname",
      "custom_web_virtual_hostname"] := by decide

end Reader

/-! ## Lists -/

/-- Two ways to write one list of texts: with a null somewhere or without it, and a list of one
element or that element. -/
inductive Value.ListEdit : Value → Value → Prop
  | null (xs ys : List Value) : ListEdit (.list (xs ++ ys)) (.list (xs ++ .null :: ys))
  | single (x : Value) (hx : ∀ items, x ≠ .list items) : ListEdit x (.list [x])

theorem Value.ListEdit.texts_eq {x y : Value} (h : x.ListEdit y) : x.texts = y.texts := by
  cases h with
  | null xs ys =>
      unfold texts
      simp only [List.filter_append, List.filter_cons, isNull, Bool.not_true, Bool.false_eq_true,
        if_false]
  | single _ hx =>
      cases x with
      | list items => exact absurd rfl (hx items)
      | null => rfl
      | bool b => rfl
      | int n => rfl
      | double d => rfl
      | string s => rfl
      | object members => rfl

namespace Record

variable {v w : Record} {reader : Reader}

theorem texts_ofName {name : String} {x : Value} (h : v.raw? name = some x) :
    v.texts (.ofName name) = x.texts := by
  unfold texts
  rw [find?_ofName]
  unfold get?
  rw [h]
  -- a `null` counts as missing, and is no text either
  cases x <;> rfl

/-! ## Edits that a reader does not see -/

/-- One edit of a record that is invisible to a reader. -/
inductive Edit (reader : Reader) (v w : Record) : Prop
  | reorder (horder : v.bindings.Perm w.bindings)
  | unread (name : String) (hname : name ∉ reader.names) (helse : v.AgreeBesides w name)
  | null (name : String) (helse : v.AgreeBesides w name) (hmissing : v.raw? name = none)
      (hnull : w.raw? name = some .null)
  | list (name : String) (hname : name ∈ reader.lists) (helse : v.AgreeBesides w name)
      (x y : Value) (hx : v.raw? name = some x) (hy : w.raw? name = some y) (hedit : x.ListEdit y)

/-- **What an edit can do under a name that is read.** -/
theorem Edit.get?_eq_or (h : v.Edit reader w) {name : String} (hname : name ∈ reader.names) :
    v.get? name = w.get? name
      ∨ name ∈ reader.lists ∧ v.texts (.ofName name) = w.texts (.ofName name) := by
  cases h with
  | reorder horder => exact Or.inl (get?_congr (raw?_eq_of_perm horder name))
  | unread edited hedited helse =>
      have hne : name ≠ edited := fun heq => hedited (heq ▸ hname)
      exact Or.inl (helse.get?_eq hne)
  | null edited helse hmissing hnull =>
      by_cases heq : name = edited
      · subst heq
        rw [get?_eq_none_of_raw? (.inl hmissing), get?_eq_none_of_raw? (.inr hnull)]
        exact Or.inl rfl
      · exact Or.inl (helse.get?_eq heq)
  | list edited hedited helse x y hx hy hedit =>
      by_cases heq : name = edited
      · subst heq
        refine Or.inr ⟨hedited, ?_⟩
        rw [texts_ofName hx, texts_ofName hy, hedit.texts_eq]
      · exact Or.inl (helse.get?_eq heq)

theorem Edit.find?_eq (h : v.Edit reader w) {k : Key}
    (hk : ∀ name ∈ k.names, name ∈ reader.names ∧ name ∉ reader.lists) :
    v.find? k = w.find? k := by
  refine find?_congr fun name hname => ?_
  obtain ⟨hread, hnolist⟩ := hk name hname
  rcases h.get?_eq_or hread with heq | ⟨hlist, -⟩
  · exact heq
  · exact absurd hlist hnolist

theorem Edit.texts_eq (h : v.Edit reader w) {name : String} (hname : name ∈ reader.names) :
    v.texts (.ofName name) = w.texts (.ofName name) := by
  rcases h.get?_eq_or hname with heq | ⟨-, heq⟩
  · refine texts_congr ?_
    rw [find?_ofName, find?_ofName, heq]
  · exact heq

end Record

/-! ## The variables of the hosts -/

theorem Host.ofVariables_congr {xs ys : List Variable} (name : String)
    (h : (Record.ofList xs).Edit .host (.ofList ys)) :
    ofVariables name (.object xs) = ofVariables name (.object ys) := by
  have haddresses : (Record.ofList xs).texts .addresses = (Record.ofList ys).texts .addresses :=
    h.texts_eq (by decide)
  have htiers : (Record.ofList xs).texts .tiers = (Record.ofList ys).texts .tiers :=
    h.texts_eq (by decide)
  have hcustom : CustomNames.ofRecord (.ofList xs) = .ofRecord (.ofList ys) :=
    CustomNames.ofRecord_congr fun role =>
      Record.nonBlank?_congr (h.find?_eq (by cases role <;> decide))
  unfold ofVariables Record.ofValue?
  dsimp only [Option.getD_some]
  rw [haddresses, htiers, hcustom]

namespace Value

variable {a b : Value}

/-- The same members under all names but one. -/
def AgreeBesides (a b : Value) (name : String) : Prop :=
  ∀ n, n ≠ name → a.member? n = b.member? n

/-- A member is looked for in the others if it has another name. -/
theorem member?_append_cons (front back : List (String × Value)) (x : Value) {name n : String}
    (hn : n ≠ name) :
    (object (front ++ (name, x) :: back)).member? n = (object (front ++ back)).member? n := by
  have hback : Keyed.find? (·.1) n ((name, x) :: back) = Keyed.find? (·.1) n back :=
    Keyed.find?_cons_of_ne back (Ne.symm hn)
  have hfind : Keyed.find? (·.1) n (front ++ (name, x) :: back)
      = Keyed.find? (·.1) n (front ++ back) := by
    unfold Keyed.find? at hback ⊢
    rw [List.find?_append, List.find?_append, hback]
  unfold member? members?
  rw [Option.bind_some, Option.bind_some, hfind]

/-- One edit of the variables of the hosts that shows at no play host. -/
inductive HostsEdit (playHosts : List String) (a b : Value) : Prop
  | elsewhere (name : String) (hname : name ∉ playHosts) (helse : a.AgreeBesides b name)
  | null (name : String) (helse : a.AgreeBesides b name) (hmissing : a.member? name = none)
      (hnull : b.member? name = some .null)
  | within (name : String) (helse : a.AgreeBesides b name) (xs ys : List Variable)
      (hxs : a.member? name = some (.object xs)) (hys : b.member? name = some (.object ys))
      (hedit : (Record.ofList xs).Edit .host (.ofList ys))

theorem HostsEdit.ofVariables_eq {playHosts : List String} (h : a.HostsEdit playHosts b)
    {name : String} (hname : name ∈ playHosts) :
    Host.ofVariables name ((a.member? name).getD .null)
      = Host.ofVariables name ((b.member? name).getD .null) := by
  cases h with
  | elsewhere edited hedited helse =>
      have hne : name ≠ edited := fun heq => hedited (heq ▸ hname)
      rw [helse name hne]
  | null edited helse hmissing hnull =>
      by_cases heq : name = edited
      · subst heq
        rw [hmissing, hnull, Option.getD_none, Option.getD_some]
      · rw [helse name heq]
  | within edited helse xs ys hxs hys hedit =>
      by_cases heq : name = edited
      · subst heq
        rw [hxs, hys, Option.getD_some, Option.getD_some]
        exact Host.ofVariables_congr name hedit
      · rw [helse name heq]

end Value

/-! ## Edits of a landscape -/

namespace Record

variable {v w : Record}

theorem host_of_raw? {a : Value} (h : v.raw? "hostvars" = some a) (name : String) :
    v.host name = Host.ofVariables name ((a.member? name).getD .null) := by
  have hfind : v.find? .hostVariables = v.get? "hostvars" := find?_ofName v "hostvars"
  unfold host hostVariables?
  rw [hfind]
  unfold get?
  rw [h]
  cases a <;> rfl

/-- One edit of a record that leaves its meaning alone. -/
inductive Rewords (v w : Record) : Prop
  | own (hedit : v.Edit .landscape w)
  | hosts (helse : v.AgreeBesides w "hostvars") (a b : Value) (ha : v.raw? "hostvars" = some a)
      (hb : w.raw? "hostvars" = some b) (hedit : a.HostsEdit (v.texts .playHosts) b)

theorem landscape_reads_settings : ∀ k ∈ settingKeys, ∀ name ∈ k.names,
    name ∈ Reader.landscape.names ∧ name ∉ Reader.landscape.lists ∧ name ≠ "hostvars" := by
  decide

/-- **A single edit.** -/
theorem Rewords.readAlike (h : v.Rewords w) : v.ReadAlike w := by
  cases h with
  | own hedit =>
      -- the play hosts are read as a list, and everything else as it is
      have hvariables : v.find? .hostVariables = w.find? .hostVariables :=
        hedit.find?_eq (by decide)
      refine ⟨fun k hk => hedit.find?_eq fun name hname => ?_, hedit.texts_eq (by decide), ?_⟩
      · obtain ⟨hread, hnolist, -⟩ := landscape_reads_settings k hk name hname
        exact ⟨hread, hnolist⟩
      · intro name _
        exact host_congr hvariables name
  | hosts helse a b ha hb hedit =>
      -- the variables of hosts stand apart from all settings and from the play hosts
      refine ⟨fun k hk => find?_congr fun name hname => ?_, ?_, ?_⟩
      · obtain ⟨-, -, hne⟩ := landscape_reads_settings k hk name hname
        exact helse.get?_eq hne
      · refine texts_congr (find?_congr fun name hname => helse.get?_eq ?_)
        rintro rfl
        exact absurd hname (by decide)
      · intro name hname
        rw [host_of_raw? ha, host_of_raw? hb]
        exact hedit.ofVariables_eq hname

/-- **A run of edits**, each made or undone. -/
theorem readAlike_of_rewordings (h : Relation.EqvGen Rewords v w) : v.ReadAlike w := by
  induction h with
  | rel v w hstep => exact hstep.readAlike
  | refl v => exact ReadAlike.refl v
  | symm v w _ ih => exact ih.symm
  | trans v w x _ _ ih ih' => exact ih.trans ih'

end Record

/--
**A record may be reworded.** Take any record and make any number of edits: put its variables in
another order, set variables or host variables that are not read, write a `null` or leave it away,
also as a play host's entry, change what is said of hosts that are not in play, put nulls into the
lists that are read or take them out, write a list of one element as that element or the other way
round. Whoever the block is made for, it stays the same, and so do the report on the subnets and the
report on each stage.
-/
theorem sameOutcome_of_rewordings {v w : Record} (h : Relation.EqvGen Record.Rewords v w) :
    v.SameOutcome w :=
  (Record.readAlike_of_rewordings h).sameOutcome

/-- A landscape of two hosts that says no more than it must. -/
def tersePlay : Record := .ofList
  [("ansible_play_hosts", .list [.string "app0", .string "ghost"]),
    ("hostvars", .object [("app0", .object [("ipadd", .string "10.0.0.5")])])]

/-- The same with a null among the play hosts. -/
def nullNamedPlay : Record :=
  tersePlay.insert "ansible_play_hosts" (.list [.string "app0", .null, .string "ghost"])

/-- The same with an entry for the second host. -/
def nullEntryPlay : Record :=
  nullNamedPlay.insert "hostvars"
    (.object [("app0", .object [("ipadd", .string "10.0.0.5")]), ("ghost", .null)])

/-- The same with a list of addresses. -/
def listedPlay : Record :=
  nullEntryPlay.insert "hostvars"
    (.object [("app0", .object [("ipadd", .list [.string "10.0.0.5"])]), ("ghost", .null)])

/-- The same with a variable for another program, which comes first, and with everything else in
reverse. -/
def verbosePlay : Record := .ofList
  [("cluster_type", .string "AFS"),
    ("hostvars",
      .object [("app0", .object [("ipadd", .list [.string "10.0.0.5"])]), ("ghost", .null)]),
    ("ansible_play_hosts", .list [.string "app0", .null, .string "ghost"])]

theorem tersePlay_rewordings : Relation.EqvGen Record.Rewords tersePlay verbosePlay := by
  have hnamed : tersePlay.Rewords nullNamedPlay := by
    refine .own (.list "ansible_play_hosts" (by decide) (Record.agreeBesides_insert _ _ _) _ _ rfl
      rfl ?_)
    exact .null [.string "app0"] [.string "ghost"]
  have hentry : nullNamedPlay.Rewords nullEntryPlay := by
    refine .hosts (Record.agreeBesides_insert _ _ _) _ _ rfl rfl (.null "ghost" ?_ rfl rfl)
    intro n hn
    exact (Value.member?_append_cons [("app0", _)] [] .null hn).symm
  have hlisted : nullEntryPlay.Rewords listedPlay := by
    refine .hosts (Record.agreeBesides_insert _ _ _) _ _ rfl rfl
      (.within "app0" ?_ _ _ rfl rfl ?_)
    · intro n hn
      exact (Value.member?_append_cons [] [("ghost", _)] _ hn).trans
        (Value.member?_append_cons [] [("ghost", _)] _ hn).symm
    · refine .list "ipadd" (by decide) ?_ _ _ rfl rfl (.single _ nofun)
      exact Record.agreeBesides_insert (.ofList [("ipadd", .string "10.0.0.5")]) _ _
  have hforeign : listedPlay.Rewords (listedPlay.insert "cluster_type" (.string "AFS")) :=
    .own (.unread "cluster_type" (by decide) (Record.agreeBesides_insert _ _ _))
  have hreversed : (listedPlay.insert "cluster_type" (.string "AFS")).Rewords verbosePlay :=
    .own (.reorder (List.reverse_perm _).symm)
  exact .trans _ _ _ (.rel _ _ hnamed) <| .trans _ _ _ (.rel _ _ hentry) <|
    .trans _ _ _ (.rel _ _ hlisted) <| .trans _ _ _ (.rel _ _ hforeign) (.rel _ _ hreversed)

/-- One record knows a host and the other two, but their blocks are one. -/
theorem tersePlay_sameOutcome :
    Relation.EqvGen Record.Rewords tersePlay verbosePlay
      ∧ tersePlay.SameOutcome verbosePlay
      ∧ (Inventory.ofRecord tersePlay).hosts.length = 1
      ∧ (Inventory.ofRecord verbosePlay).hosts.length = 2
      ∧ (Rendering.forAudience verbosePlay .nobody).hostEntries
        = [⟨"10.0.0.5", "app0.", "app0"⟩] := by
  refine ⟨tersePlay_rewordings, sameOutcome_of_rewordings tersePlay_rewordings, ?_, ?_, ?_⟩
  · decide +kernel
  · decide +kernel
  · decide +kernel

end HostsBlock
