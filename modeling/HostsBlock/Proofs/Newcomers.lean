import HostsBlock.Proofs.Outcome
import HostsBlock.Proofs.Rewording

/-!
# A host that joins a play

A landscape grows by one host: its name is put somewhere into the list of play hosts, and variables
are given for it. `Record.Joins` says so of two records. What can this do to the hosts that were
there before?

The inventory is in the order of names, so the newcomer goes between the hosts with smaller names
and those with larger ones, wherever its name was put in the list, `Record.Joins.hosts_eq`. The
group of any other host is made of what that host says, of the settings and of the isolation. The
settings are the same. The isolation depends on the viewer, and a viewer other than the newcomer is
a database host after the change exactly if it was one before. So **a newcomer brings its own group
and changes no other one**.

The viewer is an exception for a reason. A viewer that was not in play counts as a host outside the
database, and if it joins as a database host, it gets to see all addresses of the others.
-/

namespace HostsBlock

/-- The second record is the first one with one more host in play, whose variables can be any
value. -/
structure Record.Joins (v w : Record) (name : String) (value : Value) : Prop where
  /-- The name is not that of a play host yet. -/
  fresh : name ∉ v.texts .playHosts
  /-- It is put anywhere into the list of play hosts. -/
  named : ∃ front back, v.texts .playHosts = front ++ back
    ∧ w.texts .playHosts = front ++ name :: back
  described : w.hostVariables? name = some value
  /-- The variables of all other hosts stay as they are. -/
  others : ∀ n, n ≠ name → v.hostVariables? n = w.hostVariables? n
  elsewhere : ∀ n, n ≠ "ansible_play_hosts" → n ≠ "hostvars" → v.get? n = w.get? n

namespace Record.Joins

variable {v w : Record} {name : String} {value : Value}

theorem sameSettings (h : v.Joins w name value) : v.SameSettings w :=
  sameSettings_of_get?_eq h.elsewhere

theorem mem_playHosts_iff (h : v.Joins w name value) {n : String} :
    n ∈ w.texts .playHosts ↔ n = name ∨ n ∈ v.texts .playHosts := by
  obtain ⟨front, back, hv, hw⟩ := h.named
  rw [hv, hw, List.mem_append, List.mem_append, List.mem_cons]
  exact or_left_comm

theorem length_playHosts (h : v.Joins w name value) :
    (w.texts .playHosts).length = (v.texts .playHosts).length + 1 := by
  obtain ⟨front, back, hv, hw⟩ := h.named
  rw [hv, hw, List.length_append, List.length_append, List.length_cons, Nat.add_assoc]

/-- What is found in the inventory under a name other than the newcomer's. -/
theorem find?_of_ne (h : v.Joins w name value) {n : String} (hn : n ≠ name) :
    (Inventory.ofRecord w).find? n = (Inventory.ofRecord v).find? n := by
  rw [Inventory.find?_ofRecord, Inventory.find?_ofRecord, h.others n hn]
  simp only [h.mem_playHosts_iff, hn, false_or]

theorem find?_self (h : v.Joins w name value) :
    (Inventory.ofRecord w).find? name = some (Host.ofVariables name value) := by
  rw [Inventory.find?_ofRecord, if_pos (h.mem_playHosts_iff.mpr (Or.inl rfl)), h.described]
  rfl

/-- **The newcomer is put in its place among the others.** -/
theorem hosts_eq (h : v.Joins w name value) :
    (Inventory.ofRecord w).hosts
      = Keyed.insert Host.name (Host.ofVariables name value) (Inventory.ofRecord v).hosts := by
  -- both lists are in order, so it is enough that the same host has each name
  refine Keyed.eq_of_find?_eq (Inventory.sorted_ofRecord w)
    (Keyed.sorted_insert (Inventory.sorted_ofRecord v)) fun n => ?_
  rw [Keyed.find?_insert]
  show (Inventory.ofRecord w).find? n
    = if name = n then some (Host.ofVariables name value)
      else (Inventory.ofRecord v).find? n
  split
  · rename_i hname
    rw [← hname, h.find?_self]
  · rename_i hname
    rw [h.find?_of_ne (Ne.symm hname)]

theorem name_ne_of_mem_hosts (h : v.Joins w name value) :
    ∀ k ∈ (Inventory.ofRecord v).hosts, k.name ≠ name := by
  rintro k hk rfl
  exact h.fresh (Inventory.mem_hosts_ofRecord.mp hk).named

theorem viewer_eq (h : v.Joins w name value) {a : Audience} (ha : a.name? v ≠ some name) :
    (a.name? w).map (Viewer.resolve (.ofRecord w))
      = (a.name? v).map (Viewer.resolve (.ofRecord v)) := by
  rw [← Record.name?_congr h.sameSettings.own_eq]
  cases hviewer : a.name? v with
  | none => rfl
  | some n =>
      have hn : n ≠ name := by
        rintro rfl
        exact ha hviewer
      unfold Viewer.resolve
      rw [Option.map_some, Option.map_some, h.find?_of_ne hn]

/-- The blocks of the two records are made of the same parts, the hosts apart. -/
theorem forAudience_eq (h : v.Joins w name value) {a : Audience}
    (ha : a.name? v ≠ some name) :
    Rendering.forAudience w a
      = { Rendering.forAudience v a with inventory := .ofRecord w } := by
  rw [Rendering.forAudience_eq, Rendering.forAudience_eq, h.viewer_eq ha,
    h.sameSettings.deployment_eq, h.sameSettings.subnets_eq]

end Record.Joins

/--
**A newcomer changes nothing but its own group.** Take a record, and another one in which a host has
joined the play: its name, which is none of a play host in the first record, stands anywhere in the
list, and it has any variables. Let the block be made for nobody or for a viewer other than this
host.

The hosts of the first record are those with smaller names and those with larger ones, and its
entries are the groups of the first followed by the groups of the second. In the other record the
newcomer's group stands between the two. The group of any host is the same in both, and so are the
isolation and the sections of virtual host names; the header tells that there is one more play host.
A newcomer without addresses adds no entries, whatever tiers it has.
-/
theorem newcomer_adds_group {v w : Record} {name : String} {value : Value}
    (h : v.Joins w name value) (a : Audience) (ha : a.name? v ≠ some name) :
    (∃ smaller larger : List Host,
      (Inventory.ofRecord v).hosts = smaller ++ larger
      ∧ (∀ k ∈ smaller, k.name < name) ∧ (∀ k ∈ larger, name < k.name)
      ∧ (Rendering.forAudience v a).hostEntries
        = smaller.flatMap (Rendering.forAudience v a).group
          ++ larger.flatMap (Rendering.forAudience v a).group
      ∧ (Rendering.forAudience w a).hostEntries
        = smaller.flatMap (Rendering.forAudience v a).group
          ++ (Rendering.forAudience v a).group (Host.ofVariables name value)
          ++ larger.flatMap (Rendering.forAudience v a).group)
    ∧ (∀ k, (Rendering.forAudience w a).group k = (Rendering.forAudience v a).group k)
    ∧ (Rendering.forAudience w a).isolation = (Rendering.forAudience v a).isolation
    ∧ (Rendering.forAudience w a).virtualLines = (Rendering.forAudience v a).virtualLines
    ∧ (Rendering.forAudience w a).header
      = (Rendering.forAudience v a).header.set 2
          (Rendering.countLine ((v.texts .playHosts).length + 1))
    ∧ ((Host.ofVariables name value).addresses = [] →
      (Rendering.forAudience w a).hostEntries = (Rendering.forAudience v a).hostEntries) := by
  have hparts := h.forAudience_eq ha
  have hgroup : (Rendering.forAudience w a).group = (Rendering.forAudience v a).group := by
    rw [hparts]
    rfl
  have hbefore := Rendering.hostEntries_eq_flatMap_group v a
  have hafter := Rendering.hostEntries_eq_flatMap_group w a
  rw [hgroup, h.hosts_eq] at hafter
  -- the place of the newcomer divides the hosts of the first record
  obtain ⟨smaller, larger, hsplit, hinsert, hsmaller, hlarger⟩ :=
    (Inventory.sorted_ofRecord v).insert_of_new (x := Host.ofVariables name value)
      h.name_ne_of_mem_hosts
  rw [hsplit, List.flatMap_append] at hbefore
  rw [hinsert, List.flatMap_append, List.flatMap_cons, ← List.append_assoc] at hafter
  refine ⟨⟨smaller, larger, hsplit, hsmaller, hlarger, hbefore, hafter⟩, congrFun hgroup, ?_, ?_,
    ?_, fun haddresses => ?_⟩
  · rw [hparts]
    rfl
  · rw [hparts]
    rfl
  · rw [hparts, ← h.length_playHosts]
    rfl
  · rw [hafter, hbefore, Rendering.group, Host.entries_of_no_addresses haddresses,
      List.append_nil]

/-- The variables of a further database host. -/
def core0Variables : Value := .object
  [("ipadd", .ofTexts ["10.0.1.5", "10.0.3.5"]), ("supported_tiers", .string "hana")]

/-- The landscape from above with this host in play. -/
def enlargedRecord : Record :=
  (scaleOutRecord.insert "ansible_play_hosts" (.ofTexts ["db0", "core0", "app0"])).insert "hostvars"
    (.object
      [("app0", .object
          [("ipadd", .string "10.0.3.10"), ("supported_tiers", .ofTexts ["pas", "web"])]),
        ("core0", core0Variables),
        ("db0", .object
          [("ipadd", .ofTexts ["10.0.3.4", "10.0.1.4", "10.0.2.4"]),
            ("supported_tiers", .string "hana")])])

theorem scaleOutRecord_joins : scaleOutRecord.Joins enlargedRecord "core0" core0Variables where
  fresh := by decide +kernel
  named := ⟨["db0"], ["app0"], by decide +kernel, by decide +kernel⟩
  described := rfl
  others := fun _ hn => (Value.member?_append_cons [("app0", _)] [("db0", _)] _ hn).symm
  elsewhere := by
    intro n hplay hhosts
    have hfirst := Record.agreeBesides_insert scaleOutRecord "ansible_play_hosts"
      (.ofTexts ["db0", "core0", "app0"])
    rw [hfirst.get?_eq hplay]
    exact (Record.agreeBesides_insert _ _ _).get?_eq hhosts

/-- The application server sees one more entry, in front of that of the other database host. -/
theorem enlargedRecord_adds_group :
    scaleOutRecord.Joins enlargedRecord "core0" core0Variables
      ∧ (Audience.host "app0").name? scaleOutRecord ≠ some "core0"
      ∧ (∃ smaller larger : List Host,
        (Inventory.ofRecord scaleOutRecord).hosts = smaller ++ larger
        ∧ (∀ k ∈ smaller, k.name < "core0") ∧ (∀ k ∈ larger, "core0" < k.name)
        ∧ (Rendering.forAudience enlargedRecord (.host "app0")).hostEntries
          = smaller.flatMap (Rendering.forAudience scaleOutRecord (.host "app0")).group
            ++ [⟨"10.0.3.5", "core0.contoso.com", "core0"⟩]
            ++ larger.flatMap (Rendering.forAudience scaleOutRecord (.host "app0")).group)
      ∧ (Rendering.forAudience enlargedRecord (.host "app0")).isolation = some .filtered := by
  have hviewer : (Audience.host "app0").name? scaleOutRecord ≠ some "core0" := by decide
  obtain ⟨⟨smaller, larger, hsplit, hsmaller, hlarger, -, hafter⟩, -, hisolation, -⟩ :=
    newcomer_adds_group scaleOutRecord_joins (.host "app0") hviewer
  refine ⟨scaleOutRecord_joins, hviewer, ⟨smaller, larger, hsplit, hsmaller, hlarger, ?_⟩, ?_⟩
  · have hgroup : (Rendering.forAudience scaleOutRecord (.host "app0")).group
        (Host.ofVariables "core0" core0Variables)
          = [⟨"10.0.3.5", "core0.contoso.com", "core0"⟩] := by decide +kernel
    rw [hafter, hgroup]
  · rw [hisolation]
    decide +kernel

/-- A viewer that joins as a database host was outside the database before. -/
example :
    (Rendering.forAudience scaleOutRecord (.host "core0")).isolation = some .filtered
      ∧ (Rendering.forAudience enlargedRecord (.host "core0")).isolation = some .full := by
  decide +kernel

end HostsBlock
