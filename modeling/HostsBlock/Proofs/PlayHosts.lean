import HostsBlock.Proofs.Extraction

/-!
# The list of play hosts

Play hosts are given as a list, but a block treats them as a set. They are sorted, a name that is
given twice counts once, and a host is made of its name and its variables only. So two records that
differ in the list of play hosts alone, and there only in order and repetitions, have the same
hosts, and with them everything that is made of hosts: viewers, isolation and entries.

What is left of the list is its length, which stands in one comment at the head of the block. This
is `Rendering.lines_withCount`, and it is why the blocks of two such records are equal *except* for
the third line, and equal altogether if the lists have the same length.
-/

namespace HostsBlock

/-- For whom the block of a record is made. -/
inductive Audience where
  /-- The host that the record is about, if it names one. -/
  | own
  /-- The host of a given name. -/
  | host (name : String)
  /-- Nobody in particular. -/
  | nobody

/-- The name of the host for which a block is made. -/
def Audience.name? (vars : Record) : Audience → Option String
  | .own => vars.nonBlank? .inventoryHostname
  | .host name => some name
  | .nobody => none

namespace Rendering

/-- The rendering of a record for an audience. -/
def forAudience (vars : Record) : Audience → Rendering
  | .own => ofRecord vars
  | .host name => (ofRecord vars).withViewer name
  | .nobody => (ofRecord vars).withoutViewer

/-- In each case the parts come from the record, and the viewer is looked up in its inventory. -/
theorem forAudience_eq (vars : Record) (a : Audience) :
    forAudience vars a =
      { deployment := .ofRecord vars, subnets := .ofRecord vars, inventory := .ofRecord vars,
        viewer := (a.name? vars).map (Viewer.resolve (.ofRecord vars)) } := by
  cases a with
  | own => exact ofRecord_eq vars
  | host name => rw [forAudience, ofRecord_eq]; rfl
  | nobody => rw [forAudience, ofRecord_eq]; rfl

/-! ## The number of play hosts -/

/-- The rendering with another number of play hosts, but the same hosts. -/
def withCount (r : Rendering) (n : Nat) : Rendering :=
  { r with inventory := ⟨n, r.inventory.hosts⟩ }

def countLine (n : Nat) : String := "# " ++ toString n ++ " Hosts"

theorem lines_two (r : Rendering) : r.lines[2]? = some (countLine r.inventory.playHostCount) :=
  rfl

/-- **The number of play hosts stands in one line only.** -/
theorem lines_withCount (r : Rendering) (n : Nat) :
    (r.withCount n).lines = r.lines.set 2 (countLine n) := rfl

end Rendering

/-! ## Two lists of play hosts -/

/-- Records that have the same values under all names but that of the play hosts, and name the same
play hosts. A value that is `null` counts as missing. -/
structure Record.SamePlay (v w : Record) : Prop where
  elsewhere : ∀ name, name ≠ "ansible_play_hosts" → v.get? name = w.get? name
  named : ∀ name, name ∈ v.texts .playHosts ↔ name ∈ w.texts .playHosts

namespace Record.SamePlay

variable {v w : Record}

theorem find?_eq (h : v.SamePlay w) {k : Key} (hk : "ansible_play_hosts" ∉ k.names) :
    v.find? k = w.find? k := by
  refine find?_congr fun name hname => h.elsewhere name ?_
  rintro rfl
  exact hk hname

theorem deployment_eq (h : v.SamePlay w) : Deployment.ofRecord v = Deployment.ofRecord w := by
  refine Deployment.ofRecord_congr (fun k hk => h.find?_eq ?_)
    fun role => nonBlank?_congr (h.find?_eq ?_)
  · have hkeys : ∀ k ∈ Deployment.keys, "ansible_play_hosts" ∉ k.names := by decide
    exact hkeys k hk
  · cases role <;> decide

theorem subnets_eq (h : v.SamePlay w) : Subnets.ofRecord v = Subnets.ofRecord w := by
  refine Subnets.ofRecord_congr fun kind => h.find?_eq ?_
  cases kind <;> decide

/-- **The hosts are the same**, in the same order. -/
theorem inventory_eq (h : v.SamePlay w) :
    Inventory.ofRecord w
      = ⟨(w.texts .playHosts).length, (Inventory.ofRecord v).hosts⟩ := by
  have hvariables : ∀ name, v.hostVariables? name = w.hostVariables? name := by
    intro name
    unfold hostVariables?
    rw [h.find?_eq (by decide)]
  have hfind : ∀ name, (Inventory.ofRecord w).find? name = (Inventory.ofRecord v).find? name := by
    intro name
    rw [Inventory.find?_ofRecord, Inventory.find?_ofRecord, hvariables]
    -- whether a name is asked for is a question about the set of names
    simp only [h.named]
  have hhosts : (Inventory.ofRecord w).hosts = (Inventory.ofRecord v).hosts :=
    Keyed.eq_of_find?_eq (Inventory.sorted_ofRecord w) (Inventory.sorted_ofRecord v) hfind
  rw [← hhosts]
  rfl

/-- The renderings differ in the number of play hosts, if at all. -/
theorem forAudience_eq (h : v.SamePlay w) (a : Audience) :
    Rendering.forAudience w a
      = (Rendering.forAudience v a).withCount (w.texts .playHosts).length := by
  have hname : a.name? w = a.name? v := by
    cases a with
    | own => exact (nonBlank?_congr (h.find?_eq (by decide))).symm
    | host name => rfl
    | nobody => rfl
  rw [Rendering.forAudience_eq, Rendering.forAudience_eq, hname, h.inventory_eq, h.deployment_eq,
    h.subnets_eq]
  rfl

end Record.SamePlay

/--
**Order and repetitions of play hosts do not matter.** Take two records that agree under all names
but that of the play hosts, and there name the same hosts, in any order and any number of times.
Whoever the block is made for, the entries of hosts and the isolation are the same, and so are all
lines but the third, which tells how many names were given. If that is the same too, the blocks are
equal.
-/
theorem block_of_same_play {v w : Record} (h : v.SamePlay w) (a : Audience) :
    (Rendering.forAudience v a).hostEntries = (Rendering.forAudience w a).hostEntries
    ∧ (Rendering.forAudience v a).isolation = (Rendering.forAudience w a).isolation
    ∧ (Rendering.forAudience v a).lines.eraseIdx 2 = (Rendering.forAudience w a).lines.eraseIdx 2
    ∧ (Rendering.forAudience v a).lines[2]?
      = some ("# " ++ toString (v.texts .playHosts).length ++ " Hosts")
    ∧ (Rendering.forAudience w a).lines[2]?
      = some ("# " ++ toString (w.texts .playHosts).length ++ " Hosts")
    ∧ ((v.texts .playHosts).length = (w.texts .playHosts).length →
      (Rendering.forAudience v a).lines = (Rendering.forAudience w a).lines) := by
  have hcount : ∀ vars : Record, (Rendering.forAudience vars a).lines[2]?
      = some ("# " ++ toString (vars.texts .playHosts).length ++ " Hosts") := by
    intro vars
    rw [Rendering.lines_two, Rendering.forAudience_eq]
    rfl
  have hlines : (Rendering.forAudience w a).lines
      = (Rendering.forAudience v a).lines.set 2
          (Rendering.countLine (w.texts .playHosts).length) := by
    rw [h.forAudience_eq, Rendering.lines_withCount]
  refine ⟨?_, ?_, ?_, hcount v, hcount w, ?_⟩
  · rw [h.forAudience_eq]
    rfl
  · rw [h.forAudience_eq]
    rfl
  · rw [hlines, List.eraseIdx_set_eq]
  · intro hlength
    -- the third line is overwritten by what it already is
    have hthird := hcount v
    rw [hlength] at hthird
    obtain ⟨hlt, hget⟩ := List.getElem?_eq_some_iff.mp hthird
    rw [hlines, Rendering.countLine, ← hget, List.set_getElem_self]

/-- A landscape with two hosts, for one of which the block is made, and any list of play hosts. -/
def twoHostRecord (playHosts : List Value) : Record := .ofList
  [("inventory_hostname", .string "app0"), ("ansible_play_hosts", .list playHosts),
    ("hostvars", .object
      [("7", .object [("ipadd", .string "10.0.0.7")]),
        ("app0", .object [("ipadd", .string "10.0.0.5")])])]

theorem twoHostRecord_get?_eq {p q : List Value} {name : String}
    (h : name ≠ "ansible_play_hosts") :
    (twoHostRecord p).get? name = (twoHostRecord q).get? name := by
  have hname : (name == "ansible_play_hosts") = false := beq_eq_false_iff_ne.mpr h
  have hraw : ∀ playHosts, (twoHostRecord playHosts).raw? name
      = [("inventory_hostname", .string "app0"), ("ansible_play_hosts", .list playHosts),
          ("hostvars", .object
            [("7", .object [("ipadd", .string "10.0.0.7")]),
              ("app0", .object [("ipadd", .string "10.0.0.5")])])].lookup name := fun _ => rfl
  unfold Record.get?
  rw [hraw, hraw]
  simp only [List.lookup_cons, hname]

def namedOnce : List Value := [.string "ghost", .string "7", .string "app0"]

-- a number is read as the text of it, and `null` names nobody
def namedTwice : List Value := [.string "app0", .int 7, .null, .string "app0", .string "ghost"]

theorem namedTwice_samePlay : (twoHostRecord namedTwice).SamePlay (twoHostRecord namedOnce) where
  elsewhere := fun _ hname => twoHostRecord_get?_eq hname
  named := by
    intro name
    have htwice : (twoHostRecord namedTwice).texts .playHosts = ["app0", "7", "app0", "ghost"] := by
      decide +kernel
    have honce : (twoHostRecord namedOnce).texts .playHosts = ["ghost", "7", "app0"] := by
      decide +kernel
    rw [htwice, honce]
    simp only [List.mem_cons, List.not_mem_nil, or_false]
    tauto

/-- Both blocks have the same two entries, below different numbers of hosts. -/
theorem namedTwice_block :
    (twoHostRecord namedTwice).SamePlay (twoHostRecord namedOnce)
      ∧ (Rendering.forAudience (twoHostRecord namedTwice) .own).hostEntries
        = [⟨"10.0.0.7", "7.", "7"⟩, ⟨"10.0.0.5", "app0.", "app0"⟩]
      ∧ (Rendering.forAudience (twoHostRecord namedTwice) .own).lines.eraseIdx 2
        = (Rendering.forAudience (twoHostRecord namedOnce) .own).lines.eraseIdx 2
      ∧ (Rendering.forAudience (twoHostRecord namedTwice) .own).lines[2]? = some "# 4 Hosts"
      ∧ (Rendering.forAudience (twoHostRecord namedOnce) .own).lines[2]? = some "# 3 Hosts" := by
  obtain ⟨hentries, -, hlines, -, -, -⟩ := block_of_same_play namedTwice_samePlay .own
  refine ⟨namedTwice_samePlay, ?_, hlines, by decide +kernel, by decide +kernel⟩
  rw [hentries]
  decide +kernel

end HostsBlock
