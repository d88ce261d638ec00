import HostsBlock.Proofs.AddressText
import HostsBlock.Proofs.Extraction
import HostsBlock.Proofs.HostEntries
import HostsBlock.Proofs.Words

/-!
# Which entries of a block read back

Between a record and a line of its block stand several hands: identifiers change their case, names
are put together, get a suffix or come out of a host's own variables, addresses are checked or
found in a subnet. None of them brings a blank in. So if there are no blanks in the names that a
record gives, every entry of its block consists of three words, and `Entry.words_line_iff` says
which of them read back from their lines: those whose address has less than 19 characters and whose
full name has less than 81.

The rest do not. Every IPv4 address is shorter than its column, but many an IPv6 address is not, and
then the line has the address and the full name in one word.
-/

namespace HostsBlock

open Text

/-! ## Names that a record gives -/

/-- All names for roles are words. -/
def CustomNames.Worded (names : CustomNames) : Prop :=
  ∀ role name, names.get? role = some name → IsWord name

/-- Names for roles that a record gives are not blank, so they need only be free of blanks. -/
theorem CustomNames.worded_ofRecord {vars : Record}
    (h : ∀ role name, (ofRecord vars).get? role = some name → BlankFree name.toList) :
    (ofRecord vars).Worded := by
  intro role name hname
  refine ⟨?_, h role name hname⟩
  rw [get?_ofRecord] at hname
  exact ne_empty_of_isBlankText (Record.isBlankText_of_nonBlank? hname)

/-- There are no blanks in the names that a record gives. -/
structure Record.NamesBlankFree (vars : Record) : Prop where
  sapSid : BlankFree (vars.text .sapSid "").toList
  sapFqdn : BlankFree (vars.text .sapFqdn "").toList
  dbSid : BlankFree (vars.text .dbSid "").toList
  dbInstanceNumber : BlankFree (vars.instanceNumber .dbInstanceNumber "00").toList
  scsInstanceNumber : BlankFree (vars.instanceNumber .scsInstanceNumber "00").toList
  ersInstanceNumber : BlankFree (vars.instanceNumber .ersInstanceNumber "01").toList
  playHosts : ∀ name ∈ vars.texts .playHosts, BlankFree name.toList
  custom : ∀ role name, (CustomNames.ofRecord vars).get? role = some name →
    BlankFree name.toList
  hostCustom : ∀ h ∈ Inventory.knownHosts vars, ∀ role name, h.custom.get? role = some name →
    BlankFree name.toList

/-! ## Entries of hosts -/

namespace Host

variable {d : Deployment} {s : Subnets} {isolation : Option Isolation} {h : Host}

/-- An address and a word make an entry of three words in a domain without blanks. -/
theorem entry_worded (hfqdn : BlankFree d.sapFqdn.toList) {address name : String}
    (haddress : (Address.parse? address).isSome = true) (hname : IsWord name) :
    (entry d address name).Worded where
  address := ⟨Address.ne_empty_of_parse? haddress, Address.parse?_blankFree haddress⟩
  fqdn := (hname.append (by decide)).append hfqdn
  hostname := hname

theorem isWord_of_mem_roleNames (hd : d.custom.Worded) (hh : h.custom.Worded) {name : String}
    (hname : name ∈ h.roleNames d) : IsWord name := by
  unfold roleNames at hname
  obtain ⟨role, -, hor⟩ := List.mem_filterMap.mp hname
  rcases Option.or_eq_some_iff.mp hor with hrun | ⟨-, hown⟩
  · exact hd role name hrun
  · exact hh role name hown

theorem scaleOutSuffix?_blankFree {address suffix : String}
    (h : scaleOutSuffix? d s address = some suffix) : BlankFree suffix.toList := by
  have hsuffixes : ∀ suffix ∈ ["-hsr", "-hana", "-inter", "-storage"],
      BlankFree suffix.toList := by decide
  refine hsuffixes suffix ?_
  rcases scaleOutSuffix?_cases h with ⟨-, rfl⟩ | ⟨-, -, rfl⟩
  · split <;> simp
  · split <;> simp

/-- **Entries of a host consist of words**, if the names in them do. -/
theorem entries_worded (hfqdn : BlankFree d.sapFqdn.toList) (hd : d.custom.Worded)
    (hh : h.custom.Worded) (hname : BlankFree h.name.toList) {e : Entry}
    (he : e ∈ h.entries d s isolation) : e.Worded := by
  have hparse := parse?_isSome_of_mem_entries he
  rcases entries_cases d s isolation h with hnil | ⟨shown, -, hblank, -, hentries⟩
  · rw [hnil] at he; exact absurd he (by simp)
  · have hword : IsWord h.name := ⟨ne_empty_of_isBlankText hblank, hname⟩
    rw [hentries] at he
    rcases List.mem_append.mp he with he | he
    · rcases List.mem_cons.mp he with rfl | he
      · exact entry_worded hfqdn hparse hword
      · unfold roleEntries at he
        obtain ⟨name, hmem, rfl⟩ := List.mem_map.mp he
        exact entry_worded hfqdn hparse (isWord_of_mem_roleNames hd hh hmem)
    · obtain ⟨-, -, suffix, hsuffix, heq⟩ := mem_suffixedEntries he
      rw [heq]
      exact entry_worded hfqdn hparse (hword.append (scaleOutSuffix?_blankFree hsuffix))

end Host

/-! ## Entries of virtual host names -/

namespace Section

variable {d : Deployment}

/-- Entries of virtual host names are those of load balancers, under one of three names. -/
theorem balancerLine?_of_mem_virtual {e : Entry}
    (he : e ∈ (virtual d).flatMap Section.entries) :
    ∃ address, ∃ name ∈ [d.scsName, d.ersName, d.dbName],
      balancerLine? d address name = some e := by
  obtain ⟨sec, hsec, he⟩ := List.mem_flatMap.mp he
  rcases List.mem_append.mp hsec with hsec | hsec
  · unfold scsErs? at hsec
    split at hsec
    · -- the section is there even if its entries are not
      obtain rfl := Option.some.inj (Option.mem_toList.mp hsec)
      rcases List.mem_append.mp he with he | he
      · exact ⟨_, d.scsName, by simp, Option.mem_toList.mp he⟩
      · exact ⟨_, d.ersName, by simp, Option.mem_toList.mp he⟩
    · exact absurd hsec (by simp)
  · unfold database? at hsec
    split at hsec
    · obtain ⟨e', he', rfl⟩ := Option.map_eq_some_iff.mp (Option.mem_toList.mp hsec)
      obtain rfl := List.mem_singleton.mp he
      exact ⟨_, d.dbName, by simp, he'⟩
    · exact absurd hsec (by simp)

/-- The entry of a load balancer is there if an address is given, is one, and the name is not
blank. -/
theorem balancerLine?_eq_some_iff {d : Deployment} {address : Option String} {name : String}
    {e : Entry} :
    balancerLine? d address name = some e ↔
      ∃ a, address = some a ∧ (Address.parse? a).isSome = true ∧ isBlankText name = false
        ∧ e = Host.entry d a name := by
  unfold balancerLine?
  rw [Option.bind_eq_some_iff]
  constructor
  · rintro ⟨a, ha, hchecked⟩
    obtain ⟨rfl, hname, hparse⟩ := Entry.checked?_eq_some_iff.mp hchecked
    exact ⟨a, ha, hparse, hname, rfl⟩
  · rintro ⟨a, ha, hparse, hname, rfl⟩
    exact ⟨a, ha, Entry.checked?_eq_some_iff.mpr ⟨rfl, hname, hparse⟩⟩

theorem balancerLine?_worded (hfqdn : BlankFree d.sapFqdn.toList) {address : Option String}
    {name : String} (hname : BlankFree name.toList) {e : Entry}
    (h : balancerLine? d address name = some e) : e.Worded := by
  obtain ⟨address, -, haddress, hblank, rfl⟩ := balancerLine?_eq_some_iff.mp h
  exact Host.entry_worded hfqdn haddress ⟨ne_empty_of_isBlankText hblank, hname⟩

end Section

/-- A name that may be set has no blanks if the set names and the usual one have none. -/
theorem CustomNames.Worded.getD_blankFree {names : CustomNames} (h : names.Worded) (role : Role)
    {usual : String} (husual : BlankFree usual.toList) :
    BlankFree ((names.get? role).getD usual).toList := by
  cases hget : names.get? role with
  | none => exact husual
  | some name => exact (h role name hget).blankFree

/-- A virtual host name that is not set has four parts: identifiers, a tag, an instance number and
an ending. -/
theorem fourParts_blankFree {sids tag number ending : String} (hsids : BlankFree sids.toList)
    (htag : BlankFree tag.toList) (hnumber : BlankFree number.toList)
    (hending : BlankFree ending.toList) :
    BlankFree (sids ++ tag ++ number ++ ending).toList :=
  append_blankFree (append_blankFree (append_blankFree hsids htag) hnumber) hending

/-- The virtual host names of a record are put together from its identifiers and instance
numbers, or are set. -/
theorem Record.NamesBlankFree.virtualName_blankFree {vars : Record} (h : vars.NamesBlankFree) :
    ∀ name ∈ [(Deployment.ofRecord vars).scsName, (Deployment.ofRecord vars).ersName,
      (Deployment.ofRecord vars).dbName], BlankFree name.toList := by
  have hcustom := CustomNames.worded_ofRecord h.custom
  -- identifiers stand in lower case here, but a record's deployment has them in upper case
  have hsid := lower_blankFree (upper_blankFree h.sapSid)
  have hdbSid := lower_blankFree (upper_blankFree h.dbSid)
  have hscs := fourParts_blankFree hsid (by decide : BlankFree "scs".toList) h.scsInstanceNumber
    (by decide : BlankFree "cl1".toList)
  have hers := fourParts_blankFree hsid (by decide : BlankFree "ers".toList) h.ersInstanceNumber
    (by decide : BlankFree "cl2".toList)
  have hdb := fourParts_blankFree (append_blankFree hsid hdbSid)
    (by decide : BlankFree "db".toList) h.dbInstanceNumber (by decide : BlankFree "cl".toList)
  refine List.forall_mem_cons.mpr ⟨hcustom.getD_blankFree .scs hscs, ?_⟩
  refine List.forall_mem_cons.mpr ⟨hcustom.getD_blankFree .ers hers, ?_⟩
  exact List.forall_mem_singleton.mpr (hcustom.getD_blankFree .db hdb)

/-! ## Entries of a block -/

namespace Rendering

/-- All entries of a block. -/
def entries (r : Rendering) : List Entry :=
  r.hostEntries ++ (Section.virtual r.deployment).flatMap Section.entries

end Rendering

/-- The hosts of a record have names and names for roles without blanks. -/
theorem Record.NamesBlankFree.host {vars : Record} (h : vars.NamesBlankFree) {k : Host}
    (hk : k ∈ (Inventory.ofRecord vars).hosts) :
    BlankFree k.name.toList ∧ k.custom.Worded := by
  have hplay := Inventory.mem_hosts_ofRecord.mp hk
  obtain ⟨value, -, heq⟩ := hplay.known
  have hcustom := h.hostCustom k (Inventory.mem_knownHosts.mpr hplay)
  refine ⟨h.playHosts k.name hplay.named, ?_⟩
  rw [heq] at hcustom ⊢
  exact CustomNames.worded_ofRecord hcustom

/-- **Entries of a block consist of words**, if the names that its record gives do. -/
theorem Record.NamesBlankFree.entries_worded {vars : Record} (h : vars.NamesBlankFree)
    (viewer : Option Viewer) {e : Entry}
    (he : e ∈ { Rendering.ofRecord vars with viewer := viewer : Rendering }.entries) :
    e.Worded := by
  have hfqdn : BlankFree (Deployment.ofRecord vars).sapFqdn.toList := h.sapFqdn
  have hnames : (Deployment.ofRecord vars).custom.Worded := CustomNames.worded_ofRecord h.custom
  rw [Rendering.ofRecord_eq] at he
  rcases List.mem_append.mp he with he | he
  · obtain ⟨k, hk, he⟩ := List.mem_flatMap.mp he
    obtain ⟨hname, hcustom⟩ := h.host hk
    exact Host.entries_worded hfqdn hnames hcustom hname he
  · obtain ⟨address, name, hname, hbalancer⟩ := Section.balancerLine?_of_mem_virtual he
    exact Section.balancerLine?_worded hfqdn (h.virtualName_blankFree name hname) hbalancer

/--
**Which entries read back.** Take any record whose names have no blanks, and any viewer. The line of
every entry of the block, be it of a host or of a load balancer, splits at its blanks into the
entry's address, full name and short name exactly when the address has less than 19 characters and
the full name less than 81.

An IPv4 address never has that many characters, so for its entries only the full name matters.
-/
theorem reads_back_iff (vars : Record) (h : vars.NamesBlankFree) (viewer : Option Viewer) :
    ∀ e ∈ { Rendering.ofRecord vars with viewer := viewer : Rendering }.entries,
      (words e.line = [e.address, e.fqdn, e.hostname] ↔
        e.address.length < 19 ∧ e.fqdn.length < 81)
      ∧ ∀ bits, Address.parse? e.address = some (.v4 bits) → e.address.length < 19 := by
  intro e he
  refine ⟨Entry.words_line_iff (h.entries_worded viewer he), fun bits hbits => ?_⟩
  have hlength := Address.length_le_of_parse?_v4 hbits
  omega

/-- Two hosts in a domain, one with a short address and one with a long one. -/
def wideAddressRecord : Record := .ofList
  [("sap_sid", .string "X00"), ("sap_fqdn", .string "contoso.com"),
    ("ansible_play_hosts", .ofTexts ["app0", "db0"]),
    ("hostvars", .object
      [("app0", .object [("ipadd", .ofTexts ["10.0.1.5"])]),
        ("db0", .object [("ipadd", .ofTexts ["2001:db8:1111:2222::1"])])])]

theorem wideAddressRecord_namesBlankFree : wideAddressRecord.NamesBlankFree := by
  have hnone : ∀ role name, CustomNames.none.get? role ≠ some name := by
    intro role name
    cases role <;> exact nofun
  have hcustom : CustomNames.ofRecord wideAddressRecord = .none := by decide +kernel
  have hhosts : ∀ k ∈ Inventory.knownHosts wideAddressRecord, k.custom = .none := by
    decide +kernel
  refine ⟨by decide +kernel, by decide +kernel, by decide +kernel, by decide +kernel,
    by decide +kernel, by decide +kernel, by decide +kernel, ?_, ?_⟩
  · intro role name hname
    rw [hcustom] at hname
    exact absurd hname (hnone role name)
  · intro k hk role name hname
    rw [hhosts k hk] at hname
    exact absurd hname (hnone role name)

/-- Of the two hosts, the one with the short address reads back and the other one does not. -/
theorem wideAddressRecord_reads_back_iff :
    wideAddressRecord.NamesBlankFree
      ∧ Address.parse? "10.0.1.5" = some (.v4 0x0A000105)
      ∧ words (Entry.line ⟨"10.0.1.5", "app0.contoso.com", "app0"⟩)
        = ["10.0.1.5", "app0.contoso.com", "app0"]
      ∧ words (Entry.line ⟨"2001:db8:1111:2222::1", "db0.contoso.com", "db0"⟩)
        ≠ ["2001:db8:1111:2222::1", "db0.contoso.com", "db0"] := by
  have hall := reads_back_iff wideAddressRecord wideAddressRecord_namesBlankFree none
  have hparse : Address.parse? "10.0.1.5" = some (.v4 0x0A000105) := by decide
  obtain ⟨hshort, hwidth⟩ := hall ⟨"10.0.1.5", "app0.contoso.com", "app0"⟩ (by decide +kernel)
  obtain ⟨hlong, -⟩ :=
    hall ⟨"2001:db8:1111:2222::1", "db0.contoso.com", "db0"⟩ (by decide +kernel)
  refine ⟨wideAddressRecord_namesBlankFree, hparse, ?_, fun hwords => ?_⟩
  · exact hshort.mpr ⟨hwidth _ hparse, by decide⟩
  · exact absurd (hlong.mp hwords).1 (by decide)

/-- The address and the full name of the other one are one word, so its line has two. -/
theorem wideAddressRecord_two_words :
    wideAddressRecord.NamesBlankFree
      ∧ ⟨"2001:db8:1111:2222::1", "db0.contoso.com", "db0"⟩
        ∈ (Rendering.ofRecord wideAddressRecord).entries
      ∧ words (Entry.line ⟨"2001:db8:1111:2222::1", "db0.contoso.com", "db0"⟩)
        = ["2001:db8:1111:2222::1db0.contoso.com", "db0"] :=
  ⟨wideAddressRecord_namesBlankFree, by decide +kernel, by decide +kernel⟩

end HostsBlock
