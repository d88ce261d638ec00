import HostsBlock.Proofs.PlayHosts
import HostsBlock.Proofs.Records
import HostsBlock.Proofs.Runs
import HostsBlock.Proofs.Viewers
import HostsBlock.Template.Filter

/-!
# Where the name of the viewer comes from

The host for which a block is made can be named in three places: by the argument of the filter, by
the command line with all that stands in for it, and by the record. This file says when the places
agree.

What each of them does with a name is in `NameSource.audience`. They make the same of a name that is
not blank. An empty name counts for nobody in a filter and in a record, but not on a command line,
and a name of blanks counts for nobody in a record only. The block for somebody is never the block
for nobody in a landscape whose database is spread over several hosts,
`Rendering.lines_withViewer_eq_iff`, since only the first has a line on the isolation. So there
**the places agree exactly on the names that are not blank**.
-/

namespace HostsBlock

/-! ## A record without the name of its host -/

namespace Record.AgreeBesides

variable {v w : Record}

/-- Apart from its viewer a rendering does not depend on the name of the record's host. -/
theorem forAudience_eq (h : v.AgreeBesides w "inventory_hostname") {a b : Audience}
    (hname : a.name? v = b.name? w) : Rendering.forAudience v a = Rendering.forAudience w b := by
  have hdeployment : Deployment.ofRecord v = Deployment.ofRecord w := by
    refine Deployment.ofRecord_congr (fun k hk => h.find?_eq ?_)
      fun role => nonBlank?_congr (h.find?_eq ?_)
    · have hkeys : ∀ k ∈ Deployment.keys, "inventory_hostname" ∉ k.names := by decide
      exact hkeys k hk
    · cases role <;> decide
  have hsubnets : Subnets.ofRecord v = Subnets.ofRecord w := by
    refine Subnets.ofRecord_congr fun kind => h.find?_eq ?_
    cases kind <;> decide
  have hinventory : Inventory.ofRecord v = Inventory.ofRecord w := by
    unfold Inventory.ofRecord Inventory.knownHosts texts
    rw [h.find?_eq (by decide), h.find?_eq (by decide)]
  rw [Rendering.forAudience_eq, Rendering.forAudience_eq, hname, hdeployment, hsubnets,
    hinventory]

end Record.AgreeBesides

/-! ## A block for somebody and the block for nobody -/

namespace Rendering

variable {r : Rendering}

/-- The line behind the first eight is empty in a block for nobody. -/
theorem lines_withoutViewer_eight (r : Rendering) : r.withoutViewer.lines[8]? = some "" := by
  rw [lines_withoutViewer]
  unfold linesWith header
  rw [isolation_withoutViewer]
  rfl

theorem exists_isolation (hscale : r.deployment.scaleOut = true) (name : String) :
    ∃ isolation, (r.withViewer name).isolation = some isolation := by
  unfold isolation Isolation.forViewer?
  exact ⟨_, if_pos hscale⟩

/-- **Somebody and nobody get the same block exactly if the database is on one host.** -/
theorem lines_withViewer_eq_iff (r : Rendering) (name : String) :
    (r.withViewer name).lines = r.withoutViewer.lines ↔ r.deployment.scaleOut = false := by
  constructor
  · intro hlines
    by_contra hscale
    obtain ⟨isolation, hisolation⟩ :=
      exists_isolation (Bool.eq_true_of_not_eq_false hscale) name
    -- the line on the isolation stands where the empty line should be
    have height : (r.withViewer name).lines[8]? = some (Section.isolationLine isolation) := by
      unfold lines mainLines header
      rw [hisolation]
      rfl
    rw [hlines, lines_withoutViewer_eight] at height
    cases isolation <;> exact absurd height (by decide)
  · intro hscale
    have hisolation : (r.withViewer name).isolation = r.withoutViewer.isolation := by
      rw [r.isolation_withoutViewer]
      exact Isolation.forViewer?_of_scaleUp hscale _
    unfold lines mainLines header hostEntries
    rw [hisolation]
    rfl

end Rendering

/-! ## The three places -/

/-- A place where the name of a viewer can stand. -/
inductive NameSource where
  /-- The argument of the filter. -/
  | filter
  /-- The command line, or else the environment, or else the settings. -/
  | command
  /-- The name of its host in the record. -/
  | record
deriving DecidableEq

/-- For whom a block is made if a name stands in a place. -/
def NameSource.audience (name : String) : NameSource → Audience
  | .filter => if name.isEmpty then .nobody else .host name
  | .command => .host name
  | .record => if Text.isBlankText name then .nobody else .host name

/-- The three ways in which a run can come to its viewer. -/
inductive Invocation.ViewedBy (env : Environment) (files : Files) (i : Invocation)
    (name : String) : Prop where
  | option {file : Option String} (command : i.command = .generate file (some name))
  | environment {file : Option String} (command : i.command = .generate file none)
    (load : i.SettingsLoad env files) (given : env "SDAF_HOSTS_HOST" = some name)
  | settings {file : Option String} (command : i.command = .generate file none)
    (load : i.SettingsLoad env files) (silent : env "SDAF_HOSTS_HOST" = none)
    (given : lastGiven TextSetting.host.inLayer
      (Settings.layersAt files (Settings.paths env i.config)) = some name)

section

variable {env : Environment} {files : Files} {i : Invocation} {name : String}

theorem Invocation.host_settings (h : i.SettingsLoad env files) :
    (i.settings env files).host = (env "SDAF_HOSTS_HOST").or (lastGiven TextSetting.host.inLayer
      (Settings.layersAt files (Settings.paths env i.config))) := by
  rw [settings_of_loadable h, ← TextSetting.inSettings_ofLayers]
  exact TextSetting.host.inSettings_withEnvironment _ env

theorem Invocation.ViewedBy.exists_command (h : i.ViewedBy env files name) :
    ∃ file host, i.command = .generate file host
      ∧ host.or (i.settings env files).host = some name := by
  cases h with
  | option command => exact ⟨_, _, command, rfl⟩
  | environment command load given =>
      refine ⟨_, _, command, ?_⟩
      rw [Option.none_or, host_settings load, given, Option.some_or]
  | settings command load silent given =>
      refine ⟨_, _, command, ?_⟩
      rw [Option.none_or, host_settings load, silent, Option.none_or, given]

/-- Whatever is named there, the run makes a block for it. -/
theorem Invocation.ViewedBy.run_eq {path : String} {r : Record} (h : i.ViewedBy env files name)
    (hload : i.Loads env files path r) :
    ∃ errorOutput, i.run env files
      = ⟨0, (Answer.block (Rendering.forAudience r (.host name))).output (i.style env files),
        errorOutput⟩ := by
  obtain ⟨file, host, hcommand, hname⟩ := h.exists_command
  have hprogress := (progress_of_generate hcommand).trans (withRecord_of_loads hload _)
  rw [hname] at hprogress
  exact ⟨_, run_of_answer hprogress⟩

end

namespace Template.Filter

/-- The filter gives a list of lines for every mapping and every name. -/
theorem apply_generate {groups : List FilterGroup} (hgroups : FilterGroup.sapHosts ∈ groups)
    {v : Value} {r : Record} (hrecord : Record.ofValue? v = some r) (name : String) :
    apply groups "sdaf_generate_sap_hosts" (some v) [.string name]
      = .ok (.ofTexts (generated r (some name))) := by
  have hfind : (all.find? fun f => f.name == "sdaf_generate_sap_hosts" && f.group ∈ groups)
      = some generate := by
    refine List.find?_cons_of_pos ?_
    rw [Bool.and_eq_true]
    exact ⟨by decide, decide_eq_true hgroups⟩
  have hread : record (some v) = .ok r := by
    unfold record Record.ofValue
    rw [Option.getD_some, hrecord]
    rfl
  unfold apply run
  rw [hfind]
  dsimp only
  rw [hread]
  rfl

/-- An empty name makes the filter go by the record. -/
theorem generated_eq (r : Record) (name : String) :
    generated r (some name)
      = (Rendering.forAudience r (if name.isEmpty then .own else .host name)).lines := by
  unfold generated
  cases hempty : name.isEmpty <;> simp [Option.filter, hempty] <;> rfl

end Template.Filter

/-! ## What each place shows -/

section

variable {v w : Record} {name : String}

/-- Records with the same values agree under every name but one in particular. -/
theorem Record.agreeBesides_of_raw? (h : ∀ n, v.raw? n = w.raw? n) (n : String) :
    v.AgreeBesides w n := fun m _ => h m

theorem Record.nonBlank?_inventoryHostname_of_none (h : v.get? "inventory_hostname" = none) :
    v.nonBlank? .inventoryHostname = none := by
  unfold Record.nonBlank? Key.inventoryHostname
  rw [Record.find?_ofName, h]
  rfl

theorem Record.nonBlank?_inventoryHostname_insert (v : Record) (name : String) :
    (v.insert "inventory_hostname" (.string name)).nonBlank? .inventoryHostname
      = if Text.isBlankText name then none else some name := by
  unfold Record.nonBlank? Key.inventoryHostname
  rw [Record.find?_ofName]
  unfold Record.get?
  rw [Record.raw?_insert, if_pos rfl]
  rfl

/-- In a record that names no host, an empty argument of the filter stands for nobody. -/
theorem Template.Filter.generated_of_absent (h : ∀ n, v.raw? n = w.raw? n)
    (habsent : w.get? "inventory_hostname" = none) (name : String) :
    generated v (some name)
      = (Rendering.forAudience w (NameSource.filter.audience name)).lines := by
  have habsent' : v.get? "inventory_hostname" = none := (Record.get?_congr (h _)).trans habsent
  rw [generated_eq, (Record.agreeBesides_of_raw? h _).forAudience_eq]
  unfold NameSource.audience
  dsimp only
  split
  · exact Record.nonBlank?_inventoryHostname_of_none habsent'
  · rfl

/-- A blank name in the record stands for nobody. -/
theorem Rendering.ofRecord_insert_name (v : Record) (name : String) :
    ofRecord (v.insert "inventory_hostname" (.string name))
      = forAudience v (NameSource.record.audience name) := by
  refine ((Record.agreeBesides_insert v "inventory_hostname" (.string name)).forAudience_eq
    (b := .own) ?_).symm
  unfold NameSource.audience
  rw [Audience.name?.eq_1, Record.nonBlank?_inventoryHostname_insert]
  dsimp only
  split <;> rfl

theorem NameSource.audience_cases (name : String) (source : NameSource) :
    source.audience name = .nobody ∨ source.audience name = .host name := by
  cases source with
  | filter =>
      unfold audience
      dsimp only
      split
      · exact Or.inl rfl
      · exact Or.inr rfl
  | command => exact Or.inr rfl
  | record =>
      unfold audience
      dsimp only
      split
      · exact Or.inl rfl
      · exact Or.inr rfl

theorem Rendering.scaleOut_ofRecord (v : Record) :
    (ofRecord v).deployment.scaleOut = (Deployment.ofRecord v).scaleOut := by
  rw [ofRecord_eq]

/-- Two places show the same if they stand for the same audience, or if it does not matter. -/
theorem NameSource.lines_eq_iff (v : Record) (name : String) (a b : NameSource) :
    (Rendering.forAudience v (a.audience name)).lines
        = (Rendering.forAudience v (b.audience name)).lines
      ↔ a.audience name = b.audience name ∨ (Deployment.ofRecord v).scaleOut = false := by
  have hdiffer := (Rendering.ofRecord v).lines_withViewer_eq_iff name
  rw [Rendering.scaleOut_ofRecord] at hdiffer
  rcases a.audience_cases name with ha | ha <;> rcases b.audience_cases name with hb | hb
    <;> rw [ha, hb]
  · exact iff_of_true rfl (Or.inl rfl)
  · rw [or_iff_right (by exact nofun)]
    exact eq_comm.trans hdiffer
  · rw [or_iff_right (by exact nofun)]
    exact hdiffer
  · exact iff_of_true rfl (Or.inl rfl)

/-- All places stand for the same audience exactly if the name is not blank. -/
theorem NameSource.audience_eq_iff (name : String) :
    (∀ a b : NameSource, a.audience name = b.audience name) ↔ Text.isBlankText name = false := by
  constructor
  · intro h
    by_contra hblank
    have hrecord := h .record .command
    unfold audience at hrecord
    dsimp only at hrecord
    rw [if_pos (Bool.eq_true_of_not_eq_false hblank)] at hrecord
    exact absurd hrecord nofun
  · intro hblank
    -- an empty name would be blank
    have hempty : name.isEmpty = false := by
      by_contra h
      obtain rfl := String.isEmpty_iff.mp (Bool.eq_true_of_not_eq_false h)
      exact absurd hblank (by decide)
    have hhost : ∀ a : NameSource, a.audience name = .host name := by
      intro a
      unfold audience
      cases a with
      | filter => exact if_neg (Bool.eq_false_iff.mp hempty)
      | command => rfl
      | record => exact if_neg (Bool.eq_false_iff.mp hblank)
    intro a b
    rw [hhost a, hhost b]

end

/--
**The places agree on names that are not blank.** Take any record that does not name its host, and
any name.

The filter applied to the record shows the block for `NameSource.filter.audience`, the command line
with its substitutes shows the block for `NameSource.command.audience`, and the record with the name
put into it shows the block for `NameSource.record.audience`. In the first two cases the variables
may come in any order.

Two of these blocks are the same exactly if they are for the same audience or the database is on one
host. All three are the same exactly if the name is not blank or the database is on one host.
-/
theorem viewer_names_agree_iff (vars : Record) (name : String)
    (habsent : vars.get? "inventory_hostname" = none) :
    (∀ (groups : List Template.FilterGroup) (v : Value) (r : Record),
      Template.FilterGroup.sapHosts ∈ groups → Record.ofValue? v = some r →
      (∀ n, r.raw? n = vars.raw? n) →
      Template.Filter.apply groups "sdaf_generate_sap_hosts" (some v) [.string name]
        = .ok (.ofTexts
          (Rendering.forAudience vars (NameSource.filter.audience name)).lines))
    ∧ (∀ (env : Environment) (files : Files) (args : List String) (i : Invocation) (path : String)
      (r : Record), i.Asked env args → i.ViewedBy env files name → i.Loads env files path r →
      (∀ n, r.raw? n = vars.raw? n) →
      ∃ errorOutput, run env files args
        = ⟨0, (Answer.block (Rendering.forAudience vars (NameSource.command.audience name))).output
          (i.style env files), errorOutput⟩)
    ∧ (Rendering.ofRecord (vars.insert "inventory_hostname" (.string name))).lines
      = (Rendering.forAudience vars (NameSource.record.audience name)).lines
    ∧ (∀ a b : NameSource,
      (Rendering.forAudience vars (a.audience name)).lines
          = (Rendering.forAudience vars (b.audience name)).lines
        ↔ a.audience name = b.audience name ∨ (Deployment.ofRecord vars).scaleOut = false)
    ∧ ((∀ a b : NameSource,
      (Rendering.forAudience vars (a.audience name)).lines
          = (Rendering.forAudience vars (b.audience name)).lines)
        ↔ Text.isBlankText name = false ∨ (Deployment.ofRecord vars).scaleOut = false) := by
  refine ⟨fun groups v r hgroups hrecord hsame => ?_,
    fun env files args i path r hargs hviewed hload hsame => ?_,
    congrArg Rendering.lines (Rendering.ofRecord_insert_name vars name),
    NameSource.lines_eq_iff vars name, ?_⟩
  · rw [Template.Filter.apply_generate hgroups hrecord,
      Template.Filter.generated_of_absent hsame habsent]
  · obtain ⟨errorOutput, hrun⟩ := hviewed.run_eq hload
    have hrendering : Rendering.forAudience r (.host name)
        = Rendering.forAudience vars (.host name) :=
      (Record.agreeBesides_of_raw? hsame _).forAudience_eq rfl
    refine ⟨errorOutput, ?_⟩
    rw [hargs.run_eq, hrun, hrendering]
    rfl
  · -- on one host the viewer does not matter, and on several the audience must be the same
    simp only [NameSource.lines_eq_iff]
    rw [← NameSource.audience_eq_iff]
    by_cases hscale : (Deployment.ofRecord vars).scaleOut = false
    · exact iff_of_true (fun _ _ => Or.inr hscale) (Or.inr hscale)
    · constructor
      · exact fun h => Or.inl fun a b => (h a b).resolve_right hscale
      · exact fun h a b => Or.inl (h.resolve_right hscale a b)

/-- A landscape whose database is spread over several hosts, as a value. -/
def spreadDatabaseValue : Value := .object [("database_scale_out", .bool true)]

/-- The landscape as a record. -/
def spreadDatabaseRecord : Record := .ofList [("database_scale_out", .bool true)]

/-- The landscape in a file. -/
def spreadDatabaseFiles : Files :=
  .ofList [("v.json", Json.spread spreadDatabaseValue ++ "\n")]

/-- What is asked for by a command line that names a host for the landscape. -/
def spreadDatabaseGenerate (host : String) : Invocation where
  command := .generate (some "v.json") (some host)
  extra := []
  verbosity := 0
  format := .human
  config := none
  noColor := false

theorem parse?_spreadDatabaseValue :
    Json.parse? (Json.spread spreadDatabaseValue ++ "\n") Json.nestingLimit
      = some spreadDatabaseValue := by
  have hreadable : Json.Readable 127 spreadDatabaseValue := by
    refine .object fun m hm => ?_
    rw [List.mem_singleton.mp hm]
    exact .bool true
  unfold Json.parse? Json.nestingLimit
  rw [Json.read?_spread hreadable]
  rfl

theorem ofFile_spreadDatabaseFiles :
    Record.ofFile spreadDatabaseFiles "v.json" = .ok spreadDatabaseRecord := by
  have htext : spreadDatabaseFiles "v.json" = .ok (Json.spread spreadDatabaseValue ++ "\n") := by
    unfold spreadDatabaseFiles Files.ofList
    rw [List.lookup_cons_self]
    rfl
  have hextension : Files.extension? "v.json" = some "json" := by decide +kernel
  unfold Record.ofFile
  rw [htext]
  dsimp only
  rw [if_pos hextension]
  unfold Record.ofJson
  rw [parse?_spreadDatabaseValue]
  rfl

theorem spreadDatabaseGenerate_loads (host : String) :
    (spreadDatabaseGenerate host).Loads (.ofList []) spreadDatabaseFiles "v.json"
      spreadDatabaseRecord where
  file := rfl
  record := by
    unfold Command.loadRecord
    rw [ofFile_spreadDatabaseFiles]
    rfl

/-- The three places agree on a name, but not on a blank. -/
theorem spreadDatabase_viewer_names :
    spreadDatabaseRecord.get? "inventory_hostname" = none
      ∧ Template.Filter.apply [.sapHosts] "sdaf_generate_sap_hosts" (some spreadDatabaseValue)
          [.string "app0"]
        = .ok (.ofTexts (Rendering.ofRecord
          (spreadDatabaseRecord.insert "inventory_hostname" (.string "app0"))).lines)
      ∧ (run (.ofList []) spreadDatabaseFiles ["generate", "v.json", "--host", "app0"]).output
        = Answer.unlines (Rendering.ofRecord
          (spreadDatabaseRecord.insert "inventory_hostname" (.string "app0"))).lines
      ∧ ∃ lines : List String,
        Template.Filter.apply [.sapHosts] "sdaf_generate_sap_hosts" (some spreadDatabaseValue)
          [.string " "] = .ok (.ofTexts lines)
        ∧ (run (.ofList []) spreadDatabaseFiles ["generate", "v.json", "--host", " "]).output
          = Answer.unlines lines
        ∧ (Rendering.ofRecord
          (spreadDatabaseRecord.insert "inventory_hostname" (.string " "))).lines ≠ lines := by
  have habsent : spreadDatabaseRecord.get? "inventory_hostname" = none := rfl
  have hscale : (Deployment.ofRecord spreadDatabaseRecord).scaleOut ≠ false := by decide
  have hargs : ∀ host ∈ ["app0", " "],
      (spreadDatabaseGenerate host).Asked (.ofList []) ["generate", "v.json", "--host", host] := by
    unfold Invocation.Asked
    decide +kernel
  obtain ⟨hfilter, hcommand, hrecord, -, hall⟩ :=
    viewer_names_agree_iff spreadDatabaseRecord "app0" habsent
  obtain ⟨hfilter', hcommand', hrecord', hpairs', -⟩ :=
    viewer_names_agree_iff spreadDatabaseRecord " " habsent
  refine ⟨habsent, ?_, ?_,
    (Rendering.forAudience spreadDatabaseRecord (NameSource.filter.audience " ")).lines, ?_, ?_, ?_⟩
  · rw [hrecord, hall.mpr (Or.inl (by decide)) .record .filter]
    exact hfilter [.sapHosts] _ _ List.mem_cons_self rfl fun _ => rfl
  · obtain ⟨errorOutput, hrun⟩ := hcommand _ _ _ _ _ _ (hargs _ (by simp)) (.option rfl)
      (spreadDatabaseGenerate_loads _) fun _ => rfl
    rw [hrun, hrecord, hall.mpr (Or.inl (by decide)) .record .command]
    rfl
  · exact hfilter' [.sapHosts] _ _ List.mem_cons_self rfl fun _ => rfl
  · obtain ⟨errorOutput, hrun⟩ := hcommand' _ _ _ _ _ _ (hargs _ (by simp)) (.option rfl)
      (spreadDatabaseGenerate_loads _) fun _ => rfl
    rw [hrun, (hpairs' .filter .command).mpr (Or.inl rfl)]
    rfl
  · rw [hrecord']
    intro heq
    rcases (hpairs' .record .filter).mp heq with haudience | hscale'
    · exact absurd haudience nofun
    · exact hscale hscale'

/-- An empty host on the command line is not treated like one in a filter or in a record. -/
theorem spreadDatabase_emptyHost :
    ∃ lines : List String,
      Template.Filter.apply [.sapHosts] "sdaf_generate_sap_hosts" (some spreadDatabaseValue)
        [.string ""] = .ok (.ofTexts lines)
      ∧ (Rendering.ofRecord
        (spreadDatabaseRecord.insert "inventory_hostname" (.string ""))).lines = lines
      ∧ (run (.ofList []) spreadDatabaseFiles ["generate", "v.json", "--host", ""]).exitCode = 0
      ∧ (run (.ofList []) spreadDatabaseFiles ["generate", "v.json", "--host", ""]).output
        ≠ Answer.unlines lines := by
  refine ⟨(Rendering.ofRecord spreadDatabaseRecord).lines, ?_, by decide +kernel,
    by decide +kernel, by decide +kernel⟩
  exact Template.Filter.apply_generate List.mem_cons_self rfl ""

end HostsBlock
