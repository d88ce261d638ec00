import HostsBlock.Command.Invocation

/-!
# The command line

Arguments are read from left to right at two levels: before the command, and behind it. Options that
concern every command may stand at both levels, and then the one behind the command counts; the
options of a command stand behind it.

An option that takes a value has it in the same argument or in the next one, which must not look
like an option. Short options may be put together. Behind a double hyphen everything is plain. An
option with a single value may not be repeated at one level.
-/

namespace HostsBlock.Arguments

/-- An option without a value. -/
inductive Switch where
  | verbose
  | noColor
  | help
  | version
deriving DecidableEq

/-- An option with a value. -/
inductive Setting where
  | extra
  | output
  | config
  | host
  | stage
deriving DecidableEq

/-- The option of a long name. -/
def long? (name : String) : Option (Switch ⊕ Setting) :=
  match name with
  | "verbose" => some (.inl .verbose)
  | "no-color" => some (.inl .noColor)
  | "help" => some (.inl .help)
  | "version" => some (.inl .version)
  | "extra-vars" => some (.inr .extra)
  | "output" => some (.inr .output)
  | "config" => some (.inr .config)
  | "host" => some (.inr .host)
  | "stage" => some (.inr .stage)
  | _ => none

/-- The option of a short name. -/
def short? (c : Char) : Option (Switch ⊕ Setting) :=
  match c with
  | 'v' => some (.inl .verbose)
  | 'h' => some (.inl .help)
  | 'V' => some (.inl .version)
  | 'e' => some (.inr .extra)
  | 'c' => some (.inr .config)
  | 'H' => some (.inr .host)
  | 's' => some (.inr .stage)
  | _ => none

/-- Whether an option with a value may stand at a level: behind a command, or before it. -/
def Setting.isAllowed (s : Setting) : Option Verb → Bool
  | none => s ≠ .host && s ≠ .stage
  | some .generate => s ≠ .stage
  | some .validateNetwork => s ≠ .host && s ≠ .stage
  | some .validateStage => s ≠ .host
  | some .formatEntry => s = .output || s = .config

/-- How many plain arguments may stand behind a command. -/
def capacity : Option Verb → Nat
  | none => 0
  | some .formatEntry => 3
  | some _ => 1

/-- Why a command line leads to no invocation. -/
inductive Stop where
  /-- The command line makes no sense. -/
  | usage
  /-- Help is asked for. -/
  | help
  /-- The version is asked for, of the program or of a command. -/
  | version (verb : Option Verb)
deriving DecidableEq

/-- What has been read at a level. -/
structure Level where
  verbose : Nat
  noColor : Bool
  output : Option OutputFormat
  config : Option String
  host : Option String
  stage : Option String
  extra : List String
  /-- The plain arguments. -/
  plain : List String

namespace Level

/-- The level at which nothing is read yet. -/
def empty : Level := ⟨0, false, none, none, none, none, [], []⟩

/-- Turns a switch on. -/
def switch (l : Level) (verb : Option Verb) : Switch → Except Stop Level
  | .verbose => .ok { l with verbose := l.verbose + 1 }
  | .noColor => if l.noColor then .error .usage else .ok { l with noColor := true }
  | .help => .error .help
  | .version => .error (.version verb)

/-- Gives an option its value. The path of a file is not empty. -/
def set (l : Level) (s : Setting) (value : String) : Except Stop Level :=
  match s with
  | .extra => .ok { l with extra := l.extra ++ [value] }
  | .output =>
    match l.output, OutputFormat.ofName? value with
    | none, some format => .ok { l with output := some format }
    | _, _ => .error .usage
  | .config =>
    if l.config.isSome || value.isEmpty then .error .usage
    else .ok { l with config := some value }
  | .host => if l.host.isSome then .error .usage else .ok { l with host := some value }
  | .stage => if l.stage.isSome then .error .usage else .ok { l with stage := some value }

/-- Takes a plain argument. The path of a file is not empty. -/
def addPlain (l : Level) (verb : Option Verb) (value : String) : Except Stop Level :=
  if l.plain.length < capacity verb && !(value.isEmpty && verb ≠ some .formatEntry) then
    .ok { l with plain := l.plain ++ [value] }
  else .error .usage

end Level

/-- Whether an argument looks like an option or the end of all options. -/
def looksLikeOption (arg : String) : Bool := arg.startsWith "-" && arg ≠ "-"

/-- The option of a name, if it may stand at a level. -/
def allowed (verb : Option Verb) (option : Option (Switch ⊕ Setting)) :
    Except Stop (Switch ⊕ Setting) :=
  match option with
  | some (.inl s) => .ok (.inl s)
  | some (.inr s) => if s.isAllowed verb then .ok (.inr s) else .error .usage
  | none => .error .usage

/-- Reads short options that are put together. Gives back the last one if its value is missing. -/
def cluster (verb : Option Verb) : List Char → Level → Except Stop (Level × Option Setting)
  | [], l => .ok (l, none)
  | c :: rest, l => do
    match ← allowed verb (short? c) with
    | .inl s => cluster verb rest (← l.switch verb s)
    | .inr s =>
      match rest with
      | [] => pure (l, some s)
      | '=' :: value => pure (← l.set s (String.ofList value), none)
      | value => pure (← l.set s (String.ofList value), none)

/-- Reads a long option behind its hyphens. Gives it back if its value is missing. -/
def longOption (verb : Option Verb) (cs : List Char) (l : Level) :
    Except Stop (Level × Option Setting) := do
  let name := String.ofList (cs.takeWhile (· ≠ '='))
  match ← allowed verb (long? name), cs.dropWhile (· ≠ '=') with
  | .inl s, [] => pure (← l.switch verb s, none)
  | .inl _, _ => throw .usage
  | .inr s, [] => pure (l, some s)
  | .inr s, _ :: value => pure (← l.set s (String.ofList value), none)

/-- Reads an argument that looks like an option. Gives back an option whose value is missing. -/
def option (verb : Option Verb) (arg : String) (l : Level) :
    Except Stop (Level × Option Setting) :=
  match arg.toList with
  | '-' :: '-' :: cs => longOption verb cs l
  | cs => cluster verb (cs.drop 1) l

/-- What is read at a level: the level itself, an option whose value was the last thing in front of
the command, and the command with the arguments behind it. -/
structure Scan where
  level : Level
  pending : Option (Setting × String)
  command : Option (Verb × List String)

/-- The verb that comes next, before any command. -/
def nextVerb? (verb : Option Verb) (args : List String) : Option Verb :=
  if verb.isNone then args.head?.bind Verb.ofName? else none

/-- Reads the arguments of a level. -/
def scan (verb : Option Verb) : List String → Level → Except Stop Scan
  | [], l => .ok ⟨l, none, none⟩
  | arg :: rest, l =>
    match nextVerb? verb (arg :: rest) with
    | some next => .ok ⟨l, none, some (next, rest)⟩
    | none => do
      if arg = "--" then
        let l ← rest.foldlM (fun l value => l.addPlain verb value) l
        pure ⟨l, none, none⟩
      else if looksLikeOption arg then
        match ← option verb arg l with
        | (l, none) => scan verb rest l
        | (l, some s) =>
          match rest with
          | [] => throw .usage
          | value :: rest =>
            if looksLikeOption value then throw .usage
            match nextVerb? verb rest with
            | some next => pure ⟨l, some (s, value), some (next, rest.tail)⟩
            | none => scan verb rest (← l.set s value)
      else scan verb rest (← l.addPlain verb arg)

/-- The command of a verb with what is read behind it. -/
def command (verb : Verb) (l : Level) : Except Stop Command :=
  match verb, l.plain with
  | .generate, file => .ok (.generate file.head? l.host)
  | .validateNetwork, file => .ok (.validateNetwork file.head?)
  | .validateStage, file => .ok (.validateStage file.head? l.stage)
  | .formatEntry, [address, fqdn, hostname] => .ok (.formatEntry ⟨address, fqdn, hostname⟩)
  | .formatEntry, _ => .error .usage

/-- Checks the file of settings that the environment names where the command line names none. -/
def checkConfig (env : Option String) (l : Level) : Except Stop Unit :=
  if l.config.isNone && env == some "" then .error .usage else .ok ()

/-- The invocation that the two levels make up. -/
def combine (env : Option String) (outer inner : Level) (command : Command) : Invocation where
  command
  extra := outer.extra ++ inner.extra
  verbosity := min 3 (if inner.verbose = 0 then outer.verbose else inner.verbose)
  format := (inner.output.or outer.output).getD .human
  config := (inner.config.or outer.config).or env
  noColor := inner.noColor || outer.noColor

/-- Whether help on commands is asked for by a command of its own. -/
def asksForHelp : List String → Bool
  | "help" :: rest => rest.length ≤ 1 && rest.all fun s => s == "help" || (Verb.ofName? s).isSome
  | _ => false

/-- Reads a command line; `env` is the file of settings that the environment names. -/
def parse (env : Option String) (args : List String) : Except Stop Invocation := do
  if asksForHelp args then throw .help
  let outer ← scan none args .empty
  let (verb, rest) ← outer.command.elim (.error .usage) .ok
  let inner ← scan (some verb) rest .empty
  checkConfig env inner.level
  let command ← command verb inner.level
  let outer ← outer.pending.elim (.ok outer.level) fun (s, value) => outer.level.set s value
  checkConfig env outer
  pure (combine env outer inner.level command)

end HostsBlock.Arguments
