import HostsBlock.Command.Invocation
import HostsBlock.Json.Writer

/-!
# The style of the output

Messages about a run go to the error output: for people as a coloured word in front of the message,
for programs as an object on a line of its own. Titles and results are for people only.
-/

namespace HostsBlock

/-- How the output of a run looks. -/
structure Style where
  colored : Bool
  format : OutputFormat
  verbosity : Nat
deriving DecidableEq

/-- How grave a message is. -/
inductive Severity where
  | error
  | warning
  | info
deriving DecidableEq

namespace Severity

/-- The word for programs. -/
def name : Severity → String
  | .error => "error"
  | .warning => "warning"
  | .info => "info"

/-- The word for people. -/
def marker : Severity → String
  | .error => "ERROR:"
  | .warning => "WARNING:"
  | .info => "INFO:"

/-- The colour of the word for people. -/
def color : Severity → String
  | .error => "1;31"
  | .warning => "1;33"
  | .info => "34"

end Severity

namespace Style

/-- A text in a colour, if there are colours. -/
def paint (s : Style) (color text : String) : String :=
  if s.colored then "\x1b[" ++ color ++ "m" ++ text ++ "\x1b[0m" else text

/-- The line of a message. -/
def messageLine (s : Style) (severity : Severity) (message : String) : String :=
  (match s.format with
    | .human => s.paint severity.color severity.marker ++ " " ++ message
    | .json | .yaml =>
      Json.compact (.object [("message", .string message), ("type", .string severity.name)]))
    ++ "\n"

/-- Lines of information, which are shown only if something is to be reported about the run. -/
def infoLines (s : Style) (messages : List String) : String :=
  if s.verbosity = 0 then "" else String.join (messages.map (s.messageLine .info))

/-- A title and the line under it. -/
def title (s : Style) (text : String) : String :=
  s.paint "1;36" text ++ "\n"
    ++ s.paint "36" (String.ofList (List.replicate text.utf8ByteSize '-')) ++ "\n"

/-- The line that says how a check came out. -/
def verdict (s : Style) (good : Bool) (message : String) : String :=
  (if good then s.paint "1;32" "OK:" else s.paint "1;31" "FAILED:") ++ " " ++ message ++ "\n"

end Style

end HostsBlock
