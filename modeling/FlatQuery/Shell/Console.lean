import FlatQuery.Shell.Brackets
import FlatQuery.Shell.InputLine
import FlatQuery.Shell.Shell

namespace FlatQuery

inductive Reaction
  | nothing
  | say (text : String)
  | complain (text : String)
  | run (query : Text)
  | leave
  deriving DecidableEq, Repr

structure Console where
  shell : Shell
  -- A query of which more lines follow.
  buffer : Text := []
  -- An input whose brackets do not match yet.
  pending : Text := []
  deriving DecidableEq, Repr

namespace Console

def version : String := "0.1.0"

def banner (c : Console) : String :=
  let root := (c.shell.csv.root.getD ['.']).toString
  "\n  DbEngine query shell\n"
    ++ s!"  Version: {version}\n"
    ++ s!"  Root:    {root}\n"
    ++ s!"  Format:  {c.shell.format.name.toString}\n\n"
    ++ "  Type \\help for help, \\quit to exit.\n\n"

def farewell : String := "Goodbye.\n"

def help : String :=
  "\n  Meta-commands\n\n"
    ++ "  \\plan <query>    Show the parsed plan as JSON\n"
    ++ "  \\timing          Toggle query timing display\n"
    ++ "  \\format <fmt>    Set output format (table|json|csv)\n"
    ++ "  \\help            Show this help message\n"
    ++ "  \\quit / \\q       Exit the shell\n"
    ++ "\n  Queries\n\n"
    ++ "  select <fields> from <file.csv> [where ...] [group by ...] [order by ...]\n"
    ++ "  Use \\ at end of line for multiline continuation.\n"
    ++ "  Trailing semicolons are stripped automatically.\n\n"

def errorLine (report : String) : String :=
  s!"Error: {report}\n"

def runQuery (query : Text) : Reaction :=
  let query := Shell.dropSemicolons query
  if query.isEmpty then .nothing else .run query

def toggleTiming (c : Console) : Console × Reaction :=
  let on := !c.shell.timing
  let state := if on then "on" else "off"
  ({ c with shell := { c.shell with timing := on } }, .say s!"Timing display: {state}\n")

def setFormat (c : Console) (argument : Text) : Console × Reaction :=
  if argument.isEmpty then
    (c, .say s!"Current format: {c.shell.format.name.toString}\nUsage: \\format <table|json|csv>\n")
  else
    match OutputFormat.parse argument with
    | .ok format =>
      ({ c with shell := { c.shell with format } },
        .say s!"Output format: {format.name.toString}\n")
    | .error unknown => (c, .complain (errorLine unknown.message))

def showPlan (c : Console) (argument : Text) : Reaction :=
  if argument.isEmpty then
    .say "Usage: \\plan <query>\n"
  else
    match c.shell.plan argument with
    | .ok p => .say (((Json.ofPlan p).pretty 0).toString ++ "\n")
    | .error e => .complain (errorLine e.report)

def command (c : Console) (line : Text) : Console × Reaction :=
  let name := Text.toString (line.takeWhile (!isBlank ·))
  let argument := Text.trim (line.dropWhile (!isBlank ·))
  if name = "\\quit" ∨ name = "\\q" then (c, .leave)
  else if name = "\\help" ∨ name = "\\h" ∨ name = "\\?" then (c, .say help)
  else if name = "\\timing" then c.toggleTiming
  else if name = "\\format" then c.setFormat argument
  else if name = "\\plan" then (c, c.showPlan argument)
  else
    (c, .complain
      (errorLine s!"Unknown command: {name}. Type \\help for available commands."))

def extended (buffer stretch : Text) : Text :=
  if buffer.isEmpty then stretch else buffer ++ ' ' :: stretch

-- Takes an input whose brackets match.
def react (c : Console) (input : Text) : Console × Reaction :=
  let line := input.trim
  if line.isEmpty then
    ({ c with buffer := [] }, if c.buffer.isEmpty then .nothing else runQuery c.buffer.trim)
  else if line.getLast? = some '\\' then
    ({ c with buffer := extended c.buffer line.dropLast }, .nothing)
  else if !c.buffer.isEmpty then
    ({ c with buffer := [] }, runQuery (extended c.buffer line).trim)
  else if line.head? = some '\\' then
    c.command line
  else
    (c, runQuery line)

-- Takes the next line. Mismatched brackets are complained about, and the input goes on.
def feed (c : Console) (line : InputLine) : Console × Reaction :=
  let input := applyBackspaces (c.pending ++ line.text)
  match Brackets.check input with
  | .complete => { c with pending := [] }.react input
  | .incomplete => ({ c with pending := input ++ line.ending }, .nothing)
  | .mismatched why => ({ c with pending := input }, .complain why.message)

end Console
end FlatQuery
