import FlatQuery.Files.Tree
import FlatQuery.Shell.Console

namespace FlatQuery

structure Transcript where
  stdout : String := ""
  stderr : String := ""
  deriving DecidableEq, Repr

namespace Transcript

def say (t : Transcript) (s : String) : Transcript :=
  { t with stdout := t.stdout ++ s }

def complain (t : Transcript) (s : String) : Transcript :=
  { t with stderr := t.stderr ++ s }

end Transcript

namespace Program

def versionText : String :=
  s!"{UsageFault.programName} {Console.version}\n"

def helpText : String :=
  "Query CSV files with a small SQL dialect\n\n"
    ++ s!"Usage: {UsageFault.programName} [OPTIONS]\n\n"
    ++ "Options:\n"
    ++ "  -q, --query <QUERY>            Query text. Read from one line of stdin when omitted\n"
    ++ "      --root <ROOT>              Directory that bare source names are resolved against\n"
    ++ "      --output-dir <OUTPUT_DIR>  Directory for the JSON result artifact. "
    ++ "Defaults to the root, else the current directory\n"
    ++ "      --format <FORMAT>          Console output format [default: table]\n"
    ++ "      --simple-only              Execute only plain filtered selects\n"
    ++ "      --no-write                 Do not write the JSON result artifact\n"
    ++ "      --repl                     Start the interactive shell\n"
    ++ "  -h, --help                     Print help\n"
    ++ "  -V, --version                  Print version\n"

structure Run where
  tree : FileTree
  transcript : Transcript := {}
  deriving DecidableEq, Repr

namespace Run

def say (r : Run) (s : String) : Run :=
  { r with transcript := r.transcript.say s }

def complain (r : Run) (s : String) : Run :=
  { r with transcript := r.transcript.complain s }

def keep (r : Run) : Option Artifact → Except ShellFailure Run
  | none => .ok r
  | some artifact =>
    match r.tree.write artifact.path (Utf8.encode artifact.text) with
    | .ok tree => .ok { r with tree }
    | .error why => .error (.write artifact why)

def query (r : Run) (s : Shell) (text : Text) : Run × Shell × Option ShellFailure :=
  match s.answer text r.tree.read with
  | (.error e, s) => (r, s, some e)
  | (.ok answer, s) =>
    let printed := r.say (answer.shown.toString ++ "\n")
    match printed.keep answer.artifact with
    | .ok r => (r, s, none)
    | .error e => (printed, s, some e)

def perform (r : Run) (c : Console) : Reaction → Run × Console
  | .nothing => (r, c)
  | .say s => (r.say s, c)
  | .complain s => (r.complain s, c)
  | .leave => (r.say Console.farewell, c)
  | .run text =>
    match r.query c.shell text with
    | (r, shell, none) => (r, { c with shell })
    | (r, shell, some e) => (r.complain (Console.errorLine e.report), { c with shell })

def interact (r : Run) (c : Console) : List InputLine → Run
  | [] => r.say Console.farewell
  | line :: lines =>
    let (c, reaction) := c.feed line
    let (r, c) := r.perform c reaction
    if reaction = .leave then r else r.interact c lines

end Run

structure Outcome where
  exit : Nat
  transcript : Transcript
  tree : FileTree
  deriving DecidableEq, Repr

def Run.toOutcome (r : Run) (exit : Nat) : Outcome :=
  ⟨exit, r.transcript, r.tree⟩

-- The query of a run that is not interactive: an option, or the first line of the input.
def givenQuery (o : Options) (input : Text) : Except ShellFailure Text :=
  match o.query with
  | some query => .ok query
  | none => Shell.firstQuery input

def runOnce (o : Options) (input : Text) (r : Run) : Run × Option ShellFailure :=
  match givenQuery o input with
  | .error e => (r, some e)
  | .ok query =>
    let (r, _, failure) := r.query (Shell.ofOptions o) query
    (r, failure)

def runOptions (o : Options) (input : Text) (r : Run) : Outcome :=
  if o.repl then
    let c : Console := { shell := Shell.ofOptions o }
    ((r.say c.banner).interact c (InputLine.all input)).toOutcome 0
  else
    match runOnce o input r with
    | (r, none) => r.toOutcome 0
    | (r, some e) => (r.complain (Console.errorLine e.report)).toOutcome 1

def run (arguments : List Text) (input : Text) (tree : FileTree) : Outcome :=
  let r : Run := { tree }
  match Request.ofArguments arguments with
  | .run o => runOptions o input r
  | .help => (r.say helpText).toOutcome 0
  | .version => (r.say versionText).toOutcome 0
  | .refuse fault => (r.complain fault.message).toOutcome 2

end Program
end FlatQuery
