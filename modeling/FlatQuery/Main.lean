import FlatQuery.Shell.Program

namespace FlatQuery
namespace CommandLine

-- The number of an error, which may be given with a minus.
def errorNumber (code : UInt32) : Nat :=
  if code.toNat < Nat.pow 2 31 then code.toNat else Nat.pow 2 32 - code.toNat

def ofNumber (number : Nat) (details : String) : FileError :=
  if number = 20 then .notADirectory
  else if number = 21 then .isADirectory
  else if number = 36 then .nameTooLong
  else .other s!"{details} (os error {number})"

def fileError : IO.Error → FileError
  | .noFileOrDirectory .. => .notFound
  | .inappropriateType _ code details => ofNumber (errorNumber code) details
  | .invalidArgument _ code details => ofNumber (errorNumber code) details
  | .permissionDenied _ code details => ofNumber (errorNumber code) details
  | e => .other (ToString.toString e)

def attempt (action : IO α) : IO (Except FileError α) := do
  match ← action.toBaseIO with
  | .ok a => return .ok a
  | .error e => return .error (fileError e)

def readFile (path : Text) : IO (Except FileError Bytes) := do
  match FileTree.checkPath path with
  | .error e => return .error e
  | .ok () => return (← attempt (IO.FS.readBinFile path.toString)).map (·.toList)

def writeFile (artifact : Artifact) : IO (Except FileError Unit) := do
  match FileTree.checkPath artifact.path with
  | .error e => return .error e
  | .ok () => attempt (IO.FS.writeFile artifact.path.toString artifact.text.toString)

def timeText (nanos : Nat) : String :=
  let micros := Binary64.nearestEven nanos 1000
  s!"Time: {micros / 1000}.{(Decimal.padded 3 (micros % 1000)).toString}ms"

def keep : Option Artifact → IO (Except ShellFailure Unit)
  | none => return .ok ()
  | some artifact => return (← writeFile artifact).mapError (.write artifact)

def query (s : Shell) (text : Text) : IO (Except ShellFailure Unit × Shell) := do
  let start ← IO.monoNanosNow
  match s.plan text with
  | .error e => return (.error e, s)
  | .ok plan =>
    let content ← readFile (s.csv.resolve plan.source)
    match s.answerPlan plan fun _ => content with
    | (.error e, s) => return (.error e, s)
    | (.ok answer, s) =>
      let elapsed := (← IO.monoNanosNow) - start
      IO.println answer.shown.toString
      if s.timing then
        IO.println (timeText elapsed)
      return (← keep answer.artifact, s)

def complainOf (e : ShellFailure) : IO Unit :=
  IO.eprint (Console.errorLine e.report)

def perform (c : Console) : Reaction → IO Console
  | .nothing => return c
  | .say s => do IO.print s; return c
  | .complain s => do IO.eprint s; return c
  | .leave => do IO.print Console.farewell; return c
  | .run text => do
    let (outcome, shell) ← query c.shell text
    if let .error e := outcome then
      complainOf e
    return { c with shell }

partial def interact (input : IO.FS.Stream) (c : Console) : IO Unit := do
  match InputLine.all (← input.getLine).toList with
  | [] => IO.print Console.farewell
  | line :: _ =>
    let (c, reaction) := c.feed line
    let c ← perform c reaction
    if reaction ≠ .leave then
      interact input c

def runOnce (o : Options) (input : IO.FS.Stream) : IO UInt32 := do
  let line ← if o.query.isSome then pure [] else pure (← input.getLine).toList
  let outcome ← match Program.givenQuery o line with
    | .error e => pure (.error e)
    | .ok text => pure (← query (Shell.ofOptions o) text).1
  match outcome with
  | .ok () => return 0
  | .error e => do complainOf e; return 1

def runOptions (o : Options) : IO UInt32 := do
  let input ← IO.getStdin
  if o.repl then
    let c : Console := { shell := Shell.ofOptions o }
    IO.print c.banner
    interact input c
    return 0
  else
    runOnce o input

end CommandLine
end FlatQuery

open FlatQuery in
def main (arguments : List String) : IO UInt32 := do
  match Request.ofArguments (arguments.map String.toList) with
  | .run o => CommandLine.runOptions o
  | .help => do IO.print Program.helpText; return 0
  | .version => do IO.print Program.versionText; return 0
  | .refuse fault => do IO.eprint fault.message; return 2
