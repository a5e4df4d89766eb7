import FlatQuery.Csv.Source
import FlatQuery.Engine.Session
import FlatQuery.Output.Artifact
import FlatQuery.Shell.Arguments

namespace FlatQuery

def ParseError.report (e : ParseError) : String :=
  match e with
  | .outline fault => s!"{e.message}: {fault.message}"
  | _ => e.message

def SourceError.report (e : SourceError) : String :=
  match e with
  | .io why => s!"{e.message}: {why.message}"
  | _ => e.message

def QueryError.report : QueryError → String
  | .parse e => e.report
  | .source e => e.report
  | e => e.message

inductive ShellFailure
  | noQuery
  | parse (error : ParseError)
  | query (source : Text) (error : QueryError)
  | write (artifact : Artifact) (why : FileError)
  deriving DecidableEq, Repr

def ShellFailure.report : ShellFailure → String
  | noQuery => "no query given"
  | parse error => s!"cannot parse query: {error.report}"
  | query source error => s!"query against {source.toString} failed: {error.report}"
  | write artifact why => artifact.failureMessage why

structure Answer where
  shown : Text
  artifact : Option Artifact
  deriving DecidableEq, Repr

structure Shell where
  session : Session := {}
  csv : CsvSetup := {}
  format : OutputFormat := .table
  artifactDir : Option Text := some ['.']
  timing : Bool := false
  deriving DecidableEq, Repr

namespace Shell

-- Results go to the directory asked for, else to the root, else to the working directory.
def artifactDirOf (o : Options) : Option Text :=
  if o.noWrite then none else some ((o.outputDir.or o.root).getD ['.'])

def ofOptions (o : Options) : Shell where
  session := { settings := { mode := if o.simpleOnly then .simpleOnly else .extended } }
  csv := { root := o.root }
  format := o.format
  artifactDir := artifactDirOf o

def plan (s : Shell) (query : Text) : Except ShellFailure Plan :=
  (s.session.parse query).mapError .parse

def answerPlan (s : Shell) (p : Plan) (opener : Opener) : Except ShellFailure Answer × Shell :=
  match s.session.executePlan p (s.csv.source opener) with
  | (.error e, session) => (.error (.query p.source e), { s with session })
  | (.ok result, session) =>
    (.ok ⟨s.format.render result, s.artifactDir.map (Artifact.make result p.source)⟩,
      { s with session })

def answer (s : Shell) (query : Text) (opener : Opener) : Except ShellFailure Answer × Shell :=
  match s.plan query with
  | .error e => (.error e, s)
  | .ok p => s.answerPlan p opener

def dropSemicolons (t : Text) : Text :=
  t.dropEndWhile (· == ';')

def firstQuery (input : Text) : Except ShellFailure Text :=
  let query := Text.trimEnd (dropSemicolons (Text.trim (input.takeWhile (· != '\n'))))
  if query.isEmpty then .error .noQuery else .ok query

end Shell
end FlatQuery
