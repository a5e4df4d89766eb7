import FlatQuery.Output.Format
import FlatQuery.Shell.Escape
import FlatQuery.Shell.Similarity

namespace FlatQuery

inductive Switch
  | query
  | root
  | outputDir
  | format
  | simpleOnly
  | noWrite
  | repl
  | help
  | version
  deriving DecidableEq, Repr

namespace Switch

def all : List Switch :=
  [query, root, outputDir, format, simpleOnly, noWrite, repl, help, version]

def long : Switch → String
  | query => "query"
  | root => "root"
  | outputDir => "output-dir"
  | format => "format"
  | simpleOnly => "simple-only"
  | noWrite => "no-write"
  | repl => "repl"
  | help => "help"
  | version => "version"

def valueName? : Switch → Option String
  | query => some "QUERY"
  | root => some "ROOT"
  | outputDir => some "OUTPUT_DIR"
  | format => some "FORMAT"
  | _ => none

def takesValue (s : Switch) : Bool :=
  s.valueName?.isSome

def isOption : Switch → Bool
  | help | version => false
  | _ => true

def display (s : Switch) : String :=
  match s.valueName? with
  | some value => s!"--{s.long} <{value}>"
  | none => s!"--{s.long}"

def ofLong? (name : Text) : Option Switch :=
  all.find? (·.long.toList == name)

def ofShort? : Char → Option Switch
  | 'q' => some query
  | 'h' => some help
  | 'V' => some version
  | _ => none

end Switch

structure Options where
  query : Option Text := none
  root : Option Text := none
  outputDir : Option Text := none
  format : OutputFormat := .table
  simpleOnly : Bool := false
  noWrite : Bool := false
  repl : Bool := false
  deriving DecidableEq, Repr

inductive UsageFault
  | missingValue (switch : Switch)
  | invalidFormat (value : Text) (why : OutputFormat.Unknown)
  | repeated (switch : Switch)
  -- No switch has this name; `similar` may have been meant, and `used` stood before.
  | unexpected (argument : Text) (similar : Option Switch) (used : List Switch)
  | unneededValue (value : Text) (switch : Switch) (used : List Switch)
  deriving DecidableEq, Repr

namespace UsageFault

def programName : String := "dbengine"

def usageLine (words : List String) : String :=
  "\n\nUsage: " ++ " ".intercalate (programName :: words)

def usage (used : List Switch) : String :=
  usageLine (if used.isEmpty then ["[OPTIONS]"] else used.eraseDups.map Switch.display)

def anyOption : String :=
  "<" ++ "|".intercalate ((Switch.all.filter Switch.isOption).map Switch.display) ++ ">"

def usageAfterOptions (switch : Switch) : String :=
  usageLine (if switch.isOption then [anyOption] else [switch.display, anyOption])

def quoted (t : Text) : String :=
  s!"'{emphasised t.toString}'"

def headline : UsageFault → String
  | missingValue switch => s!"a value is required for '{switch.display}' but none was supplied"
  | invalidFormat value why =>
    s!"invalid value {quoted value} for '{Switch.format.display}': {why.message}"
  | repeated switch => s!"the argument '{switch.display}' cannot be used multiple times" ++ usage []
  | unexpected argument none used =>
    s!"unexpected argument {quoted argument} found" ++ usage used
  | unexpected argument (some similar) used =>
    s!"unexpected argument {quoted argument} found"
      ++ s!"\n\n  tip: a similar argument exists: '--{similar.long}'" ++ usage (used ++ [similar])
  | unneededValue value switch used =>
    s!"unexpected value {quoted value} for '{switch.display}' found; no more were expected"
      ++ if used.isEmpty then usage [switch] else usageAfterOptions switch

-- The message where there is no terminal, on which it could stand out.
def message (f : UsageFault) : String :=
  let help := emphasised "--help"
  let styled := s!"error: {f.headline}\n\nFor more information, try '{help}'.\n"
  (Text.withoutEscapes styled.toList).toString

end UsageFault

inductive Request
  | run (options : Options)
  | help
  | version
  | refuse (fault : UsageFault)
  deriving DecidableEq, Repr

structure ArgumentState where
  options : Options := {}
  used : List Switch := []
  -- A switch that is not set yet, with its value if that has been read.
  pending : Option (Switch × Option Text) := none
  -- Whether `--` has been read, after which nothing is a switch.
  literal : Bool := false
  deriving DecidableEq, Repr

namespace ArgumentState

def setValue (o : Options) (value : Text) : Switch → Except UsageFault Options
  | .query => .ok { o with query := some value }
  | .root =>
    if value.isEmpty then .error (.missingValue .root) else .ok { o with root := some value }
  | .outputDir =>
    if value.isEmpty then .error (.missingValue .outputDir)
    else .ok { o with outputDir := some value }
  | .format =>
    match OutputFormat.parse value with
    | .ok format => .ok { o with format }
    | .error why => .error (.invalidFormat value why)
  | _ => .ok o

def setFlag (o : Options) : Switch → Options
  | .simpleOnly => { o with simpleOnly := true }
  | .noWrite => { o with noWrite := true }
  | .repl => { o with repl := true }
  | _ => o

def set (s : ArgumentState) (switch : Switch) (value : Option Text) :
    Except UsageFault ArgumentState :=
  if switch.takesValue && value.isNone then .error (.missingValue switch)
  else if s.used.contains switch then .error (.repeated switch)
  else do
    let options ← match value with
      | some v => setValue s.options v switch
      | none => .ok (setFlag s.options switch)
    return { s with options, used := s.used ++ [switch] }

def settle (s : ArgumentState) : Except UsageFault ArgumentState :=
  match s.pending with
  | some (switch, value) => { s with pending := none }.set switch value
  | none => .ok s

-- The switches that are set, with the pending one if it can be.
def usedAfterSettling (s : ArgumentState) : List Switch :=
  match s.settle with
  | .ok s => s.used
  | .error _ => s.used

-- One argument leads to the next, or to an answer.
abbrev Outcome := Except Request ArgumentState

def refuseIfFault : Except UsageFault ArgumentState → Outcome :=
  Except.mapError .refuse

def takeSwitch (s : ArgumentState) (switch : Switch) (attached : Option Text) : Outcome :=
  match attached with
  | some value =>
    if switch.takesValue then refuseIfFault do (← s.settle).set switch (some value)
    else .error (.refuse (.unneededValue value switch s.used))
  | none => do
    let s ← refuseIfFault s.settle
    match switch with
    | .help => .error .help
    | .version => .error .version
    | _ =>
      if switch.takesValue then return { s with pending := some (switch, none) }
      else refuseIfFault (s.set switch none)

def takeLong (s : ArgumentState) (t : Text) : Outcome :=
  let (name, value) := match t.cutAtFirst '=' with
    | some (name, value) => (name, some value)
    | none => (t, none)
  match Switch.ofLong? name with
  | some switch => s.takeSwitch switch value
  | none =>
    let similar := (Similarity.closest? name (Switch.all.map (·.long.toList))).bind Switch.ofLong?
    .error (.refuse (.unexpected ('-' :: '-' :: name) similar s.usedAfterSettling))

def takeShort (s : ArgumentState) (c : Char) (rest : Text) : Outcome :=
  match Switch.ofShort? c with
  | none => .error (.refuse (.unexpected ['-', c] none []))
  | some switch =>
    if switch.takesValue && !rest.isEmpty then
      s.takeSwitch switch (some (if rest.head? = some '=' then rest.tail else rest))
    else
      s.takeSwitch switch none

def takePlain (s : ArgumentState) (t : Text) : Outcome :=
  match s.literal, s.pending with
  | false, some (switch, none) => .ok { s with pending := some (switch, some t) }
  | _, _ => .error (.refuse (.unexpected t none []))

def take (s : ArgumentState) (argument : Text) : Outcome :=
  if s.literal then
    s.takePlain argument
  else
    match argument with
    | ['-', '-'] => .ok { s with literal := true }
    | '-' :: '-' :: t => s.takeLong t
    | '-' :: c :: rest => s.takeShort c rest
    | t => s.takePlain t

end ArgumentState

def Request.ofArguments (arguments : List Text) : Request :=
  let outcome : ArgumentState.Outcome := do
    let s ← arguments.foldlM ArgumentState.take {}
    ArgumentState.refuseIfFault s.settle
  match outcome with
  | .ok s => run s.options
  | .error request => request

end FlatQuery
