import FlatQuery.Query.Kind
import FlatQuery.Query.ParseError
import FlatQuery.Table.SourceError

namespace FlatQuery

inductive QueryError
  | parse (error : ParseError)
  | source (error : SourceError)
  | unresolvedField (field : Text)
  | ungroupedField (field : Text)
  | unsupportedKind (kind : Kind)
  deriving DecidableEq, Repr

def QueryError.message : QueryError → String
  | parse error => error.message
  | source error => error.message
  | unresolvedField field => s!"unknown column: {field.toString}"
  | ungroupedField field => s!"column '{field.toString}' is neither grouped nor aggregated"
  | unsupportedKind kind => s!"execution of {kind.name} queries is disabled"

end FlatQuery
