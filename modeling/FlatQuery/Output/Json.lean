import FlatQuery.Query.Plan
import FlatQuery.Table.ResultSet

namespace FlatQuery

inductive Json
  | bool (b : Bool)
  | text (t : Text)
  | list (items : List Json)
  | object (fields : List (Text × Json))

namespace Json

def hexDigit (n : Nat) : Char :=
  (Nat.digitChar n)

def escapeChar (c : Char) : Text :=
  if c = '"' then ['\\', '"']
  else if c = '\\' then ['\\', '\\']
  else if c = '\n' then ['\\', 'n']
  else if c = '\r' then ['\\', 'r']
  else if c = '\t' then ['\\', 't']
  else if c = '\x08' then ['\\', 'b']
  else if c = '\x0c' then ['\\', 'f']
  else if c.toNat < 0x20 then
    ['\\', 'u', '0', '0', hexDigit (c.toNat / 16), hexDigit (c.toNat % 16)]
  else [c]

def quoted (t : Text) : Text :=
  '"' :: t.flatMap escapeChar ++ ['"']

def indent (level : Nat) : Text :=
  '\n' :: List.replicate (2 * level) ' '

-- Lines between brackets, one level deeper; nothing stands between the brackets of nothing.
def enclosed (opening closing : Char) (level : Nat) (items : List Text) : Text :=
  if items.isEmpty then [opening, closing]
  else opening :: indent (level + 1) ++ Text.join (',' :: indent (level + 1)) items
    ++ indent level ++ [closing]

mutual

def pretty (level : Nat) : Json → Text
  | bool true => "true".toList
  | bool false => "false".toList
  | text t => quoted t
  | list items => enclosed '[' ']' level (prettyItems (level + 1) items)
  | object fields => enclosed '\x7b' '\x7d' level (prettyFields (level + 1) fields)

def prettyItems (level : Nat) : List Json → List Text
  | [] => []
  | item :: items => pretty level item :: prettyItems level items

def prettyFields (level : Nat) : List (Text × Json) → List Text
  | [] => []
  | (name, value) :: fields =>
    (quoted name ++ ':' :: ' ' :: pretty level value) :: prettyFields level fields

end

def texts (ts : List Text) : Json :=
  list (ts.map text)

def record (fields : List (String × Json)) : Json :=
  object (fields.map fun (name, value) => (name.toList, value))

def ofResult (r : ResultSet) : Json :=
  record [("columns", texts r.columns), ("rows", list (r.rows.map texts))]

def ofProjection : Projection → Json
  | .all => text "all".toList
  | .fields names => record [("fields", texts names)]

def ofPredicate (p : Predicate) : Json :=
  record [("field", text p.field), ("operator", text p.operator.symbol),
    ("literal", text p.literal), ("negated", bool p.negated)]

def ofCall (c : AggregateCall) : Json :=
  record [("function", text c.function.name), ("field", text c.field)]

def ofKind (k : Kind) : Json :=
  text (k.name.toList.map fun c => if c = ' ' then '_' else c)

def ofPlan (p : Plan) : Json :=
  record [
    ("raw_text", text p.rawText),
    ("source_name", text p.source),
    ("base_query", text p.baseQuery),
    ("fields", ofProjection p.projection),
    ("restrictions", list (p.predicates.map ofPredicate)),
    ("logical_operators", texts (p.connectives.map (·.name))),
    ("aggregates", list (p.aggregates.map ofCall)),
    ("group_by_fields", texts p.groupBy),
    ("order_by_fields", texts p.orderBy),
    ("kind", ofKind p.kind)]

end Json
end FlatQuery
