import FlatQuery.Query.Kind

namespace FlatQuery

inductive Mode
  | simpleOnly
  | extended
  deriving DecidableEq, Repr

def Mode.allows : Mode → Kind → Bool
  | simpleOnly, kind => kind == .simple
  | extended, _ => true

structure Settings where
  extensions : List Text := ["csv".toList]
  mode : Mode := .extended
  deriving DecidableEq, Repr

-- A name needs a stem and one of the extensions, in any case of ASCII letters.
def Settings.isSourceName (s : Settings) (word : Text) : Bool :=
  match word.cutAtLast '.' with
  | none => false
  | some (stem, ext) => !stem.isEmpty && s.extensions.any (·.eqIgnoringCase ext)

end FlatQuery
