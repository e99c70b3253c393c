import RecordQuery.Yaml.Scan
import RecordQuery.Yaml.Tree

/-!
# YAML

A text holds one document of YAML, or nothing at all, which is a null.
-/

namespace RecordQuery.Yaml

/-- The value of the one document that a text holds. -/
def read (text : List Char) : Option Value := do
  match ← tokens text with
  | [] => return .null
  | tokens => (← readDocument tokens).value

end RecordQuery.Yaml
