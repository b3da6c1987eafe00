import BlogSnapshot.Yaml.Node.Read
import BlogSnapshot.Yaml.Value.OfDocument

/-! The value of a YAML text. Nodes may be nested to any depth: the limit that an implementation
sets to its recursion is none of the language, and only a descent without end is a fault.
-/

namespace BlogSnapshot.Yaml

/-- The value of the only document of a text; a text without document is the absent value. -/
def load (text : List Char) : Except Failure Value := do
  match ← Node.ofText text with
  | none => pure .null
  | some d => Value.ofDocument text.length d

end BlogSnapshot.Yaml
