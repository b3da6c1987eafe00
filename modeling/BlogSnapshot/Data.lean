/-! Plain data: the form in which records are handed to templates and interfaces.
-/

namespace BlogSnapshot

/-- Plain data; the fields of a record have an order that does not matter. -/
inductive Data
  | null
  | bool (b : Bool)
  | int (n : Int)
  | text (s : String)
  | list (items : List Data)
  | record (fields : List (String × Data))
  deriving Repr, Inhabited

namespace Data

/-- A text that may be absent. -/
def ofText? (s : Option String) : Data :=
  s.elim null text

/-- A number that may be absent. -/
def ofInt? (n : Option Int) : Data :=
  n.elim null int

end Data

end BlogSnapshot
