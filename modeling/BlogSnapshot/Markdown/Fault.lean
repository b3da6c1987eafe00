/-! What can keep a text with markup from being rendered.
-/

namespace BlogSnapshot.Markdown

/-- A setting of a block of code that says yes, no or neither has no text in HTML. -/
inductive RenderFault
  | flag (value : Option Bool)
  deriving DecidableEq, Repr

/-- The wording of a fault. -/
def RenderFault.message : RenderFault → String
  | flag none => "cannot serialize None (type NoneType)"
  | flag (some true) => "cannot serialize True (type bool)"
  | flag (some false) => "cannot serialize False (type bool)"

end BlogSnapshot.Markdown
