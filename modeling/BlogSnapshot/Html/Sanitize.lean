import BlogSnapshot.Html.Clean
import BlogSnapshot.Html.Fragment

/-! Sanitizing a text: it is read as a page, cleaned, and written again.
-/

namespace BlogSnapshot.Html

/-- The text with nothing in it but what the allow list names. -/
def sanitize (html : String) : String :=
  renderForest (cleanForest (parseFragment html))

end BlogSnapshot.Html
