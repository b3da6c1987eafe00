import BlogSnapshot.Calendar.Millis
import BlogSnapshot.Html.Sanitize
import BlogSnapshot.Markdown.Render
import BlogSnapshot.Post
import BlogSnapshot.Settings

/-! The content of a post: its body as sanitized HTML in a single block.
-/

namespace BlogSnapshot

/-- The sanitized HTML of a Markdown text. -/
def renderSanitized (text : String) : Except Markdown.RenderFault String := do
  pure (Html.sanitize (← Markdown.render text))

/-- The content of a body, stamped with the time of publication. -/
def PostContent.ofBody (settings : Settings) (body : String) (publishedAt : Moment)
    : Except Markdown.RenderFault PostContent := do
  let html ← renderSanitized body
  pure {
    time := publishedAt.millis
    blocks := [{ html, id := settings.contentBlockId }]
    version := settings.contentVersion
  }

end BlogSnapshot
