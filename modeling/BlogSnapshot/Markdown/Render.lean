import BlogSnapshot.Markdown.AttributeList.Assign
import BlogSnapshot.Markdown.Block
import BlogSnapshot.Markdown.Fence
import BlogSnapshot.Markdown.Layout
import BlogSnapshot.Markdown.Punctuation
import BlogSnapshot.Markdown.RawBlock
import BlogSnapshot.Markdown.Source
import BlogSnapshot.Markdown.Span.Emphasis
import BlogSnapshot.Markdown.Span.Link
import BlogSnapshot.Markdown.Task

/-! Rendering a text with markup as HTML. Nothing in the text is taken for unsafe.
-/

namespace BlogSnapshot.Markdown

open Text

/-- The patterns for markup in a line, in the order of their search. -/
def spanPatterns : List Pattern :=
  [
    Span.codePattern, Span.escapePattern, Span.linkReferencePattern false, Span.linkPattern,
    Span.imagePattern, Span.imageReferencePattern false, Span.linkReferencePattern true,
    Span.imageReferencePattern true, Span.webPattern, Span.mailPattern, Span.breakPattern,
    Span.htmlPattern, Span.referencePattern, Span.looseMarksPattern,
    Span.emphasisPattern Span.readTildes?, Span.emphasisPattern Span.readStars?,
    Span.emphasisPattern Span.readLowLines?
  ]

/-- The tree with the markup in its lines read, and then printed punctuation in all text that is
left.
-/
def searchLines (fuel : Nat) (references : References) (root : Element)
    : StateM Held Element := do
  let start (held : Held) : SpanState := ⟨references, held, #[]⟩
  let (root, found) := (Span.searchTree spanPatterns fuel root).run (start (← get))
  let root := (root.laidOut true).withBlockLists.withInlineLists
  let (root, found) := (Span.searchTree Punctuation.patterns fuel root).run (start found.held)
  set found.held
  pure root

/-- The HTML of a text before what is held is put back. -/
def renderHeld (text : List Char) : StateT Held (Except RenderFault) (List Char) := do
  let source := sourceText text
  let source ← Fence.hold true source.length source
  let lift {α : Type} (step : StateM Held α) : StateT Held (Except RenderFault) α :=
    fun held => pure (step.run held)
  let source ← lift (holdBlocks source)
  let (root, references) := Block.read source
  let (root, _) ← lift (Task.holdBoxes root)
  let root ← lift (searchLines (4 * source.length + 16) references root)
  let root := root.withChars
  pure (escaped false root.lead.chars ++ writeChildren root.children)

/-- The HTML of a text. -/
def renderChars (text : List Char) : Except RenderFault (List Char) :=
  if allBlank text then pure []
  else do
    let (html, held) ← (renderHeld text).run #[]
    pure (trim (withAmpersands 0 (released held (held.size + 1) (trim html))))

/-- The HTML of a text. -/
def render (text : String) : Except RenderFault String :=
  (renderChars text.toList).map String.ofList

end BlogSnapshot.Markdown
