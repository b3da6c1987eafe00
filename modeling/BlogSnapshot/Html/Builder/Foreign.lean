import BlogSnapshot.Html.Builder.Table

/-! The meaning of tokens inside drawings and formulas, whose elements are not of HTML.
-/

namespace BlogSnapshot.Html.Builder

/-- Start tags of HTML that leave a drawing or a formula. -/
def breakoutWords : List String :=
  [
    "b", "big", "blockquote", "body", "br", "center", "code", "dd", "div", "dl", "dt", "em",
    "embed", "h1", "h2", "h3", "h4", "h5", "h6", "head", "hr", "i", "img", "li", "listing",
    "menu", "meta", "nobr", "ol", "p", "pre", "ruby", "s", "small", "span", "strong",
    "strike", "sub", "sup", "table", "tt", "u", "ul", "var"
  ]

/-- Whether a start tag leaves a drawing or a formula. -/
def breaksOut (tag : Tag) : Bool :=
  breakoutWords.contains tag.word
    || (tag.word = "font" && tag.attributes.any fun a =>
      ["color", "face", "size"].contains a.1)

/-- An annotation of a formula holds HTML when it says so. -/
def holdsAnnotatedHtml (b : Builder) (id : Nat) : Bool :=
  match b.draft.nodes[id]? with
  | some { part := .element ⟨.math, "annotation-xml"⟩ attributes, .. } =>
      attributes.any fun (name, value) =>
        name = "encoding"
          && ["text/html", "application/xhtml+xml"].contains
            (String.ofList (value.toList.map asciiLower))
  | _ => false

/-- Whether a token is read by the rules of drawings and formulas. -/
def isForeign (b : Builder) (token : Token) : Bool :=
  match b.openElements with
  | [] | [_] => false
  | id :: _ =>
      match b.draft.name? id with
      | none => false
      | some name =>
          let isText := match token with
            | .text _ | .zero => true
            | _ => false
          let started := match token with
            | .start tag => some tag.word
            | _ => none
          if name.space = .html then false
          else if name.holdsMathText
              && (isText || started.any fun w => w ≠ "mglyph" && w ≠ "malignmark") then false
          else if (name.holdsDrawingText || b.holdsAnnotatedHtml id)
              && (isText || started.isSome) then false
          else if name = ⟨.math, "annotation-xml"⟩ && started = some "svg" then false
          else true

/-- Closes elements up to one of HTML or one that holds HTML. -/
def leaveForeign : Building Unit :=
  popWhile fun b id =>
    match b.draft.name? id with
    | some name => !(name.space = .html || name.holdsMathText || name.holdsDrawingText)
    | none => false

/-- Names of a drawing that are not written in small letters and that hold HTML. -/
def drawingWord (word : String) : String :=
  if word = "foreignobject" then "foreignObject" else word

/-- Opens an element with the vocabulary of the one around it. -/
def startForeign (tag : Tag) : Building Unit := do
  let b ← get
  let space := ((b.draft.name? b.current).map (·.space)).getD .html
  let name : ElementName := ⟨space, if space = .svg then drawingWord tag.word else tag.word⟩
  if tag.selfClosing then discard (addElement name tag.attributes)
  else discard (openElement name tag.attributes)

/-- Where the search for the element of an end tag ends: at the element, or at one of HTML. -/
inductive ForeignEnd where
  | closes (outer : List Nat)
  | leaves
  | missing
  deriving Repr

/-- Searches for the element that an end tag closes; `first` holds for the innermost element. -/
def findForeignEnd (b : Builder) (word : String) : Bool → List Nat → ForeignEnd
  | _, [] => .missing
  | _, [_] => .missing
  | first, id :: outer =>
      match b.draft.name? id with
      | some name =>
          if !first && name.space = .html then .leaves
          else if name.word.toList.map asciiLower = word.toList then .closes outer
          else findForeignEnd b word false outer
      | none => .missing

/-- A token of a drawing or formula; gives a token that is to be read in the current mode. -/
def inForeign (token : Token) : Building (Option Token) := do
  match token with
  | .zero =>
      addText [replacementChar]
      pure none
  | .text content =>
      addText content
      pure none
  | .comment content =>
      addComment content
      pure none
  | .doctype => pure none
  | .start tag =>
      if breaksOut tag then
        leaveForeign
        pure (some token)
      else
        startForeign tag
        pure none
  | .finish word =>
      if word = "br" || word = "p" then
        leaveForeign
        pure (some token)
      else
        let b ← get
        match findForeignEnd b word true b.openElements with
        | .closes outer =>
            set { b with openElements := outer }
            pure none
        | .leaves => pure (some token)
        | .missing => pure none

end BlogSnapshot.Html.Builder
