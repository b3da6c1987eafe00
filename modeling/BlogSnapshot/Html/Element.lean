/-! Names of elements, and the groups of names that the reading of a page tells apart.
-/

namespace BlogSnapshot.Html

/-- The vocabulary that an element belongs to. -/
inductive Space where
  | html
  | svg
  | math
  deriving DecidableEq, Repr

/-- An element is named by a word within a vocabulary. -/
structure ElementName where
  space : Space
  word : String
  deriving DecidableEq, Repr

/-- An attribute: its name and its value. -/
abbrev Attribute := String × String

namespace ElementName

/-- A name of the HTML vocabulary. -/
def html (word : String) : ElementName :=
  ⟨.html, word⟩

/-- Whether the name is one of these words of HTML. -/
def isIn (n : ElementName) (words : List String) : Bool :=
  n.space = .html && words.contains n.word

/-- Whether the name is this word of HTML. -/
def is (n : ElementName) (word : String) : Bool :=
  n.space = .html && n.word = word

end ElementName

/-- Elements that are written without an end tag and never have children. -/
def voidWords : List String :=
  [
    "area", "base", "basefont", "bgsound", "br", "col", "embed", "frame", "hr", "img", "input",
    "keygen", "link", "meta", "param", "source", "track", "wbr"
  ]

/-- Elements that an end tag of an ordinary name does not reach across. -/
def specialWords : List String :=
  [
    "address", "applet", "area", "article", "aside", "base", "basefont", "bgsound",
    "blockquote", "body", "br", "button", "caption", "center", "col", "colgroup", "dd",
    "details", "dir", "div", "dl", "dt", "embed", "fieldset", "figcaption", "figure",
    "footer", "form", "frame", "frameset", "h1", "h2", "h3", "h4", "h5", "h6", "head",
    "header", "hgroup", "hr", "html", "iframe", "img", "input", "isindex", "li", "link",
    "listing", "main", "marquee", "menu", "meta", "nav", "noembed", "noframes", "noscript",
    "object", "ol", "p", "param", "plaintext", "pre", "script", "section", "select", "source",
    "style", "summary", "table", "tbody", "td", "template", "textarea", "tfoot", "th",
    "thead", "title", "tr", "track", "ul", "wbr", "xmp"
  ]

/-- Headings of the six ranks. -/
def headingWords : List String :=
  ["h1", "h2", "h3", "h4", "h5", "h6"]

/-- Elements whose end tag may be left out at the end of their parent. -/
def impliedEndWords : List String :=
  ["dd", "dt", "li", "option", "optgroup", "p", "rb", "rp", "rt", "rtc"]

/-- Elements of a table whose end tag may be left out as well at the end of a template. -/
def tableImpliedEndWords : List String :=
  ["caption", "colgroup", "tbody", "td", "tfoot", "th", "thead", "tr"]

/-- Text in these elements of mathematics is HTML again. -/
def ElementName.holdsMathText (n : ElementName) : Bool :=
  n.space = .math && ["mi", "mo", "mn", "ms", "mtext"].contains n.word

/-- These elements of a drawing hold HTML. -/
def ElementName.holdsDrawingText (n : ElementName) : Bool :=
  n.space = .svg && ["foreignObject", "desc", "title"].contains n.word

/-- Elements that end the search for an open element. -/
def ElementName.endsScope (n : ElementName) : Bool :=
  n.isIn ["applet", "caption", "html", "table", "td", "th", "marquee", "object", "template"]
    || n.holdsMathText || n.holdsDrawingText

/-- The small letter of an ASCII capital. -/
def asciiLower (c : Char) : Char :=
  if c.isUpper then Char.ofNat (c.toNat + 32) else c

/-- White space of HTML. -/
def isSpaceChar (c : Char) : Bool :=
  c = ' ' || c = '\t' || c = '\n' || c = '\x0c' || c = '\r'

/-- The character that stands for one that cannot be shown. -/
def replacementChar : Char := '\uFFFD'

end BlogSnapshot.Html
