import BlogSnapshot.Html.Reference
import BlogSnapshot.Html.Token
import BlogSnapshot.Text.Split

/-! Reading the tokens of a page. A reader takes the page from some point on and gives the next
token, if the characters that it takes make one, and the rest of the page.
-/

namespace BlogSnapshot.Html

open Text

/-- Line ends of every kind become line feeds, and a mark of the byte order at the head of the
page is dropped.
-/
def normalized (page : List Char) : List Char :=
  joinLines (if page.head? = some '\uFEFF' then page.drop 1 else page)
where
  joinLines : List Char → List Char
    | '\r' :: '\n' :: rest => '\n' :: joinLines rest
    | '\r' :: rest => '\n' :: joinLines rest
    | c :: rest => c :: joinLines rest
    | [] => []

/-- The character that replaces the one of number zero inside names and values. -/
def withoutZero (s : List Char) : List Char :=
  s.map fun c => if c = '\x00' then replacementChar else c

/-- A name in small letters. -/
def nameOf (s : List Char) : String :=
  String.ofList (withoutZero (s.map asciiLower))

/-- An attribute added after the ones of a tag, unless its name is taken. -/
def addAttribute (attributes : List Attribute) (name : String) (value : List Char)
    : List Attribute :=
  if attributes.any (·.1 = name) then attributes
  else
    attributes ++ [(name, String.ofList (resolveReferences true (withoutZero value)))]

/-- Reads what follows the equals sign of an attribute: the value and the rest. Nothing is read
if the page ends inside quotes.
-/
def readValue? (s : List Char) : Option (List Char × List Char) :=
  match s.dropWhile isSpaceChar with
  | '"' :: rest => closed (cutAt (· = '"') rest)
  | '\'' :: rest => closed (cutAt (· = '\'') rest)
  | rest =>
      let ends (c : Char) : Bool := isSpaceChar c || c = '>'
      some (rest.takeWhile (!ends ·), rest.dropWhile (!ends ·))
where
  closed : List Char × Option (List Char) → Option (List Char × List Char)
    | (value, some rest) => some (value, rest)
    | (_, none) => none

/-- Reads the attributes of a tag and its end: the attributes, whether a slash stands before the
end, and the rest. Nothing is read if the page ends inside the tag. Each round takes a character.
-/
def readAttributesFrom
    : Nat → List Attribute → List Char → Option (List Attribute × Bool × List Char)
  | 0, _, _ => none
  | fuel + 1, attributes, s =>
      match s.dropWhile isSpaceChar with
      | [] => none
      | '>' :: rest => some (attributes, false, rest)
      | '/' :: '>' :: rest => some (attributes, true, rest)
      | '/' :: rest => readAttributesFrom fuel attributes rest
      | c :: rest =>
          let ends (d : Char) : Bool := isSpaceChar d || d = '/' || d = '>' || d = '='
          let name := nameOf (c :: rest.takeWhile (!ends ·))
          match (rest.dropWhile (!ends ·)).dropWhile isSpaceChar with
          | '=' :: rest => do
              let (value, rest) ← readValue? rest
              readAttributesFrom fuel (addAttribute attributes name value) rest
          | rest => readAttributesFrom fuel (addAttribute attributes name []) rest

/-- Reads a tag from its name on. -/
def readTag? (s : List Char) : Option (Tag × List Char) :=
  let ends (c : Char) : Bool := isSpaceChar c || c = '/' || c = '>'
  let rest := s.dropWhile (!ends ·)
  (readAttributesFrom (s.length + 1) [] rest).map fun (attributes, selfClosing, rest) =>
    ({ word := nameOf (s.takeWhile (!ends ·)), attributes, selfClosing }, rest)

/-- Whether the page goes on with a word, in letters of either case, that ends there. -/
def startsWithWord (word : String) (s : List Char) : Bool :=
  let head := s.take word.length
  let next := (s.drop word.length).head?
  String.ofList (head.map asciiLower) = word
    && next.any fun c => isSpaceChar c || c = '/' || c = '>'

/-- Whether the page goes on with the end tag of a word. -/
def startsWithEndTag (word : String) : List Char → Bool
  | '<' :: '/' :: rest => startsWithWord word rest
  | _ => false

/-- The text up to the end tag of a word, and the rest of the page from there on. -/
def cutAtEndTag (word : String) : List Char → List Char × List Char
  | [] => ([], [])
  | c :: rest =>
      if startsWithEndTag word (c :: rest) then ([], c :: rest)
      else
        let (content, rest) := cutAtEndTag word rest
        (c :: content, rest)

/-- How deep a script hides what looks like its end tag: not at all, inside a comment, or inside
a script inside a comment.
-/
inductive Hiding where
  | none
  | comment
  | script
  deriving DecidableEq, Repr

/-- Cuts a script at its end tag. `dashes` counts the hyphens just before, up to two. -/
def cutScript (word : String) : Hiding → Nat → List Char → List Char × List Char
  | _, _, [] => ([], [])
  | depth, dashes, c :: rest =>
      let here := c :: rest
      let opens := (afterLead? "<!--".toList here).isSome
      let nested := c = '<' && startsWithWord "script" rest
      let ended := startsWithEndTag word here
      if ended && depth ≠ .script then ([], here)
      else
        let depth := match depth with
          | .none => if opens then Hiding.comment else .none
          | .comment =>
              if c = '>' && dashes = 2 then .none else if nested then .script else .comment
          | .script =>
              if c = '>' && dashes = 2 then .none else if ended then .comment else .script
        let dashes := if c = '-' then min 2 (dashes + 1) else 0
        let (content, rest) := cutScript word depth dashes rest
        (c :: content, rest)

/-- Whether markup starts after a `<`. -/
def startsMarkup : List Char → Bool
  | '/' :: rest => !rest.isEmpty
  | c :: _ => c.isAlpha || c = '!' || c = '?'
  | [] => false

/-- The text up to the next markup or character of number zero, with its references replaced,
and the rest; `skip` characters belong to the last reference.
-/
def cutTextFrom : Nat → List Char → List Char × List Char
  | _, [] => ([], [])
  | skip + 1, _ :: rest => cutTextFrom skip rest
  | 0, c :: rest =>
      if c = '\x00' || (c = '<' && startsMarkup rest) then ([], c :: rest)
      else
        let (chars, skip) := match if c = '&' then reference? false rest else none with
          | some found => found
          | none => ([c], 0)
        let (content, rest) := cutTextFrom skip rest
        (chars ++ content, rest)

/-- The content of a comment and the rest. Two hyphens and a `>` end it, also with an exclamation
mark between them; a `>` ends it at once when at most one hyphen stands before it at the very
start.
-/
def cutComment (s : List Char) : List Char × List Char :=
  match s with
  | '>' :: rest => ([], rest)
  | '-' :: '>' :: rest => ([], rest)
  | _ => body s
where
  body : List Char → List Char × List Char
    | '-' :: '-' :: '>' :: rest => ([], rest)
    | '-' :: '-' :: '!' :: '>' :: rest => ([], rest)
    | c :: rest =>
        let (content, rest) := body rest
        (c :: content, rest)
    | [] => ([], [])

/-- Text up to the first `>`, which is dropped, and the rest. -/
def cutAtBracket (s : List Char) : List Char × List Char :=
  let (content, rest) := cutAt (· = '>') s
  (content, rest.getD [])

/-- Whether the page goes on with a word in letters of either case. -/
def startsWithIgnoringCase (word : String) (s : List Char) : Bool :=
  (s.take word.length).map asciiLower = word.toList

/-- Reads the markup after `<!`. Text between double brackets stands only where `bracketed`. -/
def readDeclaration (bracketed : Bool) (s : List Char) : Token × List Char :=
  match afterLead? "--".toList s with
  | some rest =>
      let (content, rest) := cutComment rest
      (.comment content, rest)
  | none =>
      if startsWithIgnoringCase "doctype" s then (.doctype, (cutAtBracket s).2)
      else
        match if bracketed then afterLead? "[CDATA[".toList s else none with
        | some rest =>
            match cutAtText? "]]>".toList rest with
            | some (content, rest) => (.text content, rest)
            | none => (.text rest, [])
        | none =>
            let (content, rest) := cutAtBracket s
            (.comment content, rest)

/-- Reads an end tag from its name on; its attributes count for nothing. -/
def readEndTag (s : List Char) : Option Token × List Char :=
  match readTag? s with
  | some (tag, rest) => (some (.finish tag.word), rest)
  | none => (none, [])

/-- Reads the markup after a `<`, which `startsMarkup`. -/
def readMarkup (bracketed : Bool) : List Char → Option Token × List Char
  | '/' :: '>' :: rest => (none, rest)
  | '/' :: rest =>
      if rest.head?.any Char.isAlpha then readEndTag rest
      else
        let (content, rest) := cutAtBracket rest
        (some (.comment content), rest)
  | '!' :: rest =>
      let (token, rest) := readDeclaration bracketed rest
      (some token, rest)
  | '?' :: rest =>
      let (content, rest) := cutAtBracket ('?' :: rest)
      (some (.comment content), rest)
  | s =>
      match readTag? s with
      | some (tag, rest) => (some (.start tag), rest)
      | none => (none, [])

/-- A text token, if there is text; otherwise the end tag that stands there. -/
def textOrEndTag (content rest : List Char) : Option Token × List Char :=
  if content.isEmpty then readEndTag (rest.drop 2) else (some (.text content), rest)

/-- Reads the next token. -/
def readToken (reading : Reading) (bracketed : Bool) (page : List Char)
    : Option Token × List Char :=
  match reading with
  | .plain => (some (.text (withoutZero page)), [])
  | .raw word =>
      let (content, rest) := cutAtEndTag word page
      textOrEndTag (withoutZero content) rest
  | .replaceable word =>
      let (content, rest) := cutAtEndTag word page
      textOrEndTag (resolveReferences false (withoutZero content)) rest
  | .script word =>
      let (content, rest) := cutScript word .none 0 page
      textOrEndTag (withoutZero content) rest
  | .markup =>
      match page with
      | [] => (none, [])
      | c :: rest =>
          if c = '\x00' then (some .zero, rest)
          else if c = '<' && startsMarkup rest then readMarkup bracketed rest
          else
            let (content, rest) := cutTextFrom 0 page
            (some (.text content), rest)

end BlogSnapshot.Html
