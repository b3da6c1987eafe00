import BlogSnapshot.Html.Reference.Codes
import BlogSnapshot.Markdown.Span
import BlogSnapshot.Markdown.Write

/-! Patterns for text that stands for itself: code, escaped characters, HTML, references to
characters, and addresses in angle brackets; and the break of a line.
-/

namespace BlogSnapshot.Markdown.Span

open Text

/-! ### Code and escapes -/

/-- The shortest text, of `least` characters at least, after which `stop` holds of the characters
before and after a place; and the text from that place on.
-/
def shortest? (stop : List Char → List Char → Bool)
    : Nat → List Char → List Char → Option (List Char × List Char)
  | least, before, [] => if least = 0 && stop before [] then some ([], []) else none
  | least, before, c :: rest =>
      if least = 0 && stop before (c :: rest) then some ([], c :: rest)
      else
        (shortest? stop (least - 1) (c :: before) rest).map fun (text, rest) => (c :: text, rest)

/-- Whether a text starts with another one. -/
def startsWith (s start : List Char) : Bool :=
  (afterLead? start s).isSome

/-- Finds code between marks that are at most so many in a row; more are tried before fewer. -/
def code? (s : List Char) : Nat → Option (Element × Nat)
  | 0 => none
  | n + 1 =>
      let marks := List.replicate (n + 1) '\x60'
      let stop (before after : List Char) : Bool :=
        startsWith after marks && before.head? ≠ some '\x60'
          && (after.drop (n + 1)).head? ≠ some '\x60'
      match shortest? stop 1 marks (s.drop (n + 1)) with
      | some (text, _) =>
          some (.ofRun "code" (.verbatim (escapedCode (trim text))), text.length + 2 * (n + 1))
      | none => code? s n

/-- Code, or pairs of backslashes before marks of code. -/
def codePattern : Pattern := fun before s => do
  let slashes := (s.takeWhile (· = '\\')).length
  let marks := (s.takeWhile (· = '\x60')).length
  if before.head? = some '\\' then pure .nothing
  else if 0 < slashes then
    if slashes % 2 = 0 && (s.drop slashes).head? = some '\x60' then
      let pairs := List.replicate (slashes / 2) (charMark '\\')
      pure (.found (.text pairs.flatten) slashes)
    else pure .nothing
  else match code? s marks with
    | some (e, n) => pure (.found (.element e) n)
    | none => pure .nothing

/-- The characters that a backslash makes plain. -/
def escapable : List Char :=
  "\\\x60*_\x7b\x7d[]()>#+-.!|~\"'".toList

/-- A backslash and the character after it. -/
def escapePattern : Pattern := fun _ s => do
  match s with
  | '\\' :: c :: _ =>
      if escapable.contains c then pure (.found (.text (charMark c)) 2) else pure (.passed 2)
  | _ => pure .nothing

/-! ### Plain text behind marks -/

/-- A text with the marks of pieces replaced by what `show` makes of the pieces; `skip` characters
belong to the last mark.
-/
def withPieces (pieces : Array Piece) (text : Piece → List Char) : Nat → List Char → List Char
  | _, [] => []
  | skip + 1, _ :: rest => withPieces pieces text skip rest
  | 0, c :: rest =>
      match pieceMark? pieces (c :: rest) with
      | some (piece, after) =>
          text piece ++ withPieces pieces text (rest.length - after.length) rest
      | none => c :: withPieces pieces text 0 rest

/-- The text that a piece shows. -/
def Piece.shown : Piece → List Char
  | .text chars => chars
  | .element e => e.text

/-- The source of a piece that is text, and the HTML of one that is an element. -/
def Piece.source : Piece → List Char
  | .text chars => '\\' :: chars
  | .element e => e.write

/-- A text with pieces replaced by the text that they show. -/
def shownText (s : List Char) : Spanning (List Char) := do
  pure (withPieces (← get).pieces Piece.shown 0 s)

/-! ### HTML -/

/-- The length of a tag at the start of a text. -/
def tagLength? (s : List Char) : Option Nat := do
  let inner ← afterLead? ['<'] s
  let name := (afterLead? ['/'] inner).getD inner
  let isPart (c : Char) : Bool := c ≠ '<' && c ≠ '>'
  let word := name.takeWhile fun c => isPart c && c ≠ '@' && c ≠ ' '
  let rest := name.drop word.length
  let rest := if rest.head? = some ' ' then rest.dropWhile isPart else rest
  if word.head?.any (·.isAlpha) && rest.head? = some '>' then
    some (s.length - rest.length + 1)
  else none

/-- The length of a comment at the start of a text. No other comment starts in it. -/
def commentLength? (s : List Char) : Option Nat := do
  let inner ← afterLead? "<!--".toList s
  let stop (_ after : List Char) : Bool :=
    startsWith after "<!--".toList || startsWith after "-->".toList
  let (text, rest) ← shortest? stop 0 [] inner
  if startsWith rest "-->".toList then some (text.length + 7) else none

/-- The length of a reference to a character at the start of a text. -/
def referenceLength? (s : List Char) : Option Nat := do
  let inner ← afterLead? ['&'] s
  let isHex (c : Char) : Bool := c.isDigit || ('a' ≤ c && c ≤ 'f') || ('A' ≤ c && c ≤ 'F')
  let (lead, word) := match inner with
    | '#' :: 'x' :: rest => (3, rest.takeWhile isHex)
    | '#' :: rest => (2, rest.takeWhile Char.isDigit)
    | rest => (1, rest.takeWhile Char.isAlphanum)
  let closed := (s.drop (lead + word.length)).head? = some ';'
  if !word.isEmpty && closed then some (lead + word.length + 1) else none

/-- Holds a text back as it was written. -/
def holdSource (s : List Char) (n : Nat) : Spanning Finding := do
  let source := withPieces (← get).pieces Piece.source 0 (s.take n)
  pure (.found (.text (← holdHtml (withChars 0 source))) n)

/-- A tag or a comment. -/
def htmlPattern : Pattern := fun _ s => do
  match (tagLength? s).orElse fun _ => commentLength? s with
  | some n => holdSource s n
  | none => pure .nothing

/-- A reference to a character. -/
def referencePattern : Pattern := fun _ s => do
  match referenceLength? s with
  | some n => holdSource s n
  | none => pure .nothing

/-! ### Addresses -/

/-- The text between angle brackets at the start of a text, if it has none itself. -/
def bracketed? (s : List Char) : Option (List Char) := do
  let inner ← afterLead? ['<'] s
  let text := inner.takeWhile fun c => c ≠ '<' && c ≠ '>'
  let _ ← afterLead? ['>'] (inner.drop text.length)
  pure text

/-- Whether a text is an address of the web. -/
def isWebAddress (s : List Char) : Bool :=
  let (scheme, rest) := cutAt (· = ':') s
  ["http", "https", "ftp", "ftps"].contains (String.ofList (scheme.map Char.toLower))
    && rest.any (startsWith · "//".toList)

/-- An address of the web. -/
def webPattern : Pattern := fun _ s => do
  match bracketed? s with
  | some text =>
      if isWebAddress text then
        let e := (Element.ofRun "a" (.verbatim text)).set "href" (← shownText text)
        pure (.found (.element e) (text.length + 2))
      else pure .nothing
  | none => pure .nothing

/-- Whether a text is an address of mail. -/
def isMailAddress (s : List Char) : Bool :=
  let host := afterLast (· = '@') s
  let user := s.take (s.length - host.length - 1)
  host.length < s.length && !host.isEmpty && !user.isEmpty && !s.contains ' '
    && !user.contains '!'

/-- A reference by number to a character. -/
def numberReference (c : Char) : List Char :=
  ampersandMark ++ '#' :: (toString c.toNat).toList ++ [';']

/-- A reference to a character by its name, or by its number if it has none. -/
def namedReference (c : Char) : List Char :=
  match Html.codeName? c with
  | some name => ampersandMark ++ name.toList ++ [';']
  | none => numberReference c

/-- An address of mail, hidden in references. -/
def mailPattern : Pattern := fun _ s => do
  match bracketed? s with
  | some text =>
      if isMailAddress text then
        let shown ← shownText text
        let scheme := "mailto:".toList
        let address := (afterLead? scheme shown).getD shown
        let e := Element.ofRun "a" (.verbatim (address.flatMap namedReference))
        let e := e.set "href" ((scheme ++ address).flatMap numberReference)
        pure (.found (.element e) (text.length + 2))
      else pure .nothing
  | none => pure .nothing

/-! ### The break of a line -/

/-- Two spaces at the end of a line. -/
def breakPattern : Pattern := fun _ s => do
  if startsWith s [' ', ' ', '\n'] then pure (.found (.element (.bare "br")) 3)
  else pure .nothing

end BlogSnapshot.Markdown.Span
