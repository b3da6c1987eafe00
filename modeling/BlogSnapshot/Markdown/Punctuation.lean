import BlogSnapshot.Markdown.Span.Literal
import BlogSnapshot.Text.DecimalDigit
import BlogSnapshot.Text.WordChar

/-! Patterns for punctuation as it is printed: curved quotes, dashes and an ellipsis in the place
of straight quotes, hyphens and points. All are held back as references by name.
-/

namespace BlogSnapshot.Markdown.Punctuation

open Markdown.Span Text

/-- A printed mark that takes the place of `count` characters. -/
def printed (names : List String) (count : Nat) : Spanning Finding := do
  let html := names.flatMap fun name => '&' :: name.toList ++ [';']
  pure (.found (.text (← holdHtml html)) count)

/-- A printed mark in the place of some characters, if they are at the start of a text and a
condition holds of the characters before and after them.
-/
def replacing (marks : String) (names : List String) (holds : List Char → List Char → Bool)
    : Pattern := fun before s => do
  match afterLead? marks.toList s with
  | some after =>
      if holds before after then printed names marks.length else pure .nothing
  | none => pure .nothing

/-! ### Dashes and the ellipsis -/

/-- A row of so many of the same marks, not more. -/
def exactRow (c : Char) (n : Nat) (name : String) : Pattern :=
  replacing (String.ofList (List.replicate n c)) [name] fun before after =>
    before.head? ≠ some c && after.head? ≠ some c

/-! ### Quotes -/

/-- Marks of punctuation in ASCII, the ampersand apart. -/
def isMark (c : Char) : Bool :=
  0x20 < c.toNat && c.toNat < 0x7f && !c.isAlphanum && c ≠ '&'

/-- Whether a quote after a character ends something. -/
def isEnding (c : Option Char) : Bool :=
  c.any fun c =>
    !(" \t\r\n[\x7b(-".toList.contains c) && c ≠ markStart && c ≠ markEnd

/-- Whether a text starts with a character of a word. -/
def startsWord (s : List Char) : Bool :=
  s.head?.any isWordChar

/-- Whether a text starts with a mark that is followed by no break of a word. -/
def startsMark (s : List Char) : Bool :=
  s.head?.any isMark && !isWordBreak s.head? (s.drop 1).head?

/-- Whether a text starts with an `s` that ends a word. -/
def startsPlural (s : List Char) : Bool :=
  s.head? = some 's' && !startsWord (s.drop 1)

/-- What opens a quote when it stands before it: a blank, a space that does not break, or a dash.
-/
def opening? (s : List Char) : Option (List Char) :=
  let texts := ["&nbsp;", "--", "–", "—", "&mdash;", "&ndash;", "&#8211;", "&#8212;"]
  match s with
  | c :: _ => if isBlank c then some [c] else texts.findSome? fun t => after? t.toList
  | [] => none
where
  after? (t : List Char) : Option (List Char) :=
    if startsWith s t then some t else none

/-- A quote before a word and after what opens a quote, which is kept. -/
def afterOpening (quote : Char) (name : String) : Pattern := fun _ s => do
  match opening? s with
  | some lead =>
      let rest := s.drop lead.length
      if rest.head? = some quote && startsWord (rest.drop 1) then
        let html := '&' :: name.toList ++ [';']
        pure (.found (.text (lead ++ (← holdHtml html))) (lead.length + 1))
      else pure .nothing
  | none => pure .nothing

/-- A single quote before a blank or a final `s`, which is kept. -/
def beforeBreak : Pattern := fun _ s => do
  match s with
  | '\'' :: c :: rest =>
      if isBlank c || startsPlural (c :: rest) then
        pure (.found (.text ((← holdHtml "&rsquo;".toList) ++ [c])) 2)
      else pure .nothing
  | _ => pure .nothing

/-- The patterns for quotes, from the most to the least particular. -/
def quotePatterns : List Pattern :=
  let atStart (before after : List Char) : Bool := before.isEmpty && startsMark after
  let beforeWord (_ after : List Char) : Bool := startsWord after
  let closing (before _ : List Char) : Bool := isEnding before.head?
  let decade (before after : List Char) : Bool :=
    !startsWord before && (after.take 2).length = 2 && (after.take 2).all isDecimalDigit
      && (after.drop 2).head? = some 's'
  let withinWord (before after : List Char) : Bool :=
    isEnding before.head? && !after.head?.any isBlank && !startsPlural after
      && !after.head?.any isDecimalDigit
  let always (_ _ : List Char) : Bool := true
  [
    replacing "'" ["rsquo"] atStart,
    replacing "\"" ["rdquo"] atStart,
    replacing "\"'" ["ldquo", "lsquo"] beforeWord,
    replacing "'\"" ["lsquo", "ldquo"] beforeWord,
    replacing "'\"" ["rsquo", "rdquo"] closing,
    replacing "\"'" ["rdquo", "rsquo"] closing,
    replacing "'" ["rsquo"] decade,
    afterOpening '\'' "lsquo",
    replacing "'" ["rsquo"] withinWord,
    beforeBreak,
    replacing "'" ["lsquo"] always,
    afterOpening '"' "ldquo",
    replacing "\"" ["rdquo"] fun _ after => after.head?.any isBlank,
    replacing "\"" ["rdquo"] closing,
    replacing "\"" ["ldquo"] always
  ]

/-- The patterns for all punctuation. -/
def patterns : List Pattern :=
  [exactRow '-' 3 "mdash", exactRow '-' 2 "ndash"] ++ quotePatterns
    ++ [exactRow '.' 3 "hellip"]

end BlogSnapshot.Markdown.Punctuation
