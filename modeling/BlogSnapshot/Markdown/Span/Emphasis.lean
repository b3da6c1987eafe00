import BlogSnapshot.Markdown.Span.Literal
import BlogSnapshot.Text.WordChar

/-! Patterns for emphasis between stars or low lines, and for deletions between tildes.
-/

namespace BlogSnapshot.Markdown.Span

open Text

/-- The ways in which marks give emphasis to text. -/
inductive Emphasis where
  /-- An element with a text. -/
  | single (tag : String) (text : List Char)
  /-- An element that starts with another one. -/
  | starting (outer inner : String) (text after : List Char)
  /-- An element that ends with another one. -/
  | ending (outer inner : String) (before text : List Char)
  deriving DecidableEq, Repr

/-- Reads emphasis at a place, with the characters before it, and gives the text after it. -/
abbrev EmphasisReader := List Char → List Char → Option (Emphasis × List Char)

/-! ### Stars -/

/-- The shortest text, of `least` characters at least, before some marks; and the text after the
marks.
-/
def before? (marks : List Char) (least : Nat) (s : List Char)
    : Option (List Char × List Char) := do
  let (text, rest) ← shortest? (fun _ after => startsWith after marks) least [] s
  pure (text, rest.drop marks.length)

/-- Three marks, of which one or two end before the others. -/
def readTriple? (c : Char) (first : Nat) (outer inner : String) (s : List Char)
    : Option (Emphasis × List Char) := do
  let s ← afterLead? [c, c, c] s
  let (text, s) ← before? (List.replicate first c) 1 s
  let (after, s) ← before? (List.replicate (3 - first) c) 0 s
  pure (.starting outer inner text after, s)

/-- Two stars, then a single one, and three at the end. -/
def readStrongEnding? (s : List Char) : Option (Emphasis × List Char) := do
  let s ← afterLead? ['*', '*'] s
  let text := s.takeWhile (· ≠ '*')
  let s ← afterLead? ['*'] (s.drop text.length)
  let (last, after) ← before? ['*', '*', '*'] 1 s
  if text.isEmpty || s.head? = some '*' then none
  else some (.ending "strong" "em" text last, after)

/-- Two stars on each side. -/
def readStrong? (s : List Char) : Option (Emphasis × List Char) := do
  let (text, rest) ← before? ['*', '*'] 1 (← afterLead? ['*', '*'] s)
  pure (.single "strong" text, rest)

/-- The text up to a single star, with pairs of stars around parts of it, in at most `fuel` parts.
A row of three stars or more begins with the single one.
-/
def emphasized? : Nat → List Char → Option (List Char × List Char)
  | 0, _ => none
  | fuel + 1, s =>
      let text := s.takeWhile (· ≠ '*')
      let rest := s.drop text.length
      match (rest.takeWhile (· = '*')).length with
      | 0 => none
      | 2 => do
          let (inner, after) ← before? ['*', '*'] 1 (rest.drop 2)
          if inner.contains '*' then none
          else
            let (more, after) ← emphasized? fuel after
            some (text ++ "**".toList ++ inner ++ "**".toList ++ more, after)
      | _ => some (text, rest.drop 1)

/-- A star on each side. -/
def readEmphasis? (s : List Char) : Option (Emphasis × List Char) := do
  let s ← afterLead? ['*'] s
  let (text, rest) ← emphasized? s.length s
  if s.head? = some '*' then none else some (.single "em" text, rest)

/-- Two stars within what a single star begins, with a single one at the end: the character after
that one is taken for the second star.
-/
def readUneven? (before s : List Char) : Option (Emphasis × List Char) := do
  let s ← afterLead? ['*', '*'] s
  let text := s.takeWhile (· ≠ '*')
  let inner := before.takeWhile (· ≠ '*')
  let marks := (before.drop inner.length).takeWhile (· = '*')
  match s.drop text.length with
  | '*' :: _ :: rest =>
      if inner.isEmpty || text.isEmpty || marks.length ≠ 1 then none
      else some (.single "strong" text, rest)
  | _ => none

/-- Emphasis between stars. -/
def readStars? : EmphasisReader := fun before s =>
  (readTriple? '*' 1 "strong" "em" s).orElse fun _ =>
    (readTriple? '*' 2 "em" "strong" s).orElse fun _ =>
      (readStrongEnding? s).orElse fun _ =>
        (readStrong? s).orElse fun _ =>
          (readEmphasis? s).orElse fun _ => readUneven? before s

/-! ### Low lines -/

/-- Whether a place is not within a word, by the next character on one side. -/
def isOutside (c : Option Char) : Bool :=
  !c.any isWordChar

/-- Text between so many low lines on each side, outside of words. -/
def readLines? (n : Nat) (tag : String) : EmphasisReader := fun before s => do
  let marks := List.replicate n '_'
  let inner ← afterLead? marks s
  let stop (before after : List Char) : Bool :=
    startsWith after marks && before.head? ≠ some '_' && isOutside (after.drop n).head?
  let (text, rest) ← shortest? stop 1 marks inner
  if isOutside before.head? && inner.head? ≠ some '_' then
    some (.single tag text, rest.drop n)
  else none

/-- Two low lines, then a single one outside of words, and three at the end. -/
def readLinesEnding? : EmphasisReader := fun before s => do
  let inner ← afterLead? ['_', '_'] s
  let end? (s : List Char) : Option (List Char × List Char) :=
    let stop (_ after : List Char) : Bool :=
      startsWith after ['_', '_', '_'] && isOutside (after.drop 3).head?
    shortest? stop 1 [] s
  let stop (before after : List Char) : Bool :=
    startsWith after ['_'] && isOutside before.head? && (after.drop 1).head? ≠ some '_'
      && (end? (after.drop 1)).isSome
  let (text, rest) ← shortest? stop 1 ['_', '_'] inner
  let (last, rest) ← end? (rest.drop 1)
  if isOutside before.head? && inner.head? ≠ some '_' then
    some (.ending "strong" "em" text last, rest.drop 3)
  else none

/-- Emphasis between low lines. -/
def readLowLines? : EmphasisReader := fun before s =>
  (readTriple? '_' 1 "strong" "em" s).orElse fun _ =>
    (readTriple? '_' 2 "em" "strong" s).orElse fun _ =>
      (readLinesEnding? before s).orElse fun _ =>
        (readLines? 2 "strong" before s).orElse fun _ => readLines? 1 "em" before s

/-! ### Tildes -/

/-- The text of a deletion up to two tildes, which no blank is before. There are never three
tildes in a row.
-/
def deleted? (before : List Char) : List Char → Option (List Char × List Char)
  | [] => none
  | c :: rest =>
      let ends := startsWith (c :: rest) ['~', '~'] && before.head?.any (!isBlank ·)
      if ends && before.head? ≠ some '~' then some ([], rest.drop 1)
      else if c = '~' && startsWith before ['~', '~'] then none
      else (deleted? (c :: before) rest).map fun (text, rest) => (c :: text, rest)

/-- Two tildes on each side. -/
def readDeletion? (s : List Char) : Option (Emphasis × List Char) := do
  let inner ← afterLead? ['~', '~'] s
  let first ← inner.head?
  if first = '~' || isBlank first then none
  else
    let (text, rest) ← deleted? ['~', '~'] inner
    some (.single "del" text, rest)

/-- Three tildes right after a piece, with two at the end: they are counted from the first one, so
that the last mark is left.
-/
def readUnevenDeletion? (before s : List Char) : Option (Emphasis × List Char) := do
  let inner ← afterLead? ['~', '~', '~'] s
  let text := inner.takeWhile (· ≠ '~')
  let marks := ((inner.drop text.length).takeWhile (· = '~')).length
  let first ← text.head?
  let last ← text.getLast?
  if before.head? ≠ some markEnd || marks ≠ 2 || isBlank first || isBlank last then none
  else some (.single "del" ((s.drop 2).take text.length), s.drop (text.length + 4))

/-- Deletions between tildes. -/
def readTildes? : EmphasisReader := fun before s =>
  (readDeletion? s).orElse fun _ => readUnevenDeletion? before s

/-! ### Elements -/

mutual

/-- The content of a text with emphasis in it; `fuel` bounds the places in it and below. -/
def emphasisContent (read? : EmphasisReader) : Nat → List Char → List Char → Content
  | 0, _, s => (.plain s, [])
  | _, _, [] => (.empty, [])
  | fuel + 1, before, c :: rest =>
      match read? before (c :: rest) with
      | some (emphasis, after) =>
          let taken := (c :: rest).take (rest.length + 1 - after.length)
          let e := emphasisElement read? fuel emphasis
          let (tail, more) := emphasisContent read? fuel (taken.reverse ++ before) after
          (.empty, (e, tail) :: more)
      | none =>
          let (lead, more) := emphasisContent read? fuel (c :: before) rest
          (.plain (c :: lead.chars), more)

/-- The element of an emphasis, with the emphasis in its text. -/
def emphasisElement (read? : EmphasisReader) : Nat → Emphasis → Element
  | 0, _ => .bare "em"
  | fuel + 1, .single tag text =>
      let (lead, children) := emphasisContent read? fuel [] text
      ⟨tag, [], lead, children⟩
  | fuel + 1, .starting outer inner text after =>
      let (lead, children) := emphasisContent read? fuel [] text
      let (tail, more) := emphasisContent read? fuel [] after
      ⟨outer, [], .empty, (⟨inner, [], lead, children⟩, tail) :: more⟩
  | fuel + 1, .ending outer inner first text =>
      let (lead, before) := emphasisContent read? fuel [] first
      let (innerLead, children) := emphasisContent read? fuel [] text
      ⟨outer, [], lead, before ++ [(⟨inner, [], innerLead, children⟩, .empty)]⟩

end

/-- The pattern of a kind of emphasis. -/
def emphasisPattern (read? : EmphasisReader) : Pattern := fun before s => do
  match read? before s with
  | some (emphasis, after) =>
      let e := emphasisElement read? (2 * s.length + 2) emphasis
      pure (.found (.element e) (s.length - after.length))
  | none => pure .nothing

/-- Up to three stars or low lines between blanks, which are plain text. -/
def looseMarksPattern : Pattern := fun before s => do
  match s with
  | c :: _ =>
      let marks := s.takeWhile (· = c)
      let isLoose := (c = '*' || c = '_') && marks.length ≤ 3 && before.head?.all isBlank
        && ((s.drop marks.length).head?).all isBlank
      if isLoose then pure (.found (.text marks) marks.length) else pure .nothing
  | [] => pure .nothing

end BlogSnapshot.Markdown.Span
