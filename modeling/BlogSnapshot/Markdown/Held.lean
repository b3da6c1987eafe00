import BlogSnapshot.Markdown.Tree
import BlogSnapshot.Text.Split

/-! Text that is put aside. Pieces of HTML that are already final are held back, and a mark
stands in their place until the whole text is written. The two characters around a mark occur
nowhere else, since they are taken out of every text before it is read.
-/

namespace BlogSnapshot.Markdown

open Text

/-- The character before a mark. -/
def markStart : Char := '\x02'

/-- The character after a mark. -/
def markEnd : Char := '\x03'

/-- A mark: a word between the two characters. -/
def mark (word : List Char) : List Char :=
  markStart :: word ++ [markEnd]

/-- The mark that stands for an escaped character: its code point. -/
def charMark (c : Char) : List Char :=
  mark (toString c.toNat).toList

/-- The mark that stands for an ampersand which is not to be escaped. -/
def ampersandMark : List Char :=
  mark "amp".toList

/-- The word in the marks of held pieces. -/
def heldWord : List Char :=
  "wzxhzdk:".toList

/-- The mark that stands for a held piece. -/
def heldMark (n : Nat) : List Char :=
  mark (heldWord ++ (toString n).toList)

/-- The pieces that are held back. -/
abbrev Held := Array (List Char)

/-- Holds a piece back and gives its mark. -/
def hold (piece : List Char) : StateM Held (List Char) := do
  let held ← get
  set (held.push piece)
  pure (heldMark held.size)

/-- Reads a mark with a word and a number at the start of a text. -/
def markNumber? (word s : List Char) : Option (Nat × List Char) := do
  let s ← afterLead? (markStart :: word) s
  let digits := s.takeWhile Char.isDigit
  let rest ← afterLead? [markEnd] (s.drop digits.length)
  if digits.isEmpty then none
  else some (digits.foldl (fun n c => 10 * n + (c.toNat - 48)) 0, rest)

/-- A text with marks of characters replaced by the characters; `skip` characters belong to the
last mark.
-/
def withChars : Nat → List Char → List Char
  | _, [] => []
  | skip + 1, _ :: rest => withChars skip rest
  | 0, c :: rest =>
      match markNumber? [] (c :: rest) with
      | some (n, after) => Char.ofNat n :: withChars (rest.length - after.length) rest
      | none => c :: withChars 0 rest

/-- Whether a piece of HTML begins with a block, a comment or the like. -/
def beginsBlock (piece : List Char) : Bool :=
  match piece with
  | '<' :: rest =>
      let rest := (afterLead? ['/'] rest).getD rest
      let word := rest.takeWhile fun c => c ≠ ' ' && c ≠ '>'
      match word with
      | [] => false
      | c :: _ => "!?@%".toList.contains c || isBlockTag word
  | _ => false

/-- Reads the mark of a piece that is held, alone or as a whole paragraph. -/
def heldMark? (held : Held) (s : List Char) : Option (Bool × List Char × List Char) :=
  let alone? := markNumber? heldWord s
  let paragraph? := do
    let (n, rest) ← markNumber? heldWord (← afterLead? "<p>".toList s)
    pure (n, ← afterLead? "</p>".toList rest)
  let found? (wrapped : Bool) (mark? : Option (Nat × List Char)) := do
    let (n, rest) ← mark?
    pure (wrapped, ← held[n]?, rest)
  (found? true paragraph?).orElse fun _ => found? false alone?

/-- A text with the marks of held pieces replaced by the pieces, which may have marks themselves
to a depth. A block takes the place of a paragraph that is nothing but its mark.
-/
def released (held : Held) : Nat → List Char → List Char
  | 0, s => s
  | depth + 1, s => go depth 0 s
where
  /-- The text after `skip` characters that belong to the last mark. -/
  go (depth : Nat) : Nat → List Char → List Char
    | _, [] => []
    | skip + 1, _ :: rest => go depth skip rest
    | 0, c :: rest =>
        match heldMark? held (c :: rest) with
        | some (wrapped, piece, after) =>
            let inner := released held depth piece
            let inner :=
              if wrapped && !beginsBlock piece then
                "<p>".toList ++ inner ++ "</p>".toList
              else inner
            inner ++ go depth (rest.length - after.length) rest
        | none => c :: go depth 0 rest

/-- A text with marks of ampersands replaced; `skip` characters belong to the last mark. -/
def withAmpersands : Nat → List Char → List Char
  | _, [] => []
  | skip + 1, _ :: rest => withAmpersands skip rest
  | 0, c :: rest =>
      match afterLead? ampersandMark (c :: rest) with
      | some _ => '&' :: withAmpersands (ampersandMark.length - 1) rest
      | none => c :: withAmpersands 0 rest

end BlogSnapshot.Markdown
