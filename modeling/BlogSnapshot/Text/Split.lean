/-! Cutting texts at characters and at separators.
-/

namespace BlogSnapshot.Text

/-- The text before the first character that satisfies `p`, and the text after it if there is
one.
-/
def cutAt (p : Char → Bool) : List Char → List Char × Option (List Char)
  | [] => ([], none)
  | c :: rest =>
      if p c then ([], some rest)
      else
        let (head, tail) := cutAt p rest
        (c :: head, tail)

/-- The pieces between the characters that satisfy `p`; there is always one piece. -/
def splitAt (p : Char → Bool) : List Char → List (List Char)
  | [] => [[]]
  | c :: rest =>
      if p c then [] :: splitAt p rest
      else match splitAt p rest with
        | piece :: pieces => (c :: piece) :: pieces
        | [] => [[c]]

/-- The rest of the text after `lead`, if the text starts with it. -/
def afterLead? : List Char → List Char → Option (List Char)
  | [], s => some s
  | _ :: _, [] => none
  | c :: lead, d :: s => if c = d then afterLead? lead s else none

/-- The text up to the first occurrence of `mark` and the text after it. -/
def cutAtText? (mark : List Char) : List Char → Option (List Char × List Char)
  | s@(c :: rest) =>
      match afterLead? mark s with
      | some tail => some ([], tail)
      | none => (cutAtText? mark rest).map fun (head, tail) => (c :: head, tail)
  | [] => if mark.isEmpty then some ([], []) else none

/-- The text after the last character that satisfies `p`; the whole text if there is none. -/
def afterLast (p : Char → Bool) (s : List Char) : List Char :=
  (s.reverse.takeWhile (!p ·)).reverse

/-- Pieces joined with a separator between them. -/
def joinWith (separator : List Char) : List (List Char) → List Char
  | [] => []
  | [piece] => piece
  | piece :: pieces => piece ++ separator ++ joinWith separator pieces

end BlogSnapshot.Text
