import BlogSnapshot.Frontmatter.Write
import BlogSnapshot.Yaml.Load

/-! Values written on one line in flow style: texts in double quotes, lists in brackets, and
mappings with plain keys in braces. What is written is a list of pieces, each with its text and its
tokens, and the nodes of the value stand at the positions of their first characters.
-/

namespace BlogSnapshot.Yaml

/-- The position after `i` characters of a line. -/
def Mark.inLine (i : Nat) : Mark :=
  ⟨i, 0, i⟩

/-- A token of `n` characters at a position of a line. -/
def Token.inLine (kind : TokenKind) (i n : Nat) : Token :=
  ⟨kind, .inLine i, .inLine (i + n)⟩

-----------------------------------------------------------------------------------------
-- Pieces
-----------------------------------------------------------------------------------------

/-- The pieces of a line. The text of a quoted scalar stands as it is or has all its characters
escaped.
-/
inductive Piece
  | opening (isMap : Bool)
  | closing (isMap : Bool)
  | comma
  | key (name : String)
  | quoted (escaped : Bool) (s : String)

namespace Piece

/-- The text between the quotes of a scalar. -/
def quotedText (escaped : Bool) (cs : List Char) : List Char :=
  if escaped then cs.flatMap Frontmatter.escapeChar else cs

def text : Piece → List Char
  | opening isMap => [if isMap then '\x7b' else '[']
  | closing isMap => [if isMap then '\x7d' else ']']
  | comma => [',', ' ']
  | key name => name.toList ++ [':', ' ']
  | quoted escaped s => '"' :: quotedText escaped s.toList ++ ['"']

/-- The number of characters of a piece. -/
def width (p : Piece) : Nat :=
  p.text.length

/-- The tokens of a piece at a position. -/
def tokens (i : Nat) : Piece → List Token
  | opening isMap => [.inLine (if isMap then .flowMappingStart else .flowSequenceStart) i 1]
  | closing isMap => [.inLine (if isMap then .flowMappingEnd else .flowSequenceEnd) i 1]
  | comma => [.inLine .flowEntry i 1]
  | key name => [
      .inLine .key i 0, .inLine (.scalar name true) i name.length,
      .inLine .value (i + name.length) 1
    ]
  | p@(quoted _ s) => [.inLine (.scalar s false) i p.width]

/-- The text of pieces. -/
def lineText (ps : List Piece) : List Char :=
  ps.flatMap text

/-- The number of characters of pieces. -/
def lineWidth (ps : List Piece) : Nat :=
  (lineText ps).length

theorem width_key (name : String) : (key name).width = name.length + 2 := by
  simp [width, text, String.length_toList]

theorem lineWidth_cons (p : Piece) (ps : List Piece)
    : lineWidth (p :: ps) = p.width + lineWidth ps := by
  simp [lineWidth, lineText, width]

/-- The tokens of pieces from a position on. -/
def lineTokens : Nat → List Piece → List Token
  | _, [] => []
  | i, p :: ps => p.tokens i ++ lineTokens (i + p.width) ps

theorem lineText_append (ps qs : List Piece) : lineText (ps ++ qs) = lineText ps ++ lineText qs :=
  List.flatMap_append

theorem lineWidth_append (ps qs : List Piece)
    : lineWidth (ps ++ qs) = lineWidth ps + lineWidth qs := by
  rw [lineWidth, lineText_append, List.length_append]
  rfl

theorem lineTokens_append (i : Nat) (ps qs : List Piece)
    : lineTokens i (ps ++ qs) = lineTokens i ps ++ lineTokens (i + lineWidth ps) qs := by
  induction ps generalizing i with
  | nil => rfl
  | cons p ps ih =>
      rw [List.cons_append, lineTokens, ih, lineTokens, lineWidth_cons, List.append_assoc,
        Nat.add_assoc]

/-- Parts with a comma between them. -/
def commas : List (List Piece) → List Piece
  | [] => []
  | part :: rest => part ++ rest.flatMap (comma :: ·)

/-- A collection of parts. -/
def inBrackets (isMap : Bool) (parts : List (List Piece)) : List Piece :=
  opening isMap :: commas parts ++ [closing isMap]

end Piece

-----------------------------------------------------------------------------------------
-- Trees
-----------------------------------------------------------------------------------------

/-- What is written in flow style. -/
inductive Flow
  | text (escaped : Bool) (s : String)
  | list (items : List Flow)
  | map (entries : List (String × Flow))

namespace Flow

theorem sizeOf_lt_of_mem_entries {entries : List (String × Flow)} {e : String × Flow}
    (member : e ∈ entries)
    : sizeOf e.2 < sizeOf (map entries) := by
  have inside := List.sizeOf_lt_of_mem member
  have second : sizeOf e = 1 + sizeOf e.1 + sizeOf e.2 := by cases e; rfl
  rw [map.sizeOf_spec]
  omega

theorem sizeOf_lt_of_mem_items {items : List Flow} {t : Flow} (member : t ∈ items)
    : sizeOf t < sizeOf (list items) := by
  have inside := List.sizeOf_lt_of_mem member
  rw [list.sizeOf_spec]
  omega

/-- The value that is written. -/
def value : Flow → Value
  | text _ s => .text s
  | list items => .list (items.map fun t => t.value)
  | map entries => .map (entries.map fun e => (.text e.1, e.2.value))
termination_by t => sizeOf t
decreasing_by
  · exact sizeOf_lt_of_mem_items ‹_›
  · exact sizeOf_lt_of_mem_entries ‹_›

/-- The pieces that are written. -/
def pieces : Flow → List Piece
  | text escaped s => [.quoted escaped s]
  | list items => Piece.inBrackets false (items.map fun t => t.pieces)
  | map entries => Piece.inBrackets true (entries.map fun e => .key e.1 :: e.2.pieces)
termination_by t => sizeOf t
decreasing_by
  · exact sizeOf_lt_of_mem_items ‹_›
  · exact sizeOf_lt_of_mem_entries ‹_›

/-- The number of characters that are written. -/
def width (t : Flow) : Nat :=
  Piece.lineWidth t.pieces

theorem pieces_list (items : List Flow)
    : (list items).pieces = Piece.inBrackets false (items.map pieces) := by
  rw [pieces]

/-- The pieces of an entry of a mapping. -/
def entryPieces (e : String × Flow) : List Piece :=
  .key e.1 :: e.2.pieces

theorem pieces_map (entries : List (String × Flow))
    : (map entries).pieces = Piece.inBrackets true (entries.map entryPieces) := by
  rw [pieces]
  rfl

/-- Things that are written one after another from a position on, with a comma and a space between
them, each with the position it starts at.
-/
def place {α : Type} (width : α → Nat) : Nat → List α → List (Nat × α)
  | _, [] => []
  | i, a :: rest => (i, a) :: place width (i + width a + 2) rest

theorem mem_of_mem_place {α : Type} {width : α → Nat} {i j : Nat} {as : List α} {a : α}
    (member : (j, a) ∈ place width i as)
    : a ∈ as := by
  induction as generalizing i with
  | nil => cases member
  | cons b rest ih =>
      rcases List.mem_cons.mp member with first | later
      · exact (Prod.mk.inj first).2 ▸ List.mem_cons_self
      · exact List.mem_cons_of_mem b (ih later)

/-- The entries of a mapping that starts at a position, at the positions of their keys. -/
def placeEntries (i : Nat) (entries : List (String × Flow)) : List (Nat × String × Flow) :=
  place (fun e => Piece.lineWidth (entryPieces e)) (i + 1) entries

/-- The items of a list that starts at a position. -/
def placeItems (i : Nat) (items : List Flow) : List (Nat × Flow) :=
  place width (i + 1) items

/-- The node of what is written at a position. -/
def node : Nat → Flow → Node
  | i, text _ s => .scalar Tag.str s (.inLine i)
  | i, list items =>
      .sequence Tag.seq ((placeItems i items).attach.map fun p => p.1.2.node p.1.1) (.inLine i)
  | i, map entries =>
      .mapping Tag.map
        ((placeEntries i entries).attach.map fun p =>
          (.scalar Tag.str p.1.2.1 (.inLine p.1.1),
            p.1.2.2.node (p.1.1 + (Piece.key p.1.2.1).width)))
        (.inLine i)
termination_by _ t => sizeOf t
decreasing_by
  · exact sizeOf_lt_of_mem_items (mem_of_mem_place p.2)
  · exact sizeOf_lt_of_mem_entries (mem_of_mem_place p.2)

theorem node_list (i : Nat) (items : List Flow)
    : node i (list items)
      = .sequence Tag.seq ((placeItems i items).map fun p => p.2.node p.1) (.inLine i) := by
  have whole := List.attach_map_val (l := placeItems i items) (f := fun p => p.2.node p.1)
  rw [node, whole]

theorem node_map (i : Nat) (entries : List (String × Flow))
    : node i (map entries)
      = .mapping Tag.map
          ((placeEntries i entries).map fun p =>
            (.scalar Tag.str p.2.1 (.inLine p.1), p.2.2.node (p.1 + (Piece.key p.2.1).width)))
          (.inLine i) := by
  have whole := List.attach_map_val (l := placeEntries i entries)
    (f := fun p =>
      (Node.scalar Tag.str p.2.1 (.inLine p.1), p.2.2.node (p.1 + (Piece.key p.2.1).width)))
  rw [node, whole]

end Flow

end BlogSnapshot.Yaml
