import BlogSnapshot.Html.Builder

/-! Formatting elements, which go on after a misplaced tag has closed them: their renewal, and
the untangling of formatting that ends inside a later block.
-/

namespace BlogSnapshot.Html.Builder

/-- The formatting entries since the last mark. -/
def recentFormatting (b : Builder) : List Formatting :=
  b.formatting.takeWhile (· ≠ .marker)

def Formatting.isFor (id : Nat) : Formatting → Bool
  | .marker => false
  | .element other _ _ => other = id

/-- The formatting entry of an element. -/
def formattingOf? (b : Builder) (id : Nat) : Option Formatting :=
  b.formatting.find? (Formatting.isFor id)

def removeFormatting (id : Nat) : Building Unit :=
  modify fun b => { b with formatting := b.formatting.eraseP (Formatting.isFor id) }

/-- Closes off the formatting so far. -/
def markFormatting : Building Unit :=
  modify fun b => { b with formatting := .marker :: b.formatting }

/-- Drops the formatting since the last mark, and the mark. -/
def clearFormatting : Building Unit :=
  modify fun b => { b with formatting := (b.formatting.dropWhile (· ≠ .marker)).drop 1 }

/-- Whether an entry needs no renewal. -/
def isSettled (b : Builder) : Formatting → Bool
  | .marker => true
  | .element id _ _ => b.openElements.contains id

/-- Opens a new element for each entry, oldest first; gives the entries of the new elements,
most recent first.
-/
def reopen : List Formatting → Building (List Formatting)
  | [] => pure []
  | entry :: older => do
      let done ← reopen older
      match entry with
      | .marker => pure (.marker :: done)
      | .element _ word attributes =>
          let id ← openElement (.html word) attributes
          pure (.element id word attributes :: done)

/-- Renews the formatting that has been closed since the last settled entry. -/
def renewFormatting : Building Unit := do
  let b ← get
  let closed := b.formatting.takeWhile (!b.isSettled ·)
  let settled := b.formatting.drop closed.length
  let renewed ← reopen closed
  modify fun b => { b with formatting := renewed ++ settled }

/-- Whether two lists hold the same attributes. -/
def sameAttributes (xs ys : List Attribute) : Bool :=
  xs.length = ys.length && xs.all ys.contains

/-- Drops the oldest of three like entries since the last mark. -/
def limitRepetition (word : String) (attributes : List Attribute) : Building Unit :=
  modify fun b =>
    let alike : Formatting → Bool
      | .marker => false
      | .element _ w as => w = word && sameAttributes as attributes
    match (b.recentFormatting.filter alike)[2]? with
    | some oldest => { b with formatting := b.formatting.erase oldest }
    | none => b

/-- Opens a formatting element for a tag. -/
def openFormatting (tag : Tag) : Building Unit := do
  limitRepetition tag.word tag.attributes
  let id ← openElement (.html tag.word) tag.attributes
  modify fun b =>
    { b with formatting := .element id tag.word tag.attributes :: b.formatting }

/-- Closes the open element of an ordinary end tag, unless a special element is in between. -/
def closeOrdinary (word : String) : Building Unit := do
  let b ← get
  let found := b.openElements.find? fun id =>
    b.draft.is id word || b.draft.isIn id specialWords
  match found with
  | some id =>
      if b.draft.is id word then
        popImplied word
        modify fun b =>
          { b with openElements := (b.openElements.dropWhile (· ≠ id)).drop 1 }
  | none => pure ()

/-- Where the entry of the copied formatting element goes: in the place of the old one, or just
after the entry of an element that encloses its content.
-/
inductive Bookmark where
  | replace
  | after (id : Nat)
  deriving DecidableEq, Repr

/-- The list with `x` just before the first member that satisfies `p`. -/
def insertedBeforeFirst (p : α → Bool) (x : α) : List α → List α
  | [] => [x]
  | y :: rest => if p y then x :: y :: rest else y :: insertedBeforeFirst p x rest

/-- The state while the elements between a formatting element and the outermost block inside it
are gone through from the inside: the open elements inside and outside of the point reached, and
the node that has been wrapped last.
-/
structure Untangling where
  inside : List Nat
  outside : List Nat
  last : Nat
  bookmark : Bookmark
  deriving Repr

/-- Goes through the open elements between the block and the formatting element, at most three
of which are copied around the content; the others are closed. `outside` starts with the element
to look at next.
-/
def wrapFrom (formatting block : Nat) : Nat → Nat → Untangling → Building Untangling
  | 0, _, u => pure u
  | fuel + 1, count, u =>
      match u.outside with
      | [] => pure u
      | node :: outside =>
          if node = formatting then pure u
          else do
            let b ← get
            match b.formattingOf? node with
            | some (.element _ word attributes) =>
                if count ≥ 3 then
                  removeFormatting node
                  wrapFrom formatting block fuel (count + 1) { u with outside }
                else
                  let (copy, draft) := b.draft.addElement (.html word) attributes
                  let entries := b.formatting.map fun entry =>
                    if Formatting.isFor node entry then
                      Formatting.element copy word attributes
                    else entry
                  set
                    { b with
                      formatting := entries
                      draft := (draft.detach u.last).append copy u.last }
                  let bookmark := if u.last = block then .after copy else u.bookmark
                  wrapFrom formatting block fuel (count + 1)
                    { inside := u.inside ++ [copy], outside, last := copy, bookmark }
            | _ => wrapFrom formatting block fuel (count + 1) { u with outside }

/-- Puts the entry of the copied formatting element where the bookmark says, in place of the old
one.
-/
def moveEntry (old : Nat) (entry : Formatting) : Bookmark → List Formatting → List Formatting
  | .replace, entries =>
      entries.map fun e => if Formatting.isFor old e then entry else e
  | .after id, entries =>
      (insertedBeforeFirst (Formatting.isFor id) entry entries).eraseP (Formatting.isFor old)

/-- Untangles one formatting element that ends inside of a block that it does not enclose: the
block leaves the element, and a copy of the element takes the content of the block.
-/
def untangle (id : Nat) (word : String) (attributes : List Attribute) (block : Nat)
    : Building Unit := do
  let b ← get
  let above := (b.openElements.dropWhile (· ≠ block)).drop 1
  let ancestor := ((b.openElements.dropWhile (· ≠ id)).drop 1).headD rootId
  let u ← wrapFrom id block (above.length + 1) 0
    { inside := b.openElements.takeWhile (· ≠ block) ++ [block], outside := above,
      last := block, bookmark := .replace }
  modify fun b =>
    let draft := b.draft.detach u.last
    let b := { b with draft }
    let draft := b.draft.put (b.placeIn ancestor) u.last
    let (copy, draft) := draft.addElement (.html word) attributes
    let draft := (draft.moveChildren block copy).append block copy
    let opened := (u.inside ++ u.outside).erase id
    { b with
      draft
      formatting := moveEntry id (.element copy word attributes) u.bookmark b.formatting
      openElements := insertedBeforeFirst (· = block) copy opened }

/-- Ends a formatting element, in at most as many rounds as `rounds`. -/
def endFormattingFrom (word : String) : Nat → Building Unit
  | 0 => pure ()
  | rounds + 1 => do
      let b ← get
      let named : Formatting → Bool
        | .marker => false
        | .element _ w _ => w = word
      match b.recentFormatting.find? named with
      | some (.element id w attributes) =>
          if !b.openElements.contains id then removeFormatting id
          else if !b.findInScope (· = id) b.endsScope then pure ()
          else
            let inner := b.openElements.takeWhile (· ≠ id)
            match inner.reverse.find? (b.draft.isIn · specialWords) with
            | none =>
                modify fun b =>
                  { b with openElements := (b.openElements.dropWhile (· ≠ id)).drop 1 }
                removeFormatting id
            | some block =>
                untangle id w attributes block
                endFormattingFrom word rounds
      | _ => closeOrdinary word

/-- Ends the formatting element of an end tag. -/
def endFormatting (word : String) : Building Unit := do
  let b ← get
  if b.draft.is b.current word && (b.formattingOf? b.current).isNone then pop
  else endFormattingFrom word 8

/-- Ends a link that is open when another one starts. -/
def endOpenLink : Building Unit := do
  let b ← get
  let isLink : Formatting → Bool
    | .marker => false
    | .element id _ _ => b.draft.is id "a"
  match b.recentFormatting.find? isLink with
  | some (.element id _ _) =>
      endFormatting "a"
      removeFormatting id
      removeOpen id
  | _ => pure ()

end BlogSnapshot.Html.Builder
