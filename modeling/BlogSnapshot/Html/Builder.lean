import BlogSnapshot.Html.Draft
import BlogSnapshot.Html.Token

/-! The state of building a tree from tokens: the elements that are open, innermost first, the
formatting that misplaced tags leave to be renewed, and the rules for where a new node goes.
-/

namespace BlogSnapshot.Html

/-- The part of a page that the building is in, which decides what a token means. -/
inductive Mode where
  | body
  | rawText
  | table
  | tableText
  | caption
  | columnGroup
  | tableBody
  | row
  | cell
  | select
  | selectInTable
  | template
  deriving DecidableEq, Repr

/-- Formatting to be renewed: an element, or a mark that closes off what stands before it. -/
inductive Formatting where
  | marker
  | element (id : Nat) (word : String) (attributes : List Attribute)
  deriving DecidableEq, Repr

/-- The state of building. Lists hold the most recent member first. -/
structure Builder where
  draft : Draft
  openElements : List Nat
  formatting : List Formatting
  mode : Mode
  /-- The mode to go back to after a text of its own. -/
  returnMode : Mode
  templateModes : List Mode
  /-- Text inside a table that waits for its place. -/
  pendingText : List Char
  form : Option Nat
  /-- Whether nodes are kept out of the table that they would land in. -/
  fostering : Bool
  /-- Whether a line feed is dropped when it comes next. -/
  dropsNewline : Bool
  reading : Reading
  deriving Repr

/-- A step of building with a result. -/
abbrev Building := StateM Builder

/-- What becomes of a token: it is used up, or a token is left to be read in the mode that has
been entered.
-/
inductive Outcome where
  | used
  | again (token : Token)
  deriving DecidableEq, Repr

namespace Builder

/-- The number of the outermost element. -/
def rootId : Nat := 0

/-- The state before the first token: the inside of a division of a page. -/
def initial : Builder where
  draft := ((Draft.mk #[]).addElement (.html "html") []).2
  openElements := [rootId]
  formatting := []
  mode := .body
  returnMode := .body
  templateModes := []
  pendingText := []
  form := none
  fostering := false
  dropsNewline := false
  reading := .markup

/-- The innermost open element. -/
def current (b : Builder) : Nat :=
  b.openElements.headD rootId

def currentIsIn (b : Builder) (words : List String) : Bool :=
  b.draft.isIn b.current words

/-- Searches the open elements outwards for one that satisfies `target`, up to and not past one
that ends the scope.
-/
def findInScope (b : Builder) (target ends : Nat → Bool) : Bool :=
  walk b.openElements
where
  walk : List Nat → Bool
    | [] => false
    | id :: rest => target id || (!ends id && walk rest)

def endsScope (b : Builder) (id : Nat) : Bool :=
  (b.draft.name? id).any (·.endsScope)

/-- Whether one of the words is open in the ordinary scope. -/
def inScope (b : Builder) (words : List String) : Bool :=
  b.findInScope (b.draft.isIn · words) b.endsScope

/-- Whether one of the words is open in the scope that further words end as well. -/
def inScopeWithin (b : Builder) (further words : List String) : Bool :=
  b.findInScope (b.draft.isIn · words) fun id => b.endsScope id || b.draft.isIn id further

/-- Whether a paragraph is open that a new block closes. -/
def paragraphInScope (b : Builder) : Bool :=
  b.inScopeWithin ["button"] ["p"]

/-- Whether one of the words is open in the innermost table. -/
def inTableScope (b : Builder) (words : List String) : Bool :=
  b.findInScope (b.draft.isIn · words) (b.draft.isIn · ["html", "table", "template"])

/-- Whether a choice is open, with only its options inside. -/
def selectInScope (b : Builder) : Bool :=
  b.findInScope (b.draft.is · "select") fun id => !b.draft.isIn id ["optgroup", "option"]

/-- Whether a template is open. -/
def inTemplate (b : Builder) : Bool :=
  b.openElements.any (b.draft.is · "template")

/-- The table that a node is kept out of: the place before it, or the end of what is around. -/
def fosterPlace (b : Builder) : Draft.Place :=
  walk b.openElements
where
  walk : List Nat → Draft.Place
    | [] => .last rootId
    | id :: rest =>
        if b.draft.is id "template" then .last (b.draft.holder id)
        else if b.draft.is id "table" then
          match b.draft.parent? id with
          | some parent => .before parent id
          | none => .last (rest.headD rootId)
        else walk rest

/-- The place for a new node inside `target`. -/
def placeIn (b : Builder) (target : Nat) : Draft.Place :=
  if b.fostering && b.draft.isIn target ["table", "tbody", "tfoot", "thead", "tr"] then
    b.fosterPlace
  else .last (b.draft.holder target)

/-- The mode that the open elements call for. -/
def modeOf (b : Builder) : Mode :=
  walk b.openElements
where
  walk : List Nat → Mode
    | [] => .body
    | [_] => .body
    | id :: rest =>
        let is (words : List String) : Bool := b.draft.isIn id words
        if is ["select"] then
          match rest.find? (b.draft.isIn · ["template", "table"]) with
          | some outer => if b.draft.is outer "table" then .selectInTable else .select
          | none => .select
        else if is ["td", "th"] then .cell
        else if is ["tr"] then .row
        else if is ["tbody", "thead", "tfoot"] then .tableBody
        else if is ["caption"] then .caption
        else if is ["colgroup"] then .columnGroup
        else if is ["table"] then .table
        else if is ["template"] then b.templateModes.headD .body
        else if is ["body"] then .body
        else walk rest

/-! ### Steps on the open elements -/

/-- Closes the innermost element. -/
def pop : Building Unit :=
  modify fun b => { b with openElements := b.openElements.drop 1 }

/-- Closes elements from the innermost one on, while they satisfy `p`. -/
def popWhile (p : Builder → Nat → Bool) : Building Unit :=
  modify fun b => { b with openElements := b.openElements.dropWhile (p b) }

/-- Closes elements up to and with the innermost one of these words. -/
def popThrough (words : List String) : Building Unit := do
  popWhile fun b id => !b.draft.isIn id words
  pop

/-- Closes elements that may end without a tag, but not one of the word `except`. -/
def popImplied (except : String) : Building Unit :=
  popWhile fun b id => b.draft.isIn id impliedEndWords && !b.draft.is id except

/-- Closes the open element of a word, and all inside it. -/
def closeWord (word : String) : Building Unit := do
  popImplied word
  popThrough [word]

/-- Closes an open paragraph. -/
def closeParagraph : Building Unit := do
  if (← get).paragraphInScope then closeWord "p"

/-- Takes an element out of the open ones, wherever it stands. -/
def removeOpen (id : Nat) : Building Unit :=
  modify fun b => { b with openElements := b.openElements.erase id }

/-! ### Steps that add nodes -/

/-- Puts a text into the current place. -/
def addText (content : List Char) : Building Unit :=
  modify fun b =>
    { b with draft := b.draft.putText (b.placeIn b.current) (String.ofList content) }

/-- Puts a comment into the current place. -/
def addComment (content : List Char) : Building Unit :=
  modify fun b =>
    let (id, draft) := b.draft.add (.comment (String.ofList content))
    { b with draft := draft.put (b.placeIn b.current) id }

/-- Puts a new element into the current place and gives its number. -/
def addElement (name : ElementName) (attributes : List Attribute) : Building Nat := do
  let b ← get
  let (id, draft) := b.draft.addElement name attributes
  set { b with draft := draft.put (b.placeIn b.current) id }
  pure id

/-- Puts a new element into the current place and opens it. -/
def openElement (name : ElementName) (attributes : List Attribute) : Building Nat := do
  let id ← addElement name attributes
  modify fun b => { b with openElements := id :: b.openElements }
  pure id

/-- Opens an element of HTML for a tag. -/
def openTag (tag : Tag) : Building Unit := do
  discard (openElement (.html tag.word) tag.attributes)

/-- Opens an element of HTML that has no tag. -/
def openWord (word : String) : Building Unit := do
  discard (openElement (.html word) [])

/-- Adds an element of HTML that stays empty. -/
def addTag (tag : Tag) : Building Unit := do
  discard (addElement (.html tag.word) tag.attributes)

/-! ### Modes -/

def setMode (mode : Mode) : Building Unit :=
  modify fun b => { b with mode }

/-- Goes on in the mode that the open elements call for. -/
def resetMode : Building Unit :=
  modify fun b => { b with mode := b.modeOf }

/-- Goes on in another mode and leaves a token to be read there. -/
def continueIn (mode : Mode) (token : Token) : Building Outcome := do
  setMode mode
  pure (.again token)

/-- Opens an element whose content is text. -/
def openRaw (tag : Tag) (reading : Reading) : Building Unit := do
  openTag tag
  modify fun b => { b with returnMode := b.mode, mode := .rawText, reading }

end Builder

end BlogSnapshot.Html
