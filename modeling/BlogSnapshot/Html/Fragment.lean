import BlogSnapshot.Html.Builder.Foreign
import BlogSnapshot.Html.Token.Scan

/-! Reading a text as the inside of a page: every text is the text of some nodes in a row.
-/

namespace BlogSnapshot.Html

namespace Builder

/-- A token by the rules of the current mode. -/
def inMode (token : Token) : Building Outcome := do
  match (← get).mode with
  | .body =>
      inBody token
      pure .used
  | .rawText =>
      match token with
      | .text content => addText content
      | .finish _ =>
          pop
          modify fun b => { b with mode := b.returnMode }
      | _ => pure ()
      pure .used
  | .table => inTable token
  | .tableText => inTableText token
  | .caption => inCaption token
  | .columnGroup => inColumnGroup token
  | .tableBody => inTableBody token
  | .row => inRow token
  | .cell => inCell token
  | .select => inSelect token
  | .selectInTable => inSelectInTable token
  | .template => inTemplateMode token

/-- Reads a token until it is used up. Each round but a few closes an element. -/
def useFrom : Nat → Token → Building Unit
  | 0, _ => pure ()
  | fuel + 1, token => do
      let left ← if (← get).isForeign token then inForeign token else pure (some token)
      match left with
      | none => pure ()
      | some token =>
          match ← inMode token with
          | .used => pure ()
          | .again token => useFrom fuel token

/-- Reads a token. A line feed just after the start of some elements does not count. -/
def use (token : Token) : Building Unit := do
  let b ← get
  set { b with dropsNewline := false }
  let fuel := 2 * b.openElements.length + 16
  match token with
  | .text content =>
      let content := if b.dropsNewline && content.head? = some '\n' then content.drop 1
        else content
      if !content.isEmpty then useFrom fuel (.text content)
  | _ => useFrom fuel token

/-- Reads a page, at most `fuel` tokens of it. A text of its own ends with its end tag. -/
def readPage : Nat → List Char → Building Unit
  | 0, _ => pure ()
  | _, [] => pure ()
  | fuel + 1, page => do
      let b ← get
      let bracketed := ((b.draft.name? b.current).map (·.space)).any (· ≠ .html)
      let (token, rest) := readToken b.reading bracketed page
      match token with
      | some (.finish word) =>
          modify fun b => { b with reading := .markup }
          use (.finish word)
      | some token => use token
      | none => pure ()
      readPage fuel rest

/-- Reads a page to its end. -/
def readWhole (page : List Char) : Building Unit := do
  readPage page.length page
  if (← get).mode = .tableText then releaseText

end Builder

/-- The nodes of a text of HTML. Each token takes a character at least. -/
def parseFragment (html : String) : List Node :=
  let page := normalized html.toList
  let (_, b) := (Builder.readWhole page).run Builder.initial
  b.draft.forest Builder.rootId

end BlogSnapshot.Html
