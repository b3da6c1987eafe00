import BlogSnapshot.Html.Builder.Body

/-! The meaning of tokens inside tables, choices and templates. What does not belong into a table
goes in front of it.
-/

namespace BlogSnapshot.Html.Builder

/-- Reads a token as running text, and keeps what it adds out of the table. -/
def fosterInBody (token : Token) : Building Unit := do
  modify fun b => { b with fostering := true }
  inBody token
  modify fun b => { b with fostering := false }

/-- Closes elements down to one of these words, a template or the root. -/
def closeDownTo (words : List String) : Building Unit :=
  popWhile fun b id => !b.draft.isIn id ("template" :: "html" :: words)

/-! ### Tables -/

/-- The parts of a table that hold rows. -/
def sectionWords : List String :=
  ["tbody", "tfoot", "thead"]

/-- Opens a part of a table that has no tag, and leaves the token to be read there. -/
def openPartFor (word : String) (mode : Mode) (token : Token) : Building Outcome := do
  closeDownTo ["table"]
  openWord word
  continueIn mode token

/-- A start tag in a table. -/
def startTable (tag : Tag) : Building Outcome := do
  let b ← get
  match tag.word with
  | "caption" =>
      closeDownTo ["table"]
      markFormatting
      openTag tag
      setMode .caption
      pure .used
  | "colgroup" =>
      closeDownTo ["table"]
      openTag tag
      setMode .columnGroup
      pure .used
  | "col" => openPartFor "colgroup" .columnGroup (.start tag)
  | "tbody" | "tfoot" | "thead" =>
      closeDownTo ["table"]
      openTag tag
      setMode .tableBody
      pure .used
  | "td" | "th" | "tr" => openPartFor "tbody" .tableBody (.start tag)
  | "table" =>
      if b.inTableScope ["table"] then
        popThrough ["table"]
        resetMode
        pure (.again (.start tag))
      else pure .used
  | "style" | "script" | "template" =>
      startHead tag
      pure .used
  | "input" =>
      let hidden := tag.attributes.any fun (name, value) =>
        name = "type" && value.toList.map asciiLower = "hidden".toList
      if hidden then addTag tag else fosterInBody (.start tag)
      pure .used
  | "form" =>
      if !b.inTemplate && b.form.isNone then
        let id ← addElement (.html "form") tag.attributes
        modify fun b => { b with form := some id }
      pure .used
  | _ =>
      fosterInBody (.start tag)
      pure .used

/-- An end tag in a table. -/
def finishTable (word : String) : Building Outcome := do
  match word with
  | "table" =>
      if (← get).inTableScope ["table"] then
        popThrough ["table"]
        resetMode
  | "body" | "caption" | "col" | "colgroup" | "html" | "tbody" | "td" | "tfoot" | "th"
  | "thead" | "tr" => pure ()
  | "template" => closeTemplate
  | _ => fosterInBody (.finish word)
  pure .used

/-- Text in a table waits until it is known whether it is white space only. -/
def holdText (token : Token) : Building Outcome := do
  let b ← get
  if b.currentIsIn ["table", "tbody", "tfoot", "thead", "tr"] then
    set { b with returnMode := b.mode, pendingText := [] }
    continueIn .tableText token
  else
    fosterInBody token
    pure .used

/-- A token in a table. -/
def inTable (token : Token) : Building Outcome := do
  match token with
  | .start tag => startTable tag
  | .finish word => finishTable word
  | .text _ | .zero => holdText token
  | .comment content =>
      addComment content
      pure .used
  | .doctype => pure .used

/-- Puts the text that waits: into the table if it is white space, else in front of it. -/
def releaseText : Building Unit := do
  let content := (← get).pendingText
  modify fun b => { b with pendingText := [] }
  if !content.isEmpty then
    if content.all isSpaceChar then addText content else fosterInBody (.text content)

/-- A token while text of a table waits. -/
def inTableText (token : Token) : Building Outcome := do
  match token with
  | .text content =>
      modify fun b => { b with pendingText := b.pendingText ++ content }
      pure .used
  | .zero => pure .used
  | _ =>
      releaseText
      continueIn (← get).returnMode token

/-- The tags that belong to the structure of a table. -/
def structureWords : List String :=
  ["caption", "col", "colgroup", "tbody", "td", "tfoot", "th", "thead", "tr"]

/-- Closes the caption, if there is one. -/
def closeCaption : Building Bool := do
  if (← get).inTableScope ["caption"] then
    popImplied ""
    popThrough ["caption"]
    clearFormatting
    setMode .table
    pure true
  else pure false

/-- A token in the caption of a table. -/
def inCaption (token : Token) : Building Outcome := do
  let leaves := match token with
    | .start tag => structureWords.contains tag.word
    | .finish word => word = "table"
    | _ => false
  if leaves then
    pure (if ← closeCaption then .again token else .used)
  else
    match token with
    | .finish "caption" => discard closeCaption
    | .finish word =>
        if !("body" :: "html" :: structureWords).contains word then inBody token
    | _ => inBody token
    pure .used

/-- Leaves a group of columns and reads a token in the table. -/
def leaveColumnGroup (token : Token) : Building Outcome := do
  if (← get).currentIsIn ["colgroup"] then
    pop
    continueIn .table token
  else pure .used

/-- A token in a group of columns. White space stays there, other text leaves the group. -/
def inColumnGroup (token : Token) : Building Outcome := do
  match token with
  | .text content =>
      let space := content.takeWhile isSpaceChar
      if !space.isEmpty then addText space
      match content.drop space.length with
      | [] => pure .used
      | rest => leaveColumnGroup (.text rest)
  | .comment content =>
      addComment content
      pure .used
  | .doctype => pure .used
  | .start tag =>
      match tag.word with
      | "html" => pure .used
      | "col" =>
          addTag tag
          pure .used
      | "template" =>
          startHead tag
          pure .used
      | _ => leaveColumnGroup token
  | .finish word =>
      match word with
      | "col" => pure .used
      | "template" =>
          closeTemplate
          pure .used
      | "colgroup" =>
          if (← get).currentIsIn ["colgroup"] then
            pop
            setMode .table
          pure .used
      | _ => leaveColumnGroup token
  | .zero => leaveColumnGroup token

/-- Leaves the open section of rows, and reads a token in the table. -/
def leaveSection (token : Token) : Building Outcome := do
  closeDownTo sectionWords
  pop
  continueIn .table token

/-- A token between the rows of a table. -/
def inTableBody (token : Token) : Building Outcome := do
  let b ← get
  let hasSection := b.inTableScope ("table" :: ["tbody", "tfoot"])
  match token with
  | .start tag =>
      match tag.word with
      | "tr" =>
          closeDownTo sectionWords
          openTag tag
          setMode .row
          pure .used
      | "th" | "td" =>
          closeDownTo sectionWords
          openWord "tr"
          continueIn .row token
      | "caption" | "col" | "colgroup" | "tbody" | "tfoot" | "thead" =>
          if hasSection then leaveSection token else pure .used
      | _ => inTable token
  | .finish word =>
      match word with
      | "tbody" | "tfoot" | "thead" =>
          if b.inTableScope [word] then
            closeDownTo sectionWords
            pop
            setMode .table
          pure .used
      | "table" => if hasSection then leaveSection token else pure .used
      | "body" | "caption" | "col" | "colgroup" | "html" | "td" | "th" | "tr" => pure .used
      | _ => inTable token
  | _ => inTable token

/-- Closes the row, if there is one; gives whether there was. -/
def closeRow : Building Bool := do
  if (← get).inTableScope ["tr"] then
    closeDownTo ["tr"]
    pop
    setMode .tableBody
    pure true
  else pure false

/-- A token between the cells of a row. -/
def inRow (token : Token) : Building Outcome := do
  match token with
  | .start tag =>
      match tag.word with
      | "th" | "td" =>
          closeDownTo ["tr"]
          openTag tag
          markFormatting
          setMode .cell
          pure .used
      | "caption" | "col" | "colgroup" | "tbody" | "tfoot" | "thead" | "tr" =>
          pure (if ← closeRow then .again token else .used)
      | _ => inTable token
  | .finish word =>
      match word with
      | "tr" =>
          discard closeRow
          pure .used
      | "table" => pure (if ← closeRow then .again token else .used)
      | "tbody" | "tfoot" | "thead" =>
          if (← get).inTableScope [word] then
            pure (if ← closeRow then .again token else .used)
          else pure .used
      | "body" | "caption" | "col" | "colgroup" | "html" | "td" | "th" => pure .used
      | _ => inTable token
  | _ => inTable token

/-- Closes the cell. -/
def closeCell : Building Unit := do
  popImplied ""
  popThrough ["td", "th"]
  clearFormatting
  setMode .row

/-- A token in a cell. -/
def inCell (token : Token) : Building Outcome := do
  let b ← get
  match token with
  | .start tag =>
      if structureWords.contains tag.word then
        if b.inTableScope ["td", "th"] then
          closeCell
          pure (.again token)
        else pure .used
      else
        inBody token
        pure .used
  | .finish word =>
      match word with
      | "td" | "th" =>
          if b.inTableScope [word] then
            popImplied ""
            popThrough [word]
            clearFormatting
            setMode .row
          pure .used
      | "table" | "tbody" | "tfoot" | "thead" | "tr" =>
          if b.inTableScope [word] then
            closeCell
            pure (.again token)
          else pure .used
      | "body" | "caption" | "col" | "colgroup" | "html" => pure .used
      | _ =>
          inBody token
          pure .used
  | _ =>
      inBody token
      pure .used

/-! ### Choices -/

/-- Closes a choice, and all inside it. -/
def closeSelect : Building Unit := do
  popThrough ["select"]
  resetMode

/-- Closes an option at the top of the open elements. -/
def popOption (words : List String) : Building Unit := do
  if (← get).currentIsIn words then pop

/-- A start tag in a choice. -/
def startSelect (tag : Tag) : Building Outcome := do
  let b ← get
  match tag.word with
  | "option" =>
      popOption ["option"]
      openTag tag
      pure .used
  | "optgroup" =>
      popOption ["option"]
      popOption ["optgroup"]
      openTag tag
      pure .used
  | "hr" =>
      popOption ["option"]
      popOption ["optgroup"]
      addTag tag
      pure .used
  | "select" =>
      if b.selectInScope then closeSelect
      pure .used
  | "input" | "keygen" | "textarea" =>
      if b.selectInScope then
        closeSelect
        pure (.again (.start tag))
      else pure .used
  | "script" | "template" =>
      startHead tag
      pure .used
  | _ => pure .used

/-- An end tag in a choice. -/
def finishSelect (word : String) : Building Unit := do
  let b ← get
  match word with
  | "optgroup" =>
      if b.currentIsIn ["option"] && (b.openElements[1]?).any (b.draft.is · "optgroup") then
        pop
      popOption ["optgroup"]
  | "option" => popOption ["option"]
  | "select" => if b.selectInScope then closeSelect
  | "template" => closeTemplate
  | _ => pure ()

/-- A token in a choice. -/
def inSelect (token : Token) : Building Outcome := do
  match token with
  | .start tag => startSelect tag
  | .finish word =>
      finishSelect word
      pure .used
  | .text content =>
      addText content
      pure .used
  | .comment content =>
      addComment content
      pure .used
  | .zero | .doctype => pure .used

/-- A token in a choice inside a table: the structure of the table closes the choice. -/
def inSelectInTable (token : Token) : Building Outcome := do
  let words := ["caption", "table", "tbody", "tfoot", "thead", "tr", "td", "th"]
  match token with
  | .start tag =>
      if words.contains tag.word then
        closeSelect
        pure (.again token)
      else inSelect token
  | .finish word =>
      if words.contains word then
        if (← get).inTableScope [word] then
          closeSelect
          pure (.again token)
        else pure .used
      else inSelect token
  | _ => inSelect token

/-! ### Templates -/

/-- Reads the rest of a template in another mode. -/
def turnTemplate (mode : Mode) (token : Token) : Building Outcome := do
  modify fun b => { b with templateModes := mode :: b.templateModes.drop 1 }
  continueIn mode token

/-- A token in a template that has not shown yet what it holds. -/
def inTemplateMode (token : Token) : Building Outcome := do
  match token with
  | .start tag =>
      if headWords.contains tag.word then
        startHead tag
        pure .used
      else match tag.word with
        | "caption" | "colgroup" | "tbody" | "tfoot" | "thead" => turnTemplate .table token
        | "col" => turnTemplate .columnGroup token
        | "tr" => turnTemplate .tableBody token
        | "td" | "th" => turnTemplate .row token
        | _ => turnTemplate .body token
  | .finish word =>
      if word = "template" then closeTemplate
      pure .used
  | _ =>
      inBody token
      pure .used

end BlogSnapshot.Html.Builder
