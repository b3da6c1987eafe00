import BlogSnapshot.Html.Builder.Formatting

/-! The meaning of tokens in running text and in what may stand anywhere: metadata, scripts and
templates.
-/

namespace BlogSnapshot.Html.Builder

/-! ### Metadata and templates -/

/-- The start tags of metadata. -/
def headWords : List String :=
  [
    "base", "basefont", "bgsound", "link", "meta", "noframes", "script", "style", "template",
    "title"
  ]

/-- Closes a template, and all inside it. -/
def closeTemplate : Building Unit := do
  if (← get).inTemplate then
    popWhile fun b id => b.draft.isIn id (impliedEndWords ++ tableImpliedEndWords)
    popThrough ["template"]
    clearFormatting
    modify fun b => { b with templateModes := b.templateModes.drop 1 }
    resetMode

/-- The start tag of metadata. -/
def startHead (tag : Tag) : Building Unit := do
  match tag.word with
  | "title" => openRaw tag (.replaceable "title")
  | "noframes" => openRaw tag (.raw "noframes")
  | "style" => openRaw tag (.raw "style")
  | "script" => openRaw tag (.script "script")
  | "template" =>
      openTag tag
      markFormatting
      modify fun b => { b with mode := .template, templateModes := .template :: b.templateModes }
  | _ => addTag tag

/-! ### Start tags of running text -/

/-- Elements that close a paragraph and open. -/
def blockWords : List String :=
  [
    "address", "article", "aside", "blockquote", "center", "details", "dialog", "dir", "div",
    "dl", "fieldset", "figcaption", "figure", "footer", "header", "hgroup", "main", "menu",
    "nav", "ol", "p", "search", "section", "summary", "ul"
  ]

/-- Formatting elements other than links and unbroken lines. -/
def formattingWords : List String :=
  ["b", "big", "code", "em", "font", "i", "s", "small", "strike", "strong", "tt", "u"]

/-- Closes an item that is open when a like one starts, unless a special element other than an
address, a division or a paragraph is in between.
-/
def closeOpenItem (words : List String) : Building Unit := do
  let b ← get
  let found := b.openElements.find? fun id =>
    b.draft.isIn id words
      || (b.draft.isIn id specialWords && !b.draft.isIn id ["address", "div", "p"])
  match found.bind b.draft.name? with
  | some name => if name.isIn words then closeWord name.word
  | none => pure ()

/-- Opens an element inside the current formatting. -/
def openInline (tag : Tag) : Building Unit := do
  renewFormatting
  openTag tag

/-- Adds an empty element inside the current formatting. -/
def addInline (tag : Tag) : Building Unit := do
  renewFormatting
  addTag tag

/-- Opens an element whose name does not belong to HTML. -/
def openForeign (space : Space) (tag : Tag) : Building Unit := do
  renewFormatting
  if tag.selfClosing then discard (addElement ⟨space, tag.word⟩ tag.attributes)
  else discard (openElement ⟨space, tag.word⟩ tag.attributes)

/-- Opens a block, after closing a paragraph. -/
def openBlock (tag : Tag) : Building Unit := do
  closeParagraph
  openTag tag

/-- The start tag of a form; forms do not nest. -/
def startForm (tag : Tag) : Building Unit := do
  let b ← get
  if b.form.isNone || b.inTemplate then
    openBlock tag
    modify fun b => if b.inTemplate then b else { b with form := some b.current }

/-- The start tag of the parts of an annotation of characters. -/
def startRuby (except : String) (tag : Tag) : Building Unit := do
  if (← get).inScope ["ruby"] then popImplied except
  openTag tag

/-- A start tag in running text. -/
def startBody (tag : Tag) : Building Unit := do
  let b ← get
  let word := tag.word
  if headWords.contains word then startHead tag
  else if blockWords.contains word then openBlock tag
  else if headingWords.contains word then
    closeParagraph
    if (← get).currentIsIn headingWords then pop
    openTag tag
  else if formattingWords.contains word then
    renewFormatting
    openFormatting tag
  else match word with
    | "html" | "body" | "frameset" | "caption" | "col" | "colgroup" | "frame" | "head"
    | "tbody" | "td" | "tfoot" | "th" | "thead" | "tr" => pure ()
    | "pre" | "listing" =>
        openBlock tag
        modify fun b => { b with dropsNewline := true }
    | "form" => startForm tag
    | "li" =>
        closeOpenItem ["li"]
        openBlock tag
    | "dd" | "dt" =>
        closeOpenItem ["dd", "dt"]
        openBlock tag
    | "plaintext" =>
        openBlock tag
        modify fun b => { b with reading := .plain }
    | "button" =>
        if b.inScope ["button"] then
          popImplied ""
          popThrough ["button"]
        openInline tag
    | "a" =>
        endOpenLink
        renewFormatting
        openFormatting tag
    | "nobr" =>
        renewFormatting
        if (← get).inScope ["nobr"] then
          endFormatting "nobr"
          renewFormatting
        openFormatting tag
    | "applet" | "marquee" | "object" =>
        openInline tag
        markFormatting
    | "table" =>
        closeParagraph
        openTag tag
        setMode .table
    | "area" | "br" | "embed" | "img" | "keygen" | "wbr" | "input" => addInline tag
    | "image" => addInline { tag with word := "img" }
    | "param" | "source" | "track" => addTag tag
    | "hr" =>
        closeParagraph
        addTag tag
    | "textarea" =>
        openRaw tag (.replaceable "textarea")
        modify fun b => { b with dropsNewline := true }
    | "xmp" =>
        closeParagraph
        renewFormatting
        openRaw tag (.raw "xmp")
    | "iframe" | "noembed" | "noscript" => openRaw tag (.raw word)
    | "select" =>
        let inTable :=
          [Mode.table, .caption, .tableBody, .row, .cell].contains b.mode
        openInline tag
        setMode (if inTable then .selectInTable else .select)
    | "optgroup" | "option" =>
        if b.currentIsIn ["option"] then pop
        openInline tag
    | "rb" | "rtc" => startRuby "" tag
    | "rp" | "rt" => startRuby "rtc" tag
    | "math" => openForeign .math tag
    | "svg" => openForeign .svg tag
    | _ => openInline tag

/-! ### End tags of running text -/

/-- Elements that an end tag closes together with all that may end without a tag. -/
def closingBlockWords : List String :=
  (blockWords.filter (· ≠ "p")) ++ ["button", "listing", "pre"]

/-- The end tag of a form. -/
def finishForm : Building Unit := do
  let b ← get
  if b.inTemplate then
    if b.inScope ["form"] then
      popImplied ""
      popThrough ["form"]
  else
    set { b with form := none }
    match b.form with
    | some id =>
        if b.findInScope (· = id) b.endsScope then
          popImplied ""
          removeOpen id
    | none => pure ()

/-- An end tag in running text. -/
def finishBody (word : String) : Building Unit := do
  let b ← get
  if closingBlockWords.contains word then
    if b.inScope [word] then
      popImplied ""
      popThrough [word]
  else if headingWords.contains word then
    if b.inScope headingWords then
      popImplied ""
      popThrough headingWords
  else if formattingWords.contains word then endFormatting word
  else match word with
    | "template" => closeTemplate
    | "body" | "html" => pure ()
    | "form" => finishForm
    | "p" =>
        if !b.paragraphInScope then openWord "p"
        closeWord "p"
    | "li" =>
        if b.inScopeWithin ["ol", "ul"] ["li"] then closeWord "li"
    | "dd" | "dt" =>
        if b.inScope [word] then closeWord word
    | "a" | "nobr" => endFormatting word
    | "applet" | "marquee" | "object" =>
        if b.inScope [word] then
          popImplied ""
          popThrough [word]
          clearFormatting
    | "br" => addInline { word := "br", attributes := [], selfClosing := false }
    | _ => closeOrdinary word

/-- A token in running text. -/
def inBody : Token → Building Unit
  | .start tag => startBody tag
  | .finish word => finishBody word
  | .text content => do
      renewFormatting
      addText content
  | .comment content => addComment content
  | .zero | .doctype => pure ()

end BlogSnapshot.Html.Builder
