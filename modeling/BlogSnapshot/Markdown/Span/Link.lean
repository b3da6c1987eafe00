import BlogSnapshot.Markdown.Span.Literal

/-! Patterns for links and images: a text in brackets, with an address in parentheses or with the
label of a reference.
-/

namespace BlogSnapshot.Markdown.Span

open Text

/-! ### Reading -/

/-- Reads up to the bracket that closes `depth` open ones: the text before it, and the text after
it.
-/
def readBracketed? : Nat → List Char → Option (List Char × List Char)
  | _, [] => none
  | depth, c :: rest =>
      let depth := if c = '[' then depth + 1 else if c = ']' then depth - 1 else depth
      if depth = 0 then some ([], rest)
      else (readBracketed? depth rest).map fun (text, rest) => (c :: text, rest)

/-- An address in angle brackets with a title in quotes, up to the closing parenthesis. -/
def readAngled? (s : List Char) : Option (List Char × Option (List Char) × List Char) := do
  let address ← bracketed? s
  let rest := trimLeft (s.drop (address.length + 2))
  let titled? := do
    let quote ← rest.head?
    if quote = '"' || quote = '\'' then
      let (title, after) := cutAt (· = quote) (rest.drop 1)
      let after ← afterLead? [')'] (trimLeft (← after))
      some (trim address, some title, after)
    else none
  let plain? := do
    let after ← afterLead? [')'] rest
    some (trim address, none, after)
  titled?.orElse fun _ => plain?

/-- A quote that may begin a title: the mark, where the title starts, and where the last mark of
the same kind ends it.
-/
structure Quote where
  mark : Char
  start : Nat
  finish : Option Nat
  deriving DecidableEq, Repr

/-- Whether the title is complete when `last` is the last character but for spaces. -/
def Quote.isClosedBy (q : Quote) (last : Option Char) : Bool :=
  q.finish.isSome && last = some q.mark

/-- The state of reading an address in parentheses. After the first quote parentheses count no
more, except to find an end in case the quote begins no title.
-/
structure AddressScan where
  count : Nat
  /-- The number of open parentheses. -/
  depth : Nat
  /-- The number of parentheses until the end that counts if there is no title. -/
  spare : Nat
  /-- Where that end is. -/
  fallback : Option Nat
  first : Option Quote
  second : Option Quote
  /-- The last character that is no space. -/
  last : Option Char
  deriving Repr

namespace AddressScan

def initial : AddressScan where
  count := 0
  depth := 1
  spare := 1
  fallback := none
  first := none
  second := none
  last := none

/-- The quotes after one more mark of a quote. -/
def withQuote (s : AddressScan) (c : Char) : AddressScan :=
  match s.first, s.second with
  | none, _ =>
      { s with first := some ⟨c, s.count + 1, none⟩, spare := s.depth, depth := 1 }
  | some q, none =>
      if c = q.mark then { s with first := some { q with finish := some (s.count + 1) } }
      else { s with second := some ⟨c, s.count + 1, none⟩ }
  | some q, some r =>
      if c = q.mark then { s with first := some { q with finish := some (s.count + 1) } }
      else { s with second := some { r with finish := some (s.count + 1) } }

/-- The state after one more character. -/
def next (s : AddressScan) (c : Char) : AddressScan :=
  let hasTitle := s.first.any (·.isClosedBy s.last) || s.second.any (·.isClosedBy s.last)
  let s :=
    if c = '(' then
      if s.first.isNone then { s with depth := s.depth + 1 } else { s with spare := s.spare - 1 }
    else if c = ')' then
      if hasTitle then { s with depth := 0 }
      else if s.first.isNone then { s with depth := s.depth - 1 }
      else if s.spare = 1 then { s with spare := 0, fallback := some (s.count + 1) }
      else { s with spare := s.spare - 1 }
    else if c = '"' || c = '\'' then s.withQuote c
    else s
  { s with count := s.count + 1, last := if c = ' ' || s.depth = 0 then s.last else some c }

/-- Reads characters until no parenthesis is open. -/
def readFrom (s : AddressScan) : List Char → AddressScan
  | [] => s
  | c :: rest => if s.depth = 0 then s else readFrom (s.next c) rest

/-- The part of a text from one place to another. -/
def part (text : List Char) (start finish : Nat) : List Char :=
  (text.take finish).drop start

/-- The address and the title that have been read, and the number of characters. -/
def result? (s : AddressScan) (text : List Char)
    : Option (List Char × Option (List Char) × Nat) :=
  let title? (q? : Option Quote) : Option (List Char × Option (List Char) × Nat) := do
    let q ← q?
    let finish ← q.finish
    if q.isClosedBy s.last then
      some (text.take (q.start - 1), some (part text q.start (finish - 1)), s.count)
    else none
  if s.depth = 0 then
    (title? s.first).orElse fun _ =>
      (title? s.second).orElse fun _ => some (text.take (s.count - 1), none, s.count)
  else if s.spare = 0 then
    let finish := s.fallback.getD (text.length - 1)
    some (text.take (finish - 1), none, finish)
  else none

end AddressScan

/-- A text without quotes around it. -/
def unquoted (s : List Char) : List Char :=
  let quoted := (s.head? = some '"' && s.getLast? = some '"')
    || (s.head? = some '\'' && s.getLast? = some '\'')
  if quoted then (s.drop 1).dropLast else s

/-- Reads an address and a title in parentheses; the text after them. -/
def readAddress? (s : List Char)
    : Spanning (Option (List Char × Option (List Char) × List Char)) := do
  let found? := do
    let s := trimLeft (← afterLead? ['('] s)
    let scanned? := do
      let (address, title, n) ← (AddressScan.initial.readFrom s).result? s
      some (address, title, s.drop n)
    (readAngled? s).orElse fun _ => scanned?
  match found? with
  | none => pure none
  | some (address, title, rest) =>
      let address := trim (← shownText address)
      let title ← title.mapM fun title => do
        let shown ← shownText (trim title)
        pure ((unquoted shown).map fun c => if isBlank c then ' ' else c)
      pure (some (address, title, rest))

/-! ### Elements -/

/-- An element with an address, and a title if there is one. -/
def addressed (e : Element) (name : String) (address : List Char)
    (title : Option (List Char)) : Element :=
  let e := e.set name address
  match title with
  | some title => e.set "title" title
  | none => e

/-- Whether a text starts with the bracket of a link. -/
def startsLink (before s : List Char) : Bool :=
  s.head? = some '[' && before.head? ≠ some '!'

/-- A link to an address. -/
def linkPattern : Pattern := fun before s => do
  if !startsLink before s then pure .nothing
  else match readBracketed? 1 (s.drop 1) with
    | none => pure (.passed 1)
    | some (text, rest) =>
        match ← readAddress? rest with
        | none => pure (.passed 1)
        | some (address, title, rest) =>
            let e := addressed (.ofText "a" text) "href" address title
            pure (.found (.element e) (s.length - rest.length))

/-- An image at an address. -/
def imagePattern : Pattern := fun _ s => do
  if !startsWith s ['!', '['] then pure .nothing
  else match readBracketed? 1 (s.drop 2) with
    | none => pure (.passed 2)
    | some (text, rest) =>
        match ← readAddress? rest with
        | none => pure (.passed 2)
        | some (address, title, rest) =>
            let e := addressed (.bare "img") "src" address title
            pure (.found (.element (e.set "alt" (← shownText text))) (s.length - rest.length))

/-- A text with one space for every run of blanks. -/
def withSingleSpaces : List Char → List Char
  | [] => []
  | c :: rest =>
      if isBlank c then
        if rest.head?.any isBlank then withSingleSpaces rest else ' ' :: withSingleSpaces rest
      else c :: withSingleSpaces rest

/-- Reads the label after the text of a link, which is the text itself if it is empty. -/
def readLabel? (text s : List Char) : Option (List Char × List Char) := do
  let inner ← afterLead? ['['] (if s.head?.any isBlank then s.drop 1 else s)
  match cutAt (· = ']') inner with
  | (label, some rest) => some (if label.isEmpty then lower text else lower label, rest)
  | (_, none) => none

/-- What the text in brackets after `start` refers to. Brackets with an unknown label are passed
over.
-/
def referring (start : List Char) (short : Bool)
    (element : List Char → Reference → Spanning Element) (s : List Char)
    : Spanning Finding := do
  match readBracketed? 1 (s.drop start.length) with
  | none => pure (.passed start.length)
  | some (text, rest) =>
      match if short then some (lower text, rest) else readLabel? text rest with
      | none => pure (.passed start.length)
      | some (label, rest) =>
          let n := s.length - rest.length
          match (← get).references.lookup (withSingleSpaces label) with
          | none => pure (.passed n)
          | some reference => pure (.found (.element (← element text reference)) n)

/-- The title of a reference, unless it is empty. -/
def titleOf (r : Reference) : Option (List Char) :=
  r.title.filter (!·.isEmpty)

/-- A link to what a label stands for. -/
def linkReferencePattern (short : Bool) : Pattern := fun before s =>
  if !startsLink before s then pure .nothing
  else
    referring ['['] short
      (fun text r => pure (addressed (.ofText "a" text) "href" r.address (titleOf r))) s

/-- An image at what a label stands for. -/
def imageReferencePattern (short : Bool) : Pattern := fun _ s =>
  if !startsWith s ['!', '['] then pure .nothing
  else
    referring ['!', '['] short
      (fun text r => do
        let e := addressed (.bare "img") "src" r.address (titleOf r)
        pure (e.set "alt" (← shownText text))) s

end BlogSnapshot.Markdown.Span
