import BlogSnapshot.Yaml.Token.Property

/-! The tokens of a text. A token that may turn out to be the key of a mapping is held back until
the colon after it is found or can no longer come; tokens released before an error stand before
it in the result.
-/

namespace BlogSnapshot.Yaml.Token

/-- A place where a simple key may have started: the number of its first token, whether it must
be a key, and its position.
-/
structure SimpleKey where
  number : Nat
  required : Bool
  mark : Mark
  deriving DecidableEq, Repr

/-- The state of scanning. `keys` holds the possible simple key of each flow level, and `taken`
counts the tokens that have been released.
-/
structure Scanner where
  cursor : Cursor
  queue : List Token := []
  taken : Nat := 0
  flowLevel : Nat := 0
  indent : Int := -1
  indents : List Int := []
  keyAllowed : Bool := true
  keys : List (Nat × SimpleKey) := []
  done : Bool := false

/-- The longest simple key in characters. -/
def maxKeyLength : Nat := 1024

namespace Scanner

def column (s : Scanner) : Int :=
  s.cursor.mark.column

def push (s : Scanner) (t : Token) : Scanner :=
  { s with queue := s.queue ++ [t] }

/-- A token of no length at the cursor. -/
def pushHere (s : Scanner) (kind : TokenKind) : Scanner :=
  s.push ⟨kind, s.cursor.mark, s.cursor.mark⟩

/-- A token of `n` characters at the cursor. -/
def pushNext (s : Scanner) (kind : TokenKind) (n : Nat) : Scanner :=
  let stop := s.cursor.skip n
  { s.push ⟨kind, s.cursor.mark, stop.mark⟩ with cursor := stop }

/-- Fails because a required key has no colon. -/
def missingColon {α : Type} (s : Scanner) (key : SimpleKey) : Except Error α :=
  s.cursor.fail .simpleKey key.mark .missingColon

/-- Drops the possible keys that started on an earlier line or too far back. -/
def dropStaleKeys (s : Scanner) : Except Error Scanner :=
  let here := s.cursor.mark
  let isStale (k : SimpleKey) : Bool :=
    k.mark.line ≠ here.line || maxKeyLength < here.index - k.mark.index
  match s.keys.find? fun (_, k) => isStale k && k.required with
  | some (_, k) => s.missingColon k
  | none => .ok { s with keys := s.keys.filter fun (_, k) => !isStale k }

/-- The possible key of the current flow level. -/
def currentKey? (s : Scanner) : Option SimpleKey :=
  s.keys.lookup s.flowLevel

/-- Forgets the possible key of the current flow level, which must not be required. -/
def removeKey (s : Scanner) : Except Error Scanner :=
  match s.currentKey? with
  | none => .ok s
  | some k =>
      if k.required then s.missingColon k
      else .ok { s with keys := s.keys.filter (·.1 ≠ s.flowLevel) }

/-- Notes that a simple key may start at the cursor, if one is allowed here. At the indentation
of its block it must be a key.
-/
def saveKey (s : Scanner) : Except Error Scanner :=
  if s.keyAllowed then do
    let required := s.flowLevel = 0 && s.indent = s.column
    let s ← s.removeKey
    let key := ⟨s.taken + s.queue.length, required, s.cursor.mark⟩
    pure { s with keys := s.keys ++ [(s.flowLevel, key)] }
  else .ok s

/-- Closes the blocks that are indented more than `column`. -/
def unwindTo (column : Int) : List Int → Scanner → Scanner
  | [], s => s
  | outer :: indents, s =>
      if column < s.indent then
        let s := { s with indent := outer, indents := indents }
        unwindTo column indents (s.pushHere .blockEnd)
      else s

def unwind (s : Scanner) (column : Int) : Scanner :=
  if s.flowLevel = 0 then unwindTo column s.indents s else s

/-- Opens a block at a column unless one is open there or further in. -/
def openBlock (s : Scanner) (column : Int) (add : Scanner → Scanner) : Scanner :=
  if s.indent < column then
    add { s with indents := s.indent :: s.indents, indent := column }
  else s

/-- The token inserted before the token with a number. -/
def insertAt (s : Scanner) (number : Nat) (t : Token) : Scanner :=
  let i := number - s.taken
  { s with queue := s.queue.take i ++ t :: s.queue.drop i }

/-- White space, comments and line ends before a token; a line end outside of flow collections
allows a simple key.
-/
def skipToToken : Nat → Scanner → Scanner
  | 0, s => s
  | fuel + 1, s =>
      let c := s.cursor.skipSpaces.skipComment
      if c.peek.any isBreak then
        skipToToken fuel
          { s with cursor := c.lineBreak.2, keyAllowed := s.keyAllowed || s.flowLevel = 0 }
      else { s with cursor := c }

/-- A byte order mark at the very start is passed over. -/
def skipByteOrderMark (s : Scanner) : Scanner :=
  if s.cursor.mark.index = 0 && s.cursor.peek = some '\ufeff' then
    { s with cursor := s.cursor.next }
  else s

/-- The end of the text. -/
def streamEnd (s : Scanner) : Except Error Scanner := do
  let s ← (s.unwind (-1)).removeKey
  pure { { s with keyAllowed := false, keys := [] }.pushHere .streamEnd with done := true }

/-- What precedes a directive or a document marker: all blocks end. -/
def endBlocks (s : Scanner) : Except Error Scanner := do
  let s ← (s.unwind (-1)).removeKey
  pure { s with keyAllowed := false }

def flowStart (s : Scanner) (kind : TokenKind) : Except Error Scanner := do
  let s ← s.saveKey
  pure ({ s with flowLevel := s.flowLevel + 1, keyAllowed := true }.pushNext kind 1)

def flowEnd (s : Scanner) (kind : TokenKind) : Except Error Scanner := do
  let s ← s.removeKey
  pure ({ s with flowLevel := s.flowLevel - 1, keyAllowed := false }.pushNext kind 1)

def flowEntry (s : Scanner) : Except Error Scanner := do
  let s ← { s with keyAllowed := true }.removeKey
  pure (s.pushNext .flowEntry 1)

/-- Fails because a block item is not allowed at the cursor. -/
def notAllowed {α : Type} (s : Scanner) (problem : Problem) : Except Error α :=
  .error (.at none problem s.cursor.mark)

def blockEntry (s : Scanner) : Except Error Scanner := do
  let s ←
    if s.flowLevel ≠ 0 then pure s
    else if s.keyAllowed then
      pure (s.openBlock s.column (·.pushHere .blockSequenceStart))
    else s.notAllowed .entryNotAllowed
  let s ← { s with keyAllowed := true }.removeKey
  pure (s.pushNext .blockEntry 1)

def key (s : Scanner) : Except Error Scanner := do
  let s ←
    if s.flowLevel ≠ 0 then pure s
    else if s.keyAllowed then
      pure (s.openBlock s.column (·.pushHere .blockMappingStart))
    else s.notAllowed .keyNotAllowed
  let s ← { s with keyAllowed := s.flowLevel = 0 }.removeKey
  pure (s.pushNext .key 1)

/-- A colon. After a possible simple key it makes that key one, and the key token goes before
the held back tokens of the key.
-/
def value (s : Scanner) : Except Error Scanner :=
  match s.currentKey? with
  | some k =>
      let s := { s with keys := s.keys.filter (·.1 ≠ s.flowLevel) }
      let s := s.insertAt k.number ⟨.key, k.mark, k.mark⟩
      let s :=
        if s.flowLevel = 0 then
          s.openBlock k.mark.column (·.insertAt k.number ⟨.blockMappingStart, k.mark, k.mark⟩)
        else s
      .ok ({ s with keyAllowed := false }.pushNext .value 1)
  | none => do
      let s ←
        if s.flowLevel ≠ 0 then pure s
        else if s.keyAllowed then
          pure (s.openBlock s.column (·.pushHere .blockMappingStart))
        else s.notAllowed .valueNotAllowed
      let s ← { s with keyAllowed := s.flowLevel = 0 }.removeKey
      pure (s.pushNext .value 1)

/-- A token that may be the start of a simple key. -/
def property (s : Scanner) (read : Cursor → Except Failure (Token × Cursor))
    : Except Failure Scanner := do
  let s ← s.saveKey.mapError .text
  let (t, c) ← read s.cursor
  pure { { s with keyAllowed := false }.push t with cursor := c }

def blockScalar (s : Scanner) (folded : Bool) : Except Error Scanner := do
  let s ← { s with keyAllowed := true }.removeKey
  let (t, c) ← block folded s.indent s.cursor
  pure { s.push t with cursor := c }

def plainScalar (s : Scanner) : Except Error Scanner := do
  let s ← s.saveKey
  let (t, c, keyAllowed) := plain (s.flowLevel ≠ 0) s.indent s.cursor
  pure { s.push t with cursor := c, keyAllowed }

/-- Whether a plain scalar starts at the cursor. -/
def atPlain (s : Scanner) (d : Char) : Bool :=
  !("-?:,[]\x7b\x7d#&*!|>'\"%@`".toList.contains d || d = ' ' || d = '\t' || isBreak d)
    || (!isBlankEnd (s.cursor.ahead 1)
      && (d = '-' || (s.flowLevel = 0 && (d = '?' || d = ':'))))

/-- Whether an indicator followed by a blank, or any in a flow collection, is at the cursor. -/
def atIndicator (s : Scanner) : Bool :=
  s.flowLevel ≠ 0 || isBlankEnd (s.cursor.ahead 1)

/-- Whether a line of three marks starts at the cursor, in the first column. -/
def atDocumentMark (s : Scanner) : Bool :=
  s.cursor.mark.column = 0 && s.cursor.atSeparator

/-- The tokens that start at the next character that is not white space. -/
def fetch (s : Scanner) : Except Failure Scanner := do
  let s := s.skipByteOrderMark
  let s ← (skipToToken (s.cursor.rest.length + 1) s).dropStaleKeys.mapError .text
  let s := s.unwind s.column
  match s.cursor.peek with
  | none => s.streamEnd.mapError .text
  | some d =>
      if d = '%' && s.cursor.mark.column = 0 then
        let s ← s.endBlocks.mapError .text
        let (t, c) ← directive s.cursor
        pure { s.push t with cursor := c }
      else if (d = '-' || d = '.') && s.atDocumentMark then
        let s ← s.endBlocks.mapError .text
        pure (s.pushNext (if d = '-' then .documentStart else .documentEnd) 3)
      else if d = '[' then (s.flowStart .flowSequenceStart).mapError .text
      else if d = '\x7b' then (s.flowStart .flowMappingStart).mapError .text
      else if d = ']' then (s.flowEnd .flowSequenceEnd).mapError .text
      else if d = '\x7d' then (s.flowEnd .flowMappingEnd).mapError .text
      else if d = ',' then s.flowEntry.mapError .text
      else if d = '-' && isBlankEnd (s.cursor.ahead 1) then s.blockEntry.mapError .text
      else if d = '?' && s.atIndicator then s.key.mapError .text
      else if d = ':' && s.atIndicator then s.value.mapError .text
      else if d = '*' then s.property fun c => (anchor true c).mapError .text
      else if d = '&' then s.property fun c => (anchor false c).mapError .text
      else if d = '!' then s.property fun c => (tag c).mapError .text
      else if (d = '|' || d = '>') && s.flowLevel = 0 then
        (s.blockScalar (d = '>')).mapError .text
      else if d = '\'' || d = '"' then s.property (quoted (d = '"'))
      else if s.atPlain d then s.plainScalar.mapError .text
      else .error (.text (.at (some (.nextToken, none)) (.noToken d) s.cursor.mark))

/-- Whether the first token of the queue may still become a key. -/
def isHeld (s : Scanner) : Bool :=
  s.keys.any fun (_, k) => k.number = s.taken

/-- Releases tokens and fetches more of them until the text or the fuel ends. -/
def run : Nat → Scanner → List Token × Option Failure
  | 0, s => (s.queue, none)
  | fuel + 1, s =>
      if s.done then (s.queue, none)
      else
        let more (s : Scanner) : List Token × Option Failure :=
          match s.fetch with
          | .error e => ([], some e)
          | .ok s =>
              match s.dropStaleKeys with
              | .error e => ([], some (.text e))
              | .ok s => run fuel s
        match s.queue with
        | [] => more s
        | t :: queue =>
            if s.isHeld then more s
            else
              let (ts, e) := run fuel { s with queue, taken := s.taken + 1 }
              (t :: ts, e)

end Scanner

/-- The tokens of a text up to its end or to the first failure. Each round fetches a character or
releases a token, and no character gives more than four tokens.
-/
def scan (text : List Char) : List Token × Option Failure :=
  let start : Scanner := { cursor := ⟨text, {}⟩ }
  Scanner.run (6 * text.length + 10) (start.pushHere .streamStart)

end BlogSnapshot.Yaml.Token
