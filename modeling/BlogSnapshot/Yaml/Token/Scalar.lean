import BlogSnapshot.Yaml.Fault
import BlogSnapshot.Yaml.Cursor

/-! Scalars in quotes, plain scalars and block scalars.
-/

namespace BlogSnapshot.Yaml.Token

/-- The character that a one-letter escape stands for. -/
def escaped? : Char → Option Char
  | '0' => some '\x00'
  | 'a' => some '\x07'
  | 'b' => some '\x08'
  | 't' => some '\t'
  | '\t' => some '\t'
  | 'n' => some '\n'
  | 'v' => some '\x0b'
  | 'f' => some '\x0c'
  | 'r' => some '\r'
  | 'e' => some '\x1b'
  | ' ' => some ' '
  | '"' => some '"'
  | '\\' => some '\\'
  | '/' => some '/'
  | 'N' => some '\u0085'
  | '_' => some '\u00a0'
  | 'L' => some '\u2028'
  | 'P' => some '\u2029'
  | _ => none

/-- The number of hexadecimal digits after an escape letter. -/
def escapeLength? : Char → Option Nat
  | 'x' => some 2
  | 'u' => some 4
  | 'U' => some 8
  | _ => none

/-- The number that hexadecimal digits denote. -/
def ofHex (ds : List Char) : Nat :=
  ds.foldl (fun n d => 16 * n + hexValue d) 0

/-- The character with a code; codes beyond the last plane are refused. Texts are made of Unicode
scalar values here: half of a surrogate pair is none of them and is replaced, so that two texts
which differ in such halves only are not told apart.
-/
def charOfCode (code : Nat) : Except Failure Char :=
  if 0xd800 ≤ code && code < 0xe000 then .ok '\ufffd'
  else if code < 0x110000 then .ok (Char.ofNat code)
  else if code < 0x80000000 then .error (.fault .characterCode)
  else .error (.fault .characterOverflow)

/-- Empty lines inside a quoted scalar, up to the next character that is not a space. -/
def quotedBreaks (start : Mark) : Nat → Cursor → Except Error (List Char × Cursor)
  | 0, c => .ok ([], c)
  | fuel + 1, c =>
      if c.atSeparator then c.fail .quotedScalar start .documentSeparator
      else
        let c := c.skipWhile fun d => d = ' ' || d = '\t'
        if c.peek.any isBreak then do
          let (line, c) := c.lineBreak
          let (more, c) ← quotedBreaks start fuel c
          pure (line ++ more, c)
        else .ok ([], c)

/-- White space inside a quoted scalar. A single line end folds to a space, and a run of them
loses the first.
-/
def quotedSpaces (start : Mark) (c : Cursor) : Except Error (List Char × Cursor) :=
  let (spaces, c) := c.span fun d => d = ' ' || d = '\t'
  match c.peek with
  | none => c.fail .quotedScalar start .endOfText
  | some d =>
      if isBreak d then do
        let (line, c) := c.lineBreak
        let (breaks, c) ← quotedBreaks start (c.rest.length + 1) c
        let lead := if line ≠ ['\n'] then line else if breaks.isEmpty then [' '] else []
        pure (lead ++ breaks, c)
      else .ok (spaces, c)

/-- The characters of an escape after its backslash. -/
def escape (start : Mark) (c : Cursor) : Except Failure (List Char × Cursor) :=
  match c.peek with
  | none => (c.fail .doubleQuotedScalar start (.unknownEscape none)).mapError .text
  | some d =>
      match escaped? d, escapeLength? d with
      | some e, _ => .ok ([e], c.next)
      | none, some count =>
          let c := c.next
          let digits := c.rest.take count
          match digits.find? (!isHex ·) with
          | some bad =>
              (c.fail .doubleQuotedScalar start (.expected (.hexEscape count) (some bad))).mapError
                .text
          | none =>
              if digits.length < count then
                (c.fail .doubleQuotedScalar start (.expected (.hexEscape count) none)).mapError
                  .text
              else do
                let e ← charOfCode (ofHex digits)
                pure ([e], c.skip count)
      | none, none =>
          if isBreak d then
            let (_, c) := c.lineBreak
            (quotedBreaks start (c.rest.length + 1) c).mapError .text
          else (c.fail .doubleQuotedScalar start (.unknownEscape (some d))).mapError .text

/-- The text of a quoted scalar up to its closing quote, and the cursor after the quote. -/
def quotedText (double : Bool) (start : Mark)
    : Nat → Cursor → Except Failure (List Char × Cursor)
  | 0, c => .ok ([], c)
  | fuel + 1, c => do
      let step : Option (List Char × Cursor) ←
        match c.rest with
        | '\'' :: '\'' :: _ =>
            pure (some (['\''], if double then c.next else c.skip 2))
        | '\'' :: _ => pure (if double then some (['\''], c.next) else none)
        | '"' :: _ => pure (if double then none else some (['"'], c.next))
        | '\\' :: _ =>
            if double then some <$> escape start c.next else pure (some (['\\'], c.next))
        | d :: _ =>
            if d = ' ' || d = '\t' || isBreak d then
              some <$> (quotedSpaces start c).mapError .text
            else pure (some ([d], c.next))
        | [] => some <$> (quotedSpaces start c).mapError .text
      match step with
      | none => pure ([], c.next)
      | some (chunk, c) =>
          let (more, c) ← quotedText double start fuel c
          pure (chunk ++ more, c)

/-- A scalar in quotes. -/
def quoted (double : Bool) (c : Cursor) : Except Failure (Token × Cursor) := do
  let (text, stop) ← quotedText double c.mark (c.rest.length + 1) c.next
  pure (⟨.scalar (String.ofList text) false, c.mark, stop.mark⟩, stop)

/-- Whether a plain scalar ends before a character. -/
def endsPlain (flow : Bool) (d : Char) (next : Option Char) : Bool :=
  d = ' ' || d = '\t' || isBreak d
    || (d = ':' && (isBlankEnd next || (flow && next.any fun n => ",[]\x7b\x7d".toList.contains n)))
    || (flow && ",?[]\x7b\x7d".toList.contains d)

/-- The characters of a plain scalar on one line. -/
def plainRun (flow : Bool) (mark : Mark) : List Char → List Char × Cursor
  | [] => ([], ⟨[], mark⟩)
  | d :: rest =>
      if endsPlain flow d rest.head? then ([], ⟨d :: rest, mark⟩)
      else
        let (ds, c) := plainRun flow (mark.step d rest.head?) rest
        (d :: ds, c)

/-- Empty lines and indentation after a line of a plain scalar; nothing at a separator. -/
def plainBreaks : Nat → Cursor → Option (List Char) × Cursor
  | 0, c => (some [], c)
  | fuel + 1, c =>
      match c.peek with
      | none => (some [], c)
      | some d =>
          if d = ' ' then plainBreaks fuel c.next
          else if isBreak d then
            let (line, c) := c.lineBreak
            if c.atSeparator then (none, c)
            else
              let (more, c) := plainBreaks fuel c
              (more.map (line ++ ·), c)
          else (some [], c)

/-- White space after a run of a plain scalar, the cursor after it, and whether a line ended. -/
def plainSpaces (c : Cursor) : List Char × Cursor × Bool :=
  let (spaces, c) := c.span (· = ' ')
  if c.peek.any isBreak then
    let (line, c) := c.lineBreak
    if c.atSeparator then ([], c, true)
    else
      match plainBreaks (c.rest.length + 1) c with
      | (none, c) => ([], c, true)
      | (some breaks, c) =>
          let lead := if line ≠ ['\n'] then line else if breaks.isEmpty then [' '] else []
          (lead ++ breaks, c, true)
  else (spaces, c, false)

/-- What a plain scalar has read: its text, where it stopped, the cursor, and whether a simple
key may follow, which is so after a line end.
-/
structure PlainText where
  text : List Char
  stop : Mark
  cursor : Cursor
  keyMayFollow : Bool

/-- The lines of a plain scalar, with the white space before the next run. -/
def plainText (flow : Bool) (indent : Int) (spaces : List Char) (stop : Mark) (ended : Bool)
    : Nat → Cursor → PlainText
  | 0, c => ⟨[], stop, c, ended⟩
  | fuel + 1, c =>
      let (run, c') := if c.peek = some '#' then ([], c) else plainRun flow c.mark c.rest
      if run.isEmpty then ⟨[], stop, c, ended⟩
      else
        let (gap, after, ended) := plainSpaces c'
        if gap.isEmpty || after.peek = some '#' || (!flow && (after.mark.column : Int) < indent)
        then ⟨spaces ++ run, c'.mark, after, ended⟩
        else
          let more := plainText flow indent gap c'.mark ended fuel after
          { more with text := spaces ++ run ++ more.text }

/-- A plain scalar. -/
def plain (flow : Bool) (indent : Int) (c : Cursor) : Token × Cursor × Bool :=
  let p := plainText flow (indent + 1) [] c.mark false (c.rest.length + 1) c
  (⟨.scalar (String.ofList p.text) true, c.mark, p.stop⟩, p.cursor, p.keyMayFollow)

/-- What becomes of the line ends at the end of a block scalar. -/
inductive Chomping
  | strip
  | clip
  | keep
  deriving DecidableEq, Repr

/-- The chomping that a sign asks for. -/
def chomping? : Option Char → Option Chomping
  | some '+' => some .keep
  | some '-' => some .strip
  | _ => none

/-- An indentation of 1 to 9 written in the header of a block scalar. -/
def blockIncrement (start : Mark) (c : Cursor) : Except Error (Option Nat × Cursor) :=
  match c.peek with
  | some d =>
      if d.isDigit then
        if d = '0' then c.fail .blockScalar start .zeroIndent
        else .ok (some (d.toNat - 48), c.next)
      else .ok (none, c)
  | none => .ok (none, c)

/-- The header of a block scalar: chomping and indentation in either order. -/
def blockHeader (start : Mark) (c : Cursor)
    : Except Error (Chomping × Option Nat × Cursor) := do
  let (chomping, increment, c) ←
    match chomping? c.peek with
    | some ch => do
        let (increment, c) ← blockIncrement start c.next
        pure (ch, increment, c)
    | none => do
        let (increment, c) ← blockIncrement start c
        match increment, chomping? c.peek with
        | some _, some ch => pure (ch, increment, c.next)
        | _, _ => pure (Chomping.clip, increment, c)
  if isSpaceEnd c.peek then pure (chomping, increment, c)
  else c.expects .blockScalar start .blockIndicator

/-- The rest of the header line, which holds at most a comment. -/
def blockHeaderEnd (start : Mark) (c : Cursor) : Except Error Cursor :=
  let c := c.skipSpaces.skipComment
  if isLineEnd c.peek then .ok c.lineBreak.2 else c.expects .blockScalar start .lineEnd

/-- Leading empty lines of a block scalar, and the widest indentation among them. -/
def blockIndentation (widest : Nat) (stop : Mark)
    : Nat → Cursor → List Char × Nat × Mark × Cursor
  | 0, c => ([], widest, stop, c)
  | fuel + 1, c =>
      match c.peek with
      | none => ([], widest, stop, c)
      | some d =>
          if d = ' ' then blockIndentation (max widest c.next.mark.column) stop fuel c.next
          else if isBreak d then
            let (line, c) := c.lineBreak
            let (more, widest, stop, c) := blockIndentation widest c.mark fuel c
            (line ++ more, widest, stop, c)
          else ([], widest, stop, c)

/-- Past spaces up to a column. -/
def skipIndent (indent : Nat) : Nat → Cursor → Cursor
  | 0, c => c
  | fuel + 1, c =>
      if c.mark.column < indent && c.peek = some ' ' then skipIndent indent fuel c.next else c

/-- Empty lines inside a block scalar. -/
def blockBreaks (indent : Nat) (stop : Mark) : Nat → Cursor → List Char × Mark × Cursor
  | 0, c => ([], stop, c)
  | fuel + 1, c =>
      let c := skipIndent indent (c.rest.length + 1) c
      if c.peek.any isBreak then
        let (line, c) := c.lineBreak
        let (more, stop, c) := blockBreaks indent c.mark fuel c
        (line ++ more, stop, c)
      else ([], stop, c)

/-- Whether the cursor stands before text at the indentation of a block scalar. -/
def atBlockLine (indent : Nat) (c : Cursor) : Bool :=
  c.mark.column = indent && c.peek.isSome

/-- What a block scalar has read: its text, the last line end, the empty lines after it, where
it stopped and the cursor.
-/
structure BlockText where
  text : List Char
  lastBreak : List Char
  breaks : List Char
  stop : Mark
  cursor : Cursor

/-- The lines of a block scalar. Folding joins two lines by a space unless one of them starts
with a blank.
-/
def blockLines (folded : Bool) (indent : Nat) (breaks : List Char) (stop : Mark)
    : Nat → Cursor → BlockText
  | 0, c => ⟨[], [], breaks, stop, c⟩
  | fuel + 1, c =>
      let isBlankStart (d : Option Char) : Bool := d.any fun d => d = ' ' || d = '\t'
      let leadingBlank := isBlankStart c.peek
      let (line, c) := c.span (!isBreak ·)
      let (lineBreak, c) := c.lineBreak
      let (more, stop, c) := blockBreaks indent c.mark (c.rest.length + 1) c
      if atBlockLine indent c then
        let joint :=
          if folded && lineBreak = ['\n'] && !leadingBlank && !isBlankStart c.peek then
            if more.isEmpty then [' '] else []
          else lineBreak
        let tail := blockLines folded indent more stop fuel c
        { tail with text := breaks ++ line ++ joint ++ tail.text }
      else ⟨breaks ++ line, lineBreak, more, stop, c⟩

/-- A block scalar, which is indented more than the block that holds it. -/
def block (folded : Bool) (indent : Int) (c : Cursor) : Except Error (Token × Cursor) := do
  let start := c.mark
  let (chomping, increment, c) ← blockHeader start c.next
  let c ← blockHeaderEnd start c
  let least := (max (indent + 1) 1).toNat
  let (breaks, column, stop, c) :=
    match increment with
    | none =>
        let (breaks, widest, stop, c) := blockIndentation 0 c.mark (c.rest.length + 1) c
        (breaks, max least widest, stop, c)
    | some n =>
        let column := least + n - 1
        let (breaks, stop, c) := blockBreaks column c.mark (c.rest.length + 1) c
        (breaks, column, stop, c)
  let b :=
    if atBlockLine column c then blockLines folded column breaks stop (c.rest.length + 1) c
    else ⟨[], [], breaks, stop, c⟩
  let tail := match chomping with
    | .strip => []
    | .clip => b.lastBreak
    | .keep => b.lastBreak ++ b.breaks
  pure (⟨.scalar (String.ofList (b.text ++ tail)) false, start, b.stop⟩, b.cursor)

end BlogSnapshot.Yaml.Token
