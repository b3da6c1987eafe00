import BlogSnapshot.Text.Utf8
import BlogSnapshot.Yaml.Fault
import BlogSnapshot.Yaml.Cursor
import BlogSnapshot.Yaml.Token.Scalar

/-! Anchors, aliases, tags and directives.
-/

namespace BlogSnapshot.Yaml.Token

/-- Characters that may follow the name of an anchor or alias. -/
def endsAnchor (c : Option Char) : Bool :=
  isBlankEnd c || c.any fun d => "?:,]\x7d%@`".toList.contains d

/-- An anchor or an alias. -/
def anchor (isAlias : Bool) (c : Cursor) : Except Error (Token × Cursor) :=
  let activity := if isAlias then Activity.aliasName else .anchor
  let (name, stop) := c.next.span isNameChar
  if name.isEmpty || !endsAnchor stop.peek then
    stop.expects activity c.mark .nameCharacter
  else
    let name := String.ofList name
    .ok (⟨if isAlias then .aliasTo name else .anchor name, c.mark, stop.mark⟩, stop)

/-- Whether a tag or a directive is being read. -/
inductive TagPlace
  | tag
  | directive
  deriving DecidableEq, Repr

def TagPlace.scanning : TagPlace → Activity
  | tag => .tag
  | directive => .directive

def TagPlace.parsing : TagPlace → Activity
  | tag => .tagText
  | directive => .directiveText

/-- A tag handle: an exclamation mark, or a name between two of them. A single mark is a handle
only before a space.
-/
def tagHandle (place : TagPlace) (start : Mark) (c : Cursor)
    : Except Error (String × Cursor) :=
  if c.peek ≠ some '!' then c.expects place.scanning start .handleMark
  else if c.ahead 1 = some ' ' then .ok ("!", c.next)
  else
    let (name, stop) := c.next.span isNameChar
    if stop.peek = some '!' then
      .ok ("!" ++ String.ofList name ++ "!", stop.next)
    else stop.expects place.scanning start .handleMark

/-- Characters of a tag apart from its percent escapes. -/
def isUriChar (c : Char) : Bool :=
  c.isAlphanum || "-;/?:@&=+$,_.!~*'()[]".toList.contains c

/-- The bytes of a run of percent escapes. -/
def uriBytes (place : TagPlace) (start : Mark) : Nat → Cursor → Except Error (List Nat × Cursor)
  | 0, c => .ok ([], c)
  | fuel + 1, c =>
      if c.peek ≠ some '%' then .ok ([], c)
      else
        let c := c.next
        let digits := c.rest.take 2
        match digits.find? (!isHex ·) with
        | some bad => c.fail place.scanning start (.expected .uriEscape (some bad))
        | none =>
            if digits.length < 2 then c.fail place.scanning start (.expected .uriEscape none)
            else do
              let (more, c) ← uriBytes place start fuel (c.skip 2)
              pure (ofHex digits :: more, c)

/-- The wording of a failure to decode percent escapes. -/
def uriFaultText (bytes : List Nat) (f : Text.Utf8Fault) : String :=
  "'utf-8' codec can't decode "
    ++ (if f.span = 1 then
        "byte 0x" ++ String.ofList (Text.hexFixed 2 (bytes.getD f.position 0)) ++ " in position "
          ++ toString f.position
      else
        "bytes in position " ++ toString f.position ++ "-"
          ++ toString (f.position + f.span - 1))
    ++ ": " ++ f.cause.text

/-- The text of a tag, its percent escapes decoded run by run. -/
def uriText (place : TagPlace) (start : Mark) : Nat → Cursor → Except Error (List Char × Cursor)
  | 0, c => .ok ([], c)
  | fuel + 1, c => do
      let (run, c) := c.span isUriChar
      if c.peek = some '%' then
        let (bytes, stop) ← uriBytes place start (c.rest.length + 1) c
        match Text.decodeUtf8 bytes with
        | .error f => c.fail place.scanning start (.undecodableUri (uriFaultText bytes f))
        | .ok decoded =>
            let (more, c) ← uriText place start fuel stop
            pure (run ++ decoded ++ more, c)
      else pure (run, c)

/-- A tag text, which cannot be empty. -/
def tagUri (place : TagPlace) (start : Mark) (c : Cursor) : Except Error (String × Cursor) := do
  let (text, stop) ← uriText place start (c.rest.length + 1) c
  if text.isEmpty && stop = c then c.expects place.parsing start .uri
  else pure (String.ofList text, stop)

/-- Whether an exclamation mark comes before the next space or line end. -/
def handleFollows : List Char → Bool
  | [] => false
  | d :: rest => d = '!' || (d ≠ ' ' && !isBreak d && handleFollows rest)

/-- A tag. -/
def tag (c : Cursor) : Except Error (Token × Cursor) := do
  let start := c.mark
  let (name, stop) ←
    if c.ahead 1 = some '<' then do
      let (suffix, stop) ← tagUri .tag start (c.skip 2)
      if stop.peek ≠ some '>' then stop.expects .tagText start .tagEnd
      else pure (TagName.mk none suffix, stop.next)
    else if isBlankEnd (c.ahead 1) then pure (TagName.mk none "!", c.next)
    else do
      let (handle, stop) ←
        if handleFollows c.next.rest then tagHandle .tag start c else pure ("!", c.next)
      let (suffix, stop) ← tagUri .tag start stop
      pure (TagName.mk (some handle) suffix, stop)
  if isSpaceEnd stop.peek then pure (⟨.tag name, start, stop.mark⟩, stop)
  else stop.expects .tag start .space

/-- A number in a version directive. -/
def versionNumber (start : Mark) (c : Cursor) : Except Failure (Nat × Cursor) :=
  let (ds, stop) := c.span Char.isDigit
  if ds.isEmpty then (c.expects .directive start .digit).mapError .text
  else if maxDigits < ds.length then .error (.fault (.tooManyDigits ds.length))
  else .ok (ds.foldl (fun n d => 10 * n + (d.toNat - 48)) 0, stop)

/-- The version of a version directive. -/
def versionValue (start : Mark) (c : Cursor) : Except Failure (Directive × Cursor) := do
  let (major, c) ← versionNumber start c.skipSpaces
  if c.peek ≠ some '.' then (c.expects .directive start .digitOrPoint).mapError .text
  else
    let (minor, c) ← versionNumber start c.next
    if isSpaceEnd c.peek then pure (.version major minor, c)
    else (c.expects .directive start .digitOrSpace).mapError .text

/-- The handle and the stem of a tag directive. -/
def tagValue (start : Mark) (c : Cursor) : Except Error (Directive × Cursor) := do
  let (handle, c) ← tagHandle .directive start c.skipSpaces
  if c.peek ≠ some ' ' then c.expects .directive start .space
  else
    let (stem, c) ← tagUri .directive start c.skipSpaces
    if isSpaceEnd c.peek then pure (.tag handle stem, c) else c.expects .directive start .space

/-- A directive line. -/
def directive (c : Cursor) : Except Failure (Token × Cursor) := do
  let start := c.mark
  let (name, c) := c.next.span isNameChar
  if name.isEmpty || !isSpaceEnd c.peek then
    (c.expects .directive start .nameCharacter).mapError .text
  else
    let (d, c) ←
      if name = "YAML".toList then versionValue start c
      else if name = "TAG".toList then (tagValue start c).mapError .text
      else pure (Directive.other (String.ofList name), c)
    let stop := c.mark
    let c := match d with
      | .other _ => c.skipLine
      | _ => c
    let c := c.skipSpaces.skipComment
    if isLineEnd c.peek then pure (⟨.directive d, start, stop⟩, c.lineBreak.2)
    else (c.expects .directive start .lineEnd).mapError .text

end BlogSnapshot.Yaml.Token
