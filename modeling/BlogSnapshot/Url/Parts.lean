import BlogSnapshot.Text.Lowercase
import BlogSnapshot.Text.Quoted
import BlogSnapshot.Url.Address

/-! Splitting a URL reference into scheme, authority, path, query and fragment. Only the
brackets and the delimiters of the authority can make it fail.
-/

namespace BlogSnapshot

/-- Why the authority of a URL is refused. -/
inductive UrlFault
  | brackets
  | futureAddress
  | noAddress (host : String)
  | dottedAddress
  | hiddenDelimiter (authority : String)
  deriving DecidableEq, Repr

/-- The wording of a URL fault. -/
def UrlFault.message : UrlFault → String
  | brackets => "Invalid IPv6 URL"
  | futureAddress => "IPvFuture address is invalid"
  | noAddress host => host.quotedText ++ " does not appear to be an IPv4 or IPv6 address"
  | dottedAddress => "An IPv4 address cannot be in brackets"
  | hiddenDelimiter authority =>
      "netloc '" ++ authority ++ "' contains invalid characters under NFKC normalization"

namespace Url

open Text

/-- The five components; a missing one is empty. -/
structure Parts where
  scheme : List Char
  authority : List Char
  path : List Char
  query : List Char
  fragment : List Char
  deriving DecidableEq, Repr

/-- Controls and the space, which are dropped at the head of a URL. -/
def isControlOrSpace (c : Char) : Bool :=
  c.toNat ≤ 0x20

/-- Tabs and line ends, which are dropped everywhere in a URL. -/
def isLayout (c : Char) : Bool :=
  c = '\t' || c = '\n' || c = '\r'

/-- The URL without what is dropped from it. -/
def cleaned (url : List Char) : List Char :=
  (url.dropWhile isControlOrSpace).filter (!isLayout ·)

def isSchemeChar (c : Char) : Bool :=
  c.isAlphanum || c = '+' || c = '-' || c = '.'

/-- A scheme is a letter and further scheme characters before the first colon. -/
def splitScheme (url : List Char) : List Char × List Char :=
  match cutAt (· = ':') url with
  | (head@(first :: _), some rest) =>
      if first.isAlpha && head.all isSchemeChar then (lower head, rest) else ([], url)
  | _ => ([], url)

/-- An authority follows two slashes and ends before a slash, question mark or number sign. -/
def splitAuthority : List Char → List Char × List Char
  | '/' :: '/' :: rest =>
      let ends (c : Char) : Bool := c = '/' || c = '?' || c = '#'
      (rest.takeWhile (!ends ·), rest.dropWhile (!ends ·))
  | url => ([], url)

/-- Characters that stand for text with a delimiter of the authority in it. -/
def hiddenDelimiters : List Nat :=
  [
    0x2047, 0x2048, 0x2049, 0x2100, 0x2101, 0x2105, 0x2106, 0x2a74, 0xfe13, 0xfe16, 0xfe55,
    0xfe56, 0xfe5f, 0xfe6b, 0xff03, 0xff0f, 0xff1a, 0xff1f, 0xff20
  ]

/-- What a host in brackets must be. -/
def checkBracketed (host : List Char) : Except UrlFault Unit :=
  if host.head? = some 'v' then
    if isFutureAddress host then .ok () else .error .futureAddress
  else if isDottedAddress host then .error .dottedAddress
  else if isGroupedAddress host then .ok ()
  else .error (.noAddress (String.ofList host))

/-- Brackets come in pairs, enclose the whole host, and hold a literal address. -/
def checkBrackets (authority : List Char) : Except UrlFault Unit :=
  if authority.contains '[' ≠ authority.contains ']' then .error .brackets
  else if authority.contains '[' then
    match cutAt (· = '[') (afterLast (· = '@') authority) with
    | (host, none) => checkBracketed (cutAt (· = ':') host).1
    | (before, some bracketed) =>
        let (host, port) := cutAt (· = ']') bracketed
        let port := port.getD []
        if !before.isEmpty || (!port.isEmpty && port.head? ≠ some ':') then .error .brackets
        else checkBracketed host
  else .ok ()

/-- No character of an authority stands for text with a delimiter in it. -/
def checkDelimiters (authority : List Char) : Except UrlFault Unit :=
  if authority.any fun c => hiddenDelimiters.contains c.toNat then
    .error (.hiddenDelimiter (String.ofList authority))
  else .ok ()

/-- The text before the first `mark`, and the text after it, which is empty without one. -/
def splitOff (mark : Char) (s : List Char) : List Char × List Char :=
  let (head, tail) := cutAt (· = mark) s
  (head, tail.getD [])

/-- The components of a URL. -/
def split (url : List Char) : Except UrlFault Parts := do
  let (scheme, rest) := splitScheme (cleaned url)
  let (authority, rest) := splitAuthority rest
  checkBrackets authority
  let (rest, fragment) := splitOff '#' rest
  let (path, query) := splitOff '?' rest
  checkDelimiters authority
  pure { scheme, authority, path, query, fragment }

/-- The extension of a file name: what follows its last dot, unless only dots precede it. -/
def extensionOf (name : List Char) : List Char :=
  let ext := afterLast (· = '.') name
  if ext.length < name.length
      && (name.take (name.length - ext.length - 1)).any (· ≠ '.') then ext
  else []

/-- The lower-case extension of the last segment of a URL's path, or nothing. -/
def fileExtension (url : String) : Except UrlFault (Option String) := do
  let parts ← split url.toList
  let ext := lower (extensionOf (afterLast (· = '/') parts.path))
  pure (if ext.isEmpty then none else some (String.ofList ext))

end Url

end BlogSnapshot
