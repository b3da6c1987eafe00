import BlogSnapshot.Markdown.AttributeList
import BlogSnapshot.Markdown.Fault
import BlogSnapshot.Markdown.Held
import BlogSnapshot.Markdown.Write
import BlogSnapshot.Text.DecimalDigit
import BlogSnapshot.Text.WordChar

/-! Code between two lines of the same marks. It is final as soon as it is found, and held back.
-/

namespace BlogSnapshot.Markdown

open Text

/-- The value of a setting of a block of code. -/
inductive CodeValue where
  | text (chars : List Char)
  | lines (numbers : List Int)
  | flag (value : Option Bool)
  deriving DecidableEq, Repr

/-- What the first line of a block of code says about it. -/
structure CodeInfo where
  language : Option (List Char)
  identity : List Char
  classes : List (List Char)
  values : List (List Char × CodeValue)
  deriving DecidableEq, Repr

namespace CodeInfo

/-- The value of a flag: some words mean yes, some no, and all others neither. -/
def flagOf (word : List Char) : Option Bool :=
  let word := String.ofList (lower word)
  if ["true", "yes", "y", "on", "1"].contains word then some true
  else if ["false", "no", "n", "off", "0"].contains word then some false
  else none

/-- Reads an integer: a sign and digits, with single low lines between them. -/
def integer? (word : List Char) : Option Int :=
  let (negative, digits) := match word with
    | '-' :: rest => (true, rest)
    | '+' :: rest => (false, rest)
    | rest => (false, rest)
  let groups := splitAt (· = '_') digits
  match (groups.flatten.mapM decimalValue?) with
  | some values =>
      if groups.any List.isEmpty then none
      else some (if negative then -(ofDigits values : Int) else ofDigits values)
  | none => none

/-- The numbers of a list of lines; a list with anything else in it is empty. -/
def lineNumbers (s : List Char) : List Int :=
  let words := (splitAt isBlank s).filter (!·.isEmpty)
  (words.mapM integer?).getD []

/-- Names of settings that are flags. -/
def flagNames : List String :=
  ["linenums", "guess_lang", "noclasses", "use_pygments"]

/-- The values with another one, in the place of an earlier one for the same name. -/
def putValue (name : List Char) (value : CodeValue)
    : List (List Char × CodeValue) → List (List Char × CodeValue)
  | [] => [(name, value)]
  | v :: rest =>
      if v.1 = name then (name, value) :: rest else v :: putValue name value rest

/-- The information with one more setting. -/
def withSetting (info : CodeInfo) : Setting → CodeInfo
  | .className word => { info with classes := info.classes ++ [word] }
  | .value name value =>
      if name = "id".toList then { info with identity := value }
      else
        let value :=
          if name = "hl_lines".toList then CodeValue.lines (lineNumbers value)
          else if flagNames.contains (String.ofList name) then .flag (flagOf value)
          else .text value
        { info with values := putValue name value info.values }

/-- The information in a list of settings. Its first class is the language. -/
def ofSettings (settings : List Setting) : CodeInfo :=
  let info := settings.foldl withSetting ⟨none, [], [], []⟩
  { info with language := info.classes.head?, classes := info.classes.drop 1 }

/-- An attribute in a start tag, unless it has no value. -/
def attributeText (name : String) (value : List Char) : List Char :=
  if value.isEmpty then [] else writeAttribute (name, value)

/-- The text of a value in a start tag. -/
def valueText (name : List Char) : CodeValue → Except RenderFault (List Char)
  | .text chars => .ok (writeAttribute (String.ofList name, chars))
  | .lines numbers =>
      let text := "[" ++ ", ".intercalate (numbers.map toString) ++ "]"
      .ok (writeAttribute (String.ofList name, text.toList))
  | .flag value => .error (.flag value)

/-- The texts of all values in a start tag. The choice of a highlighter is none of them, and a
chosen highlighter would show the others in its own way.
-/
def valuesText (info : CodeInfo) : Except RenderFault (List Char) :=
  let choice := "use_pygments".toList
  if info.values.lookup choice = some (.flag (some true)) then .ok []
  else do
    let texts ← (info.values.filter (·.1 ≠ choice)).mapM fun v => valueText v.1 v.2
    pure texts.flatten

/-- The final HTML of a block of code. -/
def html (info : CodeInfo) (code : List Char) : Except RenderFault (List Char) := do
  let values ← info.valuesText
  let language := match info.language with
    | some word => if word.isEmpty then [] else "language-".toList ++ word
    | none => []
  let escapedQuote (c : Char) : List Char := if c = '"' then "&quot;".toList else [c]
  pure <|
    "<pre".toList ++ attributeText "id" info.identity
      ++ attributeText "class" (joinWith [' '] info.classes) ++ "><code".toList
      ++ attributeText "class" language ++ values ++ ['>']
      ++ (escapedCode code).flatMap escapedQuote ++ "</code></pre>".toList

end CodeInfo

namespace Fence

/-- The marks at the start of a line: three or more alike. -/
def marks? (s : List Char) : Option (List Char) :=
  match s with
  | c :: _ =>
      let run := s.takeWhile (· = c)
      if (c = '~' || c = '`') && 3 ≤ run.length then some run else none
  | [] => none

/-- Reads a list of settings in braces, to the end of the line. -/
def readBraces? (s : List Char) : Option (CodeInfo × List Char) :=
  let line := s.takeWhile (· ≠ '\n')
  match s.drop line.length with
  | _ :: rest =>
      if line.length ≥ 2 && line.head? = some '\x7b' && line.getLast? = some '\x7d' then
        let (settings, left) := settingsOf ((line.drop 1).dropLast)
        if left.isEmpty then some (.ofSettings settings, rest) else none
      else none
  | [] => none

/-- Reads numbers of lines in quotes, to the end of a line: the first quote counts that only
spaces follow.
-/
def readLines? (quote : Char) : List Char → Option (List Char × List Char)
  | [] => none
  | c :: rest =>
      let ended := (rest.dropWhile (· = ' ')).head? = some '\n'
      if c = quote && ended then some ([], (rest.dropWhile (· = ' ')).drop 1)
      else (readLines? quote rest).map fun (numbers, rest) => (c :: numbers, rest)

/-- Reads the end of a first line after its language. -/
def readLineEnd? (s : List Char) : Option (List (List Char × CodeValue) × List Char) :=
  let s := s.dropWhile (· = ' ')
  let numbered? := do
    let s ← afterLead? "hl_lines=".toList s
    let (numbers, rest) ← match s with
      | '"' :: s => readLines? '"' s
      | '\'' :: s => readLines? '\'' s
      | _ => none
    if numbers.isEmpty then some ([], rest)
    else some ([("hl_lines".toList, CodeValue.lines (CodeInfo.lineNumbers numbers))], rest)
  numbered?.orElse fun _ => (afterLead? ['\n'] s).map ([], ·)

/-- Characters of the name of a language. -/
def isLanguageChar (c : Char) : Bool :=
  isWordChar c || "#.+-".toList.contains c

/-- Reads a language of at most so many characters, the longest that leads to a line end. -/
def readLanguage? (s : List Char) : Nat → Option (CodeInfo × List Char)
  | 0 => (readLineEnd? s).map fun (values, rest) => (⟨none, [], [], values⟩, rest)
  | n + 1 =>
      match readLineEnd? (s.drop (n + 1)) with
      | some (values, rest) => some (⟨some (s.take (n + 1)), [], [], values⟩, rest)
      | none => readLanguage? s n

/-- Reads the first line after its marks. -/
def readInfo? (s : List Char) : Option (CodeInfo × List Char) :=
  let s := s.dropWhile (· = ' ')
  if s.head? = some '\x7b' then
    if s.take 3 = "\x7b\x7d\n".toList then some (⟨none, [], [], []⟩, s.drop 3)
    else readBraces? s
  else
    let name := (afterLead? ['.'] s).getD s
    readLanguage? name (name.takeWhile isLanguageChar).length

/-- The text after a line that is nothing but the marks. -/
def afterClosing? (marks s : List Char) : Option (List Char) := do
  let rest := (← afterLead? marks s).dropWhile (· = ' ')
  if rest.isEmpty || rest.head? = some '\n' then some rest else none

/-- The code up to a line that is nothing but the marks, and the text after them. -/
def codeUntil? (marks : List Char) (lineStart : Bool)
    : List Char → Option (List Char × List Char)
  | [] => none
  | c :: rest =>
      match if lineStart then afterClosing? marks (c :: rest) else none with
      | some rest => some ([], rest)
      | none =>
          (codeUntil? marks (c = '\n') rest).map fun (code, rest) => (c :: code, rest)

/-- Reads a block of code at the start of a line. -/
def read? (s : List Char) : Option (CodeInfo × List Char × List Char) := do
  let marks ← marks? s
  let (info, rest) ← readInfo? (s.drop marks.length)
  let (code, rest) ← codeUntil? marks true rest
  pure (info, code, rest)

/-- A text of at most `fuel` characters with a mark on a line of its own for every block of code,
and the blocks.
-/
def hold (lineStart : Bool) : Nat → List Char → StateT Held (Except RenderFault) (List Char)
  | 0, s => pure s
  | _, [] => pure []
  | fuel + 1, c :: rest =>
      match if lineStart then read? (c :: rest) else none with
      | some (info, code, rest) => do
          let html ← (info.html code : Except RenderFault (List Char))
          let held ← get
          set (held.push html)
          pure ('\n' :: heldMark held.size ++ '\n' :: (← hold true fuel rest))
      | none => do pure (c :: (← hold (c = '\n') fuel rest))

end Fence

end BlogSnapshot.Markdown
