import BlogSnapshot.Text.Quoted
import BlogSnapshot.Yaml.Token

/-! What can be wrong with a YAML text, as causes, and the report that a reader is shown.
-/

namespace BlogSnapshot.Yaml

/-- What was being read when something went wrong. -/
inductive Activity
  | nextToken
  | simpleKey
  | directive
  | tag
  | tagText
  | directiveText
  | anchor
  | aliasName
  | blockScalar
  | quotedScalar
  | doubleQuotedScalar
  | node
  | blockNode
  | flowNode
  | blockCollection
  | blockMapping
  | flowSequence
  | flowMapping
  | document
  | firstAnchor (name : String)
  | mapping
  | orderedMap
  | pairs
  deriving DecidableEq, Repr

/-- What should have stood at a position. -/
inductive Expected
  | nameCharacter
  | digit
  | digitOrPoint
  | digitOrSpace
  | space
  | lineEnd
  | uri
  | tagEnd
  | handleMark
  | blockIndicator
  | hexEscape (count : Nat)
  | uriEscape
  deriving DecidableEq, Repr

/-- The kinds of nodes. -/
inductive NodeKind
  | scalar
  | sequence
  | mapping
  deriving DecidableEq, Repr

/-- What went wrong. -/
inductive Problem
  | expected (what : Expected) (found : Option Char)
  | missingColon
  | noToken (found : Char)
  | entryNotAllowed
  | keyNotAllowed
  | valueNotAllowed
  | zeroIndent
  | unknownEscape (found : Option Char)
  | endOfText
  | documentSeparator
  | undecodableUri (reason : String)
  | expectedDocumentStart (found : TokenKind)
  | duplicateVersion
  | incompatibleVersion
  | duplicateHandle (handle : String)
  | undefinedHandle (handle : String)
  | expectedBlockEnd (found : TokenKind)
  | expectedSequenceEnd (found : TokenKind)
  | expectedMappingEnd (found : TokenKind)
  | expectedContent (found : TokenKind)
  | undefinedAlias (name : String)
  | secondAnchor
  | secondDocument
  | noConstructor (tag : String)
  | unhashableKey
  | expectedNode (kind found : NodeKind)
  | expectedSequence (found : NodeKind)
  | expectedItem (found : NodeKind)
  | expectedSingleItem (count : Nat)
  | badMergeItem (found : NodeKind)
  | badMerge (found : NodeKind)
  | nonAsciiBase64 (reason : String)
  | badBase64 (reason : String)
  deriving DecidableEq, Repr

/-- An error of the text: a character that may not stand in it, or a problem at a position with
what was being read since an earlier position.
-/
inductive Error
  | unacceptable (c : Char) (position : Nat)
  | at (activity : Option (Activity × Option Mark)) (problem : Problem) (mark : Mark)
  deriving DecidableEq, Repr

def Activity.text : Activity → String
  | nextToken => "while scanning for the next token"
  | simpleKey => "while scanning a simple key"
  | directive => "while scanning a directive"
  | tag => "while scanning a tag"
  | tagText => "while parsing a tag"
  | directiveText => "while parsing a directive"
  | anchor => "while scanning an anchor"
  | aliasName => "while scanning an alias"
  | blockScalar => "while scanning a block scalar"
  | quotedScalar => "while scanning a quoted scalar"
  | doubleQuotedScalar => "while scanning a double-quoted scalar"
  | node => "while parsing a node"
  | blockNode => "while parsing a block node"
  | flowNode => "while parsing a flow node"
  | blockCollection => "while parsing a block collection"
  | blockMapping => "while parsing a block mapping"
  | flowSequence => "while parsing a flow sequence"
  | flowMapping => "while parsing a flow mapping"
  | document => "expected a single document in the stream"
  | firstAnchor name => "found duplicate anchor " ++ name.quotedText ++ "; first occurrence"
  | mapping => "while constructing a mapping"
  | orderedMap => "while constructing an ordered map"
  | pairs => "while constructing pairs"

def Expected.text : Expected → String
  | nameCharacter => "alphabetic or numeric character"
  | digit => "a digit"
  | digitOrPoint => "a digit or '.'"
  | digitOrSpace => "a digit or ' '"
  | space => "' '"
  | lineEnd => "a comment or a line break"
  | uri => "URI"
  | tagEnd => "'>'"
  | handleMark => "'!'"
  | blockIndicator => "chomping or indentation indicators"
  | hexEscape count => "escape sequence of " ++ toString count ++ " hexadecimal numbers"
  | uriEscape => "URI escape sequence of 2 hexadecimal numbers"

def NodeKind.text : NodeKind → String
  | scalar => "scalar"
  | sequence => "sequence"
  | mapping => "mapping"

/-- A character in quotes; the end of the text shows as a zero character. -/
def foundText (c : Option Char) : String :=
  (String.singleton (c.getD '\x00')).quotedText

def Problem.text : Problem → String
  | expected what found => "expected " ++ what.text ++ ", but found " ++ foundText found
  | missingColon => "could not find expected ':'"
  | noToken found => "found character " ++ foundText found ++ " that cannot start any token"
  | entryNotAllowed => "sequence entries are not allowed here"
  | keyNotAllowed => "mapping keys are not allowed here"
  | valueNotAllowed => "mapping values are not allowed here"
  | zeroIndent => "expected indentation indicator in the range 1-9, but found 0"
  | unknownEscape found => "found unknown escape character " ++ foundText found
  | endOfText => "found unexpected end of stream"
  | documentSeparator => "found unexpected document separator"
  | undecodableUri reason => reason
  | expectedDocumentStart found =>
      "expected '<document start>', but found " ++ found.name.quotedText
  | duplicateVersion => "found duplicate YAML directive"
  | incompatibleVersion => "found incompatible YAML document (version 1.* is required)"
  | duplicateHandle handle => "duplicate tag handle " ++ handle.quotedText
  | undefinedHandle handle => "found undefined tag handle " ++ handle.quotedText
  | expectedBlockEnd found => "expected <block end>, but found " ++ found.name.quotedText
  | expectedSequenceEnd found => "expected ',' or ']', but got " ++ found.name.quotedText
  | expectedMappingEnd found => "expected ',' or '\x7d', but got " ++ found.name.quotedText
  | expectedContent found => "expected the node content, but found " ++ found.name.quotedText
  | undefinedAlias name => "found undefined alias " ++ name.quotedText
  | secondAnchor => "second occurrence"
  | secondDocument => "but found another document"
  | noConstructor tag => "could not determine a constructor for the tag " ++ tag.quotedText
  | unhashableKey => "found unhashable key"
  | expectedNode kind found => "expected a " ++ kind.text ++ " node, but found " ++ found.text
  | expectedSequence found => "expected a sequence, but found " ++ found.text
  | expectedItem found => "expected a mapping of length 1, but found " ++ found.text
  | expectedSingleItem count =>
      "expected a single mapping item, but found " ++ toString count ++ " items"
  | badMergeItem found => "expected a mapping for merging, but found " ++ found.text
  | badMerge found =>
      "expected a mapping or list of mappings for merging, but found " ++ found.text
  | nonAsciiBase64 reason => "failed to convert base64 data into ascii: " ++ reason
  | badBase64 reason => "failed to decode base64 data: " ++ reason

/-- The lower-case hexadecimal form of a number in at least four places. -/
def codeText (n : Nat) : String :=
  let ds := Nat.toDigits 16 n
  String.ofList (List.replicate (4 - ds.length) '0' ++ ds)

/-- The report of an error in its text. The position of the activity is left out when it is the
position of the problem.
-/
def Error.report (source : List Char) : Error → String
  | unacceptable c position =>
      "unacceptable character #x" ++ codeText c.toNat ++ ": special characters are not allowed\n"
        ++ "  in \"<unicode string>\", position " ++ toString position
  | .at activity problem mark =>
      let lead := match activity with
        | none => []
        | some (a, none) => [a.text]
        | some (a, some m) =>
            if m.line = mark.line && m.column = mark.column then [a.text]
            else [a.text, m.text source]
      String.intercalate "\n" (lead ++ [problem.text, mark.text source])

end BlogSnapshot.Yaml
