import BlogSnapshot.Yaml.Mark

/-! Tokens of a YAML text.
-/

namespace BlogSnapshot.Yaml

/-- What a directive line says. -/
inductive Directive
  | version (major minor : Nat)
  | tag (handle stem : String)
  | other (name : String)
  deriving DecidableEq, Repr

/-- A tag as written: with a handle, or in full. -/
structure TagName where
  handle : Option String
  suffix : String
  deriving DecidableEq, Repr

/-- The kinds of tokens. A scalar says whether it was written without quotes or block header. -/
inductive TokenKind
  | directive (d : Directive)
  | documentStart
  | documentEnd
  | streamStart
  | streamEnd
  | blockSequenceStart
  | blockMappingStart
  | blockEnd
  | flowSequenceStart
  | flowMappingStart
  | flowSequenceEnd
  | flowMappingEnd
  | key
  | value
  | blockEntry
  | flowEntry
  | aliasTo (name : String)
  | anchor (name : String)
  | tag (name : TagName)
  | scalar (text : String) (plain : Bool)
  deriving DecidableEq, Repr

/-- A token and where it starts and ends. -/
structure Token where
  kind : TokenKind
  start : Mark
  stop : Mark
  deriving DecidableEq, Repr

/-- The name of a kind of token in messages. -/
def TokenKind.name : TokenKind → String
  | directive _ => "<directive>"
  | documentStart => "<document start>"
  | documentEnd => "<document end>"
  | streamStart => "<stream start>"
  | streamEnd => "<stream end>"
  | blockSequenceStart => "<block sequence start>"
  | blockMappingStart => "<block mapping start>"
  | blockEnd => "<block end>"
  | flowSequenceStart => "["
  | flowMappingStart => "\x7b"
  | flowSequenceEnd => "]"
  | flowMappingEnd => "\x7d"
  | key => "?"
  | value => ":"
  | blockEntry => "-"
  | flowEntry => ","
  | aliasTo _ => "<alias>"
  | anchor _ => "<anchor>"
  | tag _ => "<tag>"
  | scalar .. => "<scalar>"

end BlogSnapshot.Yaml
