import BlogSnapshot.Calendar.PatternReader

/-! The tags of nodes, and the tag that a plain scalar gets from its text. Text that looks like a
truth value or a number stays text.
-/

namespace BlogSnapshot.Yaml.Tag

/-- The stem that two exclamation marks stand for. -/
def stem : String := "tag:yaml.org,2002:"

def null : String := stem ++ "null"

def bool : String := stem ++ "bool"

def int : String := stem ++ "int"

def float : String := stem ++ "float"

def binary : String := stem ++ "binary"

def timestamp : String := stem ++ "timestamp"

def omap : String := stem ++ "omap"

def pairs : String := stem ++ "pairs"

def set : String := stem ++ "set"

def str : String := stem ++ "str"

def seq : String := stem ++ "seq"

def map : String := stem ++ "map"

def merge : String := stem ++ "merge"

def value : String := stem ++ "value"

def indicator : String := stem ++ "yaml"

/-- Whether a text spells the absent value. -/
def isNullWord (s : List Char) : Bool :=
  s = [] || s = ['~'] || s = "null".toList || s = "Null".toList || s = "NULL".toList

/-- The tag of a plain scalar. A line feed at its end is passed over. -/
def ofPlain (text : String) : String :=
  let s := text.toList
  let word := Calendar.withoutLastLineFeed s
  if s.isEmpty || (!word.isEmpty && isNullWord word) then null
  else if Calendar.isNativeStamp s then timestamp
  else if word = ['<', '<'] then merge
  else if word = ['='] then value
  else if word = ['!'] || word = ['&'] || word = ['*'] then indicator
  else str

end BlogSnapshot.Yaml.Tag
