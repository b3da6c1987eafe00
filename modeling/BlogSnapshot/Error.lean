import BlogSnapshot.Markdown.Fault
import BlogSnapshot.Url.Parts
import BlogSnapshot.Yaml.Fault

/-! What can go wrong between a tree of Markdown files and a snapshot. An error of the content
names the source it comes from; a fault is a value that cannot exist and names nothing.
-/

namespace BlogSnapshot

/-- The shape that a frontmatter field must have. -/
inductive Shape
  | string
  | integer
  | mapping
  | list
  deriving DecidableEq, Repr

/-- What is wrong with a frontmatter block. A field that is no timestamp is shown as written. -/
inductive BlockFault
  | malformed (report : String)
  | notMapping
  | shape (field : String) (expected : Shape)
  | timestamp (field shown : String)
  deriving DecidableEq, Repr

/-- The causes of a content error. -/
inductive Cause
  | unreadable (reason : String)
  | noDirectory (directory : String)
  | notUtf8
  | noSources
  | noFiles (directory : String)
  | noOpening
  | noClosing
  | emptyBody
  | block (fault : BlockFault)
  | missingField (field : String)
  | duplicateSlug (slug : String)
  | unknownCategory (slug : String)
  | unknownTag (slug : String)
  | conflictingAuthor (email first second : String)
  | conflictingCategory (slug : String)
  | conflictingTag (slug : String)
  | unresolvedAuthor (email : String)
  deriving DecidableEq, Repr

/-- An error of the content, with the path of its source if it has one. -/
structure ContentError where
  cause : Cause
  path : Option String := none
  deriving DecidableEq, Repr

/-- A value that cannot exist. -/
inductive Fault
  | scalar (fault : Yaml.ScalarFault)
  | calendar (fault : CalendarFault)
  | url (fault : UrlFault)
  | render (fault : Markdown.RenderFault)
  | unknownSetting (name : String)
  deriving DecidableEq, Repr

/-- A failure of any step. -/
inductive Failure
  | content (error : ContentError)
  | fault (fault : Fault)
  deriving DecidableEq, Repr

def Shape.text : Shape → String
  | string => "a string"
  | integer => "an integer"
  | mapping => "a mapping"
  | list => "a list"

/-- A field name between backquotes. -/
def fieldText (name : String) : String :=
  "`" ++ name ++ "`"

def BlockFault.message : BlockFault → String
  | malformed report => report
  | notMapping => "frontmatter must be a mapping"
  | shape field expected => fieldText field ++ " must be " ++ expected.text
  | timestamp field shown => fieldText field ++ " is not a valid timestamp: " ++ shown

/-- The field that a fault of a frontmatter block concerns. -/
def BlockFault.field? : BlockFault → Option String
  | shape field _ => some field
  | timestamp field _ => some field
  | _ => none

def Cause.message : Cause → String
  | unreadable reason => "Could not read file: " ++ reason
  | noDirectory directory => "Content directory does not exist: " ++ directory
  | notUtf8 => "File is not valid UTF-8"
  | noSources => "At least one markdown post is required"
  | noFiles directory => "No markdown files found under " ++ directory
  | noOpening => "Missing opening frontmatter delimiter `---`"
  | noClosing => "Missing closing frontmatter delimiter `---`"
  | emptyBody => "Markdown body cannot be empty"
  | block fault => "Invalid frontmatter YAML: " ++ fault.message
  | missingField field => fieldText field ++ " is required"
  | duplicateSlug slug => "Duplicate post slug '" ++ slug ++ "'"
  | unknownCategory slug => "Unknown category '" ++ slug ++ "'"
  | unknownTag slug => "Unknown tag '" ++ slug ++ "'"
  | conflictingAuthor email first second =>
      "Author email '" ++ email ++ "' has multiple names ('" ++ first ++ "' and '" ++ second
        ++ "')"
  | conflictingCategory slug => "Category '" ++ slug ++ "' has conflicting metadata across posts"
  | conflictingTag slug => "Tag '" ++ slug ++ "' has conflicting metadata across posts"
  | unresolvedAuthor email => "Missing generated author id for email '" ++ email ++ "'"

/-- The message of a content error, led by the path of its source. -/
def ContentError.message (e : ContentError) : String :=
  match e.path with
  | some path => path ++ ": " ++ e.cause.message
  | none => e.cause.message

namespace ContentError

/-- The frontmatter field that an error concerns. -/
def field? (e : ContentError) : Option String :=
  match e.cause with
  | .block fault => fault.field?
  | .missingField field => some field
  | _ => none

/-- The slug that an error concerns. -/
def slug? (e : ContentError) : Option String :=
  match e.cause with
  | .duplicateSlug slug | .unknownCategory slug | .unknownTag slug => some slug
  | .conflictingCategory slug | .conflictingTag slug => some slug
  | _ => none

/-- The email that a conflict of authors concerns. -/
def email? (e : ContentError) : Option String :=
  match e.cause with
  | .conflictingAuthor email .. => some email
  | _ => none

/-- The two names of a conflict of authors. -/
def names? (e : ContentError) : Option (String × String) :=
  match e.cause with
  | .conflictingAuthor _ first second => some (first, second)
  | _ => none

end ContentError

def Fault.message : Fault → String
  | scalar fault => fault.message
  | calendar fault => fault.message
  | url fault => fault.message
  | render fault => fault.message
  | unknownSetting name => "Invalid demo_content setting: " ++ name

def Failure.message : Failure → String
  | content e => e.message
  | fault f => f.message

end BlogSnapshot
