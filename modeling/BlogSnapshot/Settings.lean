import BlogSnapshot.Error

/-! Settings of a site. Each has a default, and names that are no setting are refused.
-/

namespace BlogSnapshot

/-- The settings of a site: where the content is, when it is loaded, and what fills the fields
that posts leave open.
-/
structure Settings where
  contentDir : String := "content/posts"
  loadOnStartup : Bool := false
  categoryColor : Option String := some "#f97316"
  tagColor : Option String := some "#3b82f6"
  textColor : Option String := some "#ffffff"
  contentVersion : Option String := some "markdown-demo-v1"
  contentBlockId : Option String := some "markdown-body"
  deriving DecidableEq, Repr

namespace Settings

/-- The value of a setting: a truth value, or a text that may be absent. -/
inductive Value
  | flag (b : Bool)
  | text (s : Option String)
  deriving DecidableEq, Repr

/-- The settings by name. -/
def values (s : Settings) : List (String × Value) :=
  [
    ("CONTENT_DIR", .text s.contentDir), ("LOAD_ON_STARTUP", .flag s.loadOnStartup),
    ("DEFAULT_CATEGORY_COLOR", .text s.categoryColor), ("DEFAULT_TAG_COLOR", .text s.tagColor),
    ("DEFAULT_TEXT_COLOR", .text s.textColor), ("CONTENT_VERSION", .text s.contentVersion),
    ("CONTENT_BLOCK_ID", .text s.contentBlockId)
  ]

/-- The value that a name has among the overrides of a site, or else its default. The values of
overrides are of any type `α`, into which `default` takes the defaults. A name that is no setting
is refused even if it is overridden.
-/
def lookup {α : Type} (default : Value → α) (overrides : List (String × α)) (name : String)
    : Except Fault α :=
  match (values {}).lookup name with
  | none => .error (.unknownSetting name)
  | some value => .ok ((overrides.lookup name).getD (default value))

end Settings

end BlogSnapshot
