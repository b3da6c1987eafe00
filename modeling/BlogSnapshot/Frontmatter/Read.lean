import BlogSnapshot.Calendar.PatternReader
import BlogSnapshot.Error
import BlogSnapshot.Frontmatter
import BlogSnapshot.Source
import BlogSnapshot.Yaml.Load

/-! Reading a frontmatter block: typed access to the fields of a mapping, and the check that the
required fields are not blank.
-/

namespace BlogSnapshot

namespace Frontmatter

/-- A mapping whose fields are read, with its dotted name and the path of its source. -/
structure Fields where
  entries : List (Yaml.Value × Yaml.Value)
  name : String := ""
  path : Option String := none

namespace Fields

/-- The dotted name of a field. -/
def fieldName (f : Fields) (key : String) : String :=
  if f.name.isEmpty then key else f.name ++ "." ++ key

/-- Fails because of the value of a field. -/
def invalid {α : Type} (f : Fields) (fault : BlockFault) : Except Failure α :=
  .error (.content ⟨.block fault, f.path⟩)

/-- Fails because a field has another shape. -/
def wrongShape {α : Type} (f : Fields) (key : String) (expected : Shape) : Except Failure α :=
  f.invalid (.shape (f.fieldName key) expected)

/-- The value of a field; absent and null are the same. -/
def get (f : Fields) (key : String) : Yaml.Value :=
  (Yaml.Value.get? key f.entries).getD .null

/-- A text field that may be absent. -/
def string? (f : Fields) (key : String) : Except Failure (Option String) :=
  match f.get key with
  | .null => .ok none
  | .text s => .ok (some s)
  | _ => f.wrongShape key .string

/-- A text field; an absent one is empty. -/
def string (f : Fields) (key : String) : Except Failure String :=
  (f.string? key).map (·.getD "")

/-- A whole number field: a number, or decimal digits of any script with blanks around them. -/
def integer? (f : Fields) (key : String) : Except Failure (Option Int) :=
  match f.get key with
  | .null => .ok none
  | .int n => .ok (some n)
  | .text s =>
      let digits := Text.trim s.toList
      if !digits.isEmpty && digits.all Text.isDecimalDigit then
        match Yaml.Scalar.integer 10 s.toList with
        | .ok n => .ok (some n)
        | .error fault => .error (.fault (.scalar fault))
      else f.wrongShape key .integer
  | _ => f.wrongShape key .integer

/-- A mapping field; an absent one is empty. -/
def mapping (f : Fields) (key : String) : Except Failure Fields :=
  match f.get key with
  | .null => .ok ⟨[], f.fieldName key, f.path⟩
  | .map entries => .ok ⟨entries, f.fieldName key, f.path⟩
  | _ => f.wrongShape key .mapping

/-- The items of a list field, which must be mappings, from a position on. -/
def items (f : Fields) (key : String) (position : Nat)
    : List Yaml.Value → Except Failure (List Fields)
  | [] => .ok []
  | v :: rest =>
      let name := f.fieldName key ++ "[" ++ toString position ++ "]"
      match v with
      | .map entries => do
          let more ← f.items key (position + 1) rest
          pure (⟨entries, name, f.path⟩ :: more)
      | _ => f.invalid (.shape name .mapping)

/-- A list of mappings; an absent one is empty. -/
def sequence (f : Fields) (key : String) : Except Failure (List Fields) :=
  match f.get key with
  | .null => .ok []
  | .list vs => f.items key 0 vs
  | _ => f.wrongShape key .list

/-- The moment that a value denotes: a moment, the midnight of a date, or a text that spells
one of them.
-/
def momentOf? : Yaml.Value → Option Moment
  | .moment m => some m
  | .date d => some { date := d }
  | .text s => Calendar.readMoment (Text.trim s.toList)
  | _ => none

/-- A moment in universal time. -/
def toUtc (m : Moment) : Except Failure Moment :=
  m.toUtc.mapError fun fault => .fault (.calendar fault)

/-- A field that is there as a moment in universal time. -/
def timestampOf (f : Fields) (key : String) (v : Yaml.Value) : Except Failure Moment :=
  match momentOf? v with
  | some m => toUtc m
  | none =>
      if v.isShowable then f.invalid (.timestamp (f.fieldName key) v.shown)
      else .error (.fault (.scalar .unshownInteger))

/-- A timestamp field that may be absent. -/
def timestamp? (f : Fields) (key : String) : Except Failure (Option Moment) :=
  match f.get key with
  | .null => .ok none
  | v => some <$> f.timestampOf key v

/-- A timestamp field that must be there. -/
def timestamp (f : Fields) (key : String) : Except Failure Moment :=
  match f.get key with
  | .null => .error (.content ⟨.missingField (f.fieldName key), f.path⟩)
  | v => f.timestampOf key v

/-- A category or a tag. -/
def label (f : Fields) : Except Failure FrontmatterLabel := do
  let name ← f.string "name"
  let slug ← f.string "slug"
  let color ← f.string? "color"
  pure { name, slug, color }

end Fields

/-- The entries of a frontmatter block. -/
def loadBlock (block : String) (path : Option String)
    : Except Failure (List (Yaml.Value × Yaml.Value)) :=
  match Yaml.load block.toList with
  | .ok .null => .ok []
  | .ok (.map entries) => .ok entries
  | .ok _ => .error (.content ⟨.block .notMapping, path⟩)
  | .error (.text e) =>
      .error (.content ⟨.block (.malformed (e.report block.toList)), path⟩)
  | .error (.fault fault) => .error (.fault (.scalar fault))

/-- The record of a mapping. Absent required texts come back empty. -/
def ofEntries (entries : List (Yaml.Value × Yaml.Value)) (path : Option String)
    : Except Failure Frontmatter := do
  let root : Fields := { entries, path }
  let author ← root.mapping "author"
  let category ← root.mapping "category"
  let image ← root.mapping "featured_image"
  let title ← root.string "title"
  let slug ← root.string "slug"
  let excerpt ← root.string? "excerpt"
  let publishedAt ← root.timestamp "published_at"
  let updatedAt ← root.timestamp? "updated_at"
  let authorName ← author.string "name"
  let authorEmail ← author.string "email"
  let category ← category.label
  let tags ← (← root.sequence "tags").mapM Fields.label
  let fileUrl ← image.string "file_url"
  let width ← image.integer? "width"
  let height ← image.integer? "height"
  pure {
    title, slug, excerpt, publishedAt, updatedAt, category, tags
    author := ⟨authorName, authorEmail⟩
    featuredImage := ⟨fileUrl, width, height⟩
  }

/-- The record of a frontmatter block. -/
def parse (block : String) (path : Option String) : Except Failure Frontmatter := do
  ofEntries (← loadBlock block path) path

/-- The required texts of the tags from a position on, with their names. -/
def requiredOfTags (position : Nat) : List FrontmatterLabel → List (String × String)
  | [] => []
  | tag :: rest =>
      let name := "tags[" ++ toString position ++ "]"
      (name ++ ".name", tag.name) :: (name ++ ".slug", tag.slug)
        :: requiredOfTags (position + 1) rest

/-- The required texts with their names, in the order in which they are checked. -/
def required (f : Frontmatter) : List (String × String) :=
  [
    ("title", f.title), ("slug", f.slug), ("author.name", f.author.name),
    ("author.email", f.author.email), ("category.name", f.category.name),
    ("category.slug", f.category.slug), ("featured_image.file_url", f.featuredImage.fileUrl)
  ] ++ requiredOfTags 0 f.tags

/-- Fails for the first required text that is blank. -/
def validate (f : Frontmatter) (path : Option String) : Except ContentError Unit :=
  match f.required.find? fun (_, value) => value.isAllBlank with
  | some (name, _) => .error ⟨.missingField name, path⟩
  | none => .ok ()

end Frontmatter

/-- A source split, parsed and checked. -/
def SourceFile.parse (source : SourceFile) : Except Failure ParsedSource := do
  let (block, body) ← (split source.contents (some source.path)).mapError .content
  let frontmatter ← Frontmatter.parse block (some source.path)
  (frontmatter.validate (some source.path)).mapError .content
  pure { path := source.path, frontmatter, body }

end BlogSnapshot
