import BlogSnapshot.Frontmatter.Read
import BlogSnapshot.Proofs.Steps

/-! The path of a source is only a label. A source with the same contents under another path is
read as the same record, or fails in the same way, with the other path written on it.
-/

namespace BlogSnapshot

/-- The failure with another path written on it; a fault has none. -/
def Failure.placed (path : Option String) : Failure → Failure
  | content e => content { e with path }
  | fault f => fault f

/-- The parsed source under another path. -/
def ParsedSource.placed (path : String) (s : ParsedSource) : ParsedSource :=
  { s with path }

namespace Frontmatter

/-- The mapping as one of a source under another path. -/
def Fields.placed (path : Option String) (f : Fields) : Fields :=
  { f with path }

variable (path : Option String)

-----------------------------------------------------------------------------------------
-- Fields of a mapping
-----------------------------------------------------------------------------------------

namespace Fields

variable (f : Fields) (key : String)

theorem get_placed : (f.placed path).get key = f.get key :=
  rfl

/-- A text does not depend on the path. -/
theorem string?_placed
    : (f.placed path).string? key = (f.string? key).mapError (Failure.placed path) := by
  rw [string?, string?, get_placed]
  cases f.get key <;> rfl

/-- A required text does not depend on the path. -/
theorem string_placed
    : (f.placed path).string key = (f.string key).mapError (Failure.placed path) := by
  rw [string, string, string?_placed]
  cases f.string? key <;> rfl

/-- A whole number does not depend on the path. -/
theorem integer?_placed
    : (f.placed path).integer? key = (f.integer? key).mapError (Failure.placed path) := by
  rw [integer?, integer?, get_placed]
  cases f.get key with
  | text s =>
      dsimp only
      split
      · cases Yaml.Scalar.integer 10 s.toList <;> rfl
      · rfl
  | _ => rfl

/-- A mapping under another path is the same mapping under it. -/
theorem mapping_placed
    : (f.placed path).mapping key
      = ((f.mapping key).mapError (Failure.placed path)).map (placed path) := by
  rw [mapping, mapping, get_placed]
  cases f.get key <;> rfl

/-- The items of a list are the same mappings under another path, by induction on the list. -/
theorem items_placed (position : Nat) (values : List Yaml.Value)
    : (f.placed path).items key position values
      = ((f.items key position values).mapError (Failure.placed path)).map
          (List.map (placed path)) := by
  induction values generalizing position with
  | nil => rfl
  | cons v rest ih =>
      cases v with
      | map entries =>
          simp only [items, ih]
          cases f.items key (position + 1) rest <;> rfl
      | _ => rfl

/-- A list of mappings under another path is the same list under it. -/
theorem sequence_placed
    : (f.placed path).sequence key
      = ((f.sequence key).mapError (Failure.placed path)).map (List.map (placed path)) := by
  rw [sequence, sequence, get_placed]
  cases f.get key with
  | list values => exact items_placed path f key 0 values
  | _ => rfl

/-- A moment does not depend on the path. -/
theorem timestampOf_placed (v : Yaml.Value)
    : (f.placed path).timestampOf key v
      = (f.timestampOf key v).mapError (Failure.placed path) := by
  rw [timestampOf, timestampOf]
  cases momentOf? v with
  | none =>
      dsimp only
      split <;> rfl
  | some m =>
      simp only [toUtc]
      cases m.toUtc <;> rfl

/-- A moment that may be absent does not depend on the path. -/
theorem timestamp?_placed
    : (f.placed path).timestamp? key = (f.timestamp? key).mapError (Failure.placed path) := by
  rw [timestamp?, timestamp?, get_placed]
  cases f.get key with
  | null => rfl
  | _ =>
      simp only [timestampOf_placed]
      generalize f.timestampOf key _ = found
      cases found <;> rfl

/-- A required moment does not depend on the path. -/
theorem timestamp_placed
    : (f.placed path).timestamp key = (f.timestamp key).mapError (Failure.placed path) := by
  rw [timestamp, timestamp, get_placed]
  cases f.get key with
  | null => rfl
  | _ => exact timestampOf_placed path f key _

/-- A category or a tag does not depend on the path. -/
theorem label_placed : (f.placed path).label = f.label.mapError (Failure.placed path) := by
  simp only [label, string_placed, string?_placed, mapError_bind]
  rfl

/-- A list of tags does not depend on the path, by induction on it. -/
theorem mapM_label_placed (fs : List Fields)
    : (fs.map (placed path)).mapM label = (fs.mapM label).mapError (Failure.placed path) := by
  induction fs with
  | nil => rfl
  | cons f rest ih =>
      simp only [List.map_cons, List.mapM_cons, ih, label_placed, mapError_bind]
      rfl

end Fields

-----------------------------------------------------------------------------------------
-- Whole documents
-----------------------------------------------------------------------------------------

/-- The record of a mapping does not depend on the path. -/
theorem ofEntries_placed (entries : List (Yaml.Value × Yaml.Value))
    : ofEntries entries path = (ofEntries entries none).mapError (Failure.placed path) := by
  have root : (⟨entries, "", path⟩ : Fields) = Fields.placed path ⟨entries, "", none⟩ := rfl
  simp only [ofEntries, root, Fields.mapping_placed, Fields.string_placed,
    Fields.string?_placed, Fields.integer?_placed, Fields.timestamp_placed,
    Fields.timestamp?_placed, Fields.sequence_placed, bind_map_left, Fields.label_placed,
    Fields.mapM_label_placed, mapError_bind]
  rfl

/-- The entries of a block do not depend on the path. -/
theorem loadBlock_placed (block : String)
    : loadBlock block path = (loadBlock block none).mapError (Failure.placed path) := by
  rw [loadBlock, loadBlock]
  cases Yaml.load block.toList with
  | ok v => cases v <;> rfl
  | error e => cases e <;> rfl

/-- The record of a block does not depend on the path. -/
theorem parse_placed (block : String)
    : parse block path = (parse block none).mapError (Failure.placed path) := by
  simp only [parse, mapError_bind, ← loadBlock_placed, ← ofEntries_placed]

/-- The check of the required texts does not depend on the path. -/
theorem validate_placed (f : Frontmatter)
    : (f.validate path).mapError Failure.content
      = ((f.validate none).mapError Failure.content).mapError (Failure.placed path) := by
  rw [validate, validate]
  cases f.required.find? fun entry => entry.2.isAllBlank <;> rfl

end Frontmatter

/-- The parts of a document do not depend on the path. -/
theorem SourceFile.split_placed (path : Option String) (contents : String)
    : (split contents path).mapError Failure.content
      = ((split contents none).mapError Failure.content).mapError (Failure.placed path) := by
  rw [split, split]
  cases splitDocument contents.toList <;> rfl

/-- Of two paths written on a failure the later one stays. -/
theorem Failure.mapError_placed_placed {α : Type} (x : Except Failure α) (p q : Option String)
    : (x.mapError (placed p)).mapError (placed q) = x.mapError (placed q) := by
  cases x with
  | ok a => rfl
  | error failure => cases failure <;> rfl

/-- A source under another path is parsed as the same source under it. -/
theorem SourceFile.parse_placed (source : SourceFile) (path : String)
    : SourceFile.parse { source with path }
      = (source.parse.mapError (Failure.placed path)).map (ParsedSource.placed path) := by
  simp only [parse, split_placed (some _), Frontmatter.parse_placed (some _),
    Frontmatter.validate_placed (some _), mapError_bind, map_bind,
    Failure.mapError_placed_placed]
  rfl

end BlogSnapshot
