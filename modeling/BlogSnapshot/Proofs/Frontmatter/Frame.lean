import BlogSnapshot.Proofs.Frontmatter.Schema

/-! What is outside the schema does not matter. Mappings that differ only in unknown keys, or in
known keys that are null in one and absent in the other, are read as the same record or refused with
the same error, and so a block is decided by the values at the known keys of its mapping.
-/

namespace BlogSnapshot

namespace Frontmatter

-----------------------------------------------------------------------------------------
-- Mappings that agree
-----------------------------------------------------------------------------------------

/-- Mappings have the same values at some keys, absent values counting as null. -/
def AgreeAt (keys : List String) (entries others : Entries) : Prop :=
  ∀ key ∈ keys, valueAt key entries = valueAt key others

/-- Values are the same, or mappings with the same values at some keys. -/
inductive AgreeIn (keys : List String) : Yaml.Value → Yaml.Value → Prop
  | same (v : Yaml.Value) : AgreeIn keys v v
  | maps {entries others : Entries} (agree : AgreeAt keys entries others)
      : AgreeIn keys (.map entries) (.map others)

/-- Values are the same, or lists whose items are one by one the same or such mappings. -/
inductive AgreeInItems (keys : List String) : Yaml.Value → Yaml.Value → Prop
  | same (v : Yaml.Value) : AgreeInItems keys v v
  | lists {vs ws : List Yaml.Value} (each : List.Forall₂ (AgreeIn keys) vs ws)
      : AgreeInItems keys (.list vs) (.list ws)

def authorKeys : List String :=
  ["name", "email"]

def labelKeys : List String :=
  ["name", "slug", "color"]

def imageKeys : List String :=
  ["file_url", "width", "height"]

/-- Mappings differ only in keys that the schema does not know, at the top and in the mappings of
the author, the category, the image and the tags, or in null and absent values.
-/
structure AgreeInSchema (entries others : Entries) : Prop where
  top : AgreeAt ["title", "slug", "excerpt", "published_at", "updated_at"] entries others
  author : AgreeIn authorKeys (valueAt "author" entries) (valueAt "author" others)
  category : AgreeIn labelKeys (valueAt "category" entries) (valueAt "category" others)
  featuredImage :
    AgreeIn imageKeys (valueAt "featured_image" entries) (valueAt "featured_image" others)
  tags : AgreeInItems labelKeys (valueAt "tags" entries) (valueAt "tags" others)

-----------------------------------------------------------------------------------------
-- Fields that agree
-----------------------------------------------------------------------------------------

namespace Fields

/-- Mappings of one name and path whose fields have the same values at some keys. -/
structure Agree (keys : List String) (f g : Fields) : Prop where
  name : f.name = g.name
  path : f.path = g.path
  entries : AgreeAt keys f.entries g.entries

variable {keys : List String} {f g : Fields} {key : String}

theorem Agree.get_eq (agree : Agree keys f g) (known : key ∈ keys) : f.get key = g.get key :=
  agree.entries key known

theorem Agree.fieldName_eq (agree : Agree keys f g) : f.fieldName key = g.fieldName key := by
  rw [fieldName, fieldName, agree.name]

theorem Agree.invalid_eq {α : Type} (agree : Agree keys f g) (fault : BlockFault)
    : (f.invalid fault : Except Failure α) = g.invalid fault := by
  rw [invalid, invalid, agree.path]

theorem Agree.wrongShape_eq {α : Type} (agree : Agree keys f g) (expected : Shape)
    : (f.wrongShape key expected : Except Failure α) = g.wrongShape key expected := by
  rw [wrongShape, wrongShape, agree.fieldName_eq, agree.invalid_eq]

theorem Agree.string?_eq (agree : Agree keys f g) (known : key ∈ keys)
    : f.string? key = g.string? key := by
  rw [string?, string?, agree.get_eq known, agree.wrongShape_eq]

theorem Agree.string_eq (agree : Agree keys f g) (known : key ∈ keys)
    : f.string key = g.string key := by
  rw [string, string, agree.string?_eq known]

theorem Agree.integer?_eq (agree : Agree keys f g) (known : key ∈ keys)
    : f.integer? key = g.integer? key := by
  rw [integer?, integer?, agree.get_eq known, agree.wrongShape_eq]

theorem Agree.timestampOf_eq (agree : Agree keys f g) (v : Yaml.Value)
    : f.timestampOf key v = g.timestampOf key v := by
  rw [timestampOf, timestampOf, agree.fieldName_eq, agree.invalid_eq]

theorem Agree.timestamp_eq (agree : Agree keys f g) (known : key ∈ keys)
    : f.timestamp key = g.timestamp key := by
  simp only [timestamp, agree.get_eq known, agree.fieldName_eq, agree.path, agree.timestampOf_eq]

theorem Agree.timestamp?_eq (agree : Agree keys f g) (known : key ∈ keys)
    : f.timestamp? key = g.timestamp? key := by
  simp only [timestamp?, agree.get_eq known, agree.timestampOf_eq]

theorem Agree.label_eq (agree : Agree labelKeys f g) : f.label = g.label := by
  have name : f.string "name" = g.string "name" := agree.string_eq (by decide)
  have slug : f.string "slug" = g.string "slug" := agree.string_eq (by decide)
  have color : f.string? "color" = g.string? "color" := agree.string?_eq (by decide)
  rw [label, label, name, slug, color]

variable {inner : List String}

/-- Mappings under a key that agree are read alike, and refused alike where they are none. -/
theorem Agree.mapping_alike (agree : Agree keys f g)
    (within : AgreeIn inner (f.get key) (g.get key))
    : Alike (Agree inner) (f.mapping key) (g.mapping key) := by
  unfold mapping
  generalize f.get key = v at within
  generalize g.get key = w at within
  cases within with
  | maps inside => exact .ok ⟨agree.fieldName_eq, agree.path, inside⟩
  | same v =>
      cases v with
      | null => exact .ok ⟨agree.fieldName_eq, agree.path, fun _ _ => rfl⟩
      | map entries => exact .ok ⟨agree.fieldName_eq, agree.path, fun _ _ => rfl⟩
      | _ =>
          simp only [agree.wrongShape_eq]
          exact .error _

/-- Items that agree one by one are read alike. -/
theorem Agree.items_alike (agree : Agree keys f g) {vs ws : List Yaml.Value}
    (within : List.Forall₂ (AgreeIn inner) vs ws) (position : Nat)
    : Alike (List.Forall₂ (Agree inner)) (f.items key position vs) (g.items key position ws) := by
  induction within generalizing position with
  | nil => exact .ok .nil
  | @cons v w vs ws first _ ih =>
      -- Errors name an item by its position, which is the same in both lists.
      have more := ih (position + 1)
      cases first with
      | maps inside =>
          refine more.bind fun _ _ others => .ok (.cons ⟨?_, agree.path, inside⟩ others)
          rw [agree.fieldName_eq]
      | same v =>
          cases v with
          | map entries =>
              refine more.bind fun _ _ others => .ok (.cons ⟨?_, agree.path, fun _ _ => rfl⟩ others)
              rw [agree.fieldName_eq]
          | _ =>
              simp only [items, agree.fieldName_eq, agree.invalid_eq]
              exact .error _

theorem Agree.sequence_alike (agree : Agree keys f g)
    (within : AgreeInItems inner (f.get key) (g.get key))
    : Alike (List.Forall₂ (Agree inner)) (f.sequence key) (g.sequence key) := by
  unfold sequence
  generalize f.get key = v at within
  generalize g.get key = w at within
  cases within with
  | lists each => exact agree.items_alike each 0
  | same v =>
      cases v with
      | null => exact .ok .nil
      | list vs => exact agree.items_alike (List.forall₂_same.mpr fun v _ => .same v) 0
      | _ =>
          simp only [agree.wrongShape_eq]
          exact .error _

end Fields

-----------------------------------------------------------------------------------------
-- Records
-----------------------------------------------------------------------------------------

variable {entries others : Entries}

/-- Mappings that agree in the schema are read as the same record or refused with the same error. -/
theorem AgreeInSchema.ofEntries_eq (agree : AgreeInSchema entries others) (path : Option String)
    : ofEntries entries path = ofEntries others path := by
  have root : Fields.Agree ["title", "slug", "excerpt", "published_at", "updated_at"]
      { entries, path } { entries := others, path } :=
    ⟨rfl, rfl, agree.top⟩
  refine (root.mapping_alike agree.author).bind_eq fun author author' sameAuthor => ?_
  refine (root.mapping_alike agree.category).bind_eq fun category category' sameCategory => ?_
  refine (root.mapping_alike agree.featuredImage).bind_eq fun image image' sameImage => ?_
  refine bind_eq_bind (root.string_eq (by decide)) fun title => ?_
  refine bind_eq_bind (root.string_eq (by decide)) fun slug => ?_
  refine bind_eq_bind (root.string?_eq (by decide)) fun excerpt => ?_
  refine bind_eq_bind (root.timestamp_eq (by decide)) fun publishedAt => ?_
  refine bind_eq_bind (root.timestamp?_eq (by decide)) fun updatedAt => ?_
  refine bind_eq_bind (sameAuthor.string_eq (by decide)) fun name => ?_
  refine bind_eq_bind (sameAuthor.string_eq (by decide)) fun email => ?_
  refine bind_eq_bind sameCategory.label_eq fun label => ?_
  refine (root.sequence_alike agree.tags).bind_eq fun gs gs' sameItems => ?_
  refine bind_eq_bind (mapM_congr_of_forall₂ (fun _ _ same => same.label_eq) sameItems)
    fun tags => ?_
  refine bind_eq_bind (sameImage.string_eq (by decide)) fun fileUrl => ?_
  refine bind_eq_bind (sameImage.integer?_eq (by decide)) fun width => ?_
  exact bind_eq_bind (sameImage.integer?_eq (by decide)) fun height => rfl

/-- What decides the outcome of a mapping: it has a record exactly if it follows the schema, the
record is the one that holds the values at its keys, and mappings that agree there have the same
outcome. The mapping of a block decides the outcome of the block.
-/
structure SchemaOutcome (entries : Entries) (path : Option String)
    (outcome : Except Failure Frontmatter)
    : Prop where
  succeeds_iff : (∃ f, outcome = .ok f) ↔ FollowsSchema entries
  eq_ok_iff : ∀ f, outcome = .ok f ↔ IsRecordOf entries f
  frame : ∀ others, AgreeInSchema entries others → checkedOfEntries others path = outcome
  ofBlock : ∀ block, loadBlock block path = .ok entries → checkedOfBlock block path = outcome

/-- Every mapping has an outcome that its values at the known keys decide. -/
theorem schemaOutcome (entries : Entries) (path : Option String)
    : SchemaOutcome entries path (checkedOfEntries entries path) where
  succeeds_iff := by
    simp only [checked_eq_ok_iff]
    exact exists_isRecordOf_iff
  eq_ok_iff _ := checked_eq_ok_iff
  frame others agree := by
    rw [checkedOfEntries, checkedOfEntries, agree.ofEntries_eq path]
  ofBlock block loaded := by
    rw [checkedOfBlock, parse, loaded]
    rfl

end Frontmatter

end BlogSnapshot
