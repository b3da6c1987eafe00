import BlogSnapshot.Proofs.Frontmatter.Timestamp
import BlogSnapshot.Proofs.Steps

/-! The schema of a frontmatter block: which mappings are read and pass the check, and what their
records hold. Reading puts the empty text in the place of required texts that are absent, and the
check refuses blank ones, so together they ask for texts that are there and not blank.
-/

namespace BlogSnapshot

namespace Frontmatter

/-- The entries of a mapping. -/
abbrev Entries := List (Yaml.Value × Yaml.Value)

/-- The value under a key; absent and null are the same. -/
def valueAt (key : String) (entries : Entries) : Yaml.Value :=
  (Yaml.Value.get? key entries).getD .null

/-- The record of a mapping, if it passes the check. -/
def checkedOfEntries (entries : Entries) (path : Option String) : Except Failure Frontmatter := do
  let frontmatter ← ofEntries entries path
  (frontmatter.validate path).mapError .content
  pure frontmatter

/-- The record of a block, if it passes the check. -/
def checkedOfBlock (block : String) (path : Option String) : Except Failure Frontmatter := do
  let frontmatter ← parse block path
  (frontmatter.validate path).mapError .content
  pure frontmatter

-----------------------------------------------------------------------------------------
-- Values
-----------------------------------------------------------------------------------------

/-- A value is a text that is not blank. -/
def IsSolid (v : Yaml.Value) (s : String) : Prop :=
  v = .text s ∧ s.isAllBlank = false

/-- A text that may be absent, as a value. -/
def textValue : Option String → Yaml.Value
  | none => .null
  | some s => .text s

/-- A value is read as a whole number, or as none. -/
def ReadsInteger (v : Yaml.Value) (n : Option Int) : Prop :=
  (Fields.single "" v).integer? "" = .ok n

/-- A value is read as a timestamp. -/
def ReadsTimestamp (v : Yaml.Value) (m : Moment) : Prop :=
  (Fields.single "" v).timestamp "" = .ok m

-----------------------------------------------------------------------------------------
-- Records
-----------------------------------------------------------------------------------------

/-- A category or a tag holds the values of a mapping. -/
structure IsLabelOf (entries : Entries) (label : FrontmatterLabel) : Prop where
  name : IsSolid (valueAt "name" entries) label.name
  slug : IsSolid (valueAt "slug" entries) label.slug
  color : valueAt "color" entries = textValue label.color

/-- A value is a list of mappings, one for each label, or absent where there are no labels. -/
inductive IsListOf (R : Entries → FrontmatterLabel → Prop)
    : Yaml.Value → List FrontmatterLabel → Prop
  | absent : IsListOf R .null []
  | list {items : List Entries} {labels : List FrontmatterLabel}
      (each : List.Forall₂ R items labels)
      : IsListOf R (.list (items.map .map)) labels

/-- A record holds the values of a mapping, texts as they are and numbers and moments as they are
read.
-/
structure IsRecordOf (entries : Entries) (f : Frontmatter) : Prop where
  title : IsSolid (valueAt "title" entries) f.title
  slug : IsSolid (valueAt "slug" entries) f.slug
  excerpt : valueAt "excerpt" entries = textValue f.excerpt
  publishedAt : ReadsTimestamp (valueAt "published_at" entries) f.publishedAt
  updatedAt :
    f.updatedAt.elim (valueAt "updated_at" entries = .null)
      (ReadsTimestamp (valueAt "updated_at" entries))
  author :
    ∃ author,
      valueAt "author" entries = .map author
      ∧ IsSolid (valueAt "name" author) f.author.name
      ∧ IsSolid (valueAt "email" author) f.author.email
  category : ∃ category, valueAt "category" entries = .map category ∧ IsLabelOf category f.category
  featuredImage :
    ∃ image,
      valueAt "featured_image" entries = .map image
      ∧ IsSolid (valueAt "file_url" image) f.featuredImage.fileUrl
      ∧ ReadsInteger (valueAt "width" image) f.featuredImage.width
      ∧ ReadsInteger (valueAt "height" image) f.featuredImage.height
  tags : IsListOf IsLabelOf (valueAt "tags" entries) f.tags

-----------------------------------------------------------------------------------------
-- The schema
-----------------------------------------------------------------------------------------

/-- A mapping that a category or a tag can be read of. -/
structure IsLabelMapping (entries : Entries) : Prop where
  name : ∃ s, IsSolid (valueAt "name" entries) s
  slug : ∃ s, IsSolid (valueAt "slug" entries) s
  color : ∃ s, valueAt "color" entries = textValue s

/-- A mapping that a record can be read of: required texts are there and not blank, other texts may
be absent, and sizes and moments are such that they can be read.
-/
structure FollowsSchema (entries : Entries) : Prop where
  title : ∃ s, IsSolid (valueAt "title" entries) s
  slug : ∃ s, IsSolid (valueAt "slug" entries) s
  excerpt : ∃ s, valueAt "excerpt" entries = textValue s
  publishedAt : ∃ m, ReadsTimestamp (valueAt "published_at" entries) m
  updatedAt :
    valueAt "updated_at" entries = .null
    ∨ ∃ m, ReadsTimestamp (valueAt "updated_at" entries) m
  author :
    ∃ author,
      valueAt "author" entries = .map author
      ∧ (∃ s, IsSolid (valueAt "name" author) s)
      ∧ ∃ s, IsSolid (valueAt "email" author) s
  category : ∃ category, valueAt "category" entries = .map category ∧ IsLabelMapping category
  featuredImage :
    ∃ image,
      valueAt "featured_image" entries = .map image
      ∧ (∃ s, IsSolid (valueAt "file_url" image) s)
      ∧ (valueAt "width" image = .null ∨ ∃ n, ReadsInteger (valueAt "width" image) (some n))
      ∧ (valueAt "height" image = .null ∨ ∃ n, ReadsInteger (valueAt "height" image) (some n))
  tags :
    valueAt "tags" entries = .null
    ∨ ∃ vs,
        valueAt "tags" entries = .list vs
        ∧ ∀ v ∈ vs, ∃ tag, v = .map tag ∧ IsLabelMapping tag

-----------------------------------------------------------------------------------------
-- Records before the check
-----------------------------------------------------------------------------------------

/-- What a required text is read as: the text that is there, or the empty text. -/
def ReadsText (v : Yaml.Value) (s : String) : Prop :=
  ∃ t, v = textValue t ∧ t.getD "" = s

/-- What a category or a tag is read as. -/
structure ReadsLabel (entries : Entries) (label : FrontmatterLabel) : Prop where
  name : ReadsText (valueAt "name" entries) label.name
  slug : ReadsText (valueAt "slug" entries) label.slug
  color : valueAt "color" entries = textValue label.color

/-- The entries of a mapping that may be absent. -/
def entriesOf? : Yaml.Value → Option Entries
  | .null => some []
  | .map entries => some entries
  | _ => none

/-- What the record of a mapping is read as, before it is checked. -/
structure ReadsRecord (entries : Entries) (f : Frontmatter) : Prop where
  title : ReadsText (valueAt "title" entries) f.title
  slug : ReadsText (valueAt "slug" entries) f.slug
  excerpt : valueAt "excerpt" entries = textValue f.excerpt
  publishedAt : ReadsTimestamp (valueAt "published_at" entries) f.publishedAt
  updatedAt :
    f.updatedAt.elim (valueAt "updated_at" entries = .null)
      (ReadsTimestamp (valueAt "updated_at" entries))
  author :
    ∃ author,
      entriesOf? (valueAt "author" entries) = some author
      ∧ ReadsText (valueAt "name" author) f.author.name
      ∧ ReadsText (valueAt "email" author) f.author.email
  category :
    ∃ category,
      entriesOf? (valueAt "category" entries) = some category
      ∧ ReadsLabel category f.category
  featuredImage :
    ∃ image,
      entriesOf? (valueAt "featured_image" entries) = some image
      ∧ ReadsText (valueAt "file_url" image) f.featuredImage.fileUrl
      ∧ ReadsInteger (valueAt "width" image) f.featuredImage.width
      ∧ ReadsInteger (valueAt "height" image) f.featuredImage.height
  tags : IsListOf ReadsLabel (valueAt "tags" entries) f.tags

-----------------------------------------------------------------------------------------
-- Readers
-----------------------------------------------------------------------------------------

namespace Fields

variable {f g : Fields} {key : String}

theorem string?_eq_ok_iff {s : Option String}
    : f.string? key = .ok s ↔ f.get key = textValue s := by
  unfold string?
  cases f.get key with
  | null => cases s <;> simp [textValue]
  | text t => cases s <;> simp [textValue]
  | _ => cases s <;> simp [textValue, wrongShape, invalid]

theorem string_eq_ok_iff {s : String}
    : f.string key = .ok s ↔ ∃ t, f.get key = textValue t ∧ t.getD "" = s := by
  rw [string, map_eq_ok_iff]
  simp only [string?_eq_ok_iff]

theorem integer?_eq_ok_iff {n : Option Int}
    : f.integer? key = .ok n ↔ ReadsInteger (f.get key) n := by
  have same (v : Yaml.Value) : (single "" v).get "" = v := rfl
  unfold ReadsInteger integer?
  rw [same]
  cases f.get key with
  | text s =>
      dsimp only
      split
      · exact Iff.rfl
      · simp [wrongShape, invalid]
  | null => exact Iff.rfl
  | int n => exact Iff.rfl
  | _ => simp [wrongShape, invalid]

theorem timestampOf_eq_ok_iff {v : Yaml.Value} {m : Moment}
    : f.timestampOf key v = .ok m ↔ ∃ n, momentOf? v = some n ∧ n.toUtc = .ok m := by
  unfold timestampOf
  split
  case h_1 n denotes => simp [denotes, toUtc, mapError_eq_ok_iff]
  case h_2 denotesNone =>
    split <;> simp [denotesNone, invalid]

theorem timestamp_eq_ok_iff {m : Moment}
    : f.timestamp key = .ok m ↔ ReadsTimestamp (f.get key) m := by
  have same (v : Yaml.Value) : (single "" v).get "" = v := rfl
  unfold ReadsTimestamp timestamp
  rw [same]
  cases f.get key with
  | null => simp
  | _ => simp only [timestampOf_eq_ok_iff]

theorem timestamp?_eq_ok_iff {m : Option Moment}
    : f.timestamp? key = .ok m
      ↔ m.elim (f.get key = .null) (ReadsTimestamp (f.get key)) := by
  by_cases absent : f.get key = .null
  case pos =>
    have none : ∀ m, ¬ ReadsTimestamp .null m := fun m read => by cases read
    cases m <;> simp [timestamp?, absent, none]
  case neg =>
    obtain ⟨required, optional⟩ := timestamp_of_get rfl absent
    rw [optional, ← required, map_eq_ok_iff]
    cases m <;> simp [absent, timestamp_eq_ok_iff]

theorem mapping_eq_ok_iff
    : f.mapping key = .ok g
      ↔ ∃ entries,
          entriesOf? (f.get key) = some entries ∧ ⟨entries, f.fieldName key, f.path⟩ = g := by
  unfold mapping
  cases f.get key with
  | null => simp [entriesOf?]
  | map entries => simp [entriesOf?]
  | _ => simp [entriesOf?, wrongShape, invalid]

/-- The items of a list are read exactly if they are mappings. -/
theorem items_eq_ok_iff {position : Nat} {vs : List Yaml.Value} {lists : List Entries}
    : (∃ gs, f.items key position vs = .ok gs ∧ gs.map (·.entries) = lists)
      ↔ vs = lists.map .map := by
  induction vs generalizing position lists with
  | nil => cases lists <;> simp [items]
  | cons v rest ih =>
      cases v with
      | map entries =>
          simp only [items, bind_eq_ok_iff]
          constructor
          · rintro ⟨_, ⟨more, read, ⟨⟩⟩, rfl⟩
            rw [ih.mp ⟨more, read, rfl⟩]
            rfl
          · intro same
            cases lists with
            | nil => cases same
            | cons list lists =>
                cases same
                obtain ⟨more, read, rfl⟩ := ih.mpr rfl
                exact ⟨_, ⟨more, read, rfl⟩, rfl⟩
      | _ => cases lists <;> simp [items, invalid]

theorem label_eq_ok_iff {label : FrontmatterLabel}
    : f.label = .ok label ↔ ReadsLabel f.entries label := by
  unfold Fields.label
  simp only [bind_eq_ok_iff, string_eq_ok_iff, string?_eq_ok_iff]
  constructor
  · rintro ⟨_, name, _, slug, _, color, ⟨⟩⟩
    exact ⟨name, slug, color⟩
  · rintro ⟨name, slug, color⟩
    exact ⟨_, name, _, slug, _, color, rfl⟩

theorem labels_eq_ok_iff (f : Fields) (key : String) {labels : List FrontmatterLabel}
    : (f.sequence key >>= fun gs => gs.mapM Fields.label) = .ok labels
      ↔ IsListOf ReadsLabel (f.get key) labels := by
  have each (gs : List Fields)
      : gs.mapM Fields.label = .ok labels
        ↔ List.Forall₂ ReadsLabel (gs.map (·.entries)) labels := by
    rw [mapM_eq_ok_iff, ← List.forall₂_eq_eq_eq, List.forall₂_map_left_iff,
      List.forall₂_map_right_iff, List.forall₂_map_left_iff]
    simp only [label_eq_ok_iff]
  rw [bind_eq_ok_iff]
  simp only [each]
  unfold sequence
  constructor
  · rintro ⟨gs, read, paired⟩
    split at read
    case h_1 absent =>
      cases read
      cases paired
      rw [absent]
      exact .absent
    case h_2 vs isList =>
      rw [isList, items_eq_ok_iff.mp ⟨gs, read, rfl⟩]
      exact .list paired
    case h_3 => cases read
  · intro isList
    generalize f.get key = v at isList
    cases isList with
    | absent => exact ⟨[], rfl, .nil⟩
    | @list lists _ paired =>
        obtain ⟨gs, read, rfl⟩ := items_eq_ok_iff.mpr (Eq.refl (lists.map Yaml.Value.map))
        exact ⟨gs, read, paired⟩

end Fields

-----------------------------------------------------------------------------------------
-- Reading and checking
-----------------------------------------------------------------------------------------

theorem ofEntries_eq_ok_iff {entries : Entries} {path : Option String} {f : Frontmatter}
    : ofEntries entries path = .ok f ↔ ReadsRecord entries f := by
  unfold ofEntries
  simp only [bind_eq_ok_iff]
  -- One value and one equation for each read, in the order of the reads.
  constructor
  · rintro ⟨author, hauthor, category, hcategory, image, himage, title, htitle, slug, hslug,
      excerpt, hexcerpt, published, hpublished, updated, hupdated, name, hname, email, hemail,
      label, hlabel, gs, hgs, tags, htags, fileUrl, hfileUrl, width, hwidth, height, hheight, eq⟩
    cases eq
    obtain ⟨_, isAuthor, rfl⟩ := Fields.mapping_eq_ok_iff.mp hauthor
    obtain ⟨_, isCategory, rfl⟩ := Fields.mapping_eq_ok_iff.mp hcategory
    obtain ⟨_, isImage, rfl⟩ := Fields.mapping_eq_ok_iff.mp himage
    exact {
      title := Fields.string_eq_ok_iff.mp htitle
      slug := Fields.string_eq_ok_iff.mp hslug
      excerpt := Fields.string?_eq_ok_iff.mp hexcerpt
      publishedAt := Fields.timestamp_eq_ok_iff.mp hpublished
      updatedAt := Fields.timestamp?_eq_ok_iff.mp hupdated
      author := ⟨_, isAuthor, Fields.string_eq_ok_iff.mp hname, Fields.string_eq_ok_iff.mp hemail⟩
      category := ⟨_, isCategory, Fields.label_eq_ok_iff.mp hlabel⟩
      featuredImage := ⟨_, isImage, Fields.string_eq_ok_iff.mp hfileUrl,
        Fields.integer?_eq_ok_iff.mp hwidth, Fields.integer?_eq_ok_iff.mp hheight⟩
      tags := (Fields.labels_eq_ok_iff _ _).mp ((bind_eq_ok_iff _ _ _).mpr ⟨gs, hgs, htags⟩)
    }
  · intro reads
    obtain ⟨author, isAuthor, name, email⟩ := reads.author
    obtain ⟨category, isCategory, label⟩ := reads.category
    obtain ⟨image, isImage, fileUrl, width, height⟩ := reads.featuredImage
    obtain ⟨gs, list, tags⟩ := (bind_eq_ok_iff _ _ _).mp
      ((Fields.labels_eq_ok_iff { entries, path } "tags").mpr reads.tags)
    exact ⟨
      _, Fields.mapping_eq_ok_iff.mpr ⟨author, isAuthor, rfl⟩,
      _, Fields.mapping_eq_ok_iff.mpr ⟨category, isCategory, rfl⟩,
      _, Fields.mapping_eq_ok_iff.mpr ⟨image, isImage, rfl⟩,
      _, Fields.string_eq_ok_iff.mpr reads.title,
      _, Fields.string_eq_ok_iff.mpr reads.slug,
      _, Fields.string?_eq_ok_iff.mpr reads.excerpt,
      _, Fields.timestamp_eq_ok_iff.mpr reads.publishedAt,
      _, Fields.timestamp?_eq_ok_iff.mpr reads.updatedAt,
      _, Fields.string_eq_ok_iff.mpr name,
      _, Fields.string_eq_ok_iff.mpr email,
      _, Fields.label_eq_ok_iff.mpr label,
      gs, list,
      _, tags,
      _, Fields.string_eq_ok_iff.mpr fileUrl,
      _, Fields.integer?_eq_ok_iff.mpr width,
      _, Fields.integer?_eq_ok_iff.mpr height,
      rfl
    ⟩

/-- The required texts of tags are the names and slugs of all of them. -/
theorem forall_requiredOfTags {P : String → Prop} {position : Nat} {tags : List FrontmatterLabel}
    : (∀ r ∈ requiredOfTags position tags, P r.2) ↔ ∀ tag ∈ tags, P tag.name ∧ P tag.slug := by
  induction tags generalizing position with
  | nil => simp [requiredOfTags]
  | cons tag rest ih =>
      rw [requiredOfTags, List.forall_mem_cons, List.forall_mem_cons, ih, List.forall_mem_cons,
        and_assoc]

/-- A record passes the check exactly if none of its required texts is blank. -/
theorem validate_eq_ok_iff {f : Frontmatter} {path : Option String}
    : f.validate path = .ok () ↔ ∀ r ∈ f.required, r.2.isAllBlank = false := by
  unfold validate
  split
  case h_1 name value found =>
    have blank : value.isAllBlank = true := by simpa using List.find?_some found
    refine iff_of_false nofun fun solid => ?_
    rw [solid _ (List.mem_of_find?_eq_some found)] at blank
    cases blank
  case h_2 found =>
    refine iff_of_true rfl fun r member => ?_
    simpa using List.find?_eq_none.mp found r member

theorem forall_required {P : String → Prop} {f : Frontmatter}
    : (∀ r ∈ f.required, P r.2)
      ↔ P f.title ∧ P f.slug ∧ P f.author.name ∧ P f.author.email ∧ P f.category.name
        ∧ P f.category.slug ∧ P f.featuredImage.fileUrl
        ∧ ∀ tag ∈ f.tags, P tag.name ∧ P tag.slug := by
  rw [required, List.forall_mem_append, forall_requiredOfTags]
  simp only [List.forall_mem_cons, List.not_mem_nil, false_implies, implies_true, true_and,
    and_assoc]

-----------------------------------------------------------------------------------------
-- Texts that are not blank
-----------------------------------------------------------------------------------------

/-- A text that is read and not blank is one that is there. -/
theorem isSolid_iff {v : Yaml.Value} {s : String}
    : IsSolid v s ↔ ReadsText v s ∧ s.isAllBlank = false := by
  constructor
  · rintro ⟨rfl, solid⟩
    exact ⟨⟨some s, rfl, rfl⟩, solid⟩
  · rintro ⟨⟨t, rfl, rfl⟩, solid⟩
    cases t with
    | none => cases solid
    | some t => exact ⟨rfl, solid⟩

theorem isLabelOf_iff {entries : Entries} {label : FrontmatterLabel}
    : IsLabelOf entries label
      ↔ ReadsLabel entries label
        ∧ label.name.isAllBlank = false
        ∧ label.slug.isAllBlank = false := by
  constructor
  · rintro ⟨name, slug, color⟩
    exact ⟨⟨(isSolid_iff.mp name).1, (isSolid_iff.mp slug).1, color⟩, name.2, slug.2⟩
  · rintro ⟨⟨name, slug, color⟩, solidName, solidSlug⟩
    exact ⟨isSolid_iff.mpr ⟨name, solidName⟩, isSolid_iff.mpr ⟨slug, solidSlug⟩, color⟩

/-- The labels of a list hold its values exactly if they are read of it and none is blank. -/
theorem forall₂_isLabelOf_iff {items : List Entries} {labels : List FrontmatterLabel}
    : List.Forall₂ IsLabelOf items labels
      ↔ List.Forall₂ ReadsLabel items labels
        ∧ ∀ tag ∈ labels, tag.name.isAllBlank = false ∧ tag.slug.isAllBlank = false := by
  induction items generalizing labels with
  | nil =>
      cases labels <;> simp
  | cons entries items ih =>
      cases labels with
      | nil => simp
      | cons label labels =>
          rw [List.forall₂_cons, List.forall₂_cons, ih, isLabelOf_iff, List.forall_mem_cons]
          exact and_and_and_comm

theorem isListOf_isLabelOf_iff {v : Yaml.Value} {labels : List FrontmatterLabel}
    : IsListOf IsLabelOf v labels
      ↔ IsListOf ReadsLabel v labels
        ∧ ∀ tag ∈ labels, tag.name.isAllBlank = false ∧ tag.slug.isAllBlank = false := by
  constructor
  · intro isList
    cases isList with
    | absent => exact ⟨.absent, nofun⟩
    | list each =>
        obtain ⟨reads, solid⟩ := forall₂_isLabelOf_iff.mp each
        exact ⟨.list reads, solid⟩
  · rintro ⟨isList, solid⟩
    cases isList with
    | absent => exact .absent
    | list reads => exact .list (forall₂_isLabelOf_iff.mpr ⟨reads, solid⟩)

/-- A mapping that may be absent is there if it holds a text that is not blank. -/
theorem eq_map_of_solid {v : Yaml.Value} {entries : Entries} {key s : String}
    (mapping : entriesOf? v = some entries) (solid : IsSolid (valueAt key entries) s)
    : v = .map entries := by
  cases v with
  | null =>
      cases mapping
      cases solid.1
  | map es =>
      cases mapping
      rfl
  | _ => cases mapping

/-- A record is read of a mapping and none of its required texts is blank exactly if it holds the
values of the mapping.
-/
theorem isRecordOf_iff {entries : Entries} {f : Frontmatter}
    : IsRecordOf entries f
      ↔ ReadsRecord entries f ∧ ∀ r ∈ f.required, r.2.isAllBlank = false := by
  rw [forall_required (P := fun s => s.isAllBlank = false)]
  constructor
  · intro holds
    obtain ⟨author, isAuthor, name, email⟩ := holds.author
    obtain ⟨category, isCategory, label⟩ := holds.category
    obtain ⟨image, isImage, fileUrl, sizes⟩ := holds.featuredImage
    obtain ⟨readsLabel, solidLabel⟩ := isLabelOf_iff.mp label
    obtain ⟨readsTags, solidTags⟩ := isListOf_isLabelOf_iff.mp holds.tags
    refine ⟨?_, holds.title.2, holds.slug.2, name.2, email.2, solidLabel.1, solidLabel.2, fileUrl.2,
      solidTags⟩
    exact {
      title := (isSolid_iff.mp holds.title).1
      slug := (isSolid_iff.mp holds.slug).1
      excerpt := holds.excerpt
      publishedAt := holds.publishedAt
      updatedAt := holds.updatedAt
      author :=
        ⟨author, by rw [isAuthor]; rfl, (isSolid_iff.mp name).1, (isSolid_iff.mp email).1⟩
      category := ⟨category, by rw [isCategory]; rfl, readsLabel⟩
      featuredImage := ⟨image, by rw [isImage]; rfl, (isSolid_iff.mp fileUrl).1, sizes⟩
      tags := readsTags
    }
  · rintro ⟨reads, title, slug, name, email, labelName, labelSlug, fileUrl, tags⟩
    obtain ⟨author, isAuthor, readsName, readsEmail⟩ := reads.author
    obtain ⟨category, isCategory, readsLabel⟩ := reads.category
    obtain ⟨image, isImage, readsFileUrl, sizes⟩ := reads.featuredImage
    -- An absent mapping would have blank texts only, so one that is not blank shows it is there.
    have solidName := isSolid_iff.mpr ⟨readsName, name⟩
    have solidLabel := isLabelOf_iff.mpr ⟨readsLabel, labelName, labelSlug⟩
    have solidFileUrl := isSolid_iff.mpr ⟨readsFileUrl, fileUrl⟩
    exact {
      title := isSolid_iff.mpr ⟨reads.title, title⟩
      slug := isSolid_iff.mpr ⟨reads.slug, slug⟩
      excerpt := reads.excerpt
      publishedAt := reads.publishedAt
      updatedAt := reads.updatedAt
      author :=
        ⟨author, eq_map_of_solid isAuthor solidName, solidName,
          isSolid_iff.mpr ⟨readsEmail, email⟩⟩
      category := ⟨category, eq_map_of_solid isCategory solidLabel.name, solidLabel⟩
      featuredImage := ⟨image, eq_map_of_solid isImage solidFileUrl, solidFileUrl, sizes⟩
      tags := isListOf_isLabelOf_iff.mpr ⟨reads.tags, tags⟩
    }

/-- A mapping is read as a record and passes the check exactly if the record holds its values. -/
theorem checked_eq_ok_iff {entries : Entries} {path : Option String} {f : Frontmatter}
    : checkedOfEntries entries path = .ok f ↔ IsRecordOf entries f := by
  rw [isRecordOf_iff, ← ofEntries_eq_ok_iff, checkedOfEntries, bind_eq_ok_iff]
  simp only [bind_eq_ok_iff, mapError_eq_ok_iff]
  constructor
  · rintro ⟨_, read, _, solid, ⟨⟩⟩
    exact ⟨read, validate_eq_ok_iff.mp solid⟩
  · rintro ⟨read, solid⟩
    exact ⟨f, read, (), validate_eq_ok_iff.mpr solid, rfl⟩

-----------------------------------------------------------------------------------------
-- Mappings with a record
-----------------------------------------------------------------------------------------

theorem eq_null_of_readsInteger {v : Yaml.Value} (read : ReadsInteger v none) : v = .null := by
  have same : (Fields.single "" v).get "" = v := rfl
  unfold ReadsInteger Fields.integer? at read
  rw [same] at read
  split at read
  case h_1 => rfl
  case h_2 => cases read
  case h_3 =>
    dsimp only at read
    split at read
    · split at read <;> cases read
    · cases read
  case h_4 => cases read

theorem exists_readsInteger_iff {v : Yaml.Value}
    : (∃ n, ReadsInteger v n) ↔ v = .null ∨ ∃ n, ReadsInteger v (some n) := by
  constructor
  · rintro ⟨n, read⟩
    cases n with
    | none => exact .inl (eq_null_of_readsInteger read)
    | some n => exact .inr ⟨n, read⟩
  · rintro (rfl | ⟨n, read⟩)
    · exact ⟨none, rfl⟩
    · exact ⟨some n, read⟩

theorem exists_elim_readsTimestamp_iff {v : Yaml.Value}
    : (∃ m : Option Moment, m.elim (v = .null) (ReadsTimestamp v))
      ↔ v = .null ∨ ∃ m, ReadsTimestamp v m := by
  constructor
  · rintro ⟨_ | m, read⟩
    · exact .inl read
    · exact .inr ⟨m, read⟩
  · rintro (absent | ⟨m, read⟩)
    · exact ⟨none, absent⟩
    · exact ⟨some m, read⟩

theorem exists_isLabelOf_iff {entries : Entries}
    : (∃ label, IsLabelOf entries label) ↔ IsLabelMapping entries := by
  constructor
  · rintro ⟨label, name, slug, color⟩
    exact ⟨⟨_, name⟩, ⟨_, slug⟩, ⟨_, color⟩⟩
  · rintro ⟨⟨name, hasName⟩, ⟨slug, hasSlug⟩, ⟨color, hasColor⟩⟩
    exact ⟨{ name, slug, color }, hasName, hasSlug, hasColor⟩

/-- A list has labels if each of its items is a mapping that a label can be read of, by induction on
the list.
-/
theorem exists_labels_of_forall {vs : List Yaml.Value}
    (each : ∀ v ∈ vs, ∃ tag, v = .map tag ∧ IsLabelMapping tag)
    : ∃ items labels, vs = items.map .map ∧ List.Forall₂ IsLabelOf items labels := by
  induction vs with
  | nil => exact ⟨[], [], rfl, .nil⟩
  | cons v rest ih =>
      obtain ⟨⟨tag, rfl, legible⟩, others⟩ := List.forall_mem_cons.mp each
      obtain ⟨label, isLabel⟩ := exists_isLabelOf_iff.mpr legible
      obtain ⟨items, labels, rfl, paired⟩ := ih others
      exact ⟨tag :: items, label :: labels, rfl, .cons isLabel paired⟩

theorem forall_isLabelMapping {items : List Entries} {labels : List FrontmatterLabel}
    (paired : List.Forall₂ IsLabelOf items labels)
    : ∀ tag ∈ items, IsLabelMapping tag := by
  induction paired with
  | nil => exact nofun
  | cons isLabel _ ih => exact List.forall_mem_cons.mpr ⟨exists_isLabelOf_iff.mp ⟨_, isLabel⟩, ih⟩

/-- The lists with labels, and the absent list, are those whose items are mappings that labels can
be read of.
-/
theorem exists_isListOf_iff {v : Yaml.Value}
    : (∃ labels, IsListOf IsLabelOf v labels)
      ↔ v = .null ∨ ∃ vs, v = .list vs ∧ ∀ w ∈ vs, ∃ tag, w = .map tag ∧ IsLabelMapping tag := by
  constructor
  · rintro ⟨labels, isList⟩
    cases isList with
    | absent => exact .inl rfl
    | list paired =>
        refine .inr ⟨_, rfl, fun w member => ?_⟩
        obtain ⟨tag, inItems, rfl⟩ := List.mem_map.mp member
        exact ⟨tag, rfl, forall_isLabelMapping paired tag inItems⟩
  · rintro (rfl | ⟨vs, rfl, each⟩)
    · exact ⟨[], .absent⟩
    · obtain ⟨items, labels, rfl, paired⟩ := exists_labels_of_forall each
      exact ⟨labels, .list paired⟩

/-- The mappings with a record are those that follow the schema. -/
theorem exists_isRecordOf_iff {entries : Entries}
    : (∃ f, IsRecordOf entries f) ↔ FollowsSchema entries := by
  constructor
  · rintro ⟨f, holds⟩
    obtain ⟨author, isAuthor, name, email⟩ := holds.author
    obtain ⟨category, isCategory, label⟩ := holds.category
    obtain ⟨image, isImage, fileUrl, width, height⟩ := holds.featuredImage
    exact {
      title := ⟨_, holds.title⟩
      slug := ⟨_, holds.slug⟩
      excerpt := ⟨_, holds.excerpt⟩
      publishedAt := ⟨_, holds.publishedAt⟩
      updatedAt := exists_elim_readsTimestamp_iff.mp ⟨_, holds.updatedAt⟩
      author := ⟨author, isAuthor, ⟨_, name⟩, ⟨_, email⟩⟩
      category := ⟨category, isCategory, exists_isLabelOf_iff.mp ⟨_, label⟩⟩
      featuredImage := ⟨image, isImage, ⟨_, fileUrl⟩, exists_readsInteger_iff.mp ⟨_, width⟩,
        exists_readsInteger_iff.mp ⟨_, height⟩⟩
      tags := exists_isListOf_iff.mp ⟨_, holds.tags⟩
    }
  · intro follows
    obtain ⟨title, hasTitle⟩ := follows.title
    obtain ⟨slug, hasSlug⟩ := follows.slug
    obtain ⟨excerpt, hasExcerpt⟩ := follows.excerpt
    obtain ⟨publishedAt, published⟩ := follows.publishedAt
    obtain ⟨updatedAt, updated⟩ := exists_elim_readsTimestamp_iff.mpr follows.updatedAt
    obtain ⟨author, isAuthor, ⟨name, hasName⟩, ⟨email, hasEmail⟩⟩ := follows.author
    obtain ⟨entries', isCategory, legible⟩ := follows.category
    obtain ⟨category, isLabel⟩ := exists_isLabelOf_iff.mpr legible
    obtain ⟨image, isImage, ⟨fileUrl, hasFileUrl⟩, hasWidth, hasHeight⟩ := follows.featuredImage
    obtain ⟨width, readsWidth⟩ := exists_readsInteger_iff.mpr hasWidth
    obtain ⟨height, readsHeight⟩ := exists_readsInteger_iff.mpr hasHeight
    obtain ⟨tags, areTags⟩ := exists_isListOf_iff.mpr follows.tags
    exact ⟨
      {
        title, slug, excerpt, publishedAt, updatedAt, category, tags
        author := ⟨name, email⟩
        featuredImage := ⟨fileUrl, width, height⟩
      },
      {
        title := hasTitle
        slug := hasSlug
        excerpt := hasExcerpt
        publishedAt := published
        updatedAt := updated
        author := ⟨author, isAuthor, hasName, hasEmail⟩
        category := ⟨entries', isCategory, isLabel⟩
        featuredImage := ⟨image, isImage, hasFileUrl, readsWidth, readsHeight⟩
        tags := areTags
      }
    ⟩

end Frontmatter

end BlogSnapshot
