import BlogSnapshot.Post.Build
import BlogSnapshot.Proofs.Index
import BlogSnapshot.Proofs.Steps

/-! What a build writes into its records of its own surroundings. The time and the settings that say
nothing of colors are copied into fields that no step of the build reads again.
-/

namespace BlogSnapshot

/-- What a build writes into its records: its time, the color of texts, and the version and the
block id of contents.
-/
structure Stamp where
  builtAt : Moment
  textColor : Option String
  version : Option String
  blockId : Option String

/-- The stamp of a build with these settings at this time. -/
def Stamp.ofBuild (settings : Settings) (builtAt : Moment) : Stamp :=
  ⟨builtAt, settings.textColor, settings.contentVersion, settings.contentBlockId⟩

namespace Category

/-- The category with the fields that a build stamps written over. -/
def stamped (t : Stamp) (c : Category) : Category :=
  { c with textColor := t.textColor, createdAt := some t.builtAt, updatedAt := some t.builtAt }

@[simp] theorem stamped_slug (t : Stamp) (c : Category) : (c.stamped t).slug = c.slug := rfl

@[simp] theorem stamped_stamped (t u : Stamp) (c : Category)
    : (c.stamped t).stamped u = c.stamped u := rfl

end Category

namespace Tag

/-- The tag with the fields that a build stamps written over. -/
def stamped (t : Stamp) (g : Tag) : Tag :=
  { g with textColor := t.textColor, createdAt := some t.builtAt, updatedAt := some t.builtAt }

@[simp] theorem stamped_slug (t : Stamp) (g : Tag) : (g.stamped t).slug = g.slug := rfl

@[simp] theorem stamped_stamped (t u : Stamp) (g : Tag)
    : (g.stamped t).stamped u = g.stamped u := rfl

end Tag

/-- The media record with the fields that a build stamps written over. -/
def Media.stamped (t : Stamp) (m : Media) : Media :=
  { m with createdAt := t.builtAt, updatedAt := t.builtAt }

@[simp] theorem Media.stamped_stamped (t u : Stamp) (m : Media)
    : (m.stamped t).stamped u = m.stamped u := rfl

/-- The content with the fields that a build stamps written over. -/
def PostContent.stamped (t : Stamp) (c : PostContent) : PostContent :=
  { c with
    version := t.version
    blocks := c.blocks.map fun b => { b with id := t.blockId } }

@[simp] theorem PostContent.stamped_stamped (t u : Stamp) (c : PostContent)
    : (c.stamped t).stamped u = c.stamped u := by
  simp [stamped, Function.comp_def]

namespace Post

/-- The post with the fields that a build stamps written over. -/
def stamped (t : Stamp) (p : Post) : Post :=
  { p with
    content := p.content.stamped t
    featuredImage := p.featuredImage.map (Media.stamped t) }

@[simp] theorem stamped_stamped (t u : Stamp) (p : Post)
    : (p.stamped t).stamped u = p.stamped u := by
  simp [stamped, Function.comp_def]

/-- The HTML of a post is not stamped. -/
theorem stamped_html (t : Stamp) (p : Post) : (p.stamped t).content.html = p.content.html := by
  simp [stamped, PostContent.stamped, PostContent.html, List.foldl_map]

end Post

-----------------------------------------------------------------------------------------
-- Entities
-----------------------------------------------------------------------------------------

/-- Entities that are made over are resolved with the same conflicts. -/
theorem Declaration.resolve_map {ν ε φ : Type} [DecidableEq ν]
    (conflict : Declaration ν → ν → Cause) (entity : Nat → String → ν → ε) (g : ε → φ)
    (ds : List (Declaration ν))
    : resolve conflict (fun id key value => g (entity id key value)) ds
      = ⟨(resolve conflict entity ds).entities.map g, (resolve conflict entity ds).conflicts⟩ := by
  simp only [resolve, List.map_map]
  rfl

theorem Resolution.unwrap_map {ε φ : Type} (r : Resolution ε) (g : ε → φ)
    : unwrap ⟨r.entities.map g, r.conflicts⟩ = r.unwrap.map (List.map g) := by
  unfold unwrap
  cases r.conflicts <;> rfl

/-- The entities with the fields that a build stamps written over. -/
def Entities.stamped (t : Stamp) (e : Entities) : Entities :=
  ⟨e.authors, e.categories.map (Category.stamped t), e.tags.map (Tag.stamped t)⟩

@[simp] theorem Entities.stamped_categories (t : Stamp) (e : Entities)
    : (e.stamped t).categories = e.categories.map (Category.stamped t) := rfl

@[simp] theorem Entities.stamped_tags (t : Stamp) (e : Entities)
    : (e.stamped t).tags = e.tags.map (Tag.stamped t) := rfl

/-- (SameColors settings settings') says that two settings have the same colors for categories and
tags that declare none.
-/
structure Settings.SameColors (settings settings' : Settings) : Prop where
  category : settings.categoryColor = settings'.categoryColor
  tag : settings.tagColor = settings'.tagColor

section

variable {settings settings' : Settings} (colors : settings.SameColors settings')
  (builtAt builtAt' : Moment)

include colors

theorem Resolution.categories_stamped (sources : List ParsedSource)
    : (categories settings' builtAt' sources).unwrap
      = (categories settings builtAt sources).unwrap.map
          (List.map (Category.stamped (.ofBuild settings' builtAt'))) := by
  rw [← unwrap_map, categories, categories, colors.category, ← Declaration.resolve_map]
  rfl

theorem Resolution.tags_stamped (sources : List ParsedSource)
    : (tags settings' builtAt' sources).unwrap
      = (tags settings builtAt sources).unwrap.map
          (List.map (Tag.stamped (.ofBuild settings' builtAt'))) := by
  rw [← unwrap_map, tags, tags, colors.tag, ← Declaration.resolve_map]
  rfl

/-- Builds with the same colors resolve the same entities but for the stamp. -/
theorem Entities.resolve_stamped (sources : List ParsedSource)
    : resolve settings' builtAt' sources
      = (resolve settings builtAt sources).map
          (Entities.stamped (.ofBuild settings' builtAt')) := by
  unfold resolve
  rw [Resolution.categories_stamped colors builtAt builtAt',
    Resolution.tags_stamped colors builtAt builtAt']
  simp only [map_bind, bind_map_left]
  rfl

end

-----------------------------------------------------------------------------------------
-- Posts
-----------------------------------------------------------------------------------------

/-- Items that are made over keep their slugs, so they are found where they were. -/
theorem lastWithSlug?_map {α : Type} {slugOf : α → String} {g : α → α}
    (kept : ∀ a, slugOf (g a) = slugOf a) (slug : String) (items : List α)
    : lastWithSlug? slugOf slug (items.map g) = (lastWithSlug? slugOf slug items).map g := by
  simp only [lastWithSlug?, Index.lookup_byKey, ← List.map_reverse, List.find?_map,
    Function.comp_def, kept]

namespace Post

/-- The tables with the fields that a build stamps written over. -/
def Tables.stamped (t : Stamp) (tables : Tables) : Tables where
  authors := tables.authors
  categories slug := (tables.categories slug).map (Category.stamped t)
  tags slug := (tables.tags slug).map (Tag.stamped t)

theorem Tables.ofEntities_stamped (t : Stamp) (e : Entities)
    : ofEntities (e.stamped t) = (ofEntities e).stamped t := by
  unfold ofEntities stamped Entities.stamped
  simp only [lastWithSlug?_map (Category.stamped_slug t), lastWithSlug?_map (Tag.stamped_slug t)]

theorem Tables.category?_stamped (t : Stamp) (tables : Tables) (slug : String)
    : (tables.stamped t).category? slug = (tables.category? slug).map (Category.stamped t) := rfl

theorem Tables.tag?_stamped (t : Stamp) (tables : Tables) (slug : String)
    : (tables.stamped t).tag? slug = (tables.tag? slug).map (Tag.stamped t) := rfl

/-- A post copies nothing of its tags that is stamped, by induction on what it names. -/
theorem tagsOf_stamped (t : Stamp) (tables : Tables) (path : String)
    (labels : List FrontmatterLabel)
    : tagsOf (tables.stamped t) path labels = tagsOf tables path labels := by
  induction labels with
  | nil => rfl
  | cons l rest ih =>
      rw [tagsOf, tagsOf, tables.tag?_stamped t, ih]
      cases tables.tag? l.slug <;> rfl

/-- The content of a body takes from the settings what is stamped. -/
theorem content_stamped (settings settings' : Settings) (builtAt' : Moment) (body : String)
    (publishedAt : Moment)
    : PostContent.ofBody settings' body publishedAt
      = (PostContent.ofBody settings body publishedAt).map
          (PostContent.stamped (.ofBuild settings' builtAt')) := by
  unfold PostContent.ofBody
  rw [map_bind]
  rfl

/-- A featured image takes from the time what is stamped. -/
theorem image_stamped (settings' : Settings) (builtAt builtAt' : Moment) (id : Int)
    (image : FrontmatterImage)
    : Media.ofFeaturedImage id image builtAt'
      = (Media.ofFeaturedImage id image builtAt).map
          (Media.stamped (.ofBuild settings' builtAt')) := by
  unfold Media.ofFeaturedImage
  rw [map_bind]
  rfl

/-- A post differs from one of another build by its stamp, and so it does if it is joined with
entities that differ from those of the other build by theirs.
-/
theorem build_stamped (settings settings' : Settings) (builtAt builtAt' : Moment)
    (tables : Tables) (id : Int) (source : ParsedSource)
    : build settings' builtAt' (tables.stamped (.ofBuild settings' builtAt')) id source
      = (build settings builtAt tables id source).map
          (Post.stamped (.ofBuild settings' builtAt')) := by
  unfold build
  have author (email : String)
      : (tables.stamped (.ofBuild settings' builtAt')).author? email = tables.author? email := rfl
  simp only [author, Tables.category?_stamped, tagsOf_stamped]
  cases tables.author? source.frontmatter.author.email with
  | none => rfl
  | some author =>
      cases tables.category? source.frontmatter.category.slug with
      | none => rfl
      | some category =>
          simp only [Option.map_some, content_stamped settings settings' builtAt',
            image_stamped settings' builtAt builtAt', mapError_map, bind_map_left, map_bind]
          rfl

end Post

end BlogSnapshot
