import BlogSnapshot.Post.Build
import BlogSnapshot.Proofs.Index
import BlogSnapshot.Proofs.Resolution.Entities

/-! The entities of a corpus and the tables that its posts are joined with. A consistent corpus
is resolved, any other fails for its first clash, and a lookup in the tables finds exactly the
declared keys.
-/

namespace BlogSnapshot

open Declaration

-----------------------------------------------------------------------------------------
-- Lookups among items with distinct keys
-----------------------------------------------------------------------------------------

/-- Among distinct keys a search finds the item with the key. -/
theorem find?_key_eq_some_iff {α : Type} {keyOf : α → String} {items : List α}
    (distinct : (items.map keyOf).Nodup) (key : String) (x : α)
    : items.find? (fun y => keyOf y = key) = some x ↔ x ∈ items ∧ keyOf x = key := by
  constructor
  · intro found
    exact ⟨List.mem_of_find?_eq_some found, by simpa using List.find?_some found⟩
  · rintro ⟨member, rfl⟩
    have finds : (items.find? fun y => keyOf y = keyOf x).isSome :=
      List.find?_isSome.mpr ⟨x, member, by simp⟩
    obtain ⟨y, found⟩ := Option.isSome_iff_exists.mp finds
    have sameKey : keyOf y = keyOf x := by simpa using List.find?_some found
    rw [found, List.inj_on_of_nodup_map distinct (List.mem_of_find?_eq_some found) member sameKey]

/-- Among distinct slugs the last item with a slug is the item with the slug. -/
theorem lastWithSlug?_eq_some_iff {α : Type} {slugOf : α → String} {items : List α}
    (distinct : (items.map slugOf).Nodup) (slug : String) (x : α)
    : lastWithSlug? slugOf slug items = some x ↔ x ∈ items ∧ slugOf x = slug := by
  have reversed : (items.reverse.map slugOf).Nodup := by
    rw [List.map_reverse]
    exact List.nodup_reverse.mpr distinct
  rw [lastWithSlug?, Index.lookup_byKey, ← List.mem_reverse]
  exact find?_key_eq_some_iff reversed slug x

namespace Declaration

variable {ν ε : Type} [DecidableEq ν] (conflict : Declaration ν → ν → Cause)
variable (entity : Nat → String → ν → ε) (ds : List (Declaration ν))
variable {keyOf : ε → String}

/-- An entity of a fold with a key is there exactly if the key is declared. -/
theorem mem_resolve_entities_with_key (keyed : ∀ id key v, keyOf (entity id key v) = key)
    (key : String) (e : ε)
    : e ∈ (resolve conflict entity ds).entities ∧ keyOf e = key
      ↔ (earliest? ds key).map (entity (rank (ds.map (·.key)) key) key) = some e := by
  rw [mem_resolve_entities, Option.map_eq_some_iff]
  constructor
  · rintro ⟨⟨k, v, found, rfl⟩, sameKey⟩
    rw [keyed] at sameKey
    subst sameKey
    exact ⟨v, found, rfl⟩
  · rintro ⟨v, found, rfl⟩
    exact ⟨⟨key, v, found, rfl⟩, keyed _ _ _⟩

/-- Searching the entities of a fold for a key gives the entity of its earliest value. -/
theorem find?_resolve_entities (keyed : ∀ id key v, keyOf (entity id key v) = key)
    (key : String)
    : (resolve conflict entity ds).entities.find? (fun e => keyOf e = key)
      = (earliest? ds key).map (entity (rank (ds.map (·.key)) key) key) := by
  apply Option.ext
  intro e
  rw [find?_key_eq_some_iff (resolve_entities_ascending conflict entity ds keyed).nodup]
  exact mem_resolve_entities_with_key conflict entity ds keyed key e

/-- The last entity of a fold with a key is the entity of its earliest value. -/
theorem lastWithSlug?_resolve_entities (keyed : ∀ id key v, keyOf (entity id key v) = key)
    (key : String)
    : lastWithSlug? keyOf key (resolve conflict entity ds).entities
      = (earliest? ds key).map (entity (rank (ds.map (·.key)) key) key) := by
  apply Option.ext
  intro e
  rw [lastWithSlug?_eq_some_iff (resolve_entities_ascending conflict entity ds keyed).nodup]
  exact mem_resolve_entities_with_key conflict entity ds keyed key e

end Declaration

-----------------------------------------------------------------------------------------
-- Consistent corpora
-----------------------------------------------------------------------------------------

namespace ParsedSource

/-- All declarations of a corpus agree: those of one author, of one category and of one tag. -/
structure Consistent (settings : Settings) (sources : List ParsedSource) : Prop where
  authors : Agree (sources.map (·.author))
  categories : Agree (sources.map (·.category settings.categoryColor))
  tags : Agree (sources.flatMap (·.tags settings.tagColor))

/-- The keys of the authors of a corpus. -/
def authorKeys (sources : List ParsedSource) : List String :=
  sources.map fun s => authorKey s.frontmatter.author.email

/-- The slugs of the categories of a corpus. -/
def categorySlugs (sources : List ParsedSource) : List String :=
  sources.map fun s => s.frontmatter.category.slug.trimBlanks

/-- The slugs of the tags of a corpus. -/
def tagSlugs (sources : List ParsedSource) : List String :=
  sources.flatMap fun s => s.frontmatter.tags.map fun l => l.slug.trimBlanks

theorem map_key_author (sources : List ParsedSource)
    : (sources.map (·.author)).map (·.key) = authorKeys sources := by
  simp [authorKeys, author]

theorem map_key_category (default : Option String) (sources : List ParsedSource)
    : (sources.map (·.category default)).map (·.key) = categorySlugs sources := by
  simp [categorySlugs, category, FrontmatterLabel.declaration]

theorem map_key_tags (default : Option String) (sources : List ParsedSource)
    : (sources.flatMap (·.tags default)).map (·.key) = tagSlugs sources := by
  simp [tagSlugs, tags, FrontmatterLabel.declaration, List.map_flatMap, Function.comp_def]

end ParsedSource

open ParsedSource

namespace Entities

variable {settings : Settings} {builtAt : Moment} {sources : List ParsedSource}

/-- The entities of the three folds, whatever conflicts they have. -/
def ofFolds (settings : Settings) (builtAt : Moment) (sources : List ParsedSource) : Entities where
  authors := (Resolution.authors sources).entities
  categories := (Resolution.categories settings builtAt sources).entities
  tags := (Resolution.tags settings builtAt sources).entities

/-- A consistent corpus is resolved. -/
theorem resolve_of_consistent (h : Consistent settings sources)
    : resolve settings builtAt sources = .ok (ofFolds settings builtAt sources) := by
  simp only [resolve, Resolution.authors, Resolution.categories, Resolution.tags,
    h.authors.unwrap_resolve, h.categories.unwrap_resolve, h.tags.unwrap_resolve]
  rfl

/-- The first clash of authors is reported before all others. -/
theorem resolve_of_author_clash {d : Declaration String} {first : String}
    (clash : FirstClash (sources.map (·.author)) d first)
    : resolve settings builtAt sources
      = .error ⟨.conflictingAuthor d.key first d.value, some d.path⟩ := by
  simp only [resolve, Resolution.authors, clash.unwrap_resolve]
  rfl

/-- Where authors agree, the first clash of categories is reported. -/
theorem resolve_of_category_clash {d : Declaration (String × Option String)}
    {first : String × Option String} (authors : Agree (sources.map (·.author)))
    (clash : FirstClash (sources.map (·.category settings.categoryColor)) d first)
    : resolve settings builtAt sources
      = .error ⟨.conflictingCategory d.key, some d.path⟩ := by
  simp only [resolve, Resolution.authors, Resolution.categories, authors.unwrap_resolve,
    clash.unwrap_resolve]
  rfl

/-- Where authors and categories agree, the first clash of tags is reported. -/
theorem resolve_of_tag_clash {d : Declaration (String × Option String)}
    {first : String × Option String} (authors : Agree (sources.map (·.author)))
    (categories : Agree (sources.map (·.category settings.categoryColor)))
    (clash : FirstClash (sources.flatMap (·.tags settings.tagColor)) d first)
    : resolve settings builtAt sources = .error ⟨.conflictingTag d.key, some d.path⟩ := by
  simp only [resolve, Resolution.authors, Resolution.categories, Resolution.tags,
    authors.unwrap_resolve, categories.unwrap_resolve, clash.unwrap_resolve]
  rfl

/-- Exactly the consistent corpora are resolved, for any other one has a first clash. -/
theorem resolve_eq_ok_iff {entities : Entities}
    : resolve settings builtAt sources = .ok entities
      ↔ Consistent settings sources ∧ entities = ofFolds settings builtAt sources := by
  constructor
  · intro resolved
    rcases agree_or_firstClash (sources.map (·.author)) with authors | ⟨d, first, clash⟩
    · rcases agree_or_firstClash (sources.map (·.category settings.categoryColor))
        with categories | ⟨d, first, clash⟩
      · rcases agree_or_firstClash (sources.flatMap (·.tags settings.tagColor))
          with tags | ⟨d, first, clash⟩
        · have consistent : Consistent settings sources := ⟨authors, categories, tags⟩
          rw [resolve_of_consistent consistent] at resolved
          exact ⟨consistent, (Except.ok.inj resolved).symm⟩
        · rw [resolve_of_tag_clash authors categories clash] at resolved
          cases resolved
      · rw [resolve_of_category_clash authors clash] at resolved
        cases resolved
    · rw [resolve_of_author_clash clash] at resolved
      cases resolved
  · rintro ⟨consistent, rfl⟩
    exact resolve_of_consistent consistent

end Entities

-----------------------------------------------------------------------------------------
-- The tables of a corpus
-----------------------------------------------------------------------------------------

/-- The author entity of a key that is declared with a name. -/
def Author.ranked (sources : List ParsedSource) (key name : String) : Author :=
  ⟨rank (authorKeys sources) key, name, key⟩

/-- The category entity of a slug that is declared with a name and a color. -/
def Category.ranked (settings : Settings) (builtAt : Moment) (sources : List ParsedSource)
    (slug : String) (declared : String × Option String)
    : Category where
  id := rank (categorySlugs sources) slug
  name := declared.1
  slug := slug
  color := declared.2
  textColor := settings.textColor
  createdAt := builtAt
  updatedAt := builtAt

/-- The tag entity of a slug that is declared with a name and a color. -/
def Tag.ranked (settings : Settings) (builtAt : Moment) (sources : List ParsedSource)
    (slug : String) (declared : String × Option String)
    : Tag where
  id := rank (tagSlugs sources) slug
  name := declared.1
  slug := slug
  color := declared.2
  textColor := settings.textColor
  createdAt := builtAt
  updatedAt := builtAt

section

variable (settings : Settings) (builtAt : Moment) (sources : List ParsedSource)

/-- The categories of a corpus are the declared ones. -/
theorem mem_categories (c : Category)
    : c ∈ (Resolution.categories settings builtAt sources).entities
      ↔ ∃ slug declared,
          earliest? (sources.map (·.category settings.categoryColor)) slug = some declared
          ∧ c = Category.ranked settings builtAt sources slug declared := by
  rw [Resolution.categories, mem_resolve_entities, map_key_category]
  rfl

/-- The tags of a corpus are the declared ones. -/
theorem mem_tags (t : Tag)
    : t ∈ (Resolution.tags settings builtAt sources).entities
      ↔ ∃ slug declared,
          earliest? (sources.flatMap (·.tags settings.tagColor)) slug = some declared
          ∧ t = Tag.ranked settings builtAt sources slug declared := by
  rw [Resolution.tags, mem_resolve_entities, map_key_tags]
  rfl

/-- The categories of a corpus have exactly the declared slugs. -/
theorem mem_map_slug_categories (slug : String)
    : slug ∈ (Resolution.categories settings builtAt sources).entities.map Category.slug
      ↔ slug ∈ categorySlugs sources := by
  rw [Resolution.categories, mem_map_key_resolve_entities _ _ _ (fun _ _ _ => rfl),
    map_key_category]

/-- The tags of a corpus have exactly the declared slugs. -/
theorem mem_map_slug_tags (slug : String)
    : slug ∈ (Resolution.tags settings builtAt sources).entities.map Tag.slug
      ↔ slug ∈ tagSlugs sources := by
  rw [Resolution.tags, mem_map_key_resolve_entities _ _ _ (fun _ _ _ => rfl), map_key_tags]

/-- The categories of a corpus are in strictly ascending order of slugs. -/
theorem categories_ascending
    : Sorting.Ascending Category.slug
        (Resolution.categories settings builtAt sources).entities :=
  resolve_entities_ascending _ _ _ fun _ _ _ => rfl

/-- The tags of a corpus are in strictly ascending order of slugs. -/
theorem tags_ascending
    : Sorting.Ascending Tag.slug (Resolution.tags settings builtAt sources).entities :=
  resolve_entities_ascending _ _ _ fun _ _ _ => rfl

/-- The categories of a corpus have the ids from 1 on. -/
theorem map_id_categories
    : (Resolution.categories settings builtAt sources).entities.map Category.id
      = (List.range' 1 (Resolution.categories settings builtAt sources).entities.length).map
          Int.ofNat :=
  map_id_resolve_entities _ _ _ fun _ _ _ => rfl

/-- The tags of a corpus have the ids from 1 on. -/
theorem map_id_tags
    : (Resolution.tags settings builtAt sources).entities.map Tag.id
      = (List.range' 1 (Resolution.tags settings builtAt sources).entities.length).map
          Int.ofNat :=
  map_id_resolve_entities _ _ _ fun _ _ _ => rfl

/-- The tables of a corpus. -/
def Post.Tables.ofCorpus : Post.Tables :=
  .ofEntities (.ofFolds settings builtAt sources)

namespace Post.Tables

/-- The author of an email is the entity of its key. -/
theorem author?_ofCorpus (email : String)
    : (ofCorpus settings builtAt sources).author? email
      = (earliest? (sources.map (·.author)) (authorKey email)).map
          (Author.ranked sources (authorKey email)) := by
  simp only [author?, ofCorpus, ofEntities, Entities.ofFolds, Resolution.authors]
  rw [find?_resolve_entities _ _ _ (fun _ _ _ => rfl), map_key_author]
  rfl

/-- The category of a slug is the entity of the trimmed slug. -/
theorem category?_ofCorpus (slug : String)
    : (ofCorpus settings builtAt sources).category? slug
      = (earliest? (sources.map (·.category settings.categoryColor)) slug.trimBlanks).map
          (Category.ranked settings builtAt sources slug.trimBlanks) := by
  simp only [category?, ofCorpus, ofEntities, Entities.ofFolds, Resolution.categories]
  rw [lastWithSlug?_resolve_entities _ _ _ (fun _ _ _ => rfl), map_key_category]
  rfl

/-- The tag of a slug is the entity of the trimmed slug. -/
theorem tag?_ofCorpus (slug : String)
    : (ofCorpus settings builtAt sources).tag? slug
      = (earliest? (sources.flatMap (·.tags settings.tagColor)) slug.trimBlanks).map
          (Tag.ranked settings builtAt sources slug.trimBlanks) := by
  simp only [tag?, ofCorpus, ofEntities, Entities.ofFolds, Resolution.tags]
  rw [lastWithSlug?_resolve_entities _ _ _ (fun _ _ _ => rfl), map_key_tags]
  rfl

/-- The tables have the author of an email exactly if a source declares its key. -/
theorem author?_isSome (email : String)
    : ((ofCorpus settings builtAt sources).author? email).isSome
      ↔ authorKey email ∈ authorKeys sources := by
  rw [author?_ofCorpus, Option.isSome_map, earliest?_isSome, map_key_author]

/-- The tables have the category of a slug exactly if a source declares the trimmed slug. -/
theorem category?_isSome (slug : String)
    : ((ofCorpus settings builtAt sources).category? slug).isSome
      ↔ slug.trimBlanks ∈ categorySlugs sources := by
  rw [category?_ofCorpus, Option.isSome_map, earliest?_isSome, map_key_category]

/-- The tables have the tag of a slug exactly if a source declares the trimmed slug. -/
theorem tag?_isSome (slug : String)
    : ((ofCorpus settings builtAt sources).tag? slug).isSome
      ↔ slug.trimBlanks ∈ tagSlugs sources := by
  rw [tag?_ofCorpus, Option.isSome_map, earliest?_isSome, map_key_tags]

end Post.Tables

end

-----------------------------------------------------------------------------------------
-- Consistent corpora and their parts
-----------------------------------------------------------------------------------------

/-- Fewer items contribute no more. -/
theorem flatMap_subset_flatMap {α β : Type} (f : α → List β) {fewer items : List α}
    (subset : fewer ⊆ items)
    : fewer.flatMap f ⊆ items.flatMap f := by
  intro b member
  obtain ⟨a, inFewer, contributes⟩ := List.mem_flatMap.mp member
  exact List.mem_flatMap.mpr ⟨a, subset inFewer, contributes⟩

namespace ParsedSource.Consistent

variable {settings : Settings} {sources : List ParsedSource}

/-- Fewer sources are consistent where all are. -/
theorem subset (h : Consistent settings sources) {fewer : List ParsedSource}
    (subset : fewer ⊆ sources)
    : Consistent settings fewer where
  authors := h.authors.subset (List.map_subset _ subset)
  categories := h.categories.subset (List.map_subset _ subset)
  tags := h.tags.subset (flatMap_subset_flatMap _ subset)

section

variable (h : Consistent settings sources) (builtAt : Moment) {s : ParsedSource}
include h

/-- A source finds its author under the name that it declares. -/
theorem author?_eq (member : s ∈ sources)
    : (Post.Tables.ofCorpus settings builtAt sources).author? s.frontmatter.author.email
      = some (Author.ranked sources (authorKey s.frontmatter.author.email)
          s.frontmatter.author.name.trimBlanks) := by
  have own := (agree_iff _).mp h.authors s.author (List.mem_map_of_mem member)
  rw [Post.Tables.author?_ofCorpus]
  exact congrArg (Option.map _) own

/-- A source finds its category with what it declares. -/
theorem category?_eq (member : s ∈ sources)
    : (Post.Tables.ofCorpus settings builtAt sources).category? s.frontmatter.category.slug
      = some (Category.ranked settings builtAt sources s.frontmatter.category.slug.trimBlanks
          (s.category settings.categoryColor).value) := by
  have own := (agree_iff _).mp h.categories (s.category settings.categoryColor)
    (List.mem_map_of_mem member)
  rw [Post.Tables.category?_ofCorpus]
  exact congrArg (Option.map _) own

/-- A source finds each of its tags with what it declares. -/
theorem tag?_eq (member : s ∈ sources) {l : FrontmatterLabel} (tagged : l ∈ s.frontmatter.tags)
    : (Post.Tables.ofCorpus settings builtAt sources).tag? l.slug
      = some (Tag.ranked settings builtAt sources l.slug.trimBlanks
          (l.declaration settings.tagColor s.path).value) := by
  have declares : l.declaration settings.tagColor s.path ∈ s.tags settings.tagColor :=
    List.mem_map_of_mem tagged
  have own := (agree_iff _).mp h.tags _ (List.mem_flatMap.mpr ⟨s, member, declares⟩)
  rw [Post.Tables.tag?_ofCorpus]
  exact congrArg (Option.map _) own

end

end ParsedSource.Consistent

end BlogSnapshot
