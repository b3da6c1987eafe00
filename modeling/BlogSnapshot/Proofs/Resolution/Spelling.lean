import BlogSnapshot.Resolution
import Mathlib.Data.List.Forall2

/-! Spellings of one declaration. Blanks around names, slugs and emails, the case of emails and
colors that are left to the default are ways to spell what a source declares. Entities and conflicts
are made of what is declared and never of its spelling.
-/

namespace BlogSnapshot

/-- The author that a frontmatter author spells: the trimmed name under the key of the email. -/
def FrontmatterAuthor.spelled (a : FrontmatterAuthor) : FrontmatterAuthor :=
  ⟨a.name.trimBlanks, authorKey a.email⟩

/-- The label that a frontmatter label spells: trimmed, with the default in the place of a color
that is absent. An empty color is not absent.
-/
def FrontmatterLabel.spelled (default : Option String) (l : FrontmatterLabel) : FrontmatterLabel :=
  ⟨l.name.trimBlanks, l.slug.trimBlanks, l.color.or default⟩

namespace ParsedSource

/-- (s.Respells settings s') says that two sources under one path spell the same author, the same
category and the same tags in the same order. They may differ in all else.
-/
structure Respells (settings : Settings) (s s' : ParsedSource) : Prop where
  path : s.path = s'.path
  author : s.frontmatter.author.spelled = s'.frontmatter.author.spelled
  category :
    s.frontmatter.category.spelled settings.categoryColor
    = s'.frontmatter.category.spelled settings.categoryColor
  tags :
    s.frontmatter.tags.map (·.spelled settings.tagColor)
    = s'.frontmatter.tags.map (·.spelled settings.tagColor)

end ParsedSource

-----------------------------------------------------------------------------------------
-- Declarations
-----------------------------------------------------------------------------------------

/-- A label declares nothing but what it spells. -/
theorem FrontmatterLabel.declaration_eq_of_spelled {default : Option String}
    {l l' : FrontmatterLabel} (path : String) (same : l.spelled default = l'.spelled default)
    : l.declaration default path = l'.declaration default path := by
  obtain ⟨name, slug, color⟩ := FrontmatterLabel.mk.inj same
  rw [declaration, declaration, name, slug, color]

/-- Lists of labels that spell the same labels make the same declarations. -/
theorem FrontmatterLabel.map_declaration_eq {default : Option String}
    {ls ls' : List FrontmatterLabel} (path : String)
    (same : ls.map (·.spelled default) = ls'.map (·.spelled default))
    : ls.map (·.declaration default path) = ls'.map (·.declaration default path) := by
  rw [← List.forall₂_eq_eq_eq, List.forall₂_map_left_iff, List.forall₂_map_right_iff] at same ⊢
  exact same.imp fun _ _ => declaration_eq_of_spelled path

namespace ParsedSource.Respells

variable {settings : Settings} {s s' : ParsedSource} (h : s.Respells settings s')

include h

theorem author_eq : s.author = s'.author := by
  obtain ⟨name, key⟩ := FrontmatterAuthor.mk.inj h.author
  rw [ParsedSource.author, ParsedSource.author, name, key, h.path]

theorem category_eq
    : s.category settings.categoryColor = s'.category settings.categoryColor := by
  rw [ParsedSource.category, ParsedSource.category, h.path]
  exact FrontmatterLabel.declaration_eq_of_spelled s'.path h.category

theorem tags_eq : s.tags settings.tagColor = s'.tags settings.tagColor := by
  rw [ParsedSource.tags, ParsedSource.tags, h.path]
  exact FrontmatterLabel.map_declaration_eq s'.path h.tags

end ParsedSource.Respells

/-- What respelling leaves equal for each source it leaves equal for lists of sources. -/
theorem ParsedSource.map_eq_of_respelled {settings : Settings} {α : Type} {f : ParsedSource → α}
    (same : ∀ {s s'}, s.Respells settings s' → f s = f s') {sources sources' : List ParsedSource}
    (respelled : List.Forall₂ (Respells settings) sources sources')
    : sources.map f = sources'.map f := by
  rw [← List.forall₂_eq_eq_eq, List.forall₂_map_left_iff, List.forall₂_map_right_iff]
  exact respelled.imp fun _ _ => same

-----------------------------------------------------------------------------------------
-- Resolutions
-----------------------------------------------------------------------------------------

/-- Two lists of sources are resolved alike: to the same authors, categories and tags with the same
conflicts in the same order, and so to the same entities of the corpus or the same error. The
entities find the same author for all emails of one key.
-/
structure ResolvedAlike (settings : Settings) (builtAt : Moment)
    (sources sources' : List ParsedSource) : Prop where
  authors : Resolution.authors sources = Resolution.authors sources'
  categories :
    Resolution.categories settings builtAt sources
    = Resolution.categories settings builtAt sources'
  tags : Resolution.tags settings builtAt sources = Resolution.tags settings builtAt sources'
  entities :
    Entities.resolve settings builtAt sources = Entities.resolve settings builtAt sources'
  authorFor? :
    ∀ entities entities' email email',
      Entities.resolve settings builtAt sources = .ok entities
      → Entities.resolve settings builtAt sources' = .ok entities'
      → authorKey email = authorKey email'
      → entities.authorFor? email = entities'.authorFor? email'

/-- Sources that are respelled are resolved alike. -/
theorem resolvedAlike_of_respelled {settings : Settings} {sources sources' : List ParsedSource}
    (respelled : List.Forall₂ (ParsedSource.Respells settings) sources sources')
    (builtAt : Moment)
    : ResolvedAlike settings builtAt sources sources' := by
  have authors : Resolution.authors sources = Resolution.authors sources' := by
    rw [Resolution.authors, Resolution.authors,
      ParsedSource.map_eq_of_respelled ParsedSource.Respells.author_eq respelled]
  have categories : Resolution.categories settings builtAt sources
      = Resolution.categories settings builtAt sources' := by
    rw [Resolution.categories, Resolution.categories,
      ParsedSource.map_eq_of_respelled ParsedSource.Respells.category_eq respelled]
  have tags : Resolution.tags settings builtAt sources
      = Resolution.tags settings builtAt sources' := by
    rw [Resolution.tags, Resolution.tags, List.flatMap_def, List.flatMap_def,
      ParsedSource.map_eq_of_respelled ParsedSource.Respells.tags_eq respelled]
  have entities : Entities.resolve settings builtAt sources
      = Entities.resolve settings builtAt sources' := by
    rw [Entities.resolve, Entities.resolve, authors, categories, tags]
  refine ⟨authors, categories, tags, entities, ?_⟩
  intro e e' email email' resolved resolved' sameKey
  cases resolved.symm.trans (entities.trans resolved')
  rw [Entities.authorFor?, Entities.authorFor?, sameKey]

/-- A source with one tag. -/
def labelledSource (path : String) (author : FrontmatterAuthor) (category tag : FrontmatterLabel)
    : ParsedSource where
  path
  frontmatter := {
    title := "T"
    slug := "s"
    publishedAt := { date := .epoch }
    author
    category
    featuredImage := { fileUrl := "i" }
    tags := [tag]
  }
  body := "Hi\n"

/-- Two sources that disagree on the name of their author. -/
def quarrel : List ParsedSource :=
  [
    labelledSource "a.md" ⟨"N", "e@x"⟩ ⟨"C", "c", none⟩ ⟨"G", "g", some "#3b82f6"⟩,
    labelledSource "b.md" ⟨"M", "e@x"⟩ ⟨"C", "c", some ""⟩ ⟨"G", "g", none⟩
  ]

/-- The two sources in other spellings. -/
def quarrelRespelled : List ParsedSource :=
  [
    labelledSource "a.md" ⟨" N", "E@x "⟩ ⟨"C ", "c", some "#f97316"⟩ ⟨"G", " g", none⟩,
    labelledSource "b.md" ⟨"M ", " e@X"⟩ ⟨"C", " c ", some ""⟩ ⟨"G\t", "g", some "#3b82f6"⟩
  ]

/-- Spelled in either way, the two sources have the same conflicts. -/
theorem resolvedAlike_quarrel
    : List.Forall₂ (ParsedSource.Respells {}) quarrel quarrelRespelled
      ∧ ∀ builtAt, ResolvedAlike {} builtAt quarrel quarrelRespelled := by
  have first : quarrel[0].Respells {} quarrelRespelled[0] :=
    ⟨rfl, by decide +kernel, by decide +kernel, by decide +kernel⟩
  have second : quarrel[1].Respells {} quarrelRespelled[1] :=
    ⟨rfl, by decide +kernel, by decide +kernel, by decide +kernel⟩
  have respelled : List.Forall₂ (ParsedSource.Respells {}) quarrel quarrelRespelled :=
    .cons first (.cons second .nil)
  exact ⟨respelled, resolvedAlike_of_respelled respelled⟩

end BlogSnapshot
