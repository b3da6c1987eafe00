import BlogSnapshot.Post.Build
import BlogSnapshot.Proofs.Steps
import Mathlib.Data.List.Forall2

/-! What the post of a source is: its own words, joined with one author, one category and its
tags. Building a post succeeds exactly with the joined post, and neither of them looks at the
path of the source.
-/

namespace BlogSnapshot

/-- A post's copy of a category. -/
def Category.copy (c : Category) : PostCategory :=
  ⟨c.id, c.name, c.slug, c.color, none, none⟩

/-- A post's copy of a tag. -/
def Tag.copy (t : Tag) : PostTag :=
  ⟨t.id, t.name, t.slug, t.color⟩

namespace Post

/-- The post `p` with an id is the join of a frontmatter and a body with what the tables hold.
-/
structure Joined (settings : Settings) (builtAt : Moment) (tables : Tables) (id : Int)
    (f : Frontmatter) (body : String) (p : Post)
    : Prop where
  author
    : ∃ a, tables.author? f.author.email = some a
        ∧ p.author = ⟨a.id, f.author.name, f.author.email, none⟩
  category : ∃ c, tables.category? f.category.slug = some c ∧ p.category = c.copy
  tags : List.Forall₂ (fun l t => ∃ g, tables.tag? l.slug = some g ∧ t = g.copy) f.tags p.tags
  content : PostContent.ofBody settings body f.publishedAt = .ok p.content
  image
    : ∃ m, Media.ofFeaturedImage id f.featuredImage builtAt = .ok m ∧ p.featuredImage = some m
  id : p.id = id
  title : p.title = f.title
  slug : p.slug = f.slug
  excerpt : p.excerpt = f.excerpt
  published : p.publishedAt = some f.publishedAt
  created : p.createdAt = f.publishedAt
  updated : p.updatedAt = some (f.updatedAt.getD f.publishedAt)
  uncounted : p.likesCount = 0 ∧ p.viewCount = 0 ∧ p.commentCount = 0

/-- The copies of a list of tags are found one by one, by induction on the list. -/
theorem tagsOf_eq_ok_iff (tables : Tables) (path : String) (labels : List FrontmatterLabel)
    (tags : List PostTag)
    : tagsOf tables path labels = .ok tags
      ↔ List.Forall₂ (fun l t => ∃ g, tables.tag? l.slug = some g ∧ t = g.copy) labels tags := by
  induction labels generalizing tags with
  | nil => simp [tagsOf, eq_comm]
  | cons l rest ih =>
      rw [List.forall₂_cons_left_iff]
      simp only [tagsOf]
      cases found : tables.tag? l.slug with
      | none => simp
      | some g =>
          simp only [bind_eq_ok_iff, ih, pure, Except.pure, Except.ok.injEq]
          constructor
          · rintro ⟨more, joined, rfl⟩
            exact ⟨_, more, ⟨g, rfl, rfl⟩, joined, rfl⟩
          · rintro ⟨t, more, ⟨g', same, rfl⟩, joined, rfl⟩
            cases same
            exact ⟨more, joined, rfl⟩

variable {settings : Settings} {builtAt : Moment} {tables : Tables} {id : Int}

/-- Building a post succeeds exactly with the joined post. -/
theorem build_eq_ok_iff (source : ParsedSource) (p : Post)
    : build settings builtAt tables id source = .ok p
      ↔ Joined settings builtAt tables id source.frontmatter source.body p := by
  constructor
  · intro built
    simp only [build] at built
    cases author : tables.author? source.frontmatter.author.email with
    | none => simp [author] at built
    | some a =>
        cases category : tables.category? source.frontmatter.category.slug with
        | none => simp [author, category] at built
        | some c =>
            simp only [author, category, bind_eq_ok_iff, mapError_eq_ok_iff, pure, Except.pure,
              Except.ok.injEq] at built
            obtain ⟨tags, joined, content, rendered, image, described, rfl⟩ := built
            exact {
              author := ⟨a, author, rfl⟩
              category := ⟨c, category, rfl⟩
              tags := (tagsOf_eq_ok_iff _ _ _ _).mp joined
              content := rendered
              image := ⟨image, described, rfl⟩
              id := rfl
              title := rfl
              slug := rfl
              excerpt := rfl
              published := rfl
              created := rfl
              updated := rfl
              uncounted := ⟨rfl, rfl, rfl⟩
            }
  · intro joined
    obtain ⟨a, author, ownAuthor⟩ := joined.author
    obtain ⟨c, category, ownCategory⟩ := joined.category
    obtain ⟨image, described, ownImage⟩ := joined.image
    have tags := (tagsOf_eq_ok_iff tables source.path _ _).mpr joined.tags
    simp only [build, author, category, bind_eq_ok_iff, mapError_eq_ok_iff, pure, Except.pure,
      Except.ok.injEq]
    refine ⟨p.tags, tags, p.content, joined.content, image, described, ?_⟩
    obtain ⟨likes, views, comments⟩ := joined.uncounted
    rw [← joined.id, ← joined.title, ← joined.slug, ← joined.excerpt, ← joined.published,
      ← joined.updated, ← ownAuthor, ← ownImage, ← joined.created]
    cases p
    simp_all [Category.copy]

-----------------------------------------------------------------------------------------
-- Posts whose author, category and tags are known
-----------------------------------------------------------------------------------------

/-- The tables hold everything that a frontmatter names. -/
structure Tables.Covers (tables : Tables) (f : Frontmatter) : Prop where
  author : (tables.author? f.author.email).isSome
  category : (tables.category? f.category.slug).isSome
  tags : ∀ l ∈ f.tags, (tables.tag? l.slug).isSome

/-- Known tags can be copied, by induction on their list. -/
theorem tagsOf_of_known {labels : List FrontmatterLabel}
    (known : ∀ l ∈ labels, (tables.tag? l.slug).isSome) (path : String)
    : ∃ tags, tagsOf tables path labels = .ok tags := by
  induction labels with
  | nil => exact ⟨[], rfl⟩
  | cons l rest ih =>
      obtain ⟨g, found⟩ := Option.isSome_iff_exists.mp (known l (by simp))
      obtain ⟨more, copied⟩ := ih fun m member => known m (by simp [member])
      refine ⟨g.copy :: more, ?_⟩
      simp only [tagsOf, found, copied]
      rfl

/-- Once its author, category and tags are known, a post depends on its body and its image: a body
that cannot be rendered is reported before a refused URL.
-/
theorem Tables.Covers.build_eq {source : ParsedSource} (covers : tables.Covers source.frontmatter)
    (settings : Settings) (builtAt : Moment) (id : Int)
    : ∃ complete : PostContent → Media → Post,
        build settings builtAt tables id source
        = (do
            let content ← (PostContent.ofBody settings source.body
              source.frontmatter.publishedAt).mapError fun fault => .fault (.render fault)
            let image ← (Media.ofFeaturedImage id source.frontmatter.featuredImage
              builtAt).mapError fun fault => .fault (.url fault)
            pure (complete content image)) := by
  obtain ⟨a, author⟩ := Option.isSome_iff_exists.mp covers.author
  obtain ⟨c, category⟩ := Option.isSome_iff_exists.mp covers.category
  obtain ⟨tags, copied⟩ := tagsOf_of_known covers.tags source.path
  simp only [build, author, category, copied]
  exact ⟨_, rfl⟩

/-- The body of a source cannot be rendered. -/
theorem Tables.Covers.build_of_unrenderable {source : ParsedSource} {fault : Markdown.RenderFault}
    (covers : tables.Covers source.frontmatter)
    (fails : Markdown.render source.body = .error fault)
    : build settings builtAt tables id source = .error (.fault (.render fault)) := by
  obtain ⟨complete, eq⟩ := covers.build_eq settings builtAt id
  rw [eq, PostContent.ofBody, renderSanitized, fails]
  rfl

/-- The body of a source can be rendered, but the URL of its image is refused. -/
theorem Tables.Covers.build_of_refused {source : ParsedSource} {fault : UrlFault} {html : String}
    (covers : tables.Covers source.frontmatter) (renders : Markdown.render source.body = .ok html)
    (refused
      : Url.split source.frontmatter.featuredImage.fileUrl.trimBlanks.toList = .error fault)
    : build settings builtAt tables id source = .error (.fault (.url fault)) := by
  obtain ⟨complete, eq⟩ := covers.build_eq settings builtAt id
  rw [eq, PostContent.ofBody, renderSanitized, renders, Media.ofFeaturedImage,
    Url.fileExtension, refused]
  rfl

/-- The body of a source can be rendered, and the URL of its image is accepted. -/
theorem Tables.Covers.build_of_accepted {source : ParsedSource} {parts : Url.Parts} {html : String}
    (covers : tables.Covers source.frontmatter) (renders : Markdown.render source.body = .ok html)
    (accepted
      : Url.split source.frontmatter.featuredImage.fileUrl.trimBlanks.toList = .ok parts)
    : ∃ p, build settings builtAt tables id source = .ok p := by
  obtain ⟨complete, eq⟩ := covers.build_eq settings builtAt id
  rw [eq, PostContent.ofBody, renderSanitized, renders, Media.ofFeaturedImage,
    Url.fileExtension, accepted]
  exact ⟨_, rfl⟩

end Post

end BlogSnapshot
