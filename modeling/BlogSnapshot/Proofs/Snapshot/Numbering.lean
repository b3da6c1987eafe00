import BlogSnapshot.Proofs.Snapshot.Listing

/-! The ids of a snapshot are ranks: posts are numbered by their slugs, categories and tags by the
declared slugs, and authors by the keys of their emails. Each kind has the numbers from 1 on.
-/

namespace BlogSnapshot.Snapshot

open ParsedSource

/-- The numbers from 1 to the given one, as ids. -/
def idsUpTo (count : Nat) : List Int :=
  (List.range' 1 count).map Int.ofNat

/-- The ids of a snapshot are the ranks of what identifies posts, categories, tags and authors among
the parsed sources; so each kind has the ids from 1 on without gap or repetition.
-/
structure Numbered (parsed : List ParsedSource) (snapshot : Snapshot) : Prop where
  post : ∀ p ∈ snapshot.posts, p.id = snapshot.posts.countP (·.slug < p.slug) + 1
  image : ∀ p ∈ snapshot.posts, ∃ m, p.featuredImage = some m ∧ m.id = p.id
  category : ∀ c ∈ snapshot.categories, c.id = rank (categorySlugs parsed) c.slug
  tag : ∀ t ∈ snapshot.tags, t.id = rank (tagSlugs parsed) t.slug
  author
    : ∀ p ∈ snapshot.posts, p.author.id = rank (authorKeys parsed) (authorKey p.author.email)
  postIds : (snapshot.posts.map Post.id).Perm (idsUpTo snapshot.posts.length)
  categoryIds : snapshot.categories.map Category.id = idsUpTo snapshot.categories.length
  tagIds : snapshot.tags.map Tag.id = idsUpTo snapshot.tags.length
  authorIds
    : ∀ id, (∃ p ∈ snapshot.posts, p.author.id = id)
      ↔ id ∈ idsUpTo (authorKeys parsed).dedup.length
  sameAuthor
    : ∀ p ∈ snapshot.posts, ∀ q ∈ snapshot.posts,
        p.author.id = q.author.id ↔ authorKey p.author.email = authorKey q.author.email
  categoriesAscend
    : Sorting.Ascending Category.id snapshot.categories
      ∧ Sorting.Ascending Category.slug snapshot.categories
  tagsAscend
    : Sorting.Ascending Tag.id snapshot.tags ∧ Sorting.Ascending Tag.slug snapshot.tags

variable {settings : Settings} {builtAt : Moment} {sources : List SourceFile}
variable {ordered : List ParsedSource} {posts : List Post} {snapshot : Snapshot}

-----------------------------------------------------------------------------------------
-- Consecutive ids
-----------------------------------------------------------------------------------------

theorem mem_idsUpTo (count : Nat) (id : Int)
    : id ∈ idsUpTo count ↔ ∃ n : Nat, id = n ∧ 1 ≤ n ∧ n ≤ count := by
  simp only [idsUpTo, List.mem_map, List.mem_range'_1, Int.ofNat_eq_natCast]
  constructor
  · rintro ⟨n, ⟨positive, below⟩, rfl⟩
    exact ⟨n, rfl, positive, by omega⟩
  · rintro ⟨n, rfl, positive, inside⟩
    exact ⟨n, ⟨positive, by omega⟩, rfl⟩

/-- Items with consecutive ids are in strictly ascending order of ids. -/
theorem ascending_of_idsUpTo {α : Type} {idOf : α → Int} {items : List α} {count : Nat}
    (ids : items.map idOf = idsUpTo count)
    : Sorting.Ascending idOf items := by
  have increasing : (idsUpTo count).Pairwise (· < ·) := by
    apply List.pairwise_map.mpr
    exact (List.pairwise_lt_range' (s := 1) (n := count)).imp fun less => Int.ofNat_lt.mpr less
  exact List.pairwise_map.mp (ids ▸ increasing)

/-- The image of a post has the id of the post. -/
theorem id_of_ofFeaturedImage {id : Int} {image : FrontmatterImage} {m : Media}
    (described : Media.ofFeaturedImage id image builtAt = .ok m)
    : m.id = id := by
  simp only [Media.ofFeaturedImage, bind_eq_ok_iff, pure, Except.pure, Except.ok.injEq] at described
  obtain ⟨extension, _, rfl⟩ := described
  rfl

section

variable (h : Assembly settings builtAt sources ordered posts snapshot)
include h

-----------------------------------------------------------------------------------------
-- Ids of posts
-----------------------------------------------------------------------------------------

/-- The id of a post counts the posts of smaller slugs. Witness: its source stands behind exactly
the sources of smaller slugs.
-/
theorem Assembly.post_id {p : Post} (member : p ∈ snapshot.posts)
    : p.id = snapshot.posts.countP (·.slug < p.slug) + 1 := by
  obtain ⟨s, n, numbered, post⟩ := h.exists_source member
  obtain ⟨positive, at_n⟩ := List.mk_mem_zipIdx_iff_le_and_getElem?_sub.mp numbered
  have behind : ordered.countP (·.frontmatter.slug < s.frontmatter.slug) = n - 1 :=
    h.inOrder.ascending.countP_lt at_n
  have smaller : snapshot.posts.countP (·.slug < p.slug) = n - 1 := by
    calc snapshot.posts.countP (·.slug < p.slug)
        = (snapshot.posts.map Post.slug).countP (· < p.slug) := by
          rw [List.countP_map]
          rfl
      _ = (ordered.map (·.frontmatter.slug)).countP (· < p.slug) :=
          h.map_slug_perm.countP_eq _
      _ = n - 1 := by
          rw [List.countP_map, post.slug]
          exact behind
  rw [post.id, smaller]
  omega

/-- The ids of the posts are the numbers from 1 on. -/
theorem Assembly.postIds_perm
    : (snapshot.posts.map Post.id).Perm (idsUpTo snapshot.posts.length) := by
  have sameLength : snapshot.posts.length = ordered.length := by
    simpa using h.map_slug_perm.length_eq
  rw [sameLength, idsUpTo, ← h.joined.map_id]
  exact h.posts_perm.map Post.id

-----------------------------------------------------------------------------------------
-- Ids of categories, tags and authors
-----------------------------------------------------------------------------------------

theorem Assembly.category_id {c : Category} (listed : c ∈ snapshot.categories)
    : c.id = rank (categorySlugs ordered) c.slug := by
  rw [h.snapshot] at listed
  obtain ⟨slug, declared, _, rfl⟩ := (mem_categories settings builtAt ordered c).mp listed
  rfl

theorem Assembly.tag_id {t : Tag} (listed : t ∈ snapshot.tags)
    : t.id = rank (tagSlugs ordered) t.slug := by
  rw [h.snapshot] at listed
  obtain ⟨slug, declared, _, rfl⟩ := (mem_tags settings builtAt ordered t).mp listed
  rfl

theorem Assembly.categoryIds_eq
    : snapshot.categories.map Category.id = idsUpTo snapshot.categories.length := by
  rw [h.snapshot]
  exact map_id_categories settings builtAt ordered

theorem Assembly.tagIds_eq : snapshot.tags.map Tag.id = idsUpTo snapshot.tags.length := by
  rw [h.snapshot]
  exact map_id_tags settings builtAt ordered

/-- A post has the author of its source, with the rank of the key as id. -/
theorem Assembly.author_id {p : Post} (member : p ∈ snapshot.posts)
    : authorKey p.author.email ∈ authorKeys ordered
      ∧ p.author.id = rank (authorKeys ordered) (authorKey p.author.email) := by
  obtain ⟨s, n, numbered, post⟩ := h.exists_source member
  obtain ⟨a, found, own⟩ := post.author
  rw [Post.Tables.author?_ofCorpus] at found
  obtain ⟨name, _, rfl⟩ := Option.map_eq_some_iff.mp found
  rw [own]
  exact ⟨List.mem_map_of_mem (List.fst_mem_of_mem_zipIdx numbered), rfl⟩

/-- Each key of the corpus is that of an author of a post. -/
theorem Assembly.exists_post_of_authorKey {key : String} (member : key ∈ authorKeys ordered)
    : ∃ p ∈ snapshot.posts, authorKey p.author.email = key := by
  obtain ⟨s, declares, rfl⟩ := List.mem_map.mp member
  obtain ⟨p, inPosts, n, post⟩ := h.exists_post declares
  obtain ⟨a, _, own⟩ := post.author
  exact ⟨p, inPosts, by rw [own]⟩

/-- The ids of the authors of posts are the numbers from 1 to the number of distinct keys. -/
theorem Assembly.exists_author_id_iff (id : Int)
    : (∃ p ∈ snapshot.posts, p.author.id = id)
      ↔ id ∈ idsUpTo (authorKeys ordered).dedup.length := by
  rw [mem_idsUpTo]
  constructor
  · rintro ⟨p, member, rfl⟩
    obtain ⟨declared, ranked⟩ := h.author_id member
    exact ⟨_, ranked, (exists_rank_eq_iff _).mp ⟨_, declared, rfl⟩⟩
  · rintro ⟨n, rfl, inside⟩
    obtain ⟨key, declared, ranked⟩ := (exists_rank_eq_iff n).mpr inside
    obtain ⟨p, member, sameKey⟩ := h.exists_post_of_authorKey declared
    refine ⟨p, member, ?_⟩
    rw [(h.author_id member).2, sameKey, ranked]

/-- Authors of posts have the same id exactly if their emails have the same key. -/
theorem Assembly.author_id_inj {p q : Post} (inP : p ∈ snapshot.posts) (inQ : q ∈ snapshot.posts)
    : p.author.id = q.author.id ↔ authorKey p.author.email = authorKey q.author.email := by
  obtain ⟨declaredP, rankedP⟩ := h.author_id inP
  obtain ⟨declaredQ, rankedQ⟩ := h.author_id inQ
  rw [rankedP, rankedQ, Int.natCast_inj, rank_inj declaredP declaredQ]

end

-----------------------------------------------------------------------------------------
-- What a post shows
-----------------------------------------------------------------------------------------

section

variable (h : Assembly settings builtAt sources ordered posts snapshot)
include h

variable {s : ParsedSource} {n : Int} {p : Post} (member : s ∈ ordered)
variable (post
  : Post.Joined settings builtAt (.ofCorpus settings builtAt ordered) n s.frontmatter s.body p)
include member post

/-- A post has the author of its source, with the rank of the key as id. -/
theorem Assembly.author_eq
    : p.author = ⟨rank (authorKeys ordered) (authorKey s.frontmatter.author.email),
        s.frontmatter.author.name, s.frontmatter.author.email, none⟩ := by
  obtain ⟨a, found, own⟩ := post.author
  rw [h.consistent.author?_eq builtAt member] at found
  obtain rfl := Option.some.inj found
  exact own

/-- A post has the category that its source declares. -/
theorem Assembly.category_eq
    : p.category
      = (Category.ranked settings builtAt ordered s.frontmatter.category.slug.trimBlanks
          (s.category settings.categoryColor).value).copy := by
  obtain ⟨c, found, own⟩ := post.category
  rw [h.consistent.category?_eq builtAt member] at found
  obtain rfl := Option.some.inj found
  exact own

/-- A post has the tags that its source declares. -/
theorem Assembly.tags_eq
    : p.tags
      = s.frontmatter.tags.map fun l =>
          (Tag.ranked settings builtAt ordered l.slug.trimBlanks
            (l.declaration settings.tagColor s.path).value).copy := by
  have each := (List.forall₂_and_left (p := (· ∈ s.frontmatter.tags)) _ _).mpr
    ⟨fun _ => id, post.tags⟩
  rw [← List.map_id p.tags]
  refine map_eq_map_of_forall₂ (each.imp ?_)
  rintro l t ⟨tagged, g, found, rfl⟩
  rw [h.consistent.tag?_eq builtAt member tagged] at found
  obtain rfl := Option.some.inj found
  rfl

end

-----------------------------------------------------------------------------------------
-- Every snapshot that is built
-----------------------------------------------------------------------------------------

/-- The ids of every snapshot that is built are ranks among the parsed sources, in whatever order
these are given.
-/
theorem numbered_of_build (built : build settings builtAt sources = .ok snapshot)
    : ∃ parsed, sources.map SourceFile.parse = parsed.map .ok ∧ Numbered parsed snapshot := by
  obtain ⟨ordered, posts, h⟩ := build_eq_ok_iff.mp built
  obtain ⟨parsed, parses, perm⟩ := exists_results_of_perm h.inOrder.parses
  have authors : (authorKeys parsed).Perm (authorKeys ordered) := perm.map _
  have categories : (categorySlugs parsed).Perm (categorySlugs ordered) := perm.map _
  have tags : (tagSlugs parsed).Perm (tagSlugs ordered) := perm.flatMap_right _
  exact ⟨parsed, parses, {
    post := fun p member => h.post_id member
    image := by
      intro p member
      obtain ⟨s, n, _, post⟩ := h.exists_source member
      obtain ⟨m, described, own⟩ := post.image
      exact ⟨m, own, (id_of_ofFeaturedImage described).trans post.id.symm⟩
    category := fun c listed => rank_perm categories c.slug ▸ h.category_id listed
    tag := fun t listed => rank_perm tags t.slug ▸ h.tag_id listed
    author := fun p member => rank_perm authors _ ▸ (h.author_id member).2
    postIds := h.postIds_perm
    categoryIds := h.categoryIds_eq
    tagIds := h.tagIds_eq
    authorIds := fun id => authors.dedup.length_eq ▸ h.exists_author_id_iff id
    sameAuthor := fun p inP q inQ => h.author_id_inj inP inQ
    categoriesAscend := ⟨ascending_of_idsUpTo h.categoryIds_eq, h.categories_ascending⟩
    tagsAscend := ⟨ascending_of_idsUpTo h.tagIds_eq, h.tags_ascending⟩
  }⟩

/-- The ids of the snapshot of the two sources are ranks. -/
theorem numbered_of_twoSources
    : ∃ snapshot,
        build {} someDay twoSources = .ok snapshot
        ∧ ∃ parsed, twoSources.map SourceFile.parse = parsed.map .ok
            ∧ Numbered parsed snapshot := by
  obtain ⟨snapshot, built⟩ := exists_build_twoSources
  exact ⟨snapshot, built, numbered_of_build built⟩

end BlogSnapshot.Snapshot
