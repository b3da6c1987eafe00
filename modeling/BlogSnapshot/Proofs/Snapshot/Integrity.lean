import BlogSnapshot.Proofs.Snapshot.Listing

/-! Referential integrity of snapshots. What a post embeds is listed, what is listed is embedded
in a post, and the lookups by slug and by id lead to exactly what is listed.
-/

namespace BlogSnapshot.Snapshot

-----------------------------------------------------------------------------------------
-- Integrity
-----------------------------------------------------------------------------------------

/-- A post has the slug of a source and its tags: they correspond one to one and in order, and each
is the copy of the tag to which its trimmed slug leads.
-/
structure PostOf (snapshot : Snapshot) (s : ParsedSource) (p : Post) : Prop where
  slug : p.slug = s.frontmatter.slug
  tags
    : List.Forall₂
        (fun (l : FrontmatterLabel) t =>
          t.slug = l.slug.trimBlanks ∧ ∃ g, snapshot.tagBySlug? t.slug = some g ∧ t = g.copy)
        s.frontmatter.tags p.tags

/-- A snapshot refers only to what it lists, and lists only what it refers to. -/
structure Integrity (sources : List SourceFile) (snapshot : Snapshot) : Prop where
  postSlugs : (snapshot.posts.map Post.slug).Nodup
  categorySlugs : (snapshot.categories.map Category.slug).Nodup
  tagSlugs : (snapshot.tags.map Tag.slug).Nodup
  postBySlug
    : ∀ slug p, snapshot.postBySlug? slug = some p ↔ p ∈ snapshot.posts ∧ p.slug = slug
  categoryBySlug
    : ∀ slug c, snapshot.categoryBySlug? slug = some c ↔ c ∈ snapshot.categories ∧ c.slug = slug
  tagBySlug
    : ∀ slug t, snapshot.tagBySlug? slug = some t ↔ t ∈ snapshot.tags ∧ t.slug = slug
  category
    : ∀ p ∈ snapshot.posts,
        ∃ c, snapshot.categoryBySlug? p.category.slug = some c ∧ p.category = c.copy
  source
    : ∀ p ∈ snapshot.posts,
        ∃ source ∈ sources, ∃ s, source.parse = .ok s ∧ snapshot.PostOf s p
  post
    : ∀ source ∈ sources,
        ∃ s, source.parse = .ok s ∧ ∃ p ∈ snapshot.posts, snapshot.PostOf s p
  categoryUsed
    : ∀ c ∈ snapshot.categories, ∃ p ∈ snapshot.postsByCategory c.id, p.category = c.copy
  tagUsed : ∀ t ∈ snapshot.tags, ∃ p ∈ snapshot.postsByTag t.id, t.copy ∈ p.tags
  unlistedCategory
    : ∀ id, (∀ c ∈ snapshot.categories, c.id ≠ id) → snapshot.postsByCategory id = []
  unlistedTag : ∀ id, (∀ t ∈ snapshot.tags, t.id ≠ id) → snapshot.postsByTag id = []

variable {settings : Settings} {builtAt : Moment} {sources : List SourceFile}
variable {ordered : List ParsedSource} {posts : List Post} {snapshot : Snapshot}

section

variable (h : Assembly settings builtAt sources ordered posts snapshot)
include h

-----------------------------------------------------------------------------------------
-- Lookups by slug
-----------------------------------------------------------------------------------------

/-- No two listed posts have the same slug, for no two sources have. -/
theorem Assembly.nodup_postSlugs : (snapshot.posts.map Post.slug).Nodup :=
  h.map_slug_perm.nodup_iff.mpr h.inOrder.ascending.nodup

theorem Assembly.categoryBySlug?_eq_some_iff (slug : String) (c : Category)
    : snapshot.categoryBySlug? slug = some c ↔ c ∈ snapshot.categories ∧ c.slug = slug :=
  lastWithSlug?_eq_some_iff h.categories_ascending.nodup slug c

theorem Assembly.tagBySlug?_eq_some_iff (slug : String) (t : Tag)
    : snapshot.tagBySlug? slug = some t ↔ t ∈ snapshot.tags ∧ t.slug = slug :=
  lastWithSlug?_eq_some_iff h.tags_ascending.nodup slug t

-----------------------------------------------------------------------------------------
-- From posts to what they embed
-----------------------------------------------------------------------------------------

variable {s : ParsedSource} {n : Int} {p : Post}
variable (post
  : Post.Joined settings builtAt (.ofCorpus settings builtAt ordered) n s.frontmatter s.body p)
include post

/-- A post embeds the listed category of its source. -/
theorem Assembly.exists_category
    : ∃ c ∈ snapshot.categories,
        c.slug = s.frontmatter.category.slug.trimBlanks ∧ p.category = c.copy := by
  obtain ⟨c, found, copied⟩ := post.category
  obtain ⟨listed, slug⟩ := (h.category?_eq_some_iff _ c).mp found
  exact ⟨c, listed, slug, copied⟩

/-- A post embeds the listed tags of its source. -/
theorem Assembly.forall₂_tags
    : List.Forall₂
        (fun (l : FrontmatterLabel) t =>
          ∃ g ∈ snapshot.tags, g.slug = l.slug.trimBlanks ∧ t = g.copy)
        s.frontmatter.tags p.tags := by
  refine post.tags.imp fun l t => ?_
  rintro ⟨g, found, copied⟩
  obtain ⟨listed, slug⟩ := (h.tag?_eq_some_iff _ g).mp found
  exact ⟨g, listed, slug, copied⟩

/-- The post of a source corresponds to it. -/
theorem Assembly.postOf : snapshot.PostOf s p where
  slug := post.slug
  tags := by
    refine (h.forall₂_tags post).imp fun l t => ?_
    rintro ⟨g, listed, slug, rfl⟩
    exact ⟨slug, g, (h.tagBySlug?_eq_some_iff _ g).mpr ⟨listed, rfl⟩, rfl⟩

/-- The category that a post embeds is found by its slug. -/
theorem Assembly.categoryBySlug?_of_joined
    : ∃ c, snapshot.categoryBySlug? p.category.slug = some c ∧ p.category = c.copy := by
  obtain ⟨c, listed, _, copied⟩ := h.exists_category post
  have sameSlug : c.slug = p.category.slug := by
    rw [copied]
    rfl
  exact ⟨c, (h.categoryBySlug?_eq_some_iff _ c).mpr ⟨listed, sameSlug⟩, copied⟩

omit post

/-- A listed post is that of a source. -/
theorem Assembly.exists_parsed_of_post {p : Post} (member : p ∈ snapshot.posts)
    : ∃ source ∈ sources, ∃ s, source.parse = .ok s ∧ snapshot.PostOf s p := by
  obtain ⟨s, n, numbered, post⟩ := h.exists_source member
  have inOrdered : s ∈ ordered := List.fst_mem_of_mem_zipIdx numbered
  obtain ⟨source, inSources, parses⟩ := (h.inOrder.mem_iff s).mp inOrdered
  exact ⟨source, inSources, s, parses, h.postOf post⟩

/-- A source has its listed post. -/
theorem Assembly.exists_post_of_parsed {source : SourceFile} (member : source ∈ sources)
    : ∃ s, source.parse = .ok s ∧ ∃ p ∈ snapshot.posts, snapshot.PostOf s p := by
  obtain ⟨s, inOrdered, parses⟩ := h.inOrder.exists_parsed member
  obtain ⟨p, inPosts, n, post⟩ := h.exists_post inOrdered
  exact ⟨s, parses, p, inPosts, h.postOf post⟩

-----------------------------------------------------------------------------------------
-- From what is listed to posts
-----------------------------------------------------------------------------------------

/-- A listed category is declared by a source. -/
theorem Assembly.slug_mem_categorySlugs {c : Category} (listed : c ∈ snapshot.categories)
    : c.slug ∈ ParsedSource.categorySlugs ordered := by
  rw [h.snapshot] at listed
  exact (mem_map_slug_categories settings builtAt ordered c.slug).mp (List.mem_map_of_mem listed)

/-- A listed tag is declared by a source. -/
theorem Assembly.slug_mem_tagSlugs {t : Tag} (listed : t ∈ snapshot.tags)
    : t.slug ∈ ParsedSource.tagSlugs ordered := by
  rw [h.snapshot] at listed
  exact (mem_map_slug_tags settings builtAt ordered t.slug).mp (List.mem_map_of_mem listed)

/-- A listed category is embedded in a post of its bucket. Witness: the post of a source that
declares it, whose category has the same slug.
-/
theorem Assembly.exists_post_of_category {c : Category} (listed : c ∈ snapshot.categories)
    : ∃ p ∈ snapshot.postsByCategory c.id, p.category = c.copy := by
  obtain ⟨s, declares, slug⟩ := List.mem_map.mp (h.slug_mem_categorySlugs listed)
  obtain ⟨p, member, n, post⟩ := h.exists_post declares
  obtain ⟨d, alsoListed, sameSlug, copied⟩ := h.exists_category post
  have same : d = c := List.inj_on_of_nodup_map h.categories_ascending.nodup alsoListed listed
    (sameSlug.trans slug)
  subst same
  have sameId : p.category.id = d.id := by
    rw [copied]
    rfl
  exact ⟨p, (mem_postsByCategory _ _ _).mpr ⟨member, sameId⟩, copied⟩

/-- A listed tag is embedded in a post of its bucket. Witness: the post of a source that declares
it, of whose tags one has the same slug.
-/
theorem Assembly.exists_post_of_tag {t : Tag} (listed : t ∈ snapshot.tags)
    : ∃ p ∈ snapshot.postsByTag t.id, t.copy ∈ p.tags := by
  obtain ⟨s, declares, inTags⟩ := List.mem_flatMap.mp (h.slug_mem_tagSlugs listed)
  obtain ⟨l, label, slug⟩ := List.mem_map.mp inTags
  obtain ⟨p, member, n, post⟩ := h.exists_post declares
  obtain ⟨u, embedded, g, alsoListed, sameSlug, rfl⟩ :=
    exists_right_of_forall₂ (h.forall₂_tags post) label
  have same : g = t := List.inj_on_of_nodup_map h.tags_ascending.nodup alsoListed listed
    (sameSlug.trans slug)
  subst same
  exact ⟨p, (mem_postsByTag _ _ _).mpr ⟨member, g.copy, embedded, rfl⟩, embedded⟩

/-- The id of no listed category has an empty bucket, for posts embed listed categories. -/
theorem Assembly.postsByCategory_eq_nil {id : Int}
    (unlisted : ∀ c ∈ snapshot.categories, c.id ≠ id)
    : snapshot.postsByCategory id = [] := by
  apply List.eq_nil_iff_forall_not_mem.mpr
  intro p member
  obtain ⟨inPosts, sameId⟩ := (mem_postsByCategory _ _ _).mp member
  obtain ⟨s, n, _, post⟩ := h.exists_source inPosts
  obtain ⟨c, listed, _, copied⟩ := h.exists_category post
  rw [copied] at sameId
  exact unlisted c listed sameId

/-- The id of no listed tag has an empty bucket, for posts embed listed tags. -/
theorem Assembly.postsByTag_eq_nil {id : Int} (unlisted : ∀ t ∈ snapshot.tags, t.id ≠ id)
    : snapshot.postsByTag id = [] := by
  apply List.eq_nil_iff_forall_not_mem.mpr
  intro p member
  obtain ⟨inPosts, t, embedded, sameId⟩ := (mem_postsByTag _ _ _).mp member
  obtain ⟨s, n, _, post⟩ := h.exists_source inPosts
  obtain ⟨l, _, g, listed, _, rfl⟩ := exists_left_of_forall₂ (h.forall₂_tags post) embedded
  exact unlisted g listed sameId

end

-----------------------------------------------------------------------------------------
-- Every snapshot that is built
-----------------------------------------------------------------------------------------

/-- Every snapshot that is built has integrity. -/
theorem integrity_of_build (built : build settings builtAt sources = .ok snapshot)
    : Integrity sources snapshot := by
  obtain ⟨ordered, posts, h⟩ := build_eq_ok_iff.mp built
  exact {
    postSlugs := h.nodup_postSlugs
    categorySlugs := h.categories_ascending.nodup
    tagSlugs := h.tags_ascending.nodup
    postBySlug := lastWithSlug?_eq_some_iff h.nodup_postSlugs
    categoryBySlug := h.categoryBySlug?_eq_some_iff
    tagBySlug := h.tagBySlug?_eq_some_iff
    category := by
      intro p member
      obtain ⟨s, n, _, post⟩ := h.exists_source member
      exact h.categoryBySlug?_of_joined post
    source := fun p member => h.exists_parsed_of_post member
    post := fun source member => h.exists_post_of_parsed member
    categoryUsed := fun c listed => h.exists_post_of_category listed
    tagUsed := fun t listed => h.exists_post_of_tag listed
    unlistedCategory := fun id unlisted => h.postsByCategory_eq_nil unlisted
    unlistedTag := fun id unlisted => h.postsByTag_eq_nil unlisted
  }

/-- The snapshot of the two sources has integrity. -/
theorem integrity_of_twoSources
    : ∃ snapshot, build {} someDay twoSources = .ok snapshot ∧ Integrity twoSources snapshot := by
  obtain ⟨snapshot, built⟩ := exists_build_twoSources
  exact ⟨snapshot, built, integrity_of_build built⟩

end BlogSnapshot.Snapshot
