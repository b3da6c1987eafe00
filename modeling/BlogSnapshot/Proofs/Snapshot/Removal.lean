import BlogSnapshot.Proofs.Snapshot.Integrity
import BlogSnapshot.Proofs.Snapshot.Numbering

/-! Taking sources away from a corpus. What is left can still be built, and the records that are
left are those of the larger snapshot, in the same order, with ids that are smaller at most.
-/

namespace BlogSnapshot

-----------------------------------------------------------------------------------------
-- Records without their ids
-----------------------------------------------------------------------------------------

/-- A media record whatever its id. -/
def Media.unnumbered (m : Media) : Media :=
  { m with id := 0 }

/-- A post whatever the ids of it and of what it embeds. -/
def Post.unnumbered (p : Post) : Post :=
  { p with
    id := 0
    featuredImage := p.featuredImage.map Media.unnumbered
    author := { p.author with id := 0 }
    category := { p.category with id := 0 }
    tags := p.tags.map fun t => { t with id := 0 } }

/-- A category whatever its id. -/
def Category.unnumbered (c : Category) : Category :=
  { c with id := 0 }

/-- A tag whatever its id. -/
def Tag.unnumbered (t : Tag) : Tag :=
  { t with id := 0 }

/-- The ids of a post, and of what it embeds, are at most those of another one. -/
structure Post.IdsAtMost (p q : Post) : Prop where
  own : p.id ≤ q.id
  image : ∀ m ∈ p.featuredImage, ∀ n ∈ q.featuredImage, m.id ≤ n.id
  author : p.author.id ≤ q.author.id
  category : p.category.id ≤ q.category.id
  tags : List.Forall₂ (fun (t u : PostTag) => t.id ≤ u.id) p.tags q.tags

/-- Records that are described with different ids are the same but for them. -/
theorem Media.unnumbered_ofFeaturedImage {image : FrontmatterImage} {builtAt : Moment}
    {i j : Int} {m n : Media} (first : ofFeaturedImage i image builtAt = .ok m)
    (second : ofFeaturedImage j image builtAt = .ok n)
    : m.unnumbered = n.unnumbered := by
  have alike : (ofFeaturedImage i image builtAt).map unnumbered
      = (ofFeaturedImage j image builtAt).map unnumbered := by
    rw [ofFeaturedImage, ofFeaturedImage, map_bind, map_bind]
    rfl
  rw [first, second] at alike
  exact Except.ok.inj alike

namespace Snapshot

/-- One snapshot has records of another one with other ids. Each record is found in the other one
by its slug, where it differs in ids at most, which are no larger; and ids of posts, of their
authors, of categories and of tags are in the same order as there.
-/
structure Renumbered (larger smaller : Snapshot) : Prop where
  post
    : ∀ p ∈ smaller.posts,
        ∃ q, larger.postBySlug? p.slug = some q
          ∧ p.unnumbered = q.unnumbered
          ∧ p.IdsAtMost q
  category
    : ∀ c ∈ smaller.categories,
        ∃ d, larger.categoryBySlug? c.slug = some d
          ∧ c.unnumbered = d.unnumbered
          ∧ c.id ≤ d.id
  tag
    : ∀ t ∈ smaller.tags,
        ∃ u, larger.tagBySlug? t.slug = some u ∧ t.unnumbered = u.unnumbered ∧ t.id ≤ u.id
  postOrder
    : ∀ p ∈ smaller.posts, ∀ p' ∈ smaller.posts, ∀ q q',
        larger.postBySlug? p.slug = some q → larger.postBySlug? p'.slug = some q'
        → (p.id < p'.id ↔ q.id < q'.id) ∧ (p.author.id < p'.author.id ↔ q.author.id < q'.author.id)
  categoryOrder
    : ∀ c ∈ smaller.categories, ∀ c' ∈ smaller.categories, ∀ d d',
        larger.categoryBySlug? c.slug = some d → larger.categoryBySlug? c'.slug = some d'
        → (c.id < c'.id ↔ d.id < d'.id)
  tagOrder
    : ∀ t ∈ smaller.tags, ∀ t' ∈ smaller.tags, ∀ u u',
        larger.tagBySlug? t.slug = some u → larger.tagBySlug? t'.slug = some u'
        → (t.id < t'.id ↔ u.id < u'.id)

open ParsedSource

variable {settings : Settings} {builtAt : Moment} {sources kept : List SourceFile}
variable {ordered fewer : List ParsedSource} {posts left : List Post}
variable {snapshot smaller : Snapshot}

-----------------------------------------------------------------------------------------
-- Sources that are left
-----------------------------------------------------------------------------------------

/-- The sources that are left are in order as they were. Witness: their results are a sublist of
the others, up to order.
-/
theorem InOrder.exists_sublist (h : InOrder sources ordered) (part : kept.Subperm sources)
    : ∃ fewer, fewer.Sublist ordered ∧ InOrder kept fewer := by
  obtain ⟨same, samePerm, sameSublist⟩ := part
  have results : (kept.map SourceFile.parse).Subperm (sources.map SourceFile.parse) :=
    ⟨same.map SourceFile.parse, samePerm.map _, sameSublist.map _⟩
  obtain ⟨parsed, perm, sublist⟩ := results.trans h.parses.subperm
  obtain ⟨fewer, fewerSublist, rfl⟩ := List.sublist_map_iff.mp sublist
  exact ⟨fewer, fewerSublist, perm.symm, h.ascending.sublist fewerSublist⟩

/-- The image of a post has the id of the post. -/
theorem image_id {tables : Post.Tables} {n : Int} {s : ParsedSource} {p : Post}
    (post : Post.Joined settings builtAt tables n s.frontmatter s.body p)
    : ∀ m ∈ p.featuredImage, m.id = p.id := by
  intro m shown
  obtain ⟨described, found, own⟩ := post.image
  obtain rfl : described = m := Option.some.inj (own ▸ shown)
  exact (id_of_ofFeaturedImage found).trans post.id.symm

/-- A source with a post can be shown. -/
theorem showable_of_joined {tables : Post.Tables} {n : Int} {s : ParsedSource} {p : Post}
    (post : Post.Joined settings builtAt tables n s.frontmatter s.body p)
    : Showable s where
  renders := by
    obtain ⟨html, rendered, _⟩ := (bind_eq_ok_iff _ _ _).mp post.content
    obtain ⟨raw, renders, _⟩ := (bind_eq_ok_iff _ _ _).mp rendered
    exact ⟨raw, renders⟩
  accepted := by
    obtain ⟨m, described, _⟩ := post.image
    obtain ⟨extension, found, _⟩ := (bind_eq_ok_iff _ _ _).mp described
    obtain ⟨parts, accepted, _⟩ := (bind_eq_ok_iff _ _ _).mp found
    exact ⟨parts, accepted⟩

/-- What is left of a corpus with a snapshot has a snapshot too: fewer sources are consistent where
all are, and each of them can be shown.
-/
theorem Assembly.exists_of_subperm (h : Assembly settings builtAt sources ordered posts snapshot)
    (part : kept.Subperm sources) (nonempty : kept ≠ [])
    : ∃ fewer left smaller,
        fewer.Sublist ordered ∧ Assembly settings builtAt kept fewer left smaller := by
  obtain ⟨fewer, sublist, inOrder⟩ := h.inOrder.exists_sublist part
  have consistent : Consistent settings fewer := h.consistent.subset sublist.subset
  have shown : ∀ s ∈ fewer, Showable s := by
    intro s member
    obtain ⟨p, _, n, post⟩ := h.exists_post (sublist.subset member)
    exact showable_of_joined post
  obtain ⟨left, smaller, assembly⟩ := inOrder.exists_assembly nonempty consistent shown
  exact ⟨fewer, left, smaller, sublist, assembly⟩

-----------------------------------------------------------------------------------------
-- The order of ids
-----------------------------------------------------------------------------------------

section

variable (h : Assembly settings builtAt sources ordered posts snapshot)
include h

/-- The id of a post is the rank of its slug. -/
theorem Assembly.post_rank {p : Post} (member : p ∈ snapshot.posts)
    : p.id = rank (ordered.map (·.frontmatter.slug)) p.slug := by
  have ranked : rank (snapshot.posts.map Post.slug) p.slug
      = snapshot.posts.countP (·.slug < p.slug) + 1 := by
    rw [rank, h.nodup_postSlugs.dedup, List.countP_map]
    rfl
  rw [← rank_perm h.map_slug_perm, ranked]
  exact h.post_id member

/-- Ids of posts are in the order of slugs. -/
theorem Assembly.post_id_lt_iff {p q : Post} (inP : p ∈ snapshot.posts) (inQ : q ∈ snapshot.posts)
    : p.id < q.id ↔ p.slug < q.slug := by
  have slugs : ∀ r ∈ snapshot.posts, r.slug ∈ ordered.map (·.frontmatter.slug) :=
    fun r listed => h.map_slug_perm.mem_iff.mp (List.mem_map_of_mem listed)
  rw [h.post_rank inP, h.post_rank inQ, Int.ofNat_lt]
  exact rank_lt_iff (slugs p inP) (slugs q inQ)

/-- Ids of the authors of posts are in the order of the keys of their emails. -/
theorem Assembly.author_id_lt_iff {p q : Post} (inP : p ∈ snapshot.posts)
    (inQ : q ∈ snapshot.posts)
    : p.author.id < q.author.id ↔ authorKey p.author.email < authorKey q.author.email := by
  obtain ⟨declaredP, rankedP⟩ := h.author_id inP
  obtain ⟨declaredQ, rankedQ⟩ := h.author_id inQ
  rw [rankedP, rankedQ, Int.ofNat_lt]
  exact rank_lt_iff declaredP declaredQ

/-- Ids of categories are in the order of slugs. -/
theorem Assembly.category_id_lt_iff {c d : Category} (inC : c ∈ snapshot.categories)
    (inD : d ∈ snapshot.categories)
    : c.id < d.id ↔ c.slug < d.slug := by
  rw [h.category_id inC, h.category_id inD, Int.ofNat_lt]
  exact rank_lt_iff (h.slug_mem_categorySlugs inC) (h.slug_mem_categorySlugs inD)

/-- Ids of tags are in the order of slugs. -/
theorem Assembly.tag_id_lt_iff {t u : Tag} (inT : t ∈ snapshot.tags) (inU : u ∈ snapshot.tags)
    : t.id < u.id ↔ t.slug < u.slug := by
  rw [h.tag_id inT, h.tag_id inU, Int.ofNat_lt]
  exact rank_lt_iff (h.slug_mem_tagSlugs inT) (h.slug_mem_tagSlugs inU)

end

-----------------------------------------------------------------------------------------
-- The same source in two corpora
-----------------------------------------------------------------------------------------

section

variable (h : Assembly settings builtAt sources ordered posts snapshot)
variable (k : Assembly settings builtAt kept fewer left smaller) (subset : fewer ⊆ ordered)
include h k subset

section

variable {s : ParsedSource} {m n : Int} {p q : Post} (member : s ∈ fewer)
variable (first
  : Post.Joined settings builtAt (.ofCorpus settings builtAt fewer) m s.frontmatter s.body p)
variable (second
  : Post.Joined settings builtAt (.ofCorpus settings builtAt ordered) n s.frontmatter s.body q)
include member first second

/-- The posts of one source in two corpora are the same but for the ids. -/
theorem Assembly.post_unnumbered_eq : p.unnumbered = q.unnumbered := by
  have content : p.content = q.content := Except.ok.inj (first.content.symm.trans second.content)
  have image : p.featuredImage.map Media.unnumbered = q.featuredImage.map Media.unnumbered := by
    obtain ⟨a, describedP, ownP⟩ := first.image
    obtain ⟨b, describedQ, ownQ⟩ := second.image
    rw [ownP, ownQ, Option.map_some, Option.map_some]
    exact congrArg some (Media.unnumbered_ofFeaturedImage describedP describedQ)
  have author : { p.author with id := 0 } = { q.author with id := 0 } := by
    rw [k.author_eq member first, h.author_eq (subset member) second]
  have category : { p.category with id := 0 } = { q.category with id := 0 } := by
    rw [k.category_eq member first, h.category_eq (subset member) second]
    rfl
  have tags : (p.tags.map fun t => { t with id := 0 })
      = q.tags.map fun t => { t with id := 0 } := by
    rw [k.tags_eq member first, h.tags_eq (subset member) second, List.map_map, List.map_map]
    rfl
  obtain ⟨likesP, viewsP, commentsP⟩ := first.uncounted
  obtain ⟨likesQ, viewsQ, commentsQ⟩ := second.uncounted
  simp only [Post.unnumbered, Post.mk.injEq]
  exact ⟨trivial, first.title.trans second.title.symm, first.slug.trans second.slug.symm, content,
    first.excerpt.trans second.excerpt.symm, image, first.published.trans second.published.symm,
    first.created.trans second.created.symm, first.updated.trans second.updated.symm, author,
    category, tags, likesP.trans likesQ.symm, viewsP.trans viewsQ.symm,
    commentsP.trans commentsQ.symm⟩

/-- The ids of a post of fewer sources are at most those of the post of all, for they are ranks. -/
theorem Assembly.idsAtMost (own : p.id ≤ q.id) : p.IdsAtMost q where
  own := own
  image := by
    intro a isImageP b isImageQ
    rw [image_id first a isImageP, image_id second b isImageQ]
    exact own
  author := by
    rw [k.author_eq member first, h.author_eq (subset member) second, Int.ofNat_le]
    exact rank_le_of_subset (List.map_subset _ subset) _
  category := by
    rw [k.category_eq member first, h.category_eq (subset member) second]
    exact Int.ofNat_le.mpr (rank_le_of_subset (List.map_subset _ subset) _)
  tags := by
    rw [k.tags_eq member first, h.tags_eq (subset member) second, List.forall₂_map_left_iff,
      List.forall₂_map_right_iff, List.forall₂_same]
    intro l _
    exact Int.ofNat_le.mpr (rank_le_of_subset (flatMap_subset_flatMap _ subset) _)

end

/-- A post of fewer sources is the post of all with its slug, but for the ids. Witness: both are
posts of one source.
-/
theorem Assembly.exists_renumbered_post {p : Post} (inP : p ∈ smaller.posts)
    : ∃ q, snapshot.postBySlug? p.slug = some q
        ∧ p.unnumbered = q.unnumbered
        ∧ p.IdsAtMost q := by
  obtain ⟨s, m, numbered, first⟩ := k.exists_source inP
  have member : s ∈ fewer := List.fst_mem_of_mem_zipIdx numbered
  obtain ⟨q, inQ, n, second⟩ := h.exists_post (subset member)
  have sameSlug : q.slug = p.slug := second.slug.trans first.slug.symm
  have slugs : fewer.map (·.frontmatter.slug) ⊆ ordered.map (·.frontmatter.slug) :=
    List.map_subset _ subset
  have own : p.id ≤ q.id := by
    rw [k.post_rank inP, h.post_rank inQ, sameSlug, Int.ofNat_le]
    exact rank_le_of_subset slugs _
  have found : snapshot.postBySlug? p.slug = some q :=
    (lastWithSlug?_eq_some_iff h.nodup_postSlugs _ _).mpr ⟨inQ, sameSlug⟩
  exact ⟨q, found, h.post_unnumbered_eq k subset member first second,
    h.idsAtMost k subset member first second own⟩

/-- A category of fewer sources is the category of all with its slug, but for the id. Witness: what
fewer sources declare first is what all declare, for these agree.
-/
theorem Assembly.exists_renumbered_category {c : Category} (listed : c ∈ smaller.categories)
    : ∃ d, snapshot.categoryBySlug? c.slug = some d
        ∧ c.unnumbered = d.unnumbered
        ∧ c.id ≤ d.id := by
  rw [k.snapshot] at listed
  obtain ⟨slug, declared, found, rfl⟩ := (mem_categories settings builtAt fewer c).mp listed
  have foundInAll := h.consistent.categories.earliest?_of_subset (List.map_subset _ subset) found
  have inAll : Category.ranked settings builtAt ordered slug declared ∈ snapshot.categories := by
    rw [h.snapshot]
    exact (mem_categories settings builtAt ordered _).mpr ⟨slug, declared, foundInAll, rfl⟩
  refine ⟨_, (h.categoryBySlug?_eq_some_iff _ _).mpr ⟨inAll, rfl⟩, rfl, ?_⟩
  exact Int.ofNat_le.mpr (rank_le_of_subset (List.map_subset _ subset) slug)

/-- A tag of fewer sources is the tag of all with its slug, but for the id, as with categories. -/
theorem Assembly.exists_renumbered_tag {t : Tag} (listed : t ∈ smaller.tags)
    : ∃ u, snapshot.tagBySlug? t.slug = some u ∧ t.unnumbered = u.unnumbered ∧ t.id ≤ u.id := by
  rw [k.snapshot] at listed
  obtain ⟨slug, declared, found, rfl⟩ := (mem_tags settings builtAt fewer t).mp listed
  have foundInAll :=
    h.consistent.tags.earliest?_of_subset (flatMap_subset_flatMap _ subset) found
  have inAll : Tag.ranked settings builtAt ordered slug declared ∈ snapshot.tags := by
    rw [h.snapshot]
    exact (mem_tags settings builtAt ordered _).mpr ⟨slug, declared, foundInAll, rfl⟩
  refine ⟨_, (h.tagBySlug?_eq_some_iff _ _).mpr ⟨inAll, rfl⟩, rfl, ?_⟩
  exact Int.ofNat_le.mpr (rank_le_of_subset (flatMap_subset_flatMap _ subset) slug)

/-- Ids of posts of fewer sources, and of their authors, are in the order of all, which is that of
slugs and of keys.
-/
theorem Assembly.post_order {p p' q q' : Post} (inP : p ∈ smaller.posts)
    (inP' : p' ∈ smaller.posts) (found : snapshot.postBySlug? p.slug = some q)
    (found' : snapshot.postBySlug? p'.slug = some q')
    : (p.id < p'.id ↔ q.id < q'.id)
      ∧ (p.author.id < p'.author.id ↔ q.author.id < q'.author.id) := by
  have counterpart {a b : Post} (inA : a ∈ smaller.posts)
      (foundB : snapshot.postBySlug? a.slug = some b)
      : b ∈ snapshot.posts ∧ b.slug = a.slug ∧ b.author.email = a.author.email := by
    obtain ⟨inB, sameSlug⟩ := (lastWithSlug?_eq_some_iff h.nodup_postSlugs _ _).mp foundB
    obtain ⟨r, foundR, same, _⟩ := h.exists_renumbered_post k subset inA
    obtain rfl : b = r := Option.some.inj (foundB.symm.trans foundR)
    have sameEmail : b.unnumbered.author.email = a.unnumbered.author.email :=
      congrArg (fun r : Post => r.author.email) same.symm
    exact ⟨inB, sameSlug, sameEmail⟩
  obtain ⟨inQ, slugQ, emailQ⟩ := counterpart inP found
  obtain ⟨inQ', slugQ', emailQ'⟩ := counterpart inP' found'
  constructor
  · rw [k.post_id_lt_iff inP inP', h.post_id_lt_iff inQ inQ', slugQ, slugQ']
  · rw [k.author_id_lt_iff inP inP', h.author_id_lt_iff inQ inQ', emailQ, emailQ']

/-- The snapshot of fewer sources is renumbered. -/
theorem Assembly.renumbered : Renumbered snapshot smaller where
  post := fun p inP => h.exists_renumbered_post k subset inP
  category := fun c listed => h.exists_renumbered_category k subset listed
  tag := fun t listed => h.exists_renumbered_tag k subset listed
  postOrder := fun p inP p' inP' q q' found found' =>
    h.post_order k subset inP inP' found found'
  categoryOrder := by
    intro c inC c' inC' d d' found found'
    obtain ⟨inD, slugD⟩ := (h.categoryBySlug?_eq_some_iff _ _).mp found
    obtain ⟨inD', slugD'⟩ := (h.categoryBySlug?_eq_some_iff _ _).mp found'
    rw [k.category_id_lt_iff inC inC', h.category_id_lt_iff inD inD', slugD, slugD']
  tagOrder := by
    intro t inT t' inT' u u' found found'
    obtain ⟨inU, slugU⟩ := (h.tagBySlug?_eq_some_iff _ _).mp found
    obtain ⟨inU', slugU'⟩ := (h.tagBySlug?_eq_some_iff _ _).mp found'
    rw [k.tag_id_lt_iff inT inT', h.tag_id_lt_iff inU inU', slugU, slugU']

end

-----------------------------------------------------------------------------------------
-- Every corpus that is built
-----------------------------------------------------------------------------------------

/-- Whatever sources are taken away from a corpus that can be built, as long as one is left, what
is left can be built, has a post for each source, and is renumbered.
-/
theorem renumbered_of_build (built : build settings builtAt sources = .ok snapshot)
    (part : kept.Subperm sources) (nonempty : kept ≠ [])
    : ∃ smaller,
        build settings builtAt kept = .ok smaller
        ∧ smaller.posts.length = kept.length
        ∧ Renumbered snapshot smaller := by
  obtain ⟨ordered, posts, h⟩ := build_eq_ok_iff.mp built
  obtain ⟨fewer, left, smaller, sublist, k⟩ := h.exists_of_subperm part nonempty
  have count : smaller.posts.length = kept.length := by
    have perSource := k.map_slug_perm.length_eq
    have perParsed := k.inOrder.parses.length_eq
    simp only [List.length_map] at perSource perParsed
    exact perSource.trans perParsed.symm
  exact ⟨smaller, build_eq_ok_iff.mpr ⟨fewer, left, k⟩, count, h.renumbered k sublist.subset⟩

/-- The first of the two sources can be built without the second one. -/
theorem renumbered_twoSources
    : ∃ snapshot smaller,
        build {} someDay twoSources = .ok snapshot
        ∧ build {} someDay (twoSources.take 1) = .ok smaller
        ∧ smaller.posts.length = 1
        ∧ Renumbered snapshot smaller := by
  obtain ⟨snapshot, built⟩ := exists_build_twoSources
  have part : (twoSources.take 1).Subperm twoSources := (List.take_sublist 1 _).subperm
  have nonempty : twoSources.take 1 ≠ [] := by simp [twoSources]
  obtain ⟨smaller, builtLeft, count, renumbered⟩ := renumbered_of_build built part nonempty
  exact ⟨snapshot, smaller, built, builtLeft, count, renumbered⟩

end Snapshot

end BlogSnapshot
