import BlogSnapshot.Proofs.Snapshot.Integrity
import BlogSnapshot.Proofs.Snapshot.Numbering

/-! The buckets of the tags. The bucket of a tag has the posts with the tag in the order of all
posts, each as often as its source names the tag; so it has each of them once unless a source names
a tag twice, be it in two spellings of the slug.
-/

namespace BlogSnapshot

-----------------------------------------------------------------------------------------
-- Repeated items
-----------------------------------------------------------------------------------------

section

variable {α : Type} {times : α → Nat} {items : List α}

/-- An item is repeated as often as it is in the list of the repeated ones at least. -/
theorem le_count_flatMap_replicate [DecidableEq α] {a : α} (member : a ∈ items)
    : times a ≤ (items.flatMap fun b => List.replicate (times b) b).count a := by
  obtain ⟨before, after, rfl⟩ := List.append_of_mem member
  simp only [List.flatMap_append, List.flatMap_cons, List.count_append,
    List.count_replicate_self]
  omega

end

namespace Snapshot

/-- The buckets of the tags of a snapshot: the posts with a tag in the order of all posts, each as
often as its source names the slug of the tag. No bucket has a post twice exactly if no source names
a slug twice, blanks around it left aside.
-/
structure TagBuckets (sources : List SourceFile) (snapshot : Snapshot) : Prop where
  bucket
    : ∀ id,
        snapshot.postsByTag id
        = snapshot.posts.flatMap fun p => List.replicate (timesTagged id p) p
  named
    : ∀ p ∈ snapshot.posts,
        ∃ source ∈ sources,
          ∃ s, source.parse = .ok s
            ∧ p.slug = s.frontmatter.slug
            ∧ ∀ t ∈ snapshot.tags,
                timesTagged t.id p = s.frontmatter.tags.countP (·.slug.trimBlanks = t.slug)
  once
    : (∀ id, snapshot.postsByTag id = snapshot.posts.filter (0 < timesTagged id ·))
      ↔ ∀ source ∈ sources, ∀ s,
          source.parse = .ok s → (s.frontmatter.tags.map (·.slug.trimBlanks)).Nodup

variable {settings : Settings} {builtAt : Moment} {sources : List SourceFile}
variable {ordered : List ParsedSource} {posts : List Post} {snapshot : Snapshot}

section

variable (h : Assembly settings builtAt sources ordered posts snapshot)
include h

/-- The listed posts are in display order. -/
theorem Assembly.posts_sorted : Sorting.Sorted Post.displayKey snapshot.posts := by
  rw [h.snapshot]
  exact Post.displayOrder_sorted posts

/-- Listed tags have the same id exactly if they have the same slug. -/
theorem Assembly.tag_id_inj {t u : Tag} (inT : t ∈ snapshot.tags) (inU : u ∈ snapshot.tags)
    : t.id = u.id ↔ t.slug = u.slug := by
  rw [h.tag_id inT, h.tag_id inU, Int.natCast_inj]
  exact rank_inj (h.slug_mem_tagSlugs inT) (h.slug_mem_tagSlugs inU)

section

variable {s : ParsedSource} {n : Int} {p : Post}
variable (post
  : Post.Joined settings builtAt (.ofCorpus settings builtAt ordered) n s.frontmatter s.body p)
include post

/-- A tag of a post is the copy of a listed one. -/
theorem Assembly.exists_tag_of_mem {t : PostTag} (embedded : t ∈ p.tags)
    : ∃ g ∈ snapshot.tags, t = g.copy := by
  obtain ⟨l, _, g, listed, _, copied⟩ := exists_left_of_forall₂ (h.forall₂_tags post) embedded
  exact ⟨g, listed, copied⟩

/-- The tags of a post have the slugs that its source names. -/
theorem Assembly.map_tag_slug
    : p.tags.map PostTag.slug = s.frontmatter.tags.map (·.slug.trimBlanks) :=
  map_eq_map_of_forall₂ ((h.postOf post).tags.imp fun _ _ same => same.1)

/-- A post has a tag as often as its source names the slug of the tag. -/
theorem Assembly.timesTagged_eq {t : Tag} (listed : t ∈ snapshot.tags)
    : timesTagged t.id p = s.frontmatter.tags.countP (·.slug.trimBlanks = t.slug) := by
  calc timesTagged t.id p
      = p.tags.countP (·.slug = t.slug) := by
        apply List.countP_congr
        intro u embedded
        obtain ⟨g, alsoListed, rfl⟩ := h.exists_tag_of_mem post embedded
        rw [decide_eq_true_iff, decide_eq_true_iff]
        exact h.tag_id_inj alsoListed listed
    _ = (p.tags.map PostTag.slug).countP (· = t.slug) := by
        rw [List.countP_map]
        rfl
    _ = s.frontmatter.tags.countP (·.slug.trimBlanks = t.slug) := by
        rw [h.map_tag_slug post, List.countP_map]
        rfl

/-- The tags of a post have distinct ids exactly if its source names distinct slugs. -/
theorem Assembly.nodup_tagIds_iff
    : (p.tags.map PostTag.id).Nodup
      ↔ (s.frontmatter.tags.map (·.slug.trimBlanks)).Nodup := by
  rw [← h.map_tag_slug post, List.Nodup, List.Nodup, List.pairwise_map, List.pairwise_map]
  apply List.Pairwise.iff_of_mem
  intro t u inT inU
  obtain ⟨g, listed, rfl⟩ := h.exists_tag_of_mem post inT
  obtain ⟨k, alsoListed, rfl⟩ := h.exists_tag_of_mem post inU
  exact not_congr (h.tag_id_inj listed alsoListed)

end

/-- No bucket has a post twice exactly if no source names a slug twice. -/
theorem Assembly.once_iff
    : (∀ id, snapshot.postsByTag id = snapshot.posts.filter (0 < timesTagged id ·))
      ↔ ∀ source ∈ sources, ∀ s,
          source.parse = .ok s → (s.frontmatter.tags.map (·.slug.trimBlanks)).Nodup := by
  constructor
  · intro once source inSources s parses
    have inOrdered : s ∈ ordered := (h.inOrder.mem_iff s).mpr ⟨source, inSources, parses⟩
    obtain ⟨p, member, n, post⟩ := h.exists_post inOrdered
    rw [← h.nodup_tagIds_iff post, nodup_tagIds_iff_timesTagged]
    intro id
    have filtered := (postsByTag_eq_of_sorted h.posts_sorted id).symm.trans (once id)
    calc timesTagged id p
        ≤ (snapshot.posts.flatMap fun q => List.replicate (timesTagged id q) q).count p :=
          le_count_flatMap_replicate member
      _ = (snapshot.posts.filter (0 < timesTagged id ·)).count p := by rw [filtered]
      _ ≤ snapshot.posts.count p := List.filter_sublist.count_le p
      _ ≤ 1 := List.nodup_iff_count_le_one.mp h.nodup_postSlugs.of_map p
  · intro distinct id
    rw [postsByTag_eq_of_sorted h.posts_sorted]
    apply flatMap_replicate_eq_filter
    intro p member
    obtain ⟨s, n, numbered, post⟩ := h.exists_source member
    have inOrdered : s ∈ ordered := List.fst_mem_of_mem_zipIdx numbered
    obtain ⟨source, inSources, parses⟩ := (h.inOrder.mem_iff s).mp inOrdered
    have own := (h.nodup_tagIds_iff post).mpr (distinct source inSources s parses)
    exact (nodup_tagIds_iff_timesTagged p).mp own id

end

-----------------------------------------------------------------------------------------
-- Every snapshot that is built
-----------------------------------------------------------------------------------------

/-- The tags of every snapshot that is built have their buckets. -/
theorem tagBuckets_of_build (built : build settings builtAt sources = .ok snapshot)
    : TagBuckets sources snapshot := by
  obtain ⟨ordered, posts, h⟩ := build_eq_ok_iff.mp built
  exact {
    bucket := postsByTag_eq_of_sorted h.posts_sorted
    named := by
      intro p member
      obtain ⟨s, n, numbered, post⟩ := h.exists_source member
      have inOrdered : s ∈ ordered := List.fst_mem_of_mem_zipIdx numbered
      obtain ⟨source, inSources, parses⟩ := (h.inOrder.mem_iff s).mp inOrdered
      exact ⟨source, inSources, s, parses, post.slug, fun t listed => h.timesTagged_eq post listed⟩
    once := h.once_iff
  }

/-- The tag of the two sources has its bucket. -/
theorem tagBuckets_of_twoSources
    : ∃ snapshot,
        build {} someDay twoSources = .ok snapshot ∧ TagBuckets twoSources snapshot := by
  obtain ⟨snapshot, built⟩ := exists_build_twoSources
  exact ⟨snapshot, built, tagBuckets_of_build built⟩

/-- A source that names its tag twice, the second time with blanks around the slug. -/
def taggedTwice : SourceFile :=
  ⟨"a.md", document "s" "e" "c" "\x7bname: G, slug: g\x7d, \x7bname: G, slug: ' g '\x7d"⟩

/-- What is read of the source. -/
def taggedTwiceParsed : ParsedSource :=
  documentParsed "a.md" "s" "e" "c" [⟨"G", "g", none⟩, ⟨"G", " g ", none⟩]

/-- The post of the source is twice in the bucket of its only tag. -/
theorem postsByTag_taggedTwice
    : ∃ snapshot p,
        build {} someDay [taggedTwice] = .ok snapshot
        ∧ snapshot.posts = [p]
        ∧ snapshot.postsByTag 1 = [p, p] := by
  have parses : taggedTwice.parse = .ok taggedTwiceParsed := by decide +kernel
  have inOrder : InOrder [taggedTwice] [taggedTwiceParsed] := inOrder_singleton parses
  have consistent : ParsedSource.Consistent {} [taggedTwiceParsed] :=
    ⟨by decide +kernel, by decide +kernel, by decide +kernel⟩
  have shown : ∀ s ∈ [taggedTwiceParsed], Showable s := by
    intro s member
    rw [List.mem_singleton.mp member]
    exact showable_documentParsed _ _ _ _ _
  have assembled : ∃ posts snapshot,
      Assembly {} someDay [taggedTwice] [taggedTwiceParsed] posts snapshot :=
    inOrder.exists_assembly (by simp) consistent shown
  obtain ⟨posts, snapshot, h⟩ := assembled
  obtain ⟨p, rest, post, none, rfl⟩ := List.forall₂_cons_left_iff.mp h.joined
  obtain rfl := List.forall₂_nil_left_iff.mp none
  have listed : snapshot.posts = [p] := List.perm_singleton.mp h.posts_perm
  have twice : timesTagged 1 p = 2 := by
    rw [timesTagged, h.tags_eq (List.mem_singleton_self _) post]
    decide +kernel
  refine ⟨snapshot, p, build_eq_ok_iff.mpr ⟨_, _, h⟩, listed, ?_⟩
  rw [postsByTag_eq_of_sorted h.posts_sorted, listed, List.flatMap_singleton, twice]
  rfl

end Snapshot

end BlogSnapshot
