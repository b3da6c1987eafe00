import BlogSnapshot.Proofs.Snapshot.Assembly
import BlogSnapshot.Proofs.Snapshot.Buckets

/-! What an assembled snapshot lists: one post for each source, with the number that the source
has in order of slugs, and the categories and tags that the tables of the corpus hold.
-/

namespace BlogSnapshot

-----------------------------------------------------------------------------------------
-- Paired lists
-----------------------------------------------------------------------------------------

section

variable {α β γ : Type} {R : α → β → Prop} {xs : List α} {ys : List β}

/-- Each item of the first list has its counterpart, by induction on the pairing. -/
theorem exists_right_of_forall₂ (paired : List.Forall₂ R xs ys) {x : α} (member : x ∈ xs)
    : ∃ y ∈ ys, R x y := by
  induction paired with
  | nil => cases member
  | cons related _ ih =>
      rcases List.mem_cons.mp member with rfl | later
      · exact ⟨_, by simp, related⟩
      · obtain ⟨y, inRest, relatedLater⟩ := ih later
        exact ⟨y, List.mem_cons_of_mem _ inRest, relatedLater⟩

/-- Each item of the second list has its counterpart. -/
theorem exists_left_of_forall₂ (paired : List.Forall₂ R xs ys) {y : β} (member : y ∈ ys)
    : ∃ x ∈ xs, R x y :=
  exists_right_of_forall₂ paired.flip member

/-- Lists whose items have the same images in pairs have the same images. -/
theorem map_eq_map_of_forall₂ {f : α → γ} {g : β → γ}
    (paired : List.Forall₂ (fun x y => g y = f x) xs ys)
    : ys.map g = xs.map f := by
  induction paired with
  | nil => rfl
  | cons same _ ih => rw [List.map_cons, List.map_cons, same, ih]

end

namespace Snapshot

/-- A category's bucket has the posts of the category. -/
theorem mem_postsByCategory (s : Snapshot) (id : Int) (p : Post)
    : p ∈ s.postsByCategory id ↔ p ∈ s.posts ∧ p.category.id = id := by
  rw [postsByCategory_eq, (Post.displayOrder_perm _).mem_iff]
  simp

/-- A tag's bucket has the posts with the tag. -/
theorem mem_postsByTag (s : Snapshot) (id : Int) (p : Post)
    : p ∈ s.postsByTag id ↔ p ∈ s.posts ∧ ∃ t ∈ p.tags, t.id = id := by
  rw [postsByTag_eq, (Post.displayOrder_perm _).mem_iff, List.mem_flatMap]
  constructor
  · rintro ⟨q, member, repeated⟩
    obtain ⟨named, rfl⟩ := List.mem_replicate.mp repeated
    exact ⟨member, (timesTagged_pos_iff id p).mp (Nat.pos_of_ne_zero named)⟩
  · rintro ⟨member, tagged⟩
    have named : timesTagged id p ≠ 0 := ((timesTagged_pos_iff id p).mpr tagged).ne'
    exact ⟨p, member, List.mem_replicate.mpr ⟨named, rfl⟩⟩

variable {settings : Settings} {builtAt : Moment} {sources : List SourceFile}
variable {ordered : List ParsedSource} {posts : List Post} {snapshot : Snapshot}

-----------------------------------------------------------------------------------------
-- Numbered posts
-----------------------------------------------------------------------------------------

section

variable {tables : Post.Tables} {id : Nat} {parsed : List ParsedSource}

/-- The posts have the slugs of their sources. -/
theorem JoinedAll.map_slug (joined : JoinedAll settings builtAt tables id parsed posts)
    : posts.map Post.slug = parsed.map (·.frontmatter.slug) := by
  have slugs : posts.map Post.slug
      = (parsed.zipIdx id).map ((·.frontmatter.slug) ∘ Prod.fst) :=
    map_eq_map_of_forall₂ (joined.imp fun _ _ post => post.slug)
  rw [slugs, ← List.map_map, List.zipIdx_map_fst]

/-- The posts have consecutive ids. -/
theorem JoinedAll.map_id (joined : JoinedAll settings builtAt tables id parsed posts)
    : posts.map Post.id = (List.range' id parsed.length).map Int.ofNat := by
  have ids : posts.map Post.id = (parsed.zipIdx id).map (Int.ofNat ∘ Prod.snd) :=
    map_eq_map_of_forall₂ (joined.imp fun _ _ post => post.id)
  rw [ids, ← List.map_map, List.zipIdx_map_snd]

end

/-- Sources in order are the parsed ones. -/
theorem InOrder.mem_iff (h : InOrder sources ordered) (s : ParsedSource)
    : s ∈ ordered ↔ ∃ source ∈ sources, source.parse = .ok s := by
  have alike := h.parses.mem_iff (a := .ok s)
  simpa [eq_comm] using alike.symm

/-- Each source has been parsed and put in order. -/
theorem InOrder.exists_parsed (h : InOrder sources ordered) {source : SourceFile}
    (member : source ∈ sources)
    : ∃ s ∈ ordered, source.parse = .ok s := by
  have parsed := h.parses.mem_iff.mp (List.mem_map_of_mem member)
  obtain ⟨s, inOrder, parses⟩ := List.mem_map.mp parsed
  exact ⟨s, inOrder, parses.symm⟩

section

variable (h : Assembly settings builtAt sources ordered posts snapshot)
include h

/-- A snapshot lists the posts of its sources. -/
theorem Assembly.posts_perm : snapshot.posts.Perm posts := by
  rw [h.snapshot]
  exact Post.displayOrder_perm posts

/-- A listed post is that of a source with its number. -/
theorem Assembly.exists_source {p : Post} (member : p ∈ snapshot.posts)
    : ∃ s n, (s, n) ∈ ordered.zipIdx 1
        ∧ Post.Joined settings builtAt (.ofCorpus settings builtAt ordered) n s.frontmatter s.body
            p := by
  obtain ⟨⟨s, n⟩, numbered, post⟩ :=
    exists_left_of_forall₂ h.joined (h.posts_perm.mem_iff.mp member)
  exact ⟨s, n, numbered, post⟩

/-- Each source has a listed post. -/
theorem Assembly.exists_post {s : ParsedSource} (member : s ∈ ordered)
    : ∃ p ∈ snapshot.posts,
        ∃ n : Nat,
          Post.Joined settings builtAt (.ofCorpus settings builtAt ordered) n s.frontmatter s.body
            p := by
  obtain ⟨i, found⟩ := List.mem_iff_getElem?.mp member
  have numbered : (s, i + 1) ∈ ordered.zipIdx 1 := by
    rw [List.mk_mem_zipIdx_iff_le_and_getElem?_sub]
    exact ⟨by omega, by simpa using found⟩
  obtain ⟨p, inPosts, post⟩ := exists_right_of_forall₂ h.joined numbered
  exact ⟨p, h.posts_perm.mem_iff.mpr inPosts, i + 1, post⟩

/-- The listed posts have the slugs of the sources. -/
theorem Assembly.map_slug_perm
    : (snapshot.posts.map Post.slug).Perm (ordered.map (·.frontmatter.slug)) :=
  h.joined.map_slug ▸ h.posts_perm.map Post.slug

/-- The listed categories are in strictly ascending order of slugs. -/
theorem Assembly.categories_ascending : Sorting.Ascending Category.slug snapshot.categories := by
  rw [h.snapshot]
  exact BlogSnapshot.categories_ascending settings builtAt ordered

/-- The listed tags are in strictly ascending order of slugs. -/
theorem Assembly.tags_ascending : Sorting.Ascending Tag.slug snapshot.tags := by
  rw [h.snapshot]
  exact BlogSnapshot.tags_ascending settings builtAt ordered

/-- The category that a slug leads to is the listed one with the trimmed slug. -/
theorem Assembly.category?_eq_some_iff (slug : String) (c : Category)
    : (Post.Tables.ofCorpus settings builtAt ordered).category? slug = some c
      ↔ c ∈ snapshot.categories ∧ c.slug = slug.trimBlanks := by
  rw [← lastWithSlug?_eq_some_iff h.categories_ascending.nodup, h.snapshot]
  rfl

/-- The tag that a slug leads to is the listed one with the trimmed slug. -/
theorem Assembly.tag?_eq_some_iff (slug : String) (t : Tag)
    : (Post.Tables.ofCorpus settings builtAt ordered).tag? slug = some t
      ↔ t ∈ snapshot.tags ∧ t.slug = slug.trimBlanks := by
  rw [← lastWithSlug?_eq_some_iff h.tags_ascending.nodup, h.snapshot]
  rfl

end

end Snapshot

end BlogSnapshot
