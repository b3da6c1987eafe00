import BlogSnapshot.Proofs.Index
import BlogSnapshot.Proofs.Snapshot.DisplayOrder
import Mathlib.Data.List.Dedup

/-! What a snapshot of any records answers by id and by slug. Its buckets are filled post after post
and sorted again; each comes to the posts with its id, in the order of all posts. A slug leads to
the last record that has it.
-/

namespace BlogSnapshot

-----------------------------------------------------------------------------------------
-- Items by a key
-----------------------------------------------------------------------------------------

/-- What is found among items for a key is the last item with the key, or nothing if there is
none.
-/
def IsLastWith {α κ : Type} (keyOf : α → κ) (key : κ) (items : List α) : Option α → Prop
  | none => ∀ a ∈ items, keyOf a ≠ key
  | some a =>
      keyOf a = key ∧ ∃ before after, items = before ++ a :: after ∧ ∀ b ∈ after, keyOf b ≠ key

theorem isLastWith_lastWithSlug? {α : Type} (slugOf : α → String) (slug : String)
    (items : List α)
    : IsLastWith slugOf slug items (lastWithSlug? slugOf slug items) := by
  rw [lastWithSlug?, Index.lookup_byKey]
  cases found : items.reverse.find? (slugOf · == slug) with
  | none =>
      intro a member
      simpa using List.find?_eq_none.mp found a (List.mem_reverse.mpr member)
  | some a =>
      obtain ⟨same, after, before, split, others⟩ := List.find?_eq_some_iff_append.mp found
      refine ⟨eq_of_beq same, before.reverse, after.reverse, ?_, ?_⟩
      · rw [← List.reverse_reverse items, split]
        simp
      · intro b member
        simpa using others b (List.mem_reverse.mp member)

/-- The items of each of some keys, one key after the other, are all items if every item has one of
the keys: by induction on the keys, with the items of the first key taken out.
-/
theorem flatMap_filter_perm {α κ : Type} [DecidableEq κ] (keyOf : α → κ) {keys : List κ}
    (distinct : keys.Nodup) {items : List α} (covered : ∀ a ∈ items, keyOf a ∈ keys)
    : (keys.flatMap fun k => items.filter (keyOf · = k)).Perm items := by
  induction keys generalizing items with
  | nil =>
      have nothing : items = [] := List.eq_nil_iff_forall_not_mem.mpr fun a member => by
        simpa using covered a member
      simp [nothing]
  | cons key rest ih =>
      obtain ⟨fresh, distinctRest⟩ := List.nodup_cons.mp distinct
      let others := items.filter fun a => !decide (keyOf a = key)
      have later : (rest.flatMap fun k => others.filter (keyOf · = k)).Perm others := by
        apply ih distinctRest
        intro a member
        obtain ⟨inItems, other⟩ := List.mem_filter.mp member
        exact (List.mem_cons.mp (covered a inItems)).resolve_left (by simpa using other)
      -- without the items of the first key each other key has the items that it had
      have sameLater : (rest.flatMap fun k => others.filter (keyOf · = k))
          = rest.flatMap fun k => items.filter (keyOf · = k) := by
        apply List.flatMap_congr
        intro k member
        have apart : k ≠ key := fun same => fresh (same ▸ member)
        rw [List.filter_filter]
        apply List.filter_congr
        intro a _
        by_cases has : keyOf a = k <;> simp [has, apart]
      rw [List.flatMap_cons, ← sameLater]
      exact (later.append_left _).trans (List.filter_append_perm _ _)

-----------------------------------------------------------------------------------------
-- Repeated items
-----------------------------------------------------------------------------------------

section

variable {α : Type} {times : α → Nat} {items : List α}

/-- Items that are repeated where they stand are sorted as before. -/
theorem Sorting.Sorted.flatMap_replicate {κ : Type} [LinearOrder κ] {key : α → κ}
    (sorted : Sorting.Sorted key items) (times : α → Nat)
    : Sorting.Sorted key (items.flatMap fun a => List.replicate (times a) a) := by
  apply List.pairwise_flatMap.mpr
  constructor
  · intro a _
    simp
  · refine sorted.imp fun {a b} ordered x fromA y fromB => ?_
    rw [List.eq_of_mem_replicate fromA, List.eq_of_mem_replicate fromB]
    exact ordered

/-- Items that are repeated once at most are those that are repeated, by induction on them. -/
theorem flatMap_replicate_eq_filter (atMostOnce : ∀ a ∈ items, times a ≤ 1)
    : (items.flatMap fun a => List.replicate (times a) a) = items.filter (0 < times ·) := by
  induction items with
  | nil => rfl
  | cons a rest ih =>
      have later := ih fun b member => atMostOnce b (List.mem_cons_of_mem a member)
      rw [List.flatMap_cons, List.filter_cons, later]
      have here : times a = 0 ∨ times a = 1 := by
        have once := atMostOnce a List.mem_cons_self
        omega
      rcases here with none | one
      · simp [none]
      · simp [one]

end

namespace Snapshot

-----------------------------------------------------------------------------------------
-- Buckets
-----------------------------------------------------------------------------------------

/-- How often a post has the tag with an id. -/
def timesTagged (id : Int) (p : Post) : Nat :=
  p.tags.countP (·.id = id)

theorem timesTagged_pos_iff (id : Int) (p : Post)
    : 0 < timesTagged id p ↔ ∃ t ∈ p.tags, t.id = id := by
  simp [timesTagged, List.countP_pos_iff]

theorem count_tagIds (id : Int) (p : Post)
    : (p.tags.map PostTag.id).count id = timesTagged id p := by
  rw [timesTagged, List.count_eq_countP, List.countP_map]
  rfl

/-- The bucket of a category has the posts of the category in display order. -/
theorem postsByCategory_eq (s : Snapshot) (id : Int)
    : s.postsByCategory id = Post.displayOrder (s.posts.filter fun p => p.category.id = id) := by
  have atMostOnce : ∀ p ∈ s.posts, [p.category.id].count id ≤ 1 :=
    fun _ _ => List.count_le_length
  have filled : Index.bucket id (Index.buckets (fun p => [p.category.id]) s.posts)
      = s.posts.filter fun p => p.category.id = id := by
    rw [Index.bucket_buckets, flatMap_replicate_eq_filter atMostOnce]
    apply List.filter_congr
    intro p _
    by_cases own : p.category.id = id <;> simp [own]
  rw [postsByCategory, indexByCategory, Post.bucketsBy, Index.bucket_arrange Post.displayOrder_nil,
    filled]

/-- The bucket of a tag has each post as often as the post names the tag, in display order. -/
theorem postsByTag_eq (s : Snapshot) (id : Int)
    : s.postsByTag id
      = Post.displayOrder (s.posts.flatMap fun p => List.replicate (timesTagged id p) p) := by
  rw [postsByTag, indexByTag, Post.bucketsBy, Index.bucket_arrange Post.displayOrder_nil,
    Index.bucket_buckets]
  simp only [count_tagIds]

/-- The tags of a post have distinct ids exactly if the post has no tag twice. -/
theorem nodup_tagIds_iff_timesTagged (p : Post)
    : (p.tags.map PostTag.id).Nodup ↔ ∀ id, timesTagged id p ≤ 1 := by
  simp only [List.nodup_iff_count_le_one, count_tagIds]

/-- Among posts in display order the bucket of a category needs no sort. -/
theorem postsByCategory_eq_of_sorted {snapshot : Snapshot}
    (sorted : Sorting.Sorted Post.displayKey snapshot.posts) (id : Int)
    : snapshot.postsByCategory id = snapshot.posts.filter fun p => p.category.id = id := by
  rw [postsByCategory_eq]
  exact Post.displayOrder_of_sorted (sorted.filter _)

/-- A bucket repeats each post where it stands among all posts. Witness: so it is sorted as they
are.
-/
theorem postsByTag_eq_of_sorted {snapshot : Snapshot}
    (sorted : Sorting.Sorted Post.displayKey snapshot.posts) (id : Int)
    : snapshot.postsByTag id
      = snapshot.posts.flatMap fun p => List.replicate (timesTagged id p) p := by
  rw [postsByTag_eq]
  exact Post.displayOrder_of_sorted (sorted.flatMap_replicate _)

-----------------------------------------------------------------------------------------
-- Snapshots of any records
-----------------------------------------------------------------------------------------

/-- What the snapshot of some records answers. The bucket of a category has the posts of the
category among all posts, so the buckets that are not empty share out the posts; the bucket of a
tag has the posts with the tag if no post has a tag twice; and a slug leads to the last record that
has it.
-/
structure Indexes (posts : List Post) (categories : List Category) (tags : List Tag)
    (s : Snapshot)
    : Prop where
  records : s.posts.Perm posts ∧ s.categories = categories ∧ s.tags = tags
  byCategory : ∀ id, s.postsByCategory id = s.posts.filter fun p => p.category.id = id
  nonempty : ∀ id, s.postsByCategory id ≠ [] ↔ id ∈ s.posts.map fun p => p.category.id
  sharedOut
    : ((s.posts.map fun p => p.category.id).dedup.flatMap s.postsByCategory).Perm s.posts
  byTag
    : (∀ p ∈ posts, (p.tags.map PostTag.id).Nodup) →
        ∀ id, s.postsByTag id = s.posts.filter fun p => ∃ t ∈ p.tags, t.id = id
  postBySlug : ∀ slug, IsLastWith Post.slug slug s.posts (s.postBySlug? slug)
  categoryBySlug
    : ∀ slug, IsLastWith Category.slug slug s.categories (s.categoryBySlug? slug)
  tagBySlug : ∀ slug, IsLastWith Tag.slug slug s.tags (s.tagBySlug? slug)

/-- The bucket of a tag has the posts with the tag once each if no post has a tag twice. -/
theorem postsByTag_eq_filter {snapshot : Snapshot}
    (sorted : Sorting.Sorted Post.displayKey snapshot.posts)
    (distinct : ∀ p ∈ snapshot.posts, (p.tags.map PostTag.id).Nodup) (id : Int)
    : snapshot.postsByTag id = snapshot.posts.filter fun p => ∃ t ∈ p.tags, t.id = id := by
  have atMostOnce : ∀ p ∈ snapshot.posts, timesTagged id p ≤ 1 :=
    fun p member => (nodup_tagIds_iff_timesTagged p).mp (distinct p member) id
  rw [postsByTag_eq_of_sorted sorted, flatMap_replicate_eq_filter atMostOnce]
  simp only [timesTagged_pos_iff]

/-- The snapshot of any records answers by the indexes. -/
theorem indexes_ofRecords (posts : List Post) (categories : List Category) (tags : List Tag)
    : Indexes posts categories tags (ofRecords posts categories tags) := by
  let s := ofRecords posts categories tags
  have perm : s.posts.Perm posts := Post.displayOrder_perm posts
  have sorted : Sorting.Sorted Post.displayKey s.posts := Post.displayOrder_sorted posts
  have byCategory := postsByCategory_eq_of_sorted sorted
  exact {
    records := ⟨perm, rfl, rfl⟩
    byCategory := byCategory
    nonempty := by
      intro id
      change s.postsByCategory id ≠ [] ↔ id ∈ s.posts.map fun p => p.category.id
      simp [byCategory]
    sharedOut := by
      rw [funext byCategory]
      apply flatMap_filter_perm (fun p : Post => p.category.id) (List.nodup_dedup _)
      intro p member
      exact List.mem_dedup.mpr (List.mem_map_of_mem member)
    byTag := fun distinct =>
      postsByTag_eq_filter sorted fun p member => distinct p (perm.mem_iff.mp member)
    postBySlug := fun slug => isLastWith_lastWithSlug? Post.slug slug s.posts
    categoryBySlug := fun slug => isLastWith_lastWithSlug? Category.slug slug categories
    tagBySlug := fun slug => isLastWith_lastWithSlug? Tag.slug slug tags
  }

end Snapshot

end BlogSnapshot
