import BlogSnapshot.Proofs.Sorting
import BlogSnapshot.Snapshot
import Mathlib.Algebra.Order.Group.Int
import Mathlib.Data.Prod.Lex

/-! The display order: posts are sorted by date and slug, the newest first, and posts of one date
and slug stay in their order. It is the only arrangement of posts of which both are true.
-/

namespace BlogSnapshot.Post

open Sorting

/-- The post `p` may be shown before `q`: it is newer, or of the same instant and no larger by slug.
-/
def ShownFirst (p q : Post) : Prop :=
  q.displayDate.instant < p.displayDate.instant
  ∨ p.displayDate.instant = q.displayDate.instant ∧ p.slug ≤ q.slug

instance (p q : Post) : Decidable (ShownFirst p q) :=
  inferInstanceAs (Decidable (_ ∨ _))

/-- The display order of posts is one stable sort, so it is known by what it does to posts of one
date and slug: they stay in the order in which they are given, and posts that are left out leave the
others where they are. Without a repeated slug there is one display order of the posts, in whatever
order they are given.
-/
structure StableOrder (posts : List Post) : Prop where
  perm : (displayOrder posts).Perm posts
  ordered : (displayOrder posts).Pairwise ShownFirst
  stable
    : ∀ (date : Int) (slug : String),
        (displayOrder posts).filter (fun p => p.displayDate.instant = date ∧ p.slug = slug)
        = posts.filter fun p => p.displayDate.instant = date ∧ p.slug = slug
  oneSort : displayOrder posts = posts.mergeSort fun p q => ShownFirst p q
  idempotent : displayOrder (displayOrder posts) = displayOrder posts
  filtered
    : ∀ keep : Post → Bool,
        displayOrder (posts.filter keep) = (displayOrder posts).filter keep
  unordered
    : (posts.map slug).Nodup →
        ∀ others : List Post, others.Perm posts → displayOrder others = displayOrder posts

-----------------------------------------------------------------------------------------
-- Posts by date and slug
-----------------------------------------------------------------------------------------

/-- What posts are shown by: the newest come first, and those of one instant go by slug. -/
def displayKey (p : Post) : Int ×ₗ String :=
  toLex (-p.displayDate.instant, p.slug)

/-- A post may be shown before another exactly if its key is no larger. -/
theorem displayKey_le_iff (p q : Post) : displayKey p ≤ displayKey q ↔ ShownFirst p q := by
  rw [displayKey, displayKey, Prod.Lex.toLex_le_toLex, Int.neg_lt_neg_iff, neg_inj]
  rfl

/-- The key of a post is its date and its slug. -/
theorem displayKey_eq_iff (p : Post) (date : Int) (slug : String)
    : displayKey p = toLex (-date, slug) ↔ p.displayDate.instant = date ∧ p.slug = slug := by
  rw [displayKey, toLex_inj, Prod.mk.injEq, neg_inj]

/-- Posts are arranged by comparing their slugs. -/
theorem compares_slug : Compares (α := Post) (fun p q => decide (p.slug ≤ q.slug)) slug :=
  fun _ _ => decide_eq_true_iff

/-- Posts are arranged by comparing their dates, the newest first. -/
theorem compares_date
    : Compares (α := Post)
        (fun p q => decide (q.displayDate.instant ≤ p.displayDate.instant))
        fun p => -p.displayDate.instant := by
  intro p q
  rw [decide_eq_true_iff, Int.neg_le_neg_iff]

theorem compares_shownFirst : Compares (fun p q => decide (ShownFirst p q)) displayKey :=
  fun p q => decide_eq_true_iff.trans (displayKey_le_iff p q).symm

-----------------------------------------------------------------------------------------
-- What the two sorts do
-----------------------------------------------------------------------------------------

theorem displayOrder_perm (posts : List Post) : (displayOrder posts).Perm posts :=
  (List.mergeSort_perm _ _).trans (List.mergeSort_perm _ _)

/-- The display order is sorted. Witness: the sort by date leaves posts of one date sorted by slug.
-/
theorem displayOrder_sorted (posts : List Post) : Sorted displayKey (displayOrder posts) := by
  have bySlug := compares_slug.pairwise_le posts
  refine (compares_date.pairwise_stable bySlug).imp fun {p q} ordered => ?_
  exact Prod.Lex.toLex_le_toLex.mpr ordered

/-- The posts of one key are those of one date and one slug. -/
theorem filter_displayKey (posts : List Post) (k : Int ×ₗ String)
    : posts.filter (displayKey · = k)
      = (posts.filter (-·.displayDate.instant = (ofLex k).1)).filter (·.slug = (ofLex k).2) := by
  rw [List.filter_filter]
  apply List.filter_congr
  intro p _
  rw [← Bool.decide_and, decide_eq_decide, displayKey, and_comm]
  exact toLex.eq_symm_apply.symm.trans Prod.ext_iff

/-- The display order keeps posts of one key in their order, as both of its sorts do. -/
theorem filter_displayOrder (posts : List Post) (k : Int ×ₗ String)
    : (displayOrder posts).filter (displayKey · = k) = posts.filter (displayKey · = k) := by
  rw [filter_displayKey, displayOrder, compares_date.filter_mergeSort, List.filter_comm,
    compares_slug.filter_mergeSort, List.filter_comm, ← filter_displayKey]

/-- A sorted arrangement that keeps posts of one key in their order is the display order. -/
theorem displayOrder_eq_of_sorted {posts arranged : List Post}
    (sorted : Sorted displayKey arranged)
    (classes : ∀ k, arranged.filter (displayKey · = k) = posts.filter (displayKey · = k))
    : displayOrder posts = arranged :=
  (displayOrder_sorted posts).eq_of_classes sorted fun k =>
    (filter_displayOrder posts k).trans (classes k).symm

/-- Sorted posts are in display order. -/
theorem displayOrder_of_sorted {posts : List Post} (sorted : Sorted displayKey posts)
    : displayOrder posts = posts :=
  displayOrder_eq_of_sorted sorted fun _ => rfl

theorem displayOrder_nil : displayOrder [] = [] :=
  displayOrder_of_sorted .nil

-----------------------------------------------------------------------------------------
-- One stable sort
-----------------------------------------------------------------------------------------

/-- Two sorts come to one that compares date and slug together. -/
theorem displayOrder_eq_mergeSort (posts : List Post)
    : displayOrder posts = posts.mergeSort fun p q => ShownFirst p q :=
  displayOrder_eq_of_sorted (compares_shownFirst.pairwise_le posts)
    (compares_shownFirst.filter_mergeSort posts)

/-- Posts that are left out leave the others where they are. Witness: what is left of sorted posts
is sorted, and has the posts of each key in their order.
-/
theorem displayOrder_filter (posts : List Post) (keep : Post → Bool)
    : displayOrder (posts.filter keep) = (displayOrder posts).filter keep := by
  apply displayOrder_eq_of_sorted
  · exact (displayOrder_sorted posts).filter keep
  · intro k
    rw [List.filter_comm, filter_displayOrder, List.filter_comm]

/-- Distinct slugs leave one way to arrange posts. -/
theorem displayOrder_eq_of_perm {posts others : List Post} (distinct : (posts.map slug).Nodup)
    (perm : others.Perm posts)
    : displayOrder others = displayOrder posts := by
  have slugs : (posts.map displayKey).map (fun k => (ofLex k).2) = posts.map slug := by
    rw [List.map_map]
    rfl
  -- a key has the slug in it, so posts that differ by slug differ by key
  have distinctKeys : (posts.map displayKey).Nodup := (slugs ▸ distinct).of_map
  have ascending := compares_shownFirst.ascending distinctKeys
  rw [displayOrder_eq_mergeSort, displayOrder_eq_mergeSort]
  exact ascending.mergeSort_eq compares_shownFirst
    (perm.trans (List.mergeSort_perm posts _).symm)

/-- The display order of any posts is one stable sort by date and slug. -/
theorem stableOrder (posts : List Post) : StableOrder posts where
  perm := displayOrder_perm posts
  ordered := (displayOrder_sorted posts).imp (displayKey_le_iff _ _).mp
  stable := by
    intro date slug
    simp only [← displayKey_eq_iff]
    exact filter_displayOrder posts (toLex (-date, slug))
  oneSort := displayOrder_eq_mergeSort posts
  idempotent := displayOrder_of_sorted (displayOrder_sorted posts)
  filtered := displayOrder_filter posts
  unordered := fun distinct _ perm => displayOrder_eq_of_perm distinct perm

end BlogSnapshot.Post
