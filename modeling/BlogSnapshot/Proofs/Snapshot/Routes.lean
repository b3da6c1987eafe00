import BlogSnapshot.Proofs.Snapshot.Numbering

/-! The routes of a snapshot. Addresses of one kind begin alike, so they are in the order of their
slugs; and the kinds are told apart by their first letters, whatever the slugs are. So the routes
are the categories, the posts by their ids and the tags one after another, and none is left out.
-/

namespace BlogSnapshot

open Sorting

-----------------------------------------------------------------------------------------
-- The order of addresses
-----------------------------------------------------------------------------------------

/-- Texts that begin alike are in the order of their rests. -/
theorem append_lt_append (lead : String) {a b : String} (less : a < b) : lead ++ a < lead ++ b := by
  rw [String.lt_iff_toList_lt, String.toList_append, String.toList_append]
  exact List.append_left_lt (String.lt_iff_toList_lt.mp less)

/-- Addresses with a common beginning ascend as the slugs do. -/
theorem ascending_addresses {α : Type} {slugOf url : α → String} {lead : String} {items : List α}
    (addressed : ∀ a, url a = lead ++ slugOf a) (ascending : Ascending slugOf items)
    : Ascending id (items.map url) := by
  refine List.pairwise_map.mpr (ascending.imp fun {a b} less => ?_)
  rw [addressed, addressed]
  exact append_lt_append lead less

/-- A category stands before every post, whatever their slugs are. -/
theorem Category.url_lt_post (c : Category) (p : Post) : c.url < p.url := by
  rw [String.lt_iff_toList_lt]
  simp [url, Post.url, List.cons_lt_cons_iff]

/-- A category stands before every tag, whatever their slugs are. -/
theorem Category.url_lt_tag (c : Category) (t : Tag) : c.url < t.url := by
  rw [String.lt_iff_toList_lt]
  simp [url, Tag.url, List.cons_lt_cons_iff]

/-- A post stands before every tag, whatever their slugs are. -/
theorem Post.url_lt_tag (p : Post) (t : Tag) : p.url < t.url := by
  rw [String.lt_iff_toList_lt]
  simp [url, Tag.url, List.cons_lt_cons_iff]

/-- Erasing repetitions changes no list without them, by induction on the list. -/
theorem eraseDups_of_nodup {α : Type} [DecidableEq α] {items : List α} (distinct : items.Nodup)
    : items.eraseDups = items := by
  induction items with
  | nil => rfl
  | cons a rest ih =>
      obtain ⟨new, restDistinct⟩ := List.nodup_cons.mp distinct
      have kept : rest.filter (fun b => !b == a) = rest := by
        apply List.filter_eq_self.mpr
        intro b member
        have other : b ≠ a := fun same => new (same ▸ member)
        simpa using other
      rw [List.eraseDups_cons, kept, ih restDistinct]

namespace Snapshot

/-- The addresses of a snapshot kind by kind: of the categories, of the posts in the given
arrangement, and of the tags.
-/
def addresses (s : Snapshot) (posts : List Post) : List String :=
  s.categories.map Category.url ++ posts.map Post.url ++ s.tags.map Tag.url

/-- The routes of a snapshot: the addresses of the categories as they are listed, of the posts in
ascending order of ids, and of the tags as they are listed. They ascend strictly, and there is one
for each post, category and tag.
-/
structure RoutesByKind (snapshot : Snapshot) (byId : List Post) : Prop where
  arranged : byId.Perm snapshot.posts
  ascendingIds : Ascending Post.id byId
  routes : snapshot.routes = snapshot.addresses byId
  ascending : Ascending id snapshot.routes
  length
    : snapshot.routes.length
      = snapshot.posts.length + snapshot.categories.length + snapshot.tags.length

variable {snapshot : Snapshot} {byId : List Post}

/-- Addresses ascend through the kinds if the slugs of each kind ascend. -/
theorem addresses_ascending (categories : Ascending Category.slug snapshot.categories)
    (posts : Ascending Post.slug byId) (tags : Ascending Tag.slug snapshot.tags)
    : Ascending id (snapshot.addresses byId) := by
  have early : Ascending id (snapshot.categories.map Category.url ++ byId.map Post.url) := by
    apply List.pairwise_append.mpr
    refine ⟨ascending_addresses (fun _ => rfl) categories,
      ascending_addresses (fun _ => rfl) posts, ?_⟩
    simp only [List.forall_mem_map]
    exact fun c _ p _ => c.url_lt_post p
  apply List.pairwise_append.mpr
  refine ⟨early, ascending_addresses (fun _ => rfl) tags, ?_⟩
  simp only [List.forall_mem_append, List.forall_mem_map]
  exact ⟨fun c _ t _ => c.url_lt_tag t, fun p _ t _ => p.url_lt_tag t⟩

/-- Addresses that ascend are the routes. Witness: they are distinct, so that no two of them are
merged, and there is one ascending arrangement of them.
-/
theorem routes_eq_addresses (arranged : byId.Perm snapshot.posts)
    (ascending : Ascending id (snapshot.addresses byId))
    : snapshot.routes = snapshot.addresses byId := by
  have sameAddresses : (snapshot.posts.map Post.url ++ snapshot.tags.map Tag.url
      ++ snapshot.categories.map Category.url).Perm (snapshot.addresses byId) := by
    rw [addresses, List.append_assoc (snapshot.categories.map Category.url)]
    exact List.perm_append_comm.trans (((arranged.symm.map Post.url).append_right _).append_left _)
  have distinct : (snapshot.addresses byId).Nodup := by
    simpa only [List.map_id] using ascending.nodup
  simp only [routes, eraseDups_of_nodup (sameAddresses.nodup_iff.mpr distinct)]
  exact ascending.mergeSort_eq (fun _ _ => decide_eq_true_iff) sameAddresses

variable {settings : Settings} {builtAt : Moment} {sources : List SourceFile}
variable {ordered : List ParsedSource} {posts : List Post}

section

variable (h : Assembly settings builtAt sources ordered posts snapshot)
include h

/-- The posts of sources in order are in ascending order of slugs. -/
theorem Assembly.built_ascending : Ascending Post.slug posts := by
  have slugs := List.pairwise_map.mpr h.inOrder.ascending
  rw [← h.joined.map_slug] at slugs
  exact List.pairwise_map.mp slugs

/-- The routes of an assembled snapshot are its addresses, the posts in the order of their sources.
-/
theorem Assembly.routes_eq : snapshot.routes = snapshot.addresses posts :=
  routes_eq_addresses h.posts_perm.symm
    (addresses_ascending h.categories_ascending h.built_ascending h.tags_ascending)

/-- The routes of an assembled snapshot go through its kinds. -/
theorem Assembly.routesByKind : RoutesByKind snapshot posts where
  arranged := h.posts_perm.symm
  ascendingIds := ascending_of_idsUpTo h.joined.map_id
  routes := h.routes_eq
  ascending := by
    rw [h.routes_eq]
    exact addresses_ascending h.categories_ascending h.built_ascending h.tags_ascending
  length := by
    rw [h.routes_eq, addresses, List.length_append, List.length_append, List.length_map,
      List.length_map, List.length_map, h.posts_perm.length_eq]
    omega

end

/-- The routes of every snapshot that is built are the addresses of its categories, of its posts in
ascending order of ids, and of its tags, whatever the slugs are.
-/
theorem routesByKind_of_build (built : build settings builtAt sources = .ok snapshot)
    : ∃ byId, RoutesByKind snapshot byId := by
  obtain ⟨ordered, posts, h⟩ := build_eq_ok_iff.mp built
  exact ⟨posts, h.routesByKind⟩

/-- The routes of the snapshot of the two sources go through its kinds. -/
theorem routesByKind_of_twoSources
    : ∃ snapshot,
        build {} someDay twoSources = .ok snapshot ∧ ∃ byId, RoutesByKind snapshot byId := by
  obtain ⟨snapshot, built⟩ := exists_build_twoSources
  exact ⟨snapshot, built, routesByKind_of_build built⟩

end Snapshot

end BlogSnapshot
