import BlogSnapshot.Proofs.Resolution.Placement
import BlogSnapshot.Proofs.Snapshot.Assembly

/-! Neither the order in which sources are found nor their paths have an influence on a snapshot.
Sources with the same contents are put in the same order, whatever their paths, and from there
on paths are only written on errors.
-/

namespace BlogSnapshot.Snapshot

variable {settings : Settings} {builtAt : Moment} {sources others : List SourceFile}
variable {ordered : List ParsedSource} {posts : List Post} {snapshot : Snapshot}

-----------------------------------------------------------------------------------------
-- Sources with the same contents
-----------------------------------------------------------------------------------------

/-- What parsing comes to, once the path is taken away. -/
def bare (outcome : Except Failure ParsedSource) : Except Failure ParsedSource :=
  (outcome.mapError (Failure.placed "")).map (ParsedSource.placed "")

/-- Taking the path away changes no success. -/
theorem bare_eq_ok_iff (outcome : Except Failure ParsedSource) (p : ParsedSource)
    : bare outcome = .ok p ↔ ∃ q, outcome = .ok q ∧ q.placed "" = p := by
  simp only [bare, map_eq_ok_iff, mapError_eq_ok_iff]

/-- What parsing comes to without the path is a matter of the contents. -/
theorem map_bare_parse (sources : List SourceFile)
    : (sources.map SourceFile.parse).map bare
      = (sources.map (·.contents)).map fun contents => SourceFile.parse ⟨"", contents⟩ := by
  rw [List.map_map, List.map_map]
  apply List.map_congr_left
  intro source _
  exact (SourceFile.parse_placed source "").symm

/-- Sources with the same contents as sources that can be parsed can be parsed to the same records,
but for the paths.
-/
theorem exists_parsed_of_same_contents
    (parses : (sources.map SourceFile.parse).Perm (ordered.map .ok))
    (same : (sources.map (·.contents)).Perm (others.map (·.contents)))
    : ∃ parsed : List ParsedSource,
        others.map SourceFile.parse = parsed.map .ok
        ∧ (parsed.map (ParsedSource.placed "")).Perm (ordered.map (ParsedSource.placed "")) := by
  have bares (parsed : List ParsedSource)
      : (parsed.map Except.ok).map bare = (parsed.map (ParsedSource.placed "")).map .ok := by
    rw [List.map_map, List.map_map]
    rfl
  have outcomes : ((others.map SourceFile.parse).map bare).Perm
      ((ordered.map (ParsedSource.placed "")).map .ok) := by
    rw [map_bare_parse, ← bares]
    exact (same.symm.map _).trans (map_bare_parse sources ▸ parses.map bare)
  have succeeds : ∀ x ∈ others.map SourceFile.parse, ∃ p, x = .ok p := by
    intro x member
    have inOutcomes := List.mem_map_of_mem (f := bare) member
    obtain ⟨p, _, ok⟩ := List.mem_map.mp (outcomes.mem_iff.mp inOutcomes)
    obtain ⟨q, own, _⟩ := (bare_eq_ok_iff x p).mp ok.symm
    exact ⟨q, own⟩
  obtain ⟨parsed, results⟩ := exists_results succeeds
  rw [results, bares] at outcomes
  exact ⟨parsed, results, (List.map_perm_map_iff (fun _ _ => Except.ok.inj)).mp outcomes⟩

theorem map_slug_placed (parsed : List ParsedSource)
    : (parsed.map (ParsedSource.placed "")).map (·.frontmatter.slug)
      = parsed.map (·.frontmatter.slug) := by
  rw [List.map_map]
  rfl

theorem ascending_placed {parsed : List ParsedSource}
    (h : Sorting.Ascending (·.frontmatter.slug) parsed)
    : Sorting.Ascending (·.frontmatter.slug) (parsed.map (ParsedSource.placed "")) :=
  List.pairwise_map.mpr h

/-- Sources with the same contents are put in the same order. Witness: without their paths they
are parsed to the same records, which have one ascending arrangement.
-/
theorem InOrder.exists_same_order (h : InOrder sources ordered)
    (same : (sources.map (·.contents)).Perm (others.map (·.contents)))
    : ∃ arranged,
        InOrder others arranged
        ∧ arranged.map (ParsedSource.placed "") = ordered.map (ParsedSource.placed "") := by
  obtain ⟨parsed, parses, perm⟩ := exists_parsed_of_same_contents h.parses same
  have distinct : (parsed.map (·.frontmatter.slug)).Nodup := by
    have sameSlugs := perm.map (·.frontmatter.slug)
    rw [map_slug_placed, map_slug_placed] at sameSlugs
    exact sameSlugs.nodup_iff.mpr h.ascending.nodup
  have arranged := inOrder_inSlugOrder (.of_eq parses) distinct
  refine ⟨inSlugOrder parsed, arranged, ?_⟩
  apply (ascending_placed arranged.ascending).eq_of_perm (ascending_placed h.ascending)
  exact ((List.mergeSort_perm parsed _).map _).trans perm

-----------------------------------------------------------------------------------------
-- Snapshots of the same contents
-----------------------------------------------------------------------------------------

/-- The posts of sources do not depend on paths. -/
theorem joinedAll_placed (tables : Post.Tables) (id : Nat) (path : String)
    (parsed : List ParsedSource)
    : JoinedAll settings builtAt tables id (parsed.map (ParsedSource.placed path)) posts
      ↔ JoinedAll settings builtAt tables id parsed posts := by
  rw [JoinedAll, JoinedAll, List.zipIdx_map, List.forall₂_map_left_iff]
  rfl

/-- A snapshot is assembled from any sources with the same contents. Witness: they are in the same
order but for their paths, and neither entities nor posts have a path.
-/
theorem Assembly.exists_of_same_contents
    (h : Assembly settings builtAt sources ordered posts snapshot)
    (same : (sources.map (·.contents)).Perm (others.map (·.contents)))
    : ∃ arranged, Assembly settings builtAt others arranged posts snapshot := by
  obtain ⟨arranged, inOrder, alike⟩ := h.inOrder.exists_same_order same
  have entities : Entities.ofFolds settings builtAt arranged
      = Entities.ofFolds settings builtAt ordered := by
    rw [← Entities.ofFolds_placed settings builtAt "", alike, Entities.ofFolds_placed]
  have nonempty : others ≠ [] := by
    rintro rfl
    exact h.nonempty (List.map_eq_nil_iff.mp same.eq_nil)
  have consistent : ParsedSource.Consistent settings arranged := by
    rw [← ParsedSource.consistent_placed "", alike, ParsedSource.consistent_placed]
    exact h.consistent
  have joined : JoinedAll settings builtAt (.ofCorpus settings builtAt arranged) 1 arranged
      posts := by
    rw [← joinedAll_placed _ _ "", alike, joinedAll_placed, Post.Tables.ofCorpus, entities]
    exact h.joined
  have shown : snapshot = ofRecords posts (Entities.ofFolds settings builtAt arranged).categories
      (Entities.ofFolds settings builtAt arranged).tags := by
    rw [entities]
    exact h.snapshot
  exact ⟨arranged, nonempty, inOrder, consistent, joined, shown⟩

/-- Sources with the same contents have the same snapshot, or none at all: neither their order nor
their paths have an influence on it.
-/
theorem build_eq_ok_iff_of_same_contents (settings : Settings) (builtAt : Moment)
    (same : (sources.map (·.contents)).Perm (others.map (·.contents))) (snapshot : Snapshot)
    : build settings builtAt sources = .ok snapshot
      ↔ build settings builtAt others = .ok snapshot := by
  rw [build_eq_ok_iff, build_eq_ok_iff]
  constructor
  · rintro ⟨ordered, posts, assembly⟩
    obtain ⟨arranged, again⟩ := assembly.exists_of_same_contents same
    exact ⟨arranged, posts, again⟩
  · rintro ⟨ordered, posts, assembly⟩
    obtain ⟨arranged, again⟩ := assembly.exists_of_same_contents same.symm
    exact ⟨arranged, posts, again⟩

/-- The two sources give the same snapshot when they are found in the other order and under one
path.
-/
theorem build_twoSources_elsewhere
    : let others := twoSources.reverse.map fun s => { s with path := "z.md" }
      (twoSources.map (·.contents)).Perm (others.map (·.contents))
      ∧ ∃ snapshot,
          build {} someDay twoSources = .ok snapshot ∧ build {} someDay others = .ok snapshot := by
  intro others
  have same : (twoSources.map (·.contents)).Perm (others.map (·.contents)) := .swap _ _ _
  obtain ⟨snapshot, built⟩ := exists_build_twoSources
  have again := (build_eq_ok_iff_of_same_contents {} someDay same snapshot).mp built
  exact ⟨same, snapshot, built, again⟩

end BlogSnapshot.Snapshot
