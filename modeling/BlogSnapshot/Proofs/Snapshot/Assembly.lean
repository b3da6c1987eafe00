import BlogSnapshot.Proofs.Post.Joined
import BlogSnapshot.Proofs.Resolution.Corpus
import BlogSnapshot.Snapshot.Build
import Mathlib.Data.List.Induction

/-! How a snapshot is assembled: the sources are parsed and put in order of their slugs, their
declarations are resolved, and each source becomes the post with its number. The build succeeds
exactly with the assembled snapshot.
-/

namespace BlogSnapshot.Snapshot

open ParsedSource

-----------------------------------------------------------------------------------------
-- Sources in order of their slugs
-----------------------------------------------------------------------------------------

/-- The sources can all be parsed, no two have the same slug, and `ordered` has them in ascending
order of slugs.
-/
structure InOrder (sources : List SourceFile) (ordered : List ParsedSource) : Prop where
  parses : (sources.map SourceFile.parse).Perm (ordered.map .ok)
  ascending : Sorting.Ascending (·.frontmatter.slug) ordered

/-- Sources are put in order by comparing their slugs. -/
theorem compares_slug
    : Sorting.Compares (α := ParsedSource)
        (fun a b => decide (a.frontmatter.slug ≤ b.frontmatter.slug)) (·.frontmatter.slug) :=
  fun _ _ => decide_eq_true_iff

/-- Sources are read by comparing their paths. -/
theorem compares_path
    : Sorting.Compares (α := SourceFile) (fun a b => decide (a.path ≤ b.path)) (·.path) :=
  fun _ _ => decide_eq_true_iff

/-- Sources whose slugs are new pass the check, which then knows their slugs too, by induction on
them.
-/
theorem checkSlugs_append (seen : List String) {before : List ParsedSource}
    (fresh : (seen ++ before.map (·.frontmatter.slug)).Nodup) (rest : List ParsedSource)
    : checkSlugs seen (before ++ rest)
      = checkSlugs ((before.map (·.frontmatter.slug)).reverse ++ seen) rest := by
  induction before generalizing seen with
  | nil => rfl
  | cons s more ih =>
      have moved : (seen ++ (s :: more).map (·.frontmatter.slug)).Perm
          (s.frontmatter.slug :: seen ++ more.map (·.frontmatter.slug)) := List.perm_middle
      have freshMore := moved.nodup_iff.mp fresh
      have new : s.frontmatter.slug ∉ seen := fun old =>
        (List.nodup_cons.mp freshMore).1 (List.mem_append_left _ old)
      simp [checkSlugs, new, ih _ freshMore]

/-- Sources with distinct slugs pass the check. -/
theorem checkSlugs_eq_ok {sources : List ParsedSource}
    (distinct : (sources.map (·.frontmatter.slug)).Nodup)
    : checkSlugs [] sources = .ok () := by
  have passed := checkSlugs_append [] distinct []
  rw [List.append_nil] at passed
  rw [passed, checkSlugs]

/-- The first source that repeats a slug fails the check. -/
theorem checkSlugs_eq_error {before after : List ParsedSource} {s : ParsedSource}
    (distinct : (before.map (·.frontmatter.slug)).Nodup)
    (repeated : s.frontmatter.slug ∈ before.map (·.frontmatter.slug))
    : checkSlugs [] (before ++ s :: after)
      = .error ⟨.duplicateSlug s.frontmatter.slug, some s.path⟩ := by
  have known : s.frontmatter.slug ∈ (before.map (·.frontmatter.slug)).reverse ++ [] := by
    simpa only [List.append_nil, List.mem_reverse] using repeated
  rw [checkSlugs_append [] distinct, checkSlugs, List.contains_iff_mem.mpr known]
  rfl

/-- The slugs of a list of sources are distinct, or a first source repeats one, by induction on
the list from its end.
-/
theorem distinct_or_repeated (sources : List ParsedSource)
    : (sources.map (·.frontmatter.slug)).Nodup
      ∨ ∃ before s after,
          sources = before ++ s :: after
          ∧ (before.map (·.frontmatter.slug)).Nodup
          ∧ s.frontmatter.slug ∈ before.map (·.frontmatter.slug) := by
  induction sources using List.reverseRecOn with
  | nil => exact .inl List.nodup_nil
  | append_singleton rest last ih =>
      rcases ih with distinct | ⟨before, s, after, rfl, distinct, repeated⟩
      · by_cases known : last.frontmatter.slug ∈ rest.map (·.frontmatter.slug)
        · exact .inr ⟨rest, last, [], rfl, distinct, known⟩
        · left
          rw [List.map_append, List.nodup_append]
          refine ⟨distinct, by simp, ?_⟩
          intro slug inRest other isLast same
          have lastSlug : other = last.frontmatter.slug := by simpa using isLast
          exact known (lastSlug ▸ same ▸ inRest)
      · exact .inr ⟨before, s, after ++ [last], by simp, distinct, repeated⟩

variable {settings : Settings} {builtAt : Moment} {sources : List SourceFile}
variable {ordered : List ParsedSource} {snapshot : Snapshot}

/-- Parsing sources in order of paths, and then sorting them by slugs, puts them in order. -/
theorem InOrder.build_eq (h : InOrder sources ordered) (nonempty : sources ≠ [])
    : build settings builtAt sources
      = (do
          let entities ← (Entities.resolve settings builtAt ordered).mapError .content
          let posts ← buildPosts settings builtAt (.ofEntities entities) 1 ordered
          pure (ofRecords posts entities.categories entities.tags)) := by
  let byPath := sources.mergeSort fun a b => a.path ≤ b.path
  have sorted : byPath.Perm sources := List.mergeSort_perm _ _
  obtain ⟨parsed, results, perm⟩ :=
    exists_results_of_perm ((sorted.map SourceFile.parse).trans h.parses)
  have parses : byPath.mapM SourceFile.parse = .ok parsed := (mapM_eq_ok_iff _ _ _).mpr results
  have arranged : inSlugOrder parsed = ordered := h.ascending.mergeSort_eq compares_slug perm
  have some : parsed ≠ [] := by
    rintro rfl
    have empty : byPath = [] := by simpa using results
    exact nonempty (List.nil_perm.mp (empty ▸ sorted))
  have distinct : checkSlugs [] ordered = .ok () := checkSlugs_eq_ok h.ascending.nodup
  change (byPath.mapM SourceFile.parse >>= ofParsed settings builtAt) = _
  rw [parses]
  change ofParsed settings builtAt parsed = _
  simp only [ofParsed, List.isEmpty_iff, some, if_false, arranged, distinct]
  rfl

/-- Parsed sources with distinct slugs can be put in order. -/
theorem inOrder_inSlugOrder {parsed : List ParsedSource}
    (parses : (sources.map SourceFile.parse).Perm (parsed.map .ok))
    (distinct : (parsed.map (·.frontmatter.slug)).Nodup)
    : InOrder sources (inSlugOrder parsed) where
  parses := parses.trans ((List.mergeSort_perm parsed _).symm.map _)
  ascending := compares_slug.ascending distinct

/-- A source alone is in order. -/
theorem inOrder_singleton {source : SourceFile} {p : ParsedSource} (parses : source.parse = .ok p)
    : InOrder [source] [p] :=
  ⟨.of_eq (by simp [parses]), List.pairwise_singleton _ _⟩

/-- A build that succeeds has read its sources, of which there is one, and put them in order. -/
theorem exists_inOrder_of_build (built : build settings builtAt sources = .ok snapshot)
    : sources ≠ [] ∧ ∃ ordered, InOrder sources ordered := by
  obtain ⟨parsed, parses, rest⟩ := (bind_eq_ok_iff _ _ _).mp built
  have results := (mapM_eq_ok_iff _ _ _).mp parses
  have sorted := List.mergeSort_perm sources fun a b => decide (a.path ≤ b.path)
  have perm : (sources.map SourceFile.parse).Perm (parsed.map .ok) :=
    results ▸ (sorted.map SourceFile.parse).symm
  constructor
  · rintro rfl
    have none : parsed = [] := by simpa using perm
    subst none
    cases rest
  · have unequal : parsed ≠ [] := by
      rintro rfl
      cases rest
    rcases distinct_or_repeated (inSlugOrder parsed) with distinct | ⟨before, s, after, eq, first⟩
    · have sameSlugs := (List.mergeSort_perm parsed fun a b =>
        decide (a.frontmatter.slug ≤ b.frontmatter.slug)).map (·.frontmatter.slug)
      exact ⟨_, inOrder_inSlugOrder perm (sameSlugs.nodup_iff.mp distinct)⟩
    · simp only [ofParsed, List.isEmpty_iff, unequal, if_false] at rest
      rw [eq, checkSlugs_eq_error first.1 first.2] at rest
      cases rest

-----------------------------------------------------------------------------------------
-- Assembled snapshots
-----------------------------------------------------------------------------------------

/-- Each of the numbered sources has its post. -/
def JoinedAll (settings : Settings) (builtAt : Moment) (tables : Post.Tables) (id : Nat)
    (sources : List ParsedSource) (posts : List Post)
    : Prop :=
  List.Forall₂
    (fun (e : ParsedSource × Nat) p =>
      Post.Joined settings builtAt tables e.2 e.1.frontmatter e.1.body p)
    (sources.zipIdx id) posts

/-- Building posts succeeds exactly with the joined posts, by induction on the sources. -/
theorem buildPosts_eq_ok_iff (tables : Post.Tables) (id : Nat) (sources : List ParsedSource)
    (posts : List Post)
    : buildPosts settings builtAt tables id sources = .ok posts
      ↔ JoinedAll settings builtAt tables id sources posts := by
  induction sources generalizing id posts with
  | nil => simp [buildPosts, JoinedAll, eq_comm]
  | cons s rest ih =>
      rw [JoinedAll, List.zipIdx_cons, List.forall₂_cons_left_iff]
      simp only [buildPosts, bind_eq_ok_iff, Post.build_eq_ok_iff, ih, pure, Except.pure,
        Except.ok.injEq]
      constructor
      · rintro ⟨p, first, more, joined, rfl⟩
        exact ⟨p, more, first, joined, rfl⟩
      · rintro ⟨p, more, first, joined, rfl⟩
        exact ⟨p, first, more, joined, rfl⟩

/-- The first source without a post decides the failure, by induction on those before it. -/
theorem buildPosts_eq_error {tables : Post.Tables} {before after : List ParsedSource}
    {s : ParsedSource} {failure : Failure}
    (succeeds : ∀ t ∈ before, ∀ id, ∃ p, Post.build settings builtAt tables id t = .ok p)
    (fails : ∀ id, Post.build settings builtAt tables id s = .error failure) (id : Nat)
    : buildPosts settings builtAt tables id (before ++ s :: after) = .error failure := by
  induction before generalizing id with
  | nil =>
      rw [List.nil_append, buildPosts, fails]
      rfl
  | cons t rest ih =>
      obtain ⟨p, built⟩ := succeeds t (by simp) id
      have later := ih (fun u member => succeeds u (by simp [member])) (id + 1)
      rw [List.cons_append, buildPosts, built, later]
      rfl

/-- Sources that can all be built have posts, by induction on them. -/
theorem exists_joinedAll {tables : Post.Tables} {sources : List ParsedSource}
    (succeeds : ∀ s ∈ sources, ∀ id, ∃ p, Post.build settings builtAt tables id s = .ok p)
    (id : Nat)
    : ∃ posts, JoinedAll settings builtAt tables id sources posts := by
  induction sources generalizing id with
  | nil => exact ⟨[], .nil⟩
  | cons s rest ih =>
      obtain ⟨p, built⟩ := succeeds s (by simp) id
      obtain ⟨posts, joined⟩ := ih (fun t member => succeeds t (by simp [member])) (id + 1)
      exact ⟨p :: posts, .cons ((Post.build_eq_ok_iff s p).mp built) joined⟩

/-- The tables of a corpus hold everything that its sources name, for they declare it. -/
theorem ofCorpus_covers {s : ParsedSource} (member : s ∈ ordered)
    : (Post.Tables.ofCorpus settings builtAt ordered).Covers s.frontmatter where
  author := by
    rw [Post.Tables.author?_isSome]
    exact List.mem_map_of_mem member
  category := by
    rw [Post.Tables.category?_isSome]
    exact List.mem_map_of_mem member
  tags := by
    intro l inTags
    rw [Post.Tables.tag?_isSome]
    exact List.mem_flatMap.mpr ⟨s, member, List.mem_map_of_mem inTags⟩

/-- A snapshot is assembled from sources in order: their declarations agree, each source has its
post, and the snapshot shows the posts beside the categories and the tags.
-/
structure Assembly (settings : Settings) (builtAt : Moment) (sources : List SourceFile)
    (ordered : List ParsedSource) (posts : List Post) (snapshot : Snapshot)
    : Prop where
  nonempty : sources ≠ []
  inOrder : InOrder sources ordered
  consistent : Consistent settings ordered
  joined : JoinedAll settings builtAt (.ofCorpus settings builtAt ordered) 1 ordered posts
  snapshot
    : snapshot
      = ofRecords posts (Resolution.categories settings builtAt ordered).entities
          (Resolution.tags settings builtAt ordered).entities

/-- The build succeeds exactly with the assembled snapshot. -/
theorem build_eq_ok_iff
    : build settings builtAt sources = .ok snapshot
      ↔ ∃ ordered posts, Assembly settings builtAt sources ordered posts snapshot := by
  constructor
  · intro built
    obtain ⟨nonempty, ordered, inOrder⟩ := exists_inOrder_of_build built
    rw [inOrder.build_eq nonempty] at built
    simp only [bind_eq_ok_iff, mapError_eq_ok_iff, Entities.resolve_eq_ok_iff,
      buildPosts_eq_ok_iff, pure, Except.pure, Except.ok.injEq] at built
    obtain ⟨entities, ⟨consistent, rfl⟩, posts, joined, rfl⟩ := built
    exact ⟨ordered, posts, nonempty, inOrder, consistent, joined, rfl⟩
  · rintro ⟨ordered, posts, assembly⟩
    have joined := (buildPosts_eq_ok_iff _ _ _ _).mpr assembly.joined
    rw [assembly.inOrder.build_eq assembly.nonempty,
      Entities.resolve_of_consistent assembly.consistent, assembly.snapshot]
    change (buildPosts settings builtAt (.ofCorpus settings builtAt ordered) 1 ordered >>= _) = _
    rw [joined]
    rfl

-----------------------------------------------------------------------------------------
-- Sources that can be shown
-----------------------------------------------------------------------------------------

/-- A source can be shown: its body can be rendered, and the URL of its image is accepted. -/
structure Showable (s : ParsedSource) : Prop where
  renders : ∃ html, Markdown.render s.body = .ok html
  accepted : ∃ parts, Url.split s.frontmatter.featuredImage.fileUrl.trimBlanks.toList = .ok parts

/-- A source that can be shown has a post in the tables of its corpus, whatever its number. -/
theorem Showable.exists_post {s : ParsedSource} (shown : Showable s) (member : s ∈ ordered)
    (id : Int)
    : ∃ p, Post.build settings builtAt (.ofCorpus settings builtAt ordered) id s = .ok p := by
  obtain ⟨html, renders⟩ := shown.renders
  obtain ⟨parts, accepted⟩ := shown.accepted
  exact (ofCorpus_covers member).build_of_accepted renders accepted

/-- A consistent corpus of sources that can be shown has a snapshot. -/
theorem InOrder.exists_assembly (h : InOrder sources ordered) (nonempty : sources ≠ [])
    (consistent : Consistent settings ordered) (shown : ∀ s ∈ ordered, Showable s)
    : ∃ posts snapshot, Assembly settings builtAt sources ordered posts snapshot := by
  have posted : ∃ posts,
      JoinedAll settings builtAt (.ofCorpus settings builtAt ordered) 1 ordered posts :=
    exists_joinedAll (fun s member id => (shown s member).exists_post member id) 1
  obtain ⟨posts, joined⟩ := posted
  exact ⟨posts, _, nonempty, h, consistent, joined, rfl⟩

/-- A source that can be shown and does not contradict itself has a snapshot alone. -/
theorem exists_assembly_singleton {source : SourceFile} {p : ParsedSource}
    (parses : source.parse = .ok p) (consistent : Consistent settings [p]) (shown : Showable p)
    : ∃ posts snapshot, Assembly settings builtAt [source] [p] posts snapshot := by
  apply (inOrder_singleton parses).exists_assembly (by simp) consistent
  intro s member
  exact List.mem_singleton.mp member ▸ shown

-----------------------------------------------------------------------------------------
-- Corpora of short documents
-----------------------------------------------------------------------------------------

/-- The day on which the sources are published and the snapshot is built. -/
def someDay : Moment where
  date := ⟨2026, 2, 3, by decide, by decide, by decide⟩
  offset := some .utc

/-- A document with the given slug, email, category and tags. -/
def document (slug email category tags : String) : String :=
  "---\ntitle: T\nslug: " ++ slug ++ "\npublished_at: 2026-02-03\nauthor: \x7bname: N, email: "
    ++ email ++ "\x7d\ncategory: \x7bname: C, slug: " ++ category ++ "\x7d\ntags: [" ++ tags
    ++ "]\nfeatured_image: \x7bfile_url: i\x7d\n---\nHi\n"

/-- What is read of a document under a path. -/
def documentParsed (path slug email category : String) (tags : List FrontmatterLabel)
    : ParsedSource where
  path := path
  frontmatter := {
    title := "T"
    slug := slug
    publishedAt := someDay
    author := ⟨"N", email⟩
    category := ⟨"C", category, none⟩
    featuredImage := ⟨"i", none, none⟩
    tags := tags
  }
  body := "Hi\n"

/-- What is read of a document can be shown. -/
theorem showable_documentParsed (path slug email category : String) (tags : List FrontmatterLabel)
    : Showable (documentParsed path slug email category tags) := by
  have renders : ∃ html, Markdown.render "Hi\n" = .ok html := exists_result (by decide +kernel)
  have accepted : ∃ parts, Url.split "i".trimBlanks.toList = .ok parts :=
    exists_result (by decide +kernel)
  exact ⟨renders, accepted⟩

/-- Two sources of one author, who writes the email in two ways, with two categories and a tag. -/
def twoSources : List SourceFile :=
  [
    ⟨"a.md", document "b" "E" "c" "\x7bname: G, slug: g\x7d"⟩,
    ⟨"b.md", document "a" "e" "d" ""⟩
  ]

/-- What is read of the two sources. -/
def twoParsed : List ParsedSource :=
  [
    documentParsed "a.md" "b" "E" "c" [⟨"G", "g", none⟩],
    documentParsed "b.md" "a" "e" "d" []
  ]

theorem parses_twoSources : twoSources.map SourceFile.parse = twoParsed.map .ok := by
  decide +kernel

/-- The two sources can be built. -/
theorem exists_build_twoSources : ∃ snapshot, build {} someDay twoSources = .ok snapshot := by
  let first := documentParsed "a.md" "b" "E" "c" [⟨"G", "g", none⟩]
  let second := documentParsed "b.md" "a" "e" "d" []
  have ascending : Sorting.Ascending (fun s => s.frontmatter.slug) [second, first] := by
    have smaller : ("a" : String) < "b" := String.lt_iff_toList_lt.mpr (by decide)
    exact List.pairwise_pair.mpr smaller
  have inOrder : InOrder twoSources [second, first] :=
    ⟨(List.Perm.of_eq parses_twoSources).trans (.swap _ _ _), ascending⟩
  have consistent : Consistent {} [second, first] :=
    ⟨by decide +kernel, by decide +kernel, by decide +kernel⟩
  have shown : ∀ s ∈ [second, first], Showable s := by
    intro s member
    rcases List.mem_pair.mp member with rfl | rfl
    · exact showable_documentParsed _ _ _ _ _
    · exact showable_documentParsed _ _ _ _ _
  have assembled : ∃ posts snapshot,
      Assembly {} someDay twoSources [second, first] posts snapshot :=
    inOrder.exists_assembly (by simp [twoSources]) consistent shown
  obtain ⟨posts, snapshot, assembly⟩ := assembled
  exact ⟨snapshot, build_eq_ok_iff.mpr ⟨_, posts, assembly⟩⟩

end BlogSnapshot.Snapshot
