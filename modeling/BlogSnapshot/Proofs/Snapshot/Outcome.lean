import BlogSnapshot.Proofs.Snapshot.Assembly
import Mathlib.Data.Prod.Lex

/-! Which of several faults decides what a build comes to. The faults of single sources come
first, in order of paths; then a repeated slug, clashes of authors, categories and tags, and what
keeps a post from being shown, all in order of slugs.
-/

namespace BlogSnapshot.Snapshot

open Declaration ParsedSource

-----------------------------------------------------------------------------------------
-- The ruling on every combination of faults
-----------------------------------------------------------------------------------------

/-- Among the sources of its slug a source has the second path: exactly one of them has a smaller
one. No smaller slug is repeated.
-/
structure SecondOfLeastRepeated (parsed : List ParsedSource) (s : ParsedSource) : Prop where
  member : s ∈ parsed
  second
    : ∃ earlier ∈ parsed,
        earlier.frontmatter.slug = s.frontmatter.slug
        ∧ earlier.path < s.path
        ∧ ∀ other ∈ parsed,
            other.frontmatter.slug = s.frontmatter.slug
            → other.path < s.path
            → other.path = earlier.path
  least
    : ∀ a ∈ parsed,
        ∀ b ∈ parsed,
          a.path ≠ b.path
          → a.frontmatter.slug = b.frontmatter.slug
          → s.frontmatter.slug ≤ a.frontmatter.slug

/-- What the sources of a build come to. Each case has the faults of the cases before it ruled
out: all sources can be parsed from the third case on, and from the fourth on no slug is repeated
and `ordered` has the sources in order of their slugs.
-/
inductive Outcome (settings : Settings) (builtAt : Moment) (sources : List SourceFile)
    : Except Failure Snapshot → Prop
  | noSources (nothing : sources = [])
    : Outcome settings builtAt sources (.error (.content ⟨.noSources, none⟩))
  | unparsed {source failure} (member : source ∈ sources)
    (fails : source.parse = .error failure)
    (least : ∀ other ∈ sources, ∀ f, other.parse = .error f → source.path ≤ other.path)
    : Outcome settings builtAt sources (.error failure)
  | repeatedSlug {parsed s} (parses : sources.map SourceFile.parse = parsed.map .ok)
    (second : SecondOfLeastRepeated parsed s)
    : Outcome settings builtAt sources
        (.error (.content ⟨.duplicateSlug s.frontmatter.slug, some s.path⟩))
  | authorClash {ordered d first} (inOrder : InOrder sources ordered)
    (clash : FirstClash (ordered.map (·.author)) d first)
    : Outcome settings builtAt sources
        (.error (.content ⟨.conflictingAuthor d.key first d.value, some d.path⟩))
  | categoryClash {ordered d first} (inOrder : InOrder sources ordered)
    (authors : Agree (ordered.map (·.author)))
    (clash : FirstClash (ordered.map (·.category settings.categoryColor)) d first)
    : Outcome settings builtAt sources
        (.error (.content ⟨.conflictingCategory d.key, some d.path⟩))
  | tagClash {ordered d first} (inOrder : InOrder sources ordered)
    (authors : Agree (ordered.map (·.author)))
    (categories : Agree (ordered.map (·.category settings.categoryColor)))
    (clash : FirstClash (ordered.flatMap (·.tags settings.tagColor)) d first)
    : Outcome settings builtAt sources
        (.error (.content ⟨.conflictingTag d.key, some d.path⟩))
  | unrenderable {before s after fault} (inOrder : InOrder sources (before ++ s :: after))
    (consistent : Consistent settings (before ++ s :: after))
    (shown : ∀ t ∈ before, Showable t) (fails : Markdown.render s.body = .error fault)
    : Outcome settings builtAt sources (.error (.fault (.render fault)))
  | refusedImage {before s after html fault} (inOrder : InOrder sources (before ++ s :: after))
    (consistent : Consistent settings (before ++ s :: after))
    (shown : ∀ t ∈ before, Showable t) (renders : Markdown.render s.body = .ok html)
    (refused
      : Url.split s.frontmatter.featuredImage.fileUrl.trimBlanks.toList = .error fault)
    : Outcome settings builtAt sources (.error (.fault (.url fault)))
  | built {ordered posts snapshot} (shown : ∀ s ∈ ordered, Showable s)
    (assembly : Assembly settings builtAt sources ordered posts snapshot)
    : Outcome settings builtAt sources (.ok snapshot)

variable {settings : Settings} {builtAt : Moment} {sources : List SourceFile}

-----------------------------------------------------------------------------------------
-- Faults of single sources
-----------------------------------------------------------------------------------------

/-- Parsing keeps the path of a source. -/
theorem parse_path {source : SourceFile} {p : ParsedSource} (parses : source.parse = .ok p)
    : p.path = source.path := by
  simp only [SourceFile.parse, bind_eq_ok_iff, pure, Except.pure, Except.ok.injEq] at parses
  obtain ⟨⟨block, body⟩, _, f, _, _, _, rfl⟩ := parses
  rfl

/-- Parsing keeps the paths of all sources, by induction on them. -/
theorem map_path_of_parses {parsed : List ParsedSource}
    (parses : sources.map SourceFile.parse = parsed.map .ok)
    : parsed.map (·.path) = sources.map (·.path) := by
  induction sources generalizing parsed with
  | nil =>
      have none : parsed = [] := by simpa using parses.symm
      rw [none]
      rfl
  | cons s rest ih =>
      cases parsed with
      | nil => cases parses
      | cons p more =>
          obtain ⟨first, others⟩ := List.cons.inj parses
          rw [List.map_cons, List.map_cons, parse_path first, ih others]

/-- The failing source of the least path decides the build. Witness: the sources before it in
order of paths have smaller paths, so they can be parsed.
-/
theorem build_of_unparsed (distinct : (sources.map (·.path)).Nodup) {source : SourceFile}
    {failure : Failure} (member : source ∈ sources) (fails : source.parse = .error failure)
    (least : ∀ other ∈ sources, ∀ f, other.parse = .error f → source.path ≤ other.path)
    : build settings builtAt sources = .error failure := by
  have sorted := List.mergeSort_perm sources fun a b => decide (a.path ≤ b.path)
  obtain ⟨before, after, split⟩ := List.append_of_mem (sorted.mem_iff.mpr member)
  have ascending := compares_path.ascending distinct
  have succeeds : ∀ other ∈ before, ∃ p, other.parse = .ok p := by
    intro other inBefore
    rw [split] at ascending
    have smaller := (List.pairwise_append.mp ascending).2.2 other inBefore source (by simp)
    have inSources : other ∈ sources := sorted.mem_iff.mp (by simp [split, inBefore])
    cases parsed : other.parse with
    | ok p => exact ⟨p, rfl⟩
    | error f => exact absurd smaller (not_lt_of_ge (least other inSources f parsed))
  have fault : (sources.mergeSort fun a b => a.path ≤ b.path).mapM SourceFile.parse
      = .error failure := by
    rw [split]
    exact mapM_eq_error succeeds fails
  rw [build, fault]
  rfl

/-- Sources that cannot all be parsed have a failing one of the least path. -/
theorem exists_least_unparsed {source : SourceFile} {failure : Failure}
    (member : source ∈ sources) (fails : source.parse = .error failure)
    : ∃ first ∈ sources,
        ∃ f, first.parse = .error f
          ∧ ∀ other ∈ sources, ∀ g, other.parse = .error g → first.path ≤ other.path := by
  let failing (s : SourceFile) : Bool := s.parse.toOption.isNone
  have sorted := List.mergeSort_perm sources fun a b => decide (a.path ≤ b.path)
  have exists_failing : ((sources.mergeSort fun a b => a.path ≤ b.path).find? failing).isSome := by
    apply List.find?_isSome.mpr
    exact ⟨source, sorted.mem_iff.mpr member, by simp [failing, fails, Except.toOption]⟩
  obtain ⟨first, found⟩ := Option.isSome_iff_exists.mp exists_failing
  obtain ⟨failed, before, after, split, parsed⟩ := List.find?_eq_some_iff_append.mp found
  have inSources : first ∈ sources := sorted.mem_iff.mp (by simp [split])
  cases own : first.parse with
  | ok p => simp [failing, own, Except.toOption] at failed
  | error f =>
      refine ⟨first, inSources, f, own, ?_⟩
      intro other inOthers g otherFails
      have inSorted := sorted.mem_iff.mpr inOthers
      rw [split] at inSorted
      rcases List.mem_append.mp inSorted with early | late
      · have parses := parsed other early
        simp [failing, otherFails, Except.toOption] at parses
      · rcases List.mem_cons.mp late with rfl | later
        · exact le_rfl
        · have ordered := compares_path.pairwise_le sources
          rw [split] at ordered
          exact (List.pairwise_cons.mp (List.pairwise_append.mp ordered).2.1).1 other later

-----------------------------------------------------------------------------------------
-- Repeated slugs
-----------------------------------------------------------------------------------------

/-- The slug of a source and, for sources of one slug, the path. -/
def shelfMark (s : ParsedSource) : String ×ₗ String :=
  toLex (s.frontmatter.slug, s.path)

theorem shelfMark_lt_iff (s t : ParsedSource)
    : shelfMark s < shelfMark t
      ↔ s.frontmatter.slug < t.frontmatter.slug
        ∨ (s.frontmatter.slug = t.frontmatter.slug ∧ s.path < t.path) :=
  Prod.Lex.toLex_lt_toLex

/-- Sources stand in order of their slugs, those of one slug in order of their paths. -/
def Shelved (sources : List ParsedSource) : Prop :=
  Sorting.Ascending shelfMark sources

/-- The first repetition among shelved sources is the second source of the least repeated slug.
Witness: a source of the same slug and a smaller path stands before it, where slugs are distinct.
-/
theorem Shelved.second_of_split {before after : List ParsedSource} {s : ParsedSource}
    (shelved : Shelved (before ++ s :: after))
    (distinct : (before.map (·.frontmatter.slug)).Nodup)
    (repeated : s.frontmatter.slug ∈ before.map (·.frontmatter.slug))
    : SecondOfLeastRepeated (before ++ s :: after) s := by
  have early {t : ParsedSource} (member : t ∈ before ++ s :: after)
      (smaller : t.frontmatter.slug < s.frontmatter.slug
        ∨ (t.frontmatter.slug = s.frontmatter.slug ∧ t.path < s.path))
      : t ∈ before :=
    (Sorting.Ascending.mem_before_iff shelved member).mpr ((shelfMark_lt_iff t s).mpr smaller)
  have unique {t u : ParsedSource} (inT : t ∈ before) (inU : u ∈ before)
      (same : t.frontmatter.slug = u.frontmatter.slug)
      : t = u :=
    List.inj_on_of_nodup_map distinct inT inU same
  obtain ⟨earlier, inBefore, sameSlug⟩ := List.mem_map.mp repeated
  have member : earlier ∈ before ++ s :: after := List.mem_append_left _ inBefore
  have less := (Sorting.Ascending.mem_before_iff shelved member).mp inBefore
  refine ⟨by simp, ⟨earlier, member, sameSlug, ?_, ?_⟩, ?_⟩
  · rcases (shelfMark_lt_iff earlier s).mp less with slug | ⟨_, path⟩
    · exact absurd sameSlug slug.ne
    · exact path
  · intro other inAll slug path
    rw [unique (early inAll (.inr ⟨slug, path⟩)) inBefore (slug.trans sameSlug.symm)]
  · intro t inT u inU apart same
    by_contra below
    have smaller := lt_of_not_ge below
    have both := unique (early inT (.inl smaller)) (early inU (.inl (same ▸ smaller))) same
    exact apart (congrArg _ both)

/-- The second source of the least repeated slug is the first repetition among the sources once
they are shelved. Witness: two sources of one slug before it would have a smaller slug, or be two
of its own slug with smaller paths.
-/
theorem SecondOfLeastRepeated.split {parsed shelf : List ParsedSource} {s : ParsedSource}
    (h : SecondOfLeastRepeated parsed s) (shelved : Shelved shelf) (perm : shelf.Perm parsed)
    : ∃ before after,
        shelf = before ++ s :: after
        ∧ (before.map (·.frontmatter.slug)).Nodup
        ∧ s.frontmatter.slug ∈ before.map (·.frontmatter.slug) := by
  obtain ⟨before, after, rfl⟩ := List.append_of_mem (perm.mem_iff.mpr h.member)
  obtain ⟨earlier, inParsed, sameSlug, smaller, only⟩ := h.second
  have inParsed_of {t : ParsedSource} (inBefore : t ∈ before) : t ∈ parsed :=
    perm.mem_iff.mp (List.mem_append_left _ inBefore)
  have ownSlug {t : ParsedSource} (inBefore : t ∈ before)
      (atLeast : s.frontmatter.slug ≤ t.frontmatter.slug)
      : t.path = earlier.path := by
    have less := (Sorting.Ascending.mem_before_iff shelved (by simp [inBefore])).mp inBefore
    rcases (shelfMark_lt_iff t s).mp less with slug | ⟨slug, path⟩
    · exact absurd slug (not_lt_of_ge atLeast)
    · exact only t (inParsed_of inBefore) slug path
  refine ⟨before, after, rfl, ?_, ?_⟩
  · have within : Shelved before := (List.pairwise_append.mp shelved).1
    apply List.pairwise_map.mpr
    refine within.imp_of_mem fun {a b} inA inB less same => ?_
    have apart : a.path ≠ b.path := by
      rcases (shelfMark_lt_iff a b).mp less with slug | ⟨_, path⟩
      · exact absurd same slug.ne
      · exact path.ne
    have least := h.least a (inParsed_of inA) b (inParsed_of inB) apart same
    exact apart ((ownSlug inA least).trans (ownSlug inB (same ▸ least)).symm)
  · have less : shelfMark earlier < shelfMark s :=
      (shelfMark_lt_iff earlier s).mpr (.inr ⟨sameSlug, smaller⟩)
    have inBefore : earlier ∈ before :=
      (Sorting.Ascending.mem_before_iff shelved (perm.mem_iff.mpr inParsed)).mpr less
    exact sameSlug ▸ List.mem_map_of_mem inBefore

/-- Ruling on a repeated slug does not look at the order of the sources. -/
theorem SecondOfLeastRepeated.perm {left right : List ParsedSource} {s : ParsedSource}
    (h : SecondOfLeastRepeated left s) (perm : left.Perm right)
    : SecondOfLeastRepeated right s := by
  obtain ⟨earlier, inLeft, slug, path, only⟩ := h.second
  exact {
    member := perm.mem_iff.mp h.member
    second := ⟨earlier, perm.mem_iff.mp inLeft, slug, path,
      fun other member => only other (perm.mem_iff.mpr member)⟩
    least := fun a inA b inB => h.least a (perm.mem_iff.mpr inA) b (perm.mem_iff.mpr inB)
  }

/-- A build that can parse its sources shelves them and checks their slugs. Witness: they are
read in order of paths, and the sort by slugs is stable.
-/
theorem exists_shelf (distinct : (sources.map (·.path)).Nodup) {parsed : List ParsedSource}
    (parses : (sources.map SourceFile.parse).Perm (parsed.map .ok)) (nonempty : sources ≠ [])
    : ∃ shelf,
        shelf.Perm parsed
        ∧ Shelved shelf
        ∧ ∀ settings builtAt e,
            checkSlugs [] shelf = .error e
            → build settings builtAt sources = .error (.content e) := by
  let byPath := sources.mergeSort fun a b => a.path ≤ b.path
  have sorted : byPath.Perm sources := List.mergeSort_perm _ _
  obtain ⟨read, results, perm⟩ :=
    exists_results_of_perm ((sorted.map SourceFile.parse).trans parses)
  have reads : byPath.mapM SourceFile.parse = .ok read := (mapM_eq_ok_iff _ _ _).mpr results
  have paths : read.Pairwise fun a b => a.path < b.path := by
    have ascending := List.pairwise_map.mpr (compares_path.ascending distinct)
    rw [← map_path_of_parses results] at ascending
    exact List.pairwise_map.mp ascending
  have shelved : Shelved (inSlugOrder read) :=
    (compares_slug.pairwise_stable paths).imp fun {a b} less => (shelfMark_lt_iff a b).mpr less
  refine ⟨inSlugOrder read, (List.mergeSort_perm _ _).trans perm, shelved, ?_⟩
  intro settings builtAt e fails
  have some : read ≠ [] := by
    rintro rfl
    have empty : byPath = [] := by simpa using results
    exact nonempty (List.nil_perm.mp (empty ▸ sorted))
  change (byPath.mapM SourceFile.parse >>= ofParsed settings builtAt) = _
  rw [reads]
  change ofParsed settings builtAt read = _
  simp only [ofParsed, List.isEmpty_iff, some, if_false, fails]
  rfl

/-- The second source of the least repeated slug decides the build. -/
theorem build_of_repeated (distinct : (sources.map (·.path)).Nodup) {parsed : List ParsedSource}
    {s : ParsedSource} (parses : sources.map SourceFile.parse = parsed.map .ok)
    (second : SecondOfLeastRepeated parsed s)
    : build settings builtAt sources
      = .error (.content ⟨.duplicateSlug s.frontmatter.slug, some s.path⟩) := by
  have nonempty : sources ≠ [] := by
    rintro rfl
    have none : parsed = [] := by simpa using parses
    exact List.not_mem_nil (none ▸ second.member)
  obtain ⟨shelf, perm, shelved, fails⟩ :=
    exists_shelf distinct (.of_eq parses) nonempty
  obtain ⟨before, after, rfl, fresh, repeated⟩ := second.split shelved perm
  exact fails _ _ _ (checkSlugs_eq_error fresh repeated)

/-- Sources that can all be parsed have distinct slugs, or else there is a least repeated one with a
second source.
-/
theorem distinct_or_second (distinct : (sources.map (·.path)).Nodup) {parsed : List ParsedSource}
    (parses : sources.map SourceFile.parse = parsed.map .ok) (nonempty : sources ≠ [])
    : (parsed.map (·.frontmatter.slug)).Nodup ∨ ∃ s, SecondOfLeastRepeated parsed s := by
  obtain ⟨shelf, perm, shelved, _⟩ := exists_shelf distinct (.of_eq parses) nonempty
  rcases distinct_or_repeated shelf with fresh | ⟨before, s, after, rfl, fresh, repeated⟩
  · exact .inl ((perm.map _).nodup_iff.mp fresh)
  · exact .inr ⟨s, (shelved.second_of_split fresh repeated).perm perm⟩

-----------------------------------------------------------------------------------------
-- Clashes, and posts that cannot be shown
-----------------------------------------------------------------------------------------

variable {ordered : List ParsedSource}

/-- Where there is a source in order, there is a source. -/
theorem InOrder.sources_ne_nil (h : InOrder sources ordered) (nonempty : ordered ≠ [])
    : sources ≠ [] := by
  rintro rfl
  exact nonempty (by simpa using h.parses)

/-- A corpus that cannot be resolved decides the build. -/
theorem InOrder.build_of_unresolved (h : InOrder sources ordered) (nonempty : ordered ≠ [])
    {e : ContentError} (fails : Entities.resolve settings builtAt ordered = .error e)
    : build settings builtAt sources = .error (.content e) := by
  rw [h.build_eq (h.sources_ne_nil nonempty), fails]
  rfl

/-- There are declarations where there is a clash. -/
theorem ne_nil_of_clash {ν α : Type} {d : Declaration ν} {first : ν} {items : List α}
    {declare : List α → List (Declaration ν)} (none : declare [] = [])
    (clash : FirstClash (declare items) d first)
    : items ≠ [] := by
  rintro rfl
  obtain ⟨before, after, split, _⟩ := clash.agreeBefore
  simp [none] at split

/-- The first source in order that has no post decides the build. -/
theorem InOrder.build_of_unshown {before after : List ParsedSource} {s : ParsedSource}
    {failure : Failure} (h : InOrder sources (before ++ s :: after))
    (consistent : Consistent settings (before ++ s :: after))
    (shown : ∀ t ∈ before, Showable t)
    (fails
      : ∀ id,
          Post.build settings builtAt (.ofCorpus settings builtAt (before ++ s :: after)) id s
          = .error failure)
    : build settings builtAt sources = .error failure := by
  have stopped : buildPosts settings builtAt
      (.ofCorpus settings builtAt (before ++ s :: after)) 1 (before ++ s :: after)
      = .error failure :=
    buildPosts_eq_error
      (fun t member => (shown t member).exists_post (List.mem_append_left _ member)) fails 1
  rw [h.build_eq (h.sources_ne_nil (by simp)), Entities.resolve_of_consistent consistent]
  change (buildPosts settings builtAt (.ofCorpus settings builtAt (before ++ s :: after)) 1
    (before ++ s :: after) >>= _) = _
  rw [stopped]
  rfl

-----------------------------------------------------------------------------------------
-- The build comes to what is ruled
-----------------------------------------------------------------------------------------

/-- Every ruling is what the build gives, case by case. -/
theorem Outcome.build_eq {r : Except Failure Snapshot} (distinct : (sources.map (·.path)).Nodup)
    (h : Outcome settings builtAt sources r)
    : build settings builtAt sources = r := by
  cases h with
  | noSources nothing =>
      subst nothing
      rw [build, List.mergeSort_nil]
      rfl
  | unparsed member fails least => exact build_of_unparsed distinct member fails least
  | repeatedSlug parses second => exact build_of_repeated distinct parses second
  | authorClash inOrder clash =>
      exact inOrder.build_of_unresolved (ne_nil_of_clash rfl clash)
        (Entities.resolve_of_author_clash clash)
  | categoryClash inOrder authors clash =>
      exact inOrder.build_of_unresolved (ne_nil_of_clash rfl clash)
        (Entities.resolve_of_category_clash authors clash)
  | tagClash inOrder authors categories clash =>
      exact inOrder.build_of_unresolved (ne_nil_of_clash rfl clash)
        (Entities.resolve_of_tag_clash authors categories clash)
  | unrenderable inOrder consistent shown fails =>
      exact inOrder.build_of_unshown consistent shown fun id =>
        (ofCorpus_covers (by simp)).build_of_unrenderable fails
  | refusedImage inOrder consistent shown renders refused =>
      exact inOrder.build_of_unshown consistent shown fun id =>
        (ofCorpus_covers (by simp)).build_of_refused renders refused
  | built shown assembly => exact build_eq_ok_iff.mpr ⟨_, _, assembly⟩

/-- Sources in order have a ruling: a clash, a source that cannot be shown, or the snapshot. -/
theorem InOrder.exists_outcome (inOrder : InOrder sources ordered) (nonempty : sources ≠ [])
    : ∃ r, Outcome settings builtAt sources r := by
  rcases agree_or_firstClash (ordered.map (·.author)) with authors | ⟨d, first, clash⟩
  case inr => exact ⟨_, .authorClash inOrder clash⟩
  rcases agree_or_firstClash (ordered.map (·.category settings.categoryColor))
    with categories | ⟨d, first, clash⟩
  case inr => exact ⟨_, .categoryClash inOrder authors clash⟩
  rcases agree_or_firstClash (ordered.flatMap (·.tags settings.tagColor))
    with tags | ⟨d, first, clash⟩
  case inr => exact ⟨_, .tagClash inOrder authors categories clash⟩
  have consistent : Consistent settings ordered := ⟨authors, categories, tags⟩
  rcases forall_or_first Showable ordered with shown | ⟨before, s, after, rfl, shown, failed⟩
  · have assembled : ∃ posts snapshot,
        Assembly settings builtAt sources ordered posts snapshot :=
      inOrder.exists_assembly nonempty consistent shown
    obtain ⟨posts, snapshot, assembly⟩ := assembled
    exact ⟨_, .built shown assembly⟩
  · cases renders : Markdown.render s.body with
    | error fault => exact ⟨_, .unrenderable inOrder consistent shown renders⟩
    | ok html =>
        cases splits : Url.split s.frontmatter.featuredImage.fileUrl.trimBlanks.toList with
        | error fault => exact ⟨_, .refusedImage inOrder consistent shown renders splits⟩
        | ok parts => exact absurd ⟨⟨html, renders⟩, ⟨parts, splits⟩⟩ failed

/-- Sources with distinct paths have a ruling, by going through the cases in their order. -/
theorem exists_outcome (distinct : (sources.map (·.path)).Nodup)
    : ∃ r, Outcome settings builtAt sources r := by
  by_cases nothing : sources = []
  · exact ⟨_, .noSources nothing⟩
  by_cases failing : ∃ s ∈ sources, ∃ f, s.parse = .error f
  · obtain ⟨s, member, f, fails⟩ := failing
    obtain ⟨first, inSources, g, firstFails, least⟩ := exists_least_unparsed member fails
    exact ⟨_, .unparsed inSources firstFails least⟩
  have succeeds : ∀ x ∈ sources.map SourceFile.parse, ∃ p, x = .ok p := by
    intro x member
    obtain ⟨s, inSources, rfl⟩ := List.mem_map.mp member
    cases parsed : s.parse with
    | ok p => exact ⟨p, rfl⟩
    | error f => exact absurd ⟨s, inSources, f, parsed⟩ failing
  obtain ⟨parsed, parses⟩ := exists_results succeeds
  rcases distinct_or_second distinct parses nothing with fresh | ⟨s, second⟩
  · exact (inOrder_inSlugOrder (.of_eq parses) fresh).exists_outcome nothing
  · exact ⟨_, .repeatedSlug parses second⟩

/-- For sources with distinct paths, given in any order, the build comes to the first ruling that
applies. The cases are those of `Outcome`.
-/
theorem build_eq_iff_outcome (distinct : (sources.map (·.path)).Nodup)
    (r : Except Failure Snapshot)
    : build settings builtAt sources = r ↔ Outcome settings builtAt sources r := by
  constructor
  · rintro rfl
    have ruled : ∃ r, Outcome settings builtAt sources r := exists_outcome distinct
    obtain ⟨r, ruled⟩ := ruled
    rw [ruled.build_eq distinct]
    exact ruled
  · exact fun ruled => ruled.build_eq distinct

/-- Of two sources that cannot be parsed the one with the smaller path decides, though it is given
second.
-/
theorem build_two_unparsed
    : let sources : List SourceFile := [⟨"b.md", ""⟩, ⟨"a.md", "---\n"⟩]
      (sources.map (·.path)).Nodup
      ∧ build {} someDay sources = .error (.content ⟨.noClosing, some "a.md"⟩) := by
  intro sources
  have distinct : (sources.map (·.path)).Nodup := by decide
  have least : ∀ other ∈ sources, "a.md" ≤ other.path := by decide
  exact ⟨distinct, (build_eq_iff_outcome distinct _).mpr
    (.unparsed (.tail _ (.head _)) (by decide +kernel) fun other member _ _ => least other member)⟩

-----------------------------------------------------------------------------------------
-- A source with two faults
-----------------------------------------------------------------------------------------

/-- A source whose body cannot be rendered, as a flag of its block of code has no text, and whose
image has a URL that is refused for its bracket.
-/
def troubled : SourceFile where
  path := "a.md"
  contents :=
    "---\ntitle: T\nslug: s\npublished_at: 2026-02-03\nauthor: \x7bname: N, email: e\x7d\n"
      ++ "category: \x7bname: C, slug: c\x7d\nfeatured_image: \x7bfile_url: '//['\x7d\n---\n"
      ++ "``` \x7b linenums=yes \x7d\n```\n"

/-- What is read of the source with two faults. -/
def troubledParsed : ParsedSource where
  path := "a.md"
  frontmatter := {
    title := "T"
    slug := "s"
    publishedAt := someDay
    author := ⟨"N", "e"⟩
    category := ⟨"C", "c", none⟩
    featuredImage := ⟨"//[", none, none⟩
  }
  body := "``` \x7b linenums=yes \x7d\n```\n"

/-- A refused URL does not always decide where it is the first one refused and all declarations
agree: the body of the same source is rendered before.
-/
theorem refused_url_not_decisive
    : ¬ ∀ (settings : Settings) (builtAt : Moment) (sources : List SourceFile)
          (before after : List ParsedSource) (s : ParsedSource) (fault : UrlFault),
          (sources.map (·.path)).Nodup
          → InOrder sources (before ++ s :: after)
          → Consistent settings (before ++ s :: after)
          → (∀ t ∈ before,
              ∃ parts,
                Url.split t.frontmatter.featuredImage.fileUrl.trimBlanks.toList = .ok parts)
          → Url.split s.frontmatter.featuredImage.fileUrl.trimBlanks.toList = .error fault
          → build settings builtAt sources = .error (.fault (.url fault)) := by
  intro decisive
  have parses : troubled.parse = .ok troubledParsed := by decide +kernel
  have unrenderable : Markdown.render troubledParsed.body = .error (.flag (some true)) := by
    decide +kernel
  have refused : Url.split troubledParsed.frontmatter.featuredImage.fileUrl.trimBlanks.toList
      = .error .brackets := by
    decide +kernel
  have inOrder : InOrder [troubled] ([] ++ troubledParsed :: []) := inOrder_singleton parses
  have consistent : Consistent {} ([] ++ troubledParsed :: []) :=
    ⟨by simp [Agree], by simp [Agree], by simp [Agree, troubledParsed, ParsedSource.tags]⟩
  have actual : build {} someDay [troubled] = .error (.fault (.render (.flag (some true)))) :=
    (Outcome.unrenderable inOrder consistent (by simp) unrenderable).build_eq (by simp)
  have claimed := decisive {} someDay [troubled] [] [] troubledParsed .brackets (by simp) inOrder
    consistent (by simp) refused
  rw [actual] at claimed
  cases claimed

end BlogSnapshot.Snapshot
