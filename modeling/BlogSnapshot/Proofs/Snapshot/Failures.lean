import BlogSnapshot.Command
import BlogSnapshot.Proofs.Frontmatter.Faults
import BlogSnapshot.Proofs.Snapshot.Outcome

/-! The failures of a build. A build fails with an error that names one of its sources, with the
error that there are none, or with a fault that one of the sources holds; and faults, which name
no source, reach whoever asked for the snapshot.
-/

namespace BlogSnapshot

/-- The faults that a parsed source holds: a body that cannot be rendered, and an image whose URL
is refused.
-/
inductive ParsedSource.Holds (s : ParsedSource) : Fault → Prop
  | body {fault : Markdown.RenderFault} (fails : Markdown.render s.body = .error fault)
      : s.Holds (.render fault)
  | image {fault : UrlFault}
      (refused
        : Url.split s.frontmatter.featuredImage.fileUrl.trimBlanks.toList = .error fault)
      : s.Holds (.url fault)

/-- The faults that a source holds, in its frontmatter block or once it is parsed. -/
inductive SourceFile.Holds (source : SourceFile) : Fault → Prop
  | block {fault : Fault} (held : source.BlockHolds fault) : source.Holds fault
  | parsed {s : ParsedSource} {fault : Fault} (parses : source.parse = .ok s)
      (held : s.Holds fault)
      : source.Holds fault

/-- A failure after parsing is an error that names the path of a parsed source, or a fault that
the source holds.
-/
inductive ParsedSource.Fails (s : ParsedSource) : Failure → Prop
  | content {failure : Failure} (names : failure.Names (some s.path)) : s.Fails failure
  | fault {fault : Fault} (held : s.Holds fault) : s.Fails (.fault fault)

/-- An error of the content names the path of one of the parsed sources. -/
def ContentError.NamesOneOf (e : ContentError) (sources : List ParsedSource) : Prop :=
  ∃ s ∈ sources, e.Names (some s.path)

namespace Post

/-- Tags that are not known are reported with the path, by induction on their list. -/
theorem tagsOf_fails (tables : Tables) (path : String) (labels : List FrontmatterLabel)
    : FailsOnly (ContentError.Names (some path)) (tagsOf tables path labels) := by
  induction labels with
  | nil => exact .ok _ _
  | cons l rest ih =>
      unfold tagsOf
      split
      · exact .error ⟨rfl, nofun⟩
      · exact .bind ih fun _ _ => .ok _ _

/-- The content of a body fails as rendering the body does. -/
theorem content_fails (settings : Settings) (body : String) (publishedAt : Moment)
    : FailsOnly (Markdown.render body = .error ·)
        (PostContent.ofBody settings body publishedAt) :=
  .bind (.bind (fun _ fails => fails) fun _ _ => .ok _ _) fun _ _ => .ok _ _

/-- The record of an image fails as splitting its URL does. -/
theorem image_fails (id : Int) (image : FrontmatterImage) (builtAt : Moment)
    : FailsOnly (Url.split image.fileUrl.trimBlanks.toList = .error ·)
        (Media.ofFeaturedImage id image builtAt) :=
  .bind (.bind (fun _ refused => refused) fun _ _ => .ok _ _) fun _ _ => .ok _ _

/-- The post of a source fails with the path of the source, or with a fault that it holds. -/
theorem build_fails (settings : Settings) (builtAt : Moment) (tables : Tables) (id : Int)
    (s : ParsedSource)
    : FailsOnly s.Fails (build settings builtAt tables id s) := by
  unfold build
  dsimp only
  split
  · exact .error (.content (.content ⟨rfl, nofun⟩))
  split
  · exact .error (.content (.content ⟨rfl, nofun⟩))
  refine .bind (.mapError ((tagsOf_fails _ _ _).mono ?_)) fun tags _ => ?_
  · exact fun _ names => .content (.content names)
  refine .bind (.mapError ((content_fails _ _ _).mono ?_)) fun content _ => ?_
  · exact fun fault fails => .fault (.body fails)
  refine .bind (.mapError ((image_fails _ _ _).mono ?_)) fun image _ => .ok _ _
  exact fun fault refused => .fault (.image refused)

end Post

-----------------------------------------------------------------------------------------
-- Resolution
-----------------------------------------------------------------------------------------

namespace Declaration

variable {ν ε : Type} [DecidableEq ν]

/-- Declarations of sources are refused with the path of one of the sources. -/
theorem unwrap_resolve_fails {conflict : Declaration ν → ν → Cause}
    (cause : ∀ d v, conflict d v ≠ .noSources) (entity : Nat → String → ν → ε)
    {ds : List (Declaration ν)} {sources : List ParsedSource}
    (declared : ∀ d ∈ ds, ∃ s ∈ sources, d.path = s.path)
    : FailsOnly (·.NamesOneOf sources) (resolve conflict entity ds).unwrap := by
  rcases agree_or_firstClash ds with agree | ⟨d, first, clash⟩
  · rw [agree.unwrap_resolve]
    exact .ok _ _
  · rw [clash.unwrap_resolve]
    obtain ⟨before, after, split, _⟩ := clash.agreeBefore
    obtain ⟨s, member, path⟩ := declared d (by simp [split])
    exact .error ⟨s, member, congrArg some path, cause d first⟩

end Declaration

/-- A corpus is refused with the path of one of its sources. -/
theorem Entities.resolve_fails (settings : Settings) (builtAt : Moment)
    (sources : List ParsedSource)
    : FailsOnly (·.NamesOneOf sources) (resolve settings builtAt sources) := by
  refine .bind (Declaration.unwrap_resolve_fails nofun _ ?_) fun _ _ => ?_
  · exact List.forall_mem_map.mpr fun s member => ⟨s, member, rfl⟩
  refine .bind (Declaration.unwrap_resolve_fails nofun _ ?_) fun _ _ => ?_
  · exact List.forall_mem_map.mpr fun s member => ⟨s, member, rfl⟩
  refine .bind (Declaration.unwrap_resolve_fails nofun _ ?_) fun _ _ => .ok _ _
  intro d inTags
  obtain ⟨s, member, tagged⟩ := List.mem_flatMap.mp inTags
  obtain ⟨l, _, rfl⟩ := List.mem_map.mp tagged
  exact ⟨s, member, rfl⟩

namespace Snapshot

-----------------------------------------------------------------------------------------
-- Parsed sources
-----------------------------------------------------------------------------------------

/-- A repeated slug is reported with the path of a source, by induction on the sources. -/
theorem checkSlugs_fails (seen : List String) (sources : List ParsedSource)
    : FailsOnly (·.NamesOneOf sources) (checkSlugs seen sources) := by
  induction sources generalizing seen with
  | nil => exact .ok _ _
  | cons s rest ih =>
      unfold checkSlugs
      split
      · exact .error ⟨s, by simp, rfl, by simp⟩
      · refine (ih _).mono ?_
        rintro e ⟨t, member, named⟩
        exact ⟨t, List.mem_cons_of_mem s member, named⟩

/-- Posts fail as that of one source does, by induction on the sources. -/
theorem buildPosts_fails (settings : Settings) (builtAt : Moment) (tables : Post.Tables)
    (id : Nat) (sources : List ParsedSource)
    : FailsOnly (fun failure => ∃ s ∈ sources, s.Fails failure)
        (buildPosts settings builtAt tables id sources) := by
  induction sources generalizing id with
  | nil => exact .ok _ _
  | cons s rest ih =>
      refine .bind ((Post.build_fails _ _ _ _ s).mono ?_) fun _ _ => .bind ((ih _).mono ?_) ?_
      · exact fun failure fails => ⟨s, by simp, fails⟩
      · rintro failure ⟨t, member, fails⟩
        exact ⟨t, List.mem_cons_of_mem s member, fails⟩
      · exact fun _ _ => .ok _ _

/-- An error that names a parsed source is a failure of this source. -/
theorem exists_fails_of_namesOneOf {e : ContentError} {sources : List ParsedSource}
    (names : e.NamesOneOf sources)
    : ∃ s ∈ sources, s.Fails (.content e) := by
  obtain ⟨s, member, named⟩ := names
  exact ⟨s, member, .content (.content named)⟩

/-- The snapshot of parsed sources fails as one of them does, if there is any. -/
theorem ofParsed_fails (settings : Settings) (builtAt : Moment) {parsed : List ParsedSource}
    (nonempty : parsed ≠ [])
    : FailsOnly (fun failure => ∃ s ∈ parsed, s.Fails failure)
        (ofParsed settings builtAt parsed) := by
  have some : parsed.isEmpty = false := by simpa using nonempty
  have sorted : ∀ s, s ∈ inSlugOrder parsed → s ∈ parsed :=
    fun s => (List.mergeSort_perm parsed _).mem_iff.mp
  suffices inOrder : FailsOnly (fun failure => ∃ s ∈ inSlugOrder parsed, s.Fails failure)
      (ofParsed settings builtAt parsed) by
    refine inOrder.mono ?_
    rintro failure ⟨s, member, fails⟩
    exact ⟨s, sorted s member, fails⟩
  simp only [ofParsed, some]
  refine .bind (.mapError ?_) fun _ _ => .bind (.mapError ?_) fun _ _ => .bind ?_ fun _ _ => ?_
  · exact (checkSlugs_fails _ _).mono fun _ => exists_fails_of_namesOneOf
  · exact (Entities.resolve_fails _ _ _).mono fun _ => exists_fails_of_namesOneOf
  · exact buildPosts_fails _ _ _ _ _
  · exact .ok _ _

-----------------------------------------------------------------------------------------
-- Every build
-----------------------------------------------------------------------------------------

/-- The failures of a build: that there are no sources, an error that names the path of a source,
and a fault that a source holds.
-/
inductive BuildFailure (sources : List SourceFile) : Failure → Prop
  | noSources (empty : sources = []) : BuildFailure sources (.content ⟨.noSources, none⟩)
  | content {source : SourceFile} {failure : Failure} (member : source ∈ sources)
      (names : failure.Names (some source.path))
      : BuildFailure sources failure
  | fault {source : SourceFile} {fault : Fault} (member : source ∈ sources)
      (held : source.Holds fault)
      : BuildFailure sources (.fault fault)

/-- The failures of a command: an error of the content, and a fault that a source in the directory
holds.
-/
inductive CommandFailure (files : FileTree) (directory : Path) : Failure → Prop
  | content {e : ContentError} : CommandFailure files directory (.content e)
  | fault {sources : List SourceFile} {source : SourceFile} {fault : Fault}
      (loads : SourceFile.loadAll files directory = .ok sources) (member : source ∈ sources)
      (held : source.Holds fault)
      : CommandFailure files directory (.fault fault)

variable {sources : List SourceFile}

/-- A source fails to be parsed as the build of its sources may fail. -/
theorem parse_failsOnly {source : SourceFile} (member : source ∈ sources)
    : FailsOnly (BuildFailure sources) source.parse := by
  refine source.parse_fails.mono ?_
  rintro failure (names | ⟨fault, rfl, held⟩)
  · exact .content member names
  · exact .fault member (.block held)

/-- A parsed source fails as the build of its sources may fail. -/
theorem buildFailure_of_parsed {source : SourceFile} {s : ParsedSource} {failure : Failure}
    (member : source ∈ sources) (parses : source.parse = .ok s) (fails : s.Fails failure)
    : BuildFailure sources failure := by
  cases fails with
  | content names => exact .content member (parse_path parses ▸ names)
  | fault held => exact .fault member (.parsed parses held)

/-- A build fails for want of sources, or as one of its sources does. -/
theorem build_failsOnly (settings : Settings) (builtAt : Moment) (sources : List SourceFile)
    : FailsOnly (BuildFailure sources) (build settings builtAt sources) := by
  have sorted := List.mergeSort_perm sources fun a b => decide (a.path ≤ b.path)
  refine .bind (.mapM fun source member => parse_failsOnly (sorted.mem_iff.mp member)) ?_
  intro parsed parses
  have results := (mapM_eq_ok_iff _ _ _).mp parses
  by_cases empty : parsed = []
  · subst empty
    have noneSorted : sources.mergeSort (fun a b => decide (a.path ≤ b.path)) = [] := by
      simpa using results
    exact .error (.noSources (List.nil_perm.mp (noneSorted ▸ sorted)))
  · refine (ofParsed_fails settings builtAt empty).mono ?_
    rintro failure ⟨s, member, fails⟩
    have inResults : Except.ok s ∈ List.map SourceFile.parse _ :=
      results ▸ List.mem_map_of_mem member
    obtain ⟨source, inSorted, parsesTo⟩ := List.mem_map.mp inResults
    exact buildFailure_of_parsed (sorted.mem_iff.mp inSorted) parsesTo fails

/-- A build fails for want of sources exactly on the empty list; any other failure is an error that
names the path of a source, or a fault that a source holds. A command fails with errors of the
content, and with such faults.
-/
theorem failures_of_build (settings : Settings) (builtAt : Moment)
    : build settings builtAt [] = .error (.content ⟨.noSources, none⟩)
      ∧ (∀ sources, FailsOnly (BuildFailure sources) (build settings builtAt sources))
      ∧ ∀ (command : Command) (files : FileTree) (base : Path),
          FailsOnly
            (CommandFailure files (contentDirectory settings base command.directory))
            (command.output settings builtAt files base) := by
  have empty : build settings builtAt [] = .error (.content ⟨.noSources, none⟩) := by
    rw [build, List.mergeSort_nil]
    rfl
  refine ⟨empty, build_failsOnly settings builtAt, ?_⟩
  intro command files base
  refine .bind (.bind (.mapError fun _ _ => .content) fun sources loaded => ?_) fun _ _ => .ok _ _
  have loads := (mapError_eq_ok_iff _ _ _).mp loaded
  refine (build_failsOnly settings builtAt sources).mono ?_
  intro failure fails
  cases fails with
  | noSources => exact .content
  | content _ names =>
      cases names
      exact .content
  | fault member held => exact .fault loads member held

/-- A source that is published on the thirtieth of February. -/
def impossibleDay : SourceFile where
  path := "a.md"
  contents :=
    "---\ntitle: T\nslug: s\npublished_at: 2026-02-30\nauthor: \x7bname: N, email: e\x7d\n"
      ++ "category: \x7bname: C, slug: c\x7d\nfeatured_image: \x7bfile_url: i\x7d\n---\nHi\n"

/-- A day that no month has is no error of the content: the build fails with a bare fault. -/
theorem build_impossibleDay
    : build {} someDay [impossibleDay] = .error (.fault (.scalar (.calendar .day))) := by
  have fails : impossibleDay.parse = .error (.fault (.scalar (.calendar .day))) := by
    decide +kernel
  refine build_of_unparsed (by simp) (List.mem_singleton_self _) fails ?_
  intro other member _ _
  exact le_of_eq (congrArg _ (List.mem_singleton.mp member).symm)

end Snapshot

end BlogSnapshot
