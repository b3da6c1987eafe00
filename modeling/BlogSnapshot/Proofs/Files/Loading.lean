import BlogSnapshot.Proofs.Files.Tree
import BlogSnapshot.Proofs.Snapshot.Listing
import BlogSnapshot.Site

/-! Loading a directory of files. Each Markdown file below it is read as one source, whatever the
order of the visit, and since sources are built in order of their paths, which are all different,
nothing but these files has an influence on a snapshot.
-/

namespace BlogSnapshot

open FileTree

-----------------------------------------------------------------------------------------
-- Paths
-----------------------------------------------------------------------------------------

/-- Names without slashes can be told from the path that they are joined to. -/
theorem intercalate_slash_inj {names others : List String} (nonempty : names ≠ [])
    (othersNonempty : others ≠ []) (noSlash : ∀ name ∈ names, '/' ∉ name.toList)
    (othersNoSlash : ∀ name ∈ others, '/' ∉ name.toList)
    (same : String.intercalate "/" names = String.intercalate "/" others)
    : names = others := by
  have split {names : List String} (nonempty : names ≠ [])
      (noSlash : ∀ name ∈ names, '/' ∉ name.toList)
      : (String.intercalate "/" names).toList.splitOn '/' = names.map String.toList := by
    rw [String.toList_intercalate]
    exact List.splitOn_intercalate '/' (by simpa using noSlash) (by simpa using nonempty)
  have texts : names.map String.toList = others.map String.toList := by
    rw [← split nonempty noSlash, ← split othersNonempty othersNoSlash, same]
  exact List.map_injective_iff.mpr (fun _ _ => String.toList_inj.mp) texts

/-- The files that a visit comes by have different paths. -/
theorem FileTree.Visits.nodup_paths {entries : List (String × FileTree)}
    {files : List (List String × ByteArray)} (visits : Visits (.directory entries) files)
    (named : WellNamed (.directory entries))
    : (files.map fun file => String.intercalate "/" file.1).Nodup := by
  have below (file : List String × ByteArray) (member : file ∈ files)
      : file.1 ≠ [] ∧ ∀ name ∈ file.1, '/' ∉ name.toList := by
    obtain ⟨has, -⟩ := (visits.found file.1 file.2).mp member
    exact ⟨has.ne_nil, has.noSlash named⟩
  have paths := visits.once.map_on (f := String.intercalate "/") ?_
  · rwa [List.map_map] at paths
  · intro names member others otherMember same
    obtain ⟨file, inFiles, rfl⟩ := List.mem_map.mp member
    obtain ⟨other, otherInFiles, rfl⟩ := List.mem_map.mp otherMember
    exact intercalate_slash_inj (below _ inFiles).1 (below _ otherInFiles).1 (below _ inFiles).2
      (below _ otherInFiles).2 same

-----------------------------------------------------------------------------------------
-- Files as sources
-----------------------------------------------------------------------------------------

/-- Every Markdown file of a tree holds text. -/
def FileTree.AllText (t : FileTree) : Prop :=
  ∀ names bytes, t.HasMarkdown names bytes → bytes.IsValidUTF8

namespace SourceFile

/-- The files that a visit comes by, read as sources. -/
def ofVisit (root : Path)
    : List (List String × ByteArray) → Except ContentError (List SourceFile)
  | [] => .error { cause := .noFiles root.text }
  | files => files.mapM fun (names, bytes) => ofBytes (String.intercalate "/" names) bytes

/-- A source has the path and the bytes of a file. -/
def IsOf (file : List String × ByteArray) (s : SourceFile) : Prop :=
  s.path = String.intercalate "/" file.1 ∧ s.contents.toUTF8 = file.2

/-- What comes of the files of a tree that a visit comes by. -/
structure ReadsVisit (root : Path) (corpus : FileTree) (files : List (List String × ByteArray))
    (loaded : Except ContentError (List SourceFile)) : Prop where
  noFiles : (∀ names bytes, ¬ corpus.HasMarkdown names bytes) →
    loaded = .error { cause := .noFiles root.text }
  notUtf8 : ¬ corpus.AllText → ∃ names bytes,
    corpus.HasMarkdown names bytes
    ∧ ¬ bytes.IsValidUTF8
    ∧ loaded = .error ⟨.notUtf8, some (String.intercalate "/" names)⟩
  sources : (∃ names bytes, corpus.HasMarkdown names bytes) → corpus.AllText →
    ∃ sources,
      loaded = .ok sources
      ∧ List.Forall₂ IsOf files sources
      ∧ (sources.map (·.path)).Nodup

/-- The bytes of a text are read as the text. -/
theorem ofBytes_toUTF8 (path contents : String)
    : ofBytes path contents.toUTF8 = .ok ⟨path, contents⟩ := by
  have valid : contents.toUTF8.IsValidUTF8 := contents.isValidUTF8
  rw [ofBytes, String.fromUTF8?, dif_pos valid]
  rfl

/-- Valid bytes are read as the text that they encode. -/
theorem ofBytes_of_valid (path : String) {bytes : ByteArray} (valid : bytes.IsValidUTF8)
    : ofBytes path bytes = .ok ⟨path, ⟨bytes, valid⟩⟩ :=
  ofBytes_toUTF8 path ⟨bytes, valid⟩

theorem ofBytes_of_not_valid (path : String) {bytes : ByteArray} (invalid : ¬ bytes.IsValidUTF8)
    : ofBytes path bytes = .error ⟨.notUtf8, some path⟩ := by
  rw [ofBytes, String.fromUTF8?, dif_neg invalid]

variable {root : Path} {files others : List (List String × ByteArray)}

theorem ofVisit_of_ne_nil (nonempty : files ≠ [])
    : ofVisit root files
      = files.mapM fun file => ofBytes (String.intercalate "/" file.1) file.2 := by
  cases files with
  | nil => exact absurd rfl nonempty
  | cons file rest => rfl

/-- Files that all hold text are read as one source each. -/
theorem exists_sources (root : Path) (nonempty : files ≠ []) (text : ∀ file ∈ files, file.2.IsValidUTF8)
    : ∃ sources, ofVisit root files = .ok sources ∧ List.Forall₂ IsOf files sources := by
  rw [ofVisit_of_ne_nil nonempty]
  clear nonempty
  induction files with
  | nil => exact ⟨[], rfl, .nil⟩
  | cons file rest ih =>
      obtain ⟨first, later⟩ := List.forall_mem_cons.mp text
      obtain ⟨sources, others, paired⟩ := ih later
      refine ⟨⟨String.intercalate "/" file.1, ⟨file.2, first⟩⟩ :: sources, ?_,
        .cons ⟨rfl, rfl⟩ paired⟩
      rw [List.mapM_cons, ofBytes_of_valid _ first, others]
      rfl

/-- The first file that does not hold text decides the failure. -/
theorem ofVisit_of_not_text (root : Path) {file : List String × ByteArray}
    (member : file ∈ files) (invalid : ¬ file.2.IsValidUTF8)
    : ∃ first ∈ files,
        ¬ first.2.IsValidUTF8
        ∧ ofVisit root files
          = .error ⟨.notUtf8, some (String.intercalate "/" first.1)⟩ := by
  rw [ofVisit_of_ne_nil (List.ne_nil_of_mem member)]
  rcases forall_or_first (fun file => file.2.IsValidUTF8) files
    with text | ⟨before, first, after, rfl, text, notText⟩
  · exact absurd (text file member) invalid
  · refine ⟨first, by simp, notText, mapM_eq_error ?_ (ofBytes_of_not_valid _ notText)⟩
    exact fun earlier inBefore => ⟨_, ofBytes_of_valid _ (text earlier inBefore)⟩

/-- Sources have the paths of their files. -/
theorem map_path_of_isOf {sources : List SourceFile} (paired : List.Forall₂ IsOf files sources)
    : sources.map (·.path) = files.map fun file => String.intercalate "/" file.1 :=
  map_eq_map_of_forall₂ (paired.imp fun _ _ isOf => isOf.1)

/-- The files below a root are read as the sources that they hold. -/
theorem readsVisit (root : Path) {entries : List (String × FileTree)}
    (named : WellNamed (.directory entries)) (visits : Visits (.directory entries) files)
    : ReadsVisit root (.directory entries) files (ofVisit root files) where
  noFiles none := by
    have empty : files = [] := by
      apply List.eq_nil_iff_forall_not_mem.mpr
      intro ⟨names, bytes⟩ member
      exact none names bytes ((visits.found names bytes).mp member)
    rw [empty]
    rfl
  notUtf8 notText := by
    simp only [AllText, not_forall] at notText
    obtain ⟨names, bytes, has, invalid⟩ := notText
    obtain ⟨first, member, notText, fails⟩ :=
      ofVisit_of_not_text root ((visits.found names bytes).mpr has) invalid
    exact ⟨first.1, first.2, (visits.found _ _).mp member, notText, fails⟩
  sources some text := by
    obtain ⟨names, bytes, has⟩ := some
    have nonempty := List.ne_nil_of_mem ((visits.found names bytes).mpr has)
    obtain ⟨sources, read, paired⟩ := exists_sources root nonempty fun file member =>
      text file.1 file.2 ((visits.found file.1 file.2).mp member)
    refine ⟨sources, read, paired, ?_⟩
    rw [map_path_of_isOf paired]
    exact visits.nodup_paths named

/-- Files that are read can be read in another order, and are the same sources. -/
theorem ofVisit_perm {sources : List SourceFile} (perm : files.Perm others)
    (read : ofVisit root files = .ok sources)
    : ∃ own, ofVisit root others = .ok own ∧ own.Perm sources := by
  have nonempty : files ≠ [] := by
    rintro rfl
    cases read
  have othersNonempty : others ≠ [] := fun empty => nonempty (List.perm_nil.mp (empty ▸ perm))
  rw [ofVisit_of_ne_nil nonempty, mapM_eq_ok_iff] at read
  rw [ofVisit_of_ne_nil othersNonempty]
  obtain ⟨own, results, same⟩ := exists_results_of_perm ((perm.symm.map _).trans (.of_eq read))
  exact ⟨own, (mapM_eq_ok_iff _ _ _).mpr results, same⟩

end SourceFile

-----------------------------------------------------------------------------------------
-- Snapshots of files
-----------------------------------------------------------------------------------------

namespace Snapshot

variable {settings : Settings} {builtAt : Moment} {root : Path}

/-- Sources with different paths are built alike in any order. -/
theorem build_eq_of_perm {sources others : List SourceFile}
    (distinct : (sources.map (·.path)).Nodup) (perm : others.Perm sources)
    : build settings builtAt others = build settings builtAt sources := by
  have sorted := (compares_path.ascending distinct).mergeSort_eq compares_path
    (perm.trans (List.mergeSort_perm sources _).symm)
  rw [build, sorted, build]

/-- The snapshot of the files that a visit comes by. -/
def ofVisit (settings : Settings) (builtAt : Moment) (root : Path)
    (files : List (List String × ByteArray)) : Except Failure Snapshot :=
  (SourceFile.ofVisit root files).mapError .content >>= build settings builtAt

/-- A snapshot is loaded from the files of a visit where its directory is. -/
theorem load_eq_ofVisit {t : FileTree} {base : Path} {given : Option String}
    {files : List (List String × ByteArray)} (isRoot : contentDirectory settings base given = root)
    (loads : SourceFile.loadAll t root = SourceFile.ofVisit root files)
    : load settings builtAt t base given = ofVisit settings builtAt root files := by
  rw [load, isRoot, loads]
  rfl

/-- Visits of trees with the same Markdown files, which all hold text, give the same snapshot. -/
theorem ofVisit_eq_of_same {entries entries' : List (String × FileTree)}
    {files files' : List (List String × ByteArray)}
    (named : WellNamed (.directory entries)) (text : AllText (.directory entries))
    (visits : Visits (.directory entries) files) (visits' : Visits (.directory entries') files')
    (same : SameMarkdown (.directory entries) (.directory entries'))
    : ofVisit settings builtAt root files' = ofVisit settings builtAt root files := by
  have perm := visits.perm visits' same
  cases files with
  | nil => rw [List.nil_perm.mp perm]
  | cons file rest =>
      have has := (visits.found file.1 file.2).mp List.mem_cons_self
      obtain ⟨sources, read, _, distinct⟩ :=
        (SourceFile.readsVisit root named visits).sources ⟨_, _, has⟩ text
      obtain ⟨own, read', ownPerm⟩ := SourceFile.ofVisit_perm perm read
      rw [ofVisit, ofVisit, read, read']
      exact build_eq_of_perm distinct ownPerm

end Snapshot

/-- A directory of files that stands at a path of a tree. -/
def FileTree.HasCorpus (t : FileTree) (root : Path) (corpus : FileTree) : Prop :=
  t.at? root = .ok corpus ∧ corpus.isDirectory = true

/-- What is loaded from the directory at a path of a tree. -/
structure LoadingLaw (t : FileTree) (root : Path) : Prop where
  noDirectory : (∀ corpus, ¬ t.HasCorpus root corpus) →
    SourceFile.loadAll t root = .error { cause := .noDirectory root.text }
  loads : ∀ corpus, t.HasCorpus root corpus → ∃ files,
    Visits corpus files ∧ SourceFile.loadAll t root = SourceFile.ofVisit root files
  reads : ∀ corpus files, t.HasCorpus root corpus → Visits corpus files →
    SourceFile.ReadsVisit root corpus files (SourceFile.ofVisit root files)
  snapshot : ∀ settings builtAt base given corpus,
    contentDirectory settings base given = root → t.HasCorpus root corpus → corpus.AllText →
    (∀ files, Visits corpus files →
      Snapshot.ofVisit settings builtAt root files = Snapshot.load settings builtAt t base given)
    ∧ ∀ t' corpus', t'.WellNamed → t'.HasCorpus root corpus' → corpus.SameMarkdown corpus' →
      Snapshot.load settings builtAt t' base given = Snapshot.load settings builtAt t base given

section

variable {t corpus : FileTree} {root : Path}

/-- A corpus is a directory, and loading it is a visit of it. -/
theorem FileTree.HasCorpus.exists_visit (has : t.HasCorpus root corpus) (named : t.WellNamed)
    : ∃ entries,
        corpus = .directory entries
        ∧ corpus.WellNamed
        ∧ ∃ files, Visits corpus files
            ∧ SourceFile.loadAll t root = SourceFile.ofVisit root files := by
  obtain ⟨reached, isDirectory⟩ := has
  have namedCorpus : corpus.WellNamed := named.of_walk (List.forall_mem_nil _) reached
  cases corpus with
  | file => cases isDirectory
  | directory entries =>
      refine ⟨entries, rfl, namedCorpus, _, visits_markdownFilesOf namedCorpus, ?_⟩
      simp only [SourceFile.loadAll, reached]
      cases markdownFilesOf [] entries <;> rfl

/-- The Markdown files of a well-named tree that lie below a directory are read as one source each,
with their own paths, or the directory is refused. Where they all hold text, a snapshot of them
depends neither on the order in which they are visited nor on any other file.
-/
theorem loadingLaw (named : t.WellNamed) (root : Path) : LoadingLaw t root where
  noDirectory none := by
    rw [SourceFile.loadAll]
    cases reached : t.at? root with
    | error fault => rfl
    | ok corpus =>
        cases corpus with
        | file bytes => rfl
        | directory entries => exact absurd ⟨reached, rfl⟩ (none (.directory entries))
  loads corpus has := by
    obtain ⟨_, _, _, files, visits, loads⟩ := has.exists_visit named
    exact ⟨files, visits, loads⟩
  reads corpus files has visits := by
    obtain ⟨entries, rfl, namedCorpus, _⟩ := has.exists_visit named
    exact SourceFile.readsVisit root namedCorpus visits
  snapshot settings builtAt base given corpus isRoot has text := by
    obtain ⟨entries, rfl, namedCorpus, found, foundVisits, loads⟩ := has.exists_visit named
    rw [Snapshot.load_eq_ofVisit isRoot loads]
    constructor
    · intro files visits
      exact Snapshot.ofVisit_eq_of_same namedCorpus text foundVisits visits fun _ _ => .rfl
    · intro t' corpus' named' has' same
      obtain ⟨entries', rfl, _, found', foundVisits', loads'⟩ := has'.exists_visit named'
      rw [Snapshot.load_eq_ofVisit isRoot loads']
      exact Snapshot.ofVisit_eq_of_same namedCorpus text foundVisits foundVisits' same

end

/-- The entries of a directory with two Markdown files, one of them below a directory with the
suffix, and with a note and files that are no text, whose names are almost those of Markdown files.
-/
def mixedEntries (note : String) : List (String × FileTree) :=
  [
    ("notes.txt", .file note.toUTF8),
    ("README.MD", .file ⟨#[0xff]⟩),
    ("posts.md", .directory [(".md", .file ⟨#[0xff]⟩), ("..md", .file "first".toUTF8)]),
    ("b.md", .file "second".toUTF8)
  ]

theorem wellNamed_mixedEntries (note : String) : WellNamed (.directory (mixedEntries note)) := by
  refine .directory (by simp [mixedEntries]) (by simp [mixedEntries]) ?_
  simp only [mixedEntries, List.forall_mem_cons, List.not_mem_nil, false_imp_iff, implies_true,
    and_true]
  refine ⟨.file _, .file _, .directory (by simp) (by simp) ?_, .file _⟩
  simp only [List.forall_mem_cons, List.not_mem_nil, false_imp_iff, implies_true, and_true]
  exact ⟨.file _, .file _⟩

/-- The Markdown files of the directory hold text. -/
theorem allText_mixedEntries (note : String) : AllText (.directory (mixedEntries note)) := by
  intro names bytes has
  have files : markdownFilesOf [] (mixedEntries note)
      = [(["posts.md", "..md"], "first".toUTF8), (["b.md"], "second".toUTF8)] := by
    rfl
  have found := (visits_markdownFilesOf (wellNamed_mixedEntries note)).found names bytes
  rw [← found, files, List.mem_pair, Prod.mk.injEq, Prod.mk.injEq] at has
  rcases has with ⟨_, rfl⟩ | ⟨_, rfl⟩
  · exact "first".isValidUTF8
  · exact "second".isValidUTF8

/-- The note of the directory can be written anew. -/
theorem sameMarkdown_mixedEntries (note again : String)
    : SameMarkdown (.directory (mixedEntries again)) (.directory (mixedEntries note)) := by
  have written : FileTree.write (.directory (mixedEntries note)) ⟨true, ["notes.txt"]⟩ again.toUTF8
      = .directory (mixedEntries again) := by
    rfl
  rw [← written]
  refine sameMarkdown_write (wellNamed_mixedEntries note) ?free ?notMarkdown
  case free =>
    intro later bytes has
    obtain ⟨child, entry, inNote⟩ := hasFile_cons_iff.mp has
    have isFile : child = .file note.toUTF8 := by simpa [mixedEntries] using entry
    rw [isFile] at inNote
    exact (hasFile_file_iff.mp inNote).1
  case notMarkdown =>
    intro dirs name same
    have last := congrArg List.getLast? same
    rw [List.getLast?_concat] at last
    rw [← Option.some.inj last, ← isMarkdownName_iff]
    decide

/-- The two files of the directory are loaded, and the note has no influence on their snapshot. -/
theorem loadingLaw_mixedEntries
    : WellNamed (.directory (mixedEntries "draft"))
      ∧ SourceFile.loadAll (.directory (mixedEntries "draft")) ⟨true, []⟩
        = .ok [⟨"posts.md/..md", "first"⟩, ⟨"b.md", "second"⟩]
      ∧ LoadingLaw (.directory (mixedEntries "draft")) ⟨true, []⟩
      ∧ Snapshot.load {} Snapshot.someDay (.directory (mixedEntries "done")) ⟨true, []⟩ (some ".")
        = Snapshot.load {} Snapshot.someDay (.directory (mixedEntries "draft")) ⟨true, []⟩
            (some ".") := by
  have law := loadingLaw (wellNamed_mixedEntries "draft") ⟨true, []⟩
  have corpus (note : String)
      : HasCorpus (.directory (mixedEntries note)) ⟨true, []⟩ (.directory (mixedEntries note)) :=
    ⟨rfl, rfl⟩
  have isRoot : contentDirectory {} ⟨true, []⟩ (some ".") = ⟨true, []⟩ := by decide +kernel
  have ⟨_, unchanged⟩ := law.snapshot {} Snapshot.someDay _ _ _ isRoot (corpus "draft")
    (allText_mixedEntries "draft")
  refine ⟨wellNamed_mixedEntries "draft", by decide +kernel, law, ?_⟩
  exact unchanged _ _ (wellNamed_mixedEntries "done") (corpus "done")
    (sameMarkdown_mixedEntries "done" "draft")

end BlogSnapshot
