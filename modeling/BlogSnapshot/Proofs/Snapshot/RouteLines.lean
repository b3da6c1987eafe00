import BlogSnapshot.Proofs.Files.Loading
import BlogSnapshot.Command
import BlogSnapshot.Proofs.Snapshot.Routes

/-! The routes of a site as they are printed, one to a line. What is printed can be read back as the
routes exactly if no slug has a line feed; a slug that has one is printed as several lines.
-/

namespace BlogSnapshot

-----------------------------------------------------------------------------------------
-- Lines
-----------------------------------------------------------------------------------------

/-- The lines of a text: the pieces between its line feeds. A line feed at the end closes the last
line and opens no other.
-/
def Text.lines (s : List Char) : List (List Char) :=
  let pieces := s.splitOn '\n'
  if pieces.getLast? = some [] then pieces.dropLast else pieces

/-- The lines of what is printed. -/
def printedLines (text : String) : List String :=
  (Text.lines text.toList).map String.ofList

/-- No piece between separators has one, by induction on the text. -/
theorem Text.separator_not_mem_piece {p : Char → Bool} {s piece : List Char}
    (member : piece ∈ s.splitOnP p)
    : ∀ c ∈ piece, p c = false := by
  induction s generalizing piece with
  | nil =>
      have empty : piece = [] := by simpa using member
      simp [empty]
  | cons head rest ih =>
      obtain ⟨first, more, pieces⟩ := List.exists_cons_of_ne_nil (List.splitOnP_ne_nil p rest)
      rw [List.splitOnP_cons_eq_if_modifyHead] at member
      cases separates : p head with
      | true =>
          rw [if_pos separates] at member
          rcases List.mem_cons.mp member with rfl | later
          · exact fun c inPiece => absurd inPiece List.not_mem_nil
          · exact ih later
      | false =>
          rw [if_neg (by simp [separates]), pieces, List.modifyHead_cons] at member
          rcases List.mem_cons.mp member with rfl | later
          · intro c inPiece
            rcases List.mem_cons.mp inPiece with rfl | inFirst
            · exact separates
            · exact ih (by simp [pieces]) c inFirst
          · exact ih (by simp [pieces, later])

/-- No line has a line feed. -/
theorem Text.lineFeed_not_mem_line {s line : List Char} (member : line ∈ lines s)
    : '\n' ∉ line := by
  have piece : line ∈ s.splitOn '\n' := by
    simp only [lines] at member
    split at member
    · exact List.dropLast_subset _ member
    · exact member
  rw [List.splitOn_eq_splitOnP] at piece
  intro feed
  simpa using separator_not_mem_piece piece '\n' feed

/-- A line feed closes the lines before it. -/
theorem Text.lines_append_lineFeed (before after : List Char)
    : lines (before ++ '\n' :: after) = before.splitOn '\n' ++ lines after := by
  have pieces : (before ++ '\n' :: after).splitOn '\n'
      = before.splitOn '\n' ++ after.splitOn '\n' := by
    simp only [List.splitOn_eq_splitOnP]
    exact List.splitOnP_append_cons before after (by simp)
  have nonempty : after.splitOn '\n' ≠ [] := by
    rw [List.splitOn_eq_splitOnP]
    exact List.splitOnP_ne_nil _ after
  simp only [lines, pieces, List.getLast?_append_of_ne_nil _ nonempty,
    List.dropLast_append_of_ne_nil nonempty]
  split <;> rfl

/-- A text that is printed as a line ends in a line feed; nothing else is put in front of it than
the text, if this has no line feed.
-/
theorem exists_toList_lineText (s : String)
    : ∃ body, (lineText s).toList = body ++ ['\n'] ∧ ('\n' ∉ s.toList → body = s.toList) := by
  unfold lineText
  split
  · rename_i closed
    obtain ⟨body, eq⟩ := List.getLast?_eq_some_iff.mp closed
    exact ⟨body, eq, fun plain => absurd (by simp [eq]) plain⟩
  · exact ⟨s.toList, String.toList_append, fun _ => rfl⟩

/-- Texts that are printed as lines one after another give the lines of each of them, by induction
on the texts.
-/
theorem printedLines_join (texts : List String)
    : printedLines (String.join (texts.map lineText))
      = texts.flatMap fun t => printedLines (lineText t) := by
  induction texts with
  | nil => simp [printedLines, Text.lines, String.join]
  | cons t rest ih =>
      obtain ⟨body, printed, _⟩ := exists_toList_lineText t
      have first : printedLines (lineText t) = (body.splitOn '\n').map String.ofList := by
        rw [printedLines, printed, Text.lines_append_lineFeed]
        simp [Text.lines]
      rw [List.flatMap_cons, ← ih, first]
      simp only [printedLines, String.toList_join, List.map_cons, List.flatMap_cons, printed,
        List.append_assoc, List.singleton_append, Text.lines_append_lineFeed, List.map_append]

/-- A text without a line feed is printed as one line, which is the text itself. -/
theorem printedLines_lineText {s : String} (plain : '\n' ∉ s.toList)
    : printedLines (lineText s) = [s] := by
  obtain ⟨body, printed, own⟩ := exists_toList_lineText s
  rw [printedLines, printed, Text.lines_append_lineFeed, own plain,
    List.splitOn_eq_singleton plain]
  simp [Text.lines]

/-- Texts can be read back from what is printed exactly if none of them has a line feed. -/
theorem printedLines_join_eq_iff (texts : List String)
    : printedLines (String.join (texts.map lineText)) = texts ↔ ∀ t ∈ texts, '\n' ∉ t.toList := by
  constructor
  · intro readBack t member
    rw [← readBack] at member
    obtain ⟨line, inLines, rfl⟩ := List.mem_map.mp member
    rw [String.toList_ofList]
    exact Text.lineFeed_not_mem_line inLines
  · intro plain
    rw [printedLines_join]
    calc texts.flatMap (fun t => printedLines (lineText t))
        = texts.flatMap (fun t => [t]) :=
          List.flatMap_congr fun t member => printedLines_lineText (plain t member)
      _ = texts := List.flatMap_singleton' texts

-----------------------------------------------------------------------------------------
-- Routes without line feeds
-----------------------------------------------------------------------------------------

/-- None of the slugs that a source contributes has a line feed: that of its post as it is written,
and those of its category and its tags without the blanks around them.
-/
structure ParsedSource.UnbrokenSlugs (s : ParsedSource) : Prop where
  post : '\n' ∉ s.frontmatter.slug.toList
  category : '\n' ∉ s.frontmatter.category.slug.trimBlanks.toList
  tags : ∀ l ∈ s.frontmatter.tags, '\n' ∉ l.slug.trimBlanks.toList

namespace Snapshot

open ParsedSource

/-- The lines that are printed for a snapshot of sources: those of each route, which are the routes
themselves exactly if the sources contribute no slug with a line feed.
-/
structure RouteLines (sources : List SourceFile) (snapshot : Snapshot) (text : String) : Prop where
  lines : printedLines text = snapshot.routes.flatMap fun route => printedLines (lineText route)
  recovered
    : printedLines text = snapshot.routes
      ↔ ∀ source ∈ sources, ∀ s, source.parse = .ok s → s.UnbrokenSlugs

/-- The routes are the addresses of posts, categories and tags. -/
theorem forall_mem_routes (s : Snapshot) (P : String → Prop)
    : (∀ route ∈ s.routes, P route)
      ↔ (∀ p ∈ s.posts, P p.url) ∧ (∀ c ∈ s.categories, P c.url) ∧ ∀ t ∈ s.tags, P t.url := by
  simp only [routes, List.mem_mergeSort, List.mem_eraseDups, List.forall_mem_append,
    List.forall_mem_map, and_assoc]
  exact and_congr_right fun _ => and_comm

/-- The beginning of an address has no line feed, so that only its slug may have one. -/
theorem plain_append_iff {lead : String} (plain : '\n' ∉ lead.toList) (slug : String)
    : '\n' ∉ (lead ++ slug).toList ↔ '\n' ∉ slug.toList := by
  simp [plain]

/-- The routes have no line feed exactly if no slug has one. -/
theorem plainRoutes_iff_slugs (s : Snapshot)
    : (∀ route ∈ s.routes, '\n' ∉ route.toList)
      ↔ (∀ slug ∈ s.posts.map Post.slug, '\n' ∉ slug.toList)
        ∧ (∀ slug ∈ s.categories.map Category.slug, '\n' ∉ slug.toList)
        ∧ ∀ slug ∈ s.tags.map Tag.slug, '\n' ∉ slug.toList := by
  have post (p : Post) : '\n' ∉ p.url.toList ↔ '\n' ∉ p.slug.toList :=
    plain_append_iff (by decide) p.slug
  have category (c : Category) : '\n' ∉ c.url.toList ↔ '\n' ∉ c.slug.toList :=
    plain_append_iff (by decide) c.slug
  have tag (t : Tag) : '\n' ∉ t.url.toList ↔ '\n' ∉ t.slug.toList :=
    plain_append_iff (by decide) t.slug
  rw [forall_mem_routes]
  simp only [List.forall_mem_map, post, category, tag]

variable {settings : Settings} {builtAt : Moment} {sources : List SourceFile}
variable {ordered : List ParsedSource} {posts : List Post} {snapshot : Snapshot}

/-- The routes of an assembled snapshot have no line feed exactly if its sources contribute no slug
with one, for its slugs are those that the sources contribute.
-/
theorem Assembly.plainRoutes_iff
    (h : Assembly settings builtAt sources ordered posts snapshot)
    : (∀ route ∈ snapshot.routes, '\n' ∉ route.toList) ↔ ∀ s ∈ ordered, s.UnbrokenSlugs := by
  have categories (slug : String)
      : slug ∈ snapshot.categories.map Category.slug ↔ slug ∈ categorySlugs ordered := by
    rw [h.snapshot]
    exact mem_map_slug_categories settings builtAt ordered slug
  have tags (slug : String) : slug ∈ snapshot.tags.map Tag.slug ↔ slug ∈ tagSlugs ordered := by
    rw [h.snapshot]
    exact mem_map_slug_tags settings builtAt ordered slug
  rw [plainRoutes_iff_slugs]
  simp only [h.map_slug_perm.mem_iff, categories, tags]
  constructor
  · rintro ⟨ofPosts, ofCategories, ofTags⟩ s member
    exact {
      post := ofPosts _ (List.mem_map_of_mem member)
      category := ofCategories _ (List.mem_map_of_mem member)
      tags := fun l tagged =>
        ofTags _ (List.mem_flatMap.mpr ⟨s, member, List.mem_map_of_mem tagged⟩)
    }
  · intro unbroken
    refine ⟨?_, ?_, ?_⟩
    · exact List.forall_mem_map.mpr fun s member => (unbroken s member).post
    · exact List.forall_mem_map.mpr fun s member => (unbroken s member).category
    · intro slug inTags
      obtain ⟨s, member, named⟩ := List.mem_flatMap.mp inTags
      obtain ⟨l, tagged, rfl⟩ := List.mem_map.mp named
      exact (unbroken s member).tags l tagged

/-- The routes of an assembled snapshot are printed as they should exactly if its sources contribute
no slug with a line feed.
-/
theorem Assembly.routeLines (h : Assembly settings builtAt sources ordered posts snapshot)
    : RouteLines sources snapshot (snapshot.listing true) where
  lines := printedLines_join snapshot.routes
  recovered := by
    have printed : snapshot.listing true = String.join (snapshot.routes.map lineText) := rfl
    rw [printed, printedLines_join_eq_iff, h.plainRoutes_iff]
    constructor
    · intro unbroken source inSources s parses
      exact unbroken s ((h.inOrder.mem_iff s).mpr ⟨source, inSources, parses⟩)
    · intro unbroken s member
      obtain ⟨source, inSources, parses⟩ := (h.inOrder.mem_iff s).mp member
      exact unbroken source inSources s parses

/-- A command that lists the routes of files that can be loaded prints the lines of each route. They
are read back as the routes exactly if the sources contribute no slug with a line feed.
-/
theorem routeLines_of_load {command : Command} {files : FileTree} {base : Path}
    (lists : command.listsRoutes = true)
    (loaded : load settings builtAt files base command.directory = .ok snapshot)
    : ∃ sources text,
        SourceFile.loadAll files (contentDirectory settings base command.directory) = .ok sources
        ∧ command.output settings builtAt files base = .ok text
        ∧ RouteLines sources snapshot text := by
  obtain ⟨sources, read, built⟩ := (bind_eq_ok_iff _ _ _).mp loaded
  have found := (mapError_eq_ok_iff _ _ _).mp read
  obtain ⟨ordered, posts, h⟩ := build_eq_ok_iff.mp built
  have printed : command.output settings builtAt files base = .ok (snapshot.listing true) := by
    rw [Command.output, loaded, lists]
    rfl
  exact ⟨sources, _, found, printed, h.routeLines⟩

-----------------------------------------------------------------------------------------
-- Files
-----------------------------------------------------------------------------------------

/-- A directory at the root that holds the files of sources. -/
def filesOf (sources : List SourceFile) : FileTree :=
  .directory (sources.map fun s => (s.path, .file s.contents.toUTF8))

/-- Files with names of Markdown files are all found, by induction on them. -/
theorem markdownFilesOf_filesOf {sources : List SourceFile}
    (named : ∀ s ∈ sources, FileTree.isMarkdownName s.path = true)
    : FileTree.markdownFilesOf [] (sources.map fun s => (s.path, .file s.contents.toUTF8))
      = sources.map fun s => ([s.path], s.contents.toUTF8) := by
  induction sources with
  | nil => rfl
  | cons s rest ih =>
      have first : FileTree.isMarkdownName s.path = true := named s (by simp)
      have later := ih fun t member => named t (by simp [member])
      rw [List.map_cons, FileTree.markdownFilesOf, later, FileTree.markdownFiles]
      simp only [List.nil_append, List.getLast?_singleton, Option.any_some, first, if_true,
        List.singleton_append, List.map_cons]

/-- Sources with names of Markdown files are loaded from their files. -/
theorem loadAll_filesOf {sources : List SourceFile} (nonempty : sources ≠ [])
    (named : ∀ s ∈ sources, FileTree.isMarkdownName s.path = true)
    : SourceFile.loadAll (filesOf sources) ⟨true, []⟩ = .ok sources := by
  have read : (sources.map fun s => ([s.path], s.contents.toUTF8)).mapM
      (fun file => SourceFile.ofBytes (String.intercalate "/" file.1) file.2)
      = .ok sources := by
    rw [mapM_eq_ok_iff, List.map_map]
    apply List.map_congr_left
    intro s _
    exact SourceFile.ofBytes_toUTF8 s.path s.contents
  obtain ⟨s, rest, rfl⟩ := List.exists_cons_of_ne_nil nonempty
  simp only [SourceFile.loadAll, FileTree.at?, filesOf, FileTree.walk,
    markdownFilesOf_filesOf named]
  exact read

/-- The command that lists the routes of the files at the root. -/
def listAtRoot : Command where
  directory := some "."
  listsRoutes := true

/-- The root of the files. -/
def rootPath : Path := ⟨true, []⟩

/-- What is loaded from the files of sources at the root is the snapshot of the sources. -/
theorem load_filesOf (nonempty : sources ≠ [])
    (named : ∀ s ∈ sources, FileTree.isMarkdownName s.path = true)
    : load {} someDay (filesOf sources) rootPath listAtRoot.directory
      = build {} someDay sources := by
  have root : contentDirectory {} rootPath listAtRoot.directory = rootPath := by decide +kernel
  rw [load, root, rootPath, loadAll_filesOf nonempty named]
  rfl

/-- The routes of the files of the two sources are printed one to a line. -/
theorem routeLines_twoSources
    : ∃ snapshot,
        listAtRoot.listsRoutes = true
        ∧ load {} someDay (filesOf twoSources) rootPath listAtRoot.directory = .ok snapshot
        ∧ ∃ sources text,
            SourceFile.loadAll (filesOf twoSources)
                (contentDirectory {} rootPath listAtRoot.directory) = .ok sources
            ∧ listAtRoot.output {} someDay (filesOf twoSources) rootPath = .ok text
            ∧ RouteLines sources snapshot text := by
  obtain ⟨snapshot, built⟩ := exists_build_twoSources
  have loaded := (load_filesOf (by simp [twoSources]) (by decide)).trans built
  exact ⟨snapshot, rfl, loaded, routeLines_of_load rfl loaded⟩

/-- A source whose slug has a line feed, after which it goes on like the route of another post. -/
def brokenSlug : SourceFile :=
  ⟨"a.md", document "\"x\\n/posts/y\"" "e" "c" ""⟩

/-- What is read of the source. -/
def brokenSlugParsed : ParsedSource :=
  documentParsed "a.md" "x\n/posts/y" "e" "c" []

/-- The two routes of the source are printed as three lines, of which two are routes of nothing. -/
theorem routeLines_brokenSlug
    : ∃ snapshot text,
        load {} someDay (filesOf [brokenSlug]) rootPath listAtRoot.directory = .ok snapshot
        ∧ listAtRoot.output {} someDay (filesOf [brokenSlug]) rootPath = .ok text
        ∧ snapshot.routes = ["/categories/c", "/posts/x\n/posts/y"]
        ∧ printedLines text = ["/categories/c", "/posts/x", "/posts/y"] := by
  have parses : brokenSlug.parse = .ok brokenSlugParsed := by decide +kernel
  have consistent : Consistent {} [brokenSlugParsed] :=
    ⟨by decide +kernel, by decide +kernel, by decide +kernel⟩
  have assembled : ∃ posts snapshot,
      Assembly {} someDay [brokenSlug] [brokenSlugParsed] posts snapshot :=
    exists_assembly_singleton parses consistent (showable_documentParsed _ _ _ _ _)
  obtain ⟨posts, snapshot, h⟩ := assembled
  have built := build_eq_ok_iff.mpr ⟨_, _, h⟩
  have loaded := (load_filesOf (by simp) (by decide)).trans built
  have categories : snapshot.categories.map Category.url = ["/categories/c"] := by
    rw [h.snapshot]
    change (Resolution.categories {} someDay [brokenSlugParsed]).entities.map Category.url = _
    decide +kernel
  have tags : snapshot.tags.map Tag.url = [] := by
    rw [h.snapshot]
    change (Resolution.tags {} someDay [brokenSlugParsed]).entities.map Tag.url = _
    decide +kernel
  have ownPosts : posts.map Post.url = ["/posts/x\n/posts/y"] := by
    have slugs : posts.map Post.slug = ["x\n/posts/y"] := h.joined.map_slug
    have urls : posts.map Post.url = (posts.map Post.slug).map ("/posts/" ++ ·) := by
      rw [List.map_map]
      rfl
    rw [urls, slugs]
    rfl
  have routes : snapshot.routes = ["/categories/c", "/posts/x\n/posts/y"] := by
    rw [h.routes_eq, addresses, categories, ownPosts, tags]
    rfl
  have printed : listAtRoot.output {} someDay (filesOf [brokenSlug]) rootPath
      = .ok (snapshot.listing true) := by
    rw [Command.output, loaded]
    rfl
  have lines : printedLines (snapshot.listing true)
      = ["/categories/c", "/posts/x", "/posts/y"] := by
    rw [listing, if_pos rfl, routes]
    decide +kernel
  exact ⟨snapshot, _, loaded, printed, routes, lines⟩

end Snapshot

end BlogSnapshot
