import BlogSnapshot.Proofs.Post.Joined

/-! What becomes of the post of a source, whatever the tables are that it is joined with. The first
reference to something that is missing decides, then a body that cannot be rendered, then a URL that
is refused; otherwise there is the joined post.
-/

namespace BlogSnapshot.Post

/-- What the build of a post comes to: the first of the cases that applies. Tables need not be those
of a corpus, so any references may be missing; the first missing tag is that of the first label, in
the order of the frontmatter, whose trimmed slug the table does not have.
-/
inductive JoinOutcome (settings : Settings) (builtAt : Moment) (tables : Tables) (id : Int)
    (s : ParsedSource)
    : Except Failure Post → Prop
  | unknownAuthor (missing : tables.authors (authorKey s.frontmatter.author.email) = none)
      : JoinOutcome settings builtAt tables id s
          (.error
            (.content ⟨.unresolvedAuthor (authorKey s.frontmatter.author.email), some s.path⟩))
  | unknownCategory
      (author : (tables.authors (authorKey s.frontmatter.author.email)).isSome)
      (missing : tables.categories s.frontmatter.category.slug.trimBlanks = none)
      : JoinOutcome settings builtAt tables id s
          (.error (.content ⟨.unknownCategory s.frontmatter.category.slug, some s.path⟩))
  | unknownTag {before after : List FrontmatterLabel} {l : FrontmatterLabel}
      (author : (tables.authors (authorKey s.frontmatter.author.email)).isSome)
      (category : (tables.categories s.frontmatter.category.slug.trimBlanks).isSome)
      (labels : s.frontmatter.tags = before ++ l :: after)
      (known : ∀ m ∈ before, (tables.tags m.slug.trimBlanks).isSome)
      (missing : tables.tags l.slug.trimBlanks = none)
      : JoinOutcome settings builtAt tables id s
          (.error (.content ⟨.unknownTag l.slug, some s.path⟩))
  | unrenderable {fault : Markdown.RenderFault} (covers : tables.Covers s.frontmatter)
      (fails : Markdown.render s.body = .error fault)
      : JoinOutcome settings builtAt tables id s (.error (.fault (.render fault)))
  | refusedImage {fault : UrlFault} {html : String} (covers : tables.Covers s.frontmatter)
      (renders : Markdown.render s.body = .ok html)
      (refused
        : Url.split s.frontmatter.featuredImage.fileUrl.trimBlanks.toList = .error fault)
      : JoinOutcome settings builtAt tables id s (.error (.fault (.url fault)))
  | built {parts : Url.Parts} {html : String} {p : Post} (covers : tables.Covers s.frontmatter)
      (renders : Markdown.render s.body = .ok html)
      (accepted : Url.split s.frontmatter.featuredImage.fileUrl.trimBlanks.toList = .ok parts)
      (joined : Joined settings builtAt tables id s.frontmatter s.body p)
      : JoinOutcome settings builtAt tables id s (.ok p)

variable {settings : Settings} {builtAt : Moment} {tables : Tables} {id : Int}
variable {s : ParsedSource}

/-- The first label whose tag is missing decides, by induction on the labels before it. -/
theorem tagsOf_eq_error {before after : List FrontmatterLabel} {l : FrontmatterLabel}
    (known : ∀ m ∈ before, (tables.tag? m.slug).isSome) (missing : tables.tag? l.slug = none)
    (path : String)
    : tagsOf tables path (before ++ l :: after) = .error ⟨.unknownTag l.slug, some path⟩ := by
  induction before with
  | nil => simp only [List.nil_append, tagsOf, missing]
  | cons m rest ih =>
      obtain ⟨g, found⟩ := Option.isSome_iff_exists.mp (known m (by simp))
      have later := ih fun n member => known n (List.mem_cons_of_mem m member)
      simp only [List.cons_append, tagsOf, found, later]
      rfl

/-- Every case is what the build of the post comes to. -/
theorem JoinOutcome.build_eq {r : Except Failure Post}
    (h : JoinOutcome settings builtAt tables id s r)
    : build settings builtAt tables id s = r := by
  cases h with
  | unknownAuthor missing =>
      have author : tables.author? s.frontmatter.author.email = none := missing
      simp only [build, author]
  | unknownCategory author missing =>
      obtain ⟨a, author⟩ := Option.isSome_iff_exists.mp author
      have author : tables.author? s.frontmatter.author.email = some a := author
      have category : tables.category? s.frontmatter.category.slug = none := missing
      simp only [build, author, category]
  | unknownTag author category labels known missing =>
      obtain ⟨a, author⟩ := Option.isSome_iff_exists.mp author
      obtain ⟨c, category⟩ := Option.isSome_iff_exists.mp category
      have author : tables.author? s.frontmatter.author.email = some a := author
      have category : tables.category? s.frontmatter.category.slug = some c := category
      simp only [build, author, category, labels, tagsOf_eq_error known missing s.path]
      rfl
  | unrenderable covers fails => exact covers.build_of_unrenderable fails
  | refusedImage covers renders refused => exact covers.build_of_refused renders refused
  | built _ _ _ joined => exact (build_eq_ok_iff s _).mpr joined

/-- One of the cases applies, by going through them in their order. -/
theorem exists_joinOutcome (settings : Settings) (builtAt : Moment) (tables : Tables) (id : Int)
    (s : ParsedSource)
    : ∃ r, JoinOutcome settings builtAt tables id s r := by
  cases author : tables.authors (authorKey s.frontmatter.author.email) with
  | none => exact ⟨_, .unknownAuthor author⟩
  | some a =>
  cases category : tables.categories s.frontmatter.category.slug.trimBlanks with
  | none => exact ⟨_, .unknownCategory (by simp [author]) category⟩
  | some c =>
  rcases forall_or_first (fun l => (tables.tag? l.slug).isSome) s.frontmatter.tags
    with known | ⟨before, l, after, labels, known, missing⟩
  case inr =>
    exact ⟨_, .unknownTag (by simp [author]) (by simp [category]) labels known
      (Option.not_isSome_iff_eq_none.mp missing)⟩
  have covers : tables.Covers s.frontmatter :=
    ⟨by simp [Tables.author?, author], by simp [Tables.category?, category], known⟩
  cases renders : Markdown.render s.body with
  | error fault => exact ⟨_, .unrenderable covers renders⟩
  | ok html =>
      cases accepted : Url.split s.frontmatter.featuredImage.fileUrl.trimBlanks.toList with
      | error fault => exact ⟨_, .refusedImage covers renders accepted⟩
      | ok parts =>
          have posted : ∃ p, build settings builtAt tables id s = .ok p :=
            covers.build_of_accepted renders accepted
          obtain ⟨p, posted⟩ := posted
          exact ⟨_, .built covers renders accepted ((build_eq_ok_iff s p).mp posted)⟩

/-- For any tables, which need not come of one corpus, the build of a post comes to the first case
that applies. The cases are those of `JoinOutcome`.
-/
theorem build_eq_iff_joinOutcome (settings : Settings) (builtAt : Moment) (tables : Tables)
    (id : Int) (s : ParsedSource) (r : Except Failure Post)
    : build settings builtAt tables id s = r ↔ JoinOutcome settings builtAt tables id s r := by
  constructor
  · rintro rfl
    obtain ⟨r, outcome⟩ := exists_joinOutcome settings builtAt tables id s
    rw [outcome.build_eq]
    exact outcome
  · exact fun outcome => outcome.build_eq

-----------------------------------------------------------------------------------------
-- A body that cannot be rendered
-----------------------------------------------------------------------------------------

/-- A source with a plain image whose body cannot be rendered, as a flag of its block of code has no
text.
-/
def flagged : ParsedSource where
  path := "a.md"
  frontmatter := {
    title := "T"
    slug := "s"
    publishedAt := ⟨.epoch, .midnight, some .utc⟩
    author := ⟨"N", "e"⟩
    category := ⟨"C", "c", none⟩
    featuredImage := ⟨"i", none, none⟩
  }
  body := "``` \x7b linenums=yes \x7d\n```\n"

/-- Tables with the same author under every key and the same category under every slug. -/
def sameForAll : Tables where
  authors _ := some ⟨1, "N", "e"⟩
  categories _ := some ⟨1, "C", "c", none, none, none, none, true, none, none, none, none⟩
  tags _ := none

/-- An accepted URL does not suffice for a post where nothing is missing: its body has to be
rendered as well.
-/
theorem accepted_url_not_sufficient
    : ¬ ∀ (settings : Settings) (builtAt : Moment) (tables : Tables) (id : Int)
          (s : ParsedSource) (parts : Url.Parts),
          tables.Covers s.frontmatter
          → Url.split s.frontmatter.featuredImage.fileUrl.trimBlanks.toList = .ok parts
          → ∃ p, build settings builtAt tables id s = .ok p := by
  intro sufficient
  have covers : sameForAll.Covers flagged.frontmatter := ⟨rfl, rfl, by simp [flagged]⟩
  have unrenderable : Markdown.render flagged.body = .error (.flag (some true)) := by
    decide +kernel
  have accepted : ∃ parts,
      Url.split flagged.frontmatter.featuredImage.fileUrl.trimBlanks.toList = .ok parts :=
    exists_result (by decide +kernel)
  obtain ⟨parts, accepted⟩ := accepted
  obtain ⟨p, posted⟩ := sufficient {} flagged.frontmatter.publishedAt sameForAll 1 flagged parts
    covers accepted
  rw [covers.build_of_unrenderable unrenderable] at posted
  cases posted

end BlogSnapshot.Post
