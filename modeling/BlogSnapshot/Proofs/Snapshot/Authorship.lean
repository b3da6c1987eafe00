import BlogSnapshot.Proofs.Snapshot.Numbering

/-! The authors that posts embed. There is one author for each key of an email, with the name that
all sources of the key declare; a post has the id of its author, but keeps the spelling of its own
source, so the records of two posts of one author may differ in blanks and in the case of letters.
-/

namespace BlogSnapshot

/-- A post shows an author as a frontmatter spells it: its record has the id of the author, whose
name is the spelled one without blanks around it, and whose email is the key of the spelled one.
-/
structure Post.ShowsAuthor (p : Post) (a : Author) (spelled : FrontmatterAuthor) : Prop where
  record : p.author = ⟨a.id, spelled.name, spelled.email, none⟩
  name : a.name = spelled.name.trimBlanks
  email : a.email = authorKey spelled.email

namespace Snapshot

/-- The authors of a snapshot: each has its own key and its own id, and every post shows the one of
its source. Posts show one author exactly if the keys of their emails are equal, and then their
names differ in blanks at most. Their records are equal only if both spell name and email alike.
-/
structure Authorship (sources : List SourceFile) (snapshot : Snapshot) (authors : List Author)
    : Prop where
  keys : (authors.map Author.email).Nodup
  ids : (authors.map Author.id).Nodup
  shown
    : ∀ p ∈ snapshot.posts,
        ∃ source ∈ sources,
          ∃ s, source.parse = .ok s
            ∧ p.slug = s.frontmatter.slug
            ∧ ∃ a ∈ authors, p.ShowsAuthor a s.frontmatter.author
  sameId
    : ∀ p ∈ snapshot.posts, ∀ q ∈ snapshot.posts,
        p.author.id = q.author.id ↔ authorKey p.author.email = authorKey q.author.email
  sameName
    : ∀ p ∈ snapshot.posts, ∀ q ∈ snapshot.posts,
        p.author.id = q.author.id → p.author.name.trimBlanks = q.author.name.trimBlanks
  sameRecord
    : ∀ p ∈ snapshot.posts, ∀ q ∈ snapshot.posts,
        p.author = q.author
          ↔ p.author.name = q.author.name ∧ p.author.email = q.author.email

variable {settings : Settings} {builtAt : Moment} {sources : List SourceFile}
variable {ordered : List ParsedSource} {posts : List Post} {snapshot : Snapshot}

-----------------------------------------------------------------------------------------
-- The authors of a corpus
-----------------------------------------------------------------------------------------

/-- No two authors of a corpus have the same key. -/
theorem nodup_authorEmails (ordered : List ParsedSource)
    : ((Resolution.authors ordered).entities.map Author.email).Nodup :=
  (Declaration.resolve_entities_ascending _ _ _ fun _ _ _ => rfl).nodup

/-- No two authors of a corpus have the same id. -/
theorem nodup_authorIds (ordered : List ParsedSource)
    : ((Resolution.authors ordered).entities.map Author.id).Nodup := by
  have ids : (Resolution.authors ordered).entities.map Author.id
      = idsUpTo (Resolution.authors ordered).entities.length :=
    Declaration.map_id_resolve_entities _ _ _ fun _ _ _ => rfl
  exact (ascending_of_idsUpTo ids).nodup

section

variable (h : Assembly settings builtAt sources ordered posts snapshot)
include h

-----------------------------------------------------------------------------------------
-- The author of a post
-----------------------------------------------------------------------------------------

/-- The post of a source shows the author of the source. Witness: declarations of one key agree, so
the author has the name that the source itself declares.
-/
theorem Assembly.showsAuthor {s : ParsedSource} {n : Int} {p : Post} (member : s ∈ ordered)
    (post
      : Post.Joined settings builtAt (.ofCorpus settings builtAt ordered) n s.frontmatter s.body p)
    : ∃ a ∈ (Resolution.authors ordered).entities, p.ShowsAuthor a s.frontmatter.author := by
  obtain ⟨a, found, record⟩ := post.author
  have listed : a ∈ (Resolution.authors ordered).entities := List.mem_of_find?_eq_some found
  rw [h.consistent.author?_eq builtAt member] at found
  obtain rfl := Option.some.inj found
  exact ⟨_, listed, record, rfl, rfl⟩

/-- A listed post shows the author of a source. -/
theorem Assembly.exists_author {p : Post} (member : p ∈ snapshot.posts)
    : ∃ s ∈ ordered,
        p.slug = s.frontmatter.slug
        ∧ ∃ a ∈ (Resolution.authors ordered).entities, p.ShowsAuthor a s.frontmatter.author := by
  obtain ⟨s, n, numbered, post⟩ := h.exists_source member
  have inOrdered : s ∈ ordered := List.fst_mem_of_mem_zipIdx numbered
  exact ⟨s, inOrdered, post.slug, h.showsAuthor inOrdered post⟩

/-- Posts of one author have the name of the author, but for blanks around it. -/
theorem Assembly.author_name_eq {p q : Post} (inP : p ∈ snapshot.posts) (inQ : q ∈ snapshot.posts)
    (same : p.author.id = q.author.id)
    : p.author.name.trimBlanks = q.author.name.trimBlanks := by
  obtain ⟨s, _, _, a, listedA, showsP⟩ := h.exists_author inP
  obtain ⟨t, _, _, b, listedB, showsQ⟩ := h.exists_author inQ
  have sameId : a.id = b.id := by
    rwa [showsP.record, showsQ.record] at same
  have oneAuthor : a = b :=
    List.inj_on_of_nodup_map (nodup_authorIds ordered) listedA listedB sameId
  rw [showsP.record, showsQ.record]
  exact showsP.name.symm.trans (oneAuthor ▸ showsQ.name)

/-- The records of two posts are equal if both spell name and email alike, for the email decides
the id.
-/
theorem Assembly.author_eq_iff {p q : Post} (inP : p ∈ snapshot.posts) (inQ : q ∈ snapshot.posts)
    : p.author = q.author
      ↔ p.author.name = q.author.name ∧ p.author.email = q.author.email := by
  constructor
  · intro same
    rw [same]
    exact ⟨rfl, rfl⟩
  · rintro ⟨sameName, sameEmail⟩
    have sameId : p.author.id = q.author.id :=
      (h.author_id_inj inP inQ).mpr (congrArg authorKey sameEmail)
    obtain ⟨s, _, _, a, _, showsP⟩ := h.exists_author inP
    obtain ⟨t, _, _, b, _, showsQ⟩ := h.exists_author inQ
    rw [showsP.record, showsQ.record] at sameName sameEmail sameId ⊢
    rw [PostAuthor.mk.injEq]
    exact ⟨sameId, sameName, sameEmail, rfl⟩

end

-----------------------------------------------------------------------------------------
-- Every snapshot that is built
-----------------------------------------------------------------------------------------

/-- The posts of every snapshot that is built show the authors of their sources, each as its own
source spells it.
-/
theorem authorship_of_build (built : build settings builtAt sources = .ok snapshot)
    : ∃ authors, Authorship sources snapshot authors := by
  obtain ⟨ordered, posts, h⟩ := build_eq_ok_iff.mp built
  exact ⟨(Resolution.authors ordered).entities, {
    keys := nodup_authorEmails ordered
    ids := nodup_authorIds ordered
    shown := by
      intro p member
      obtain ⟨s, inOrdered, slug, shows⟩ := h.exists_author member
      obtain ⟨source, inSources, parses⟩ := (h.inOrder.mem_iff s).mp inOrdered
      exact ⟨source, inSources, s, parses, slug, shows⟩
    sameId := fun p inP q inQ => h.author_id_inj inP inQ
    sameName := fun p inP q inQ => h.author_name_eq inP inQ
    sameRecord := fun p inP q inQ => h.author_eq_iff inP inQ
  }⟩

/-- The posts of the two sources show authors. -/
theorem authorship_of_twoSources
    : ∃ snapshot,
        build {} someDay twoSources = .ok snapshot
        ∧ ∃ authors, Authorship twoSources snapshot authors := by
  obtain ⟨snapshot, built⟩ := exists_build_twoSources
  exact ⟨snapshot, built, authorship_of_build built⟩

/-- The posts of the two sources have one author, and yet their records of it differ: one email is
in upper case.
-/
theorem author_records_of_twoSources
    : ∃ snapshot,
        build {} someDay twoSources = .ok snapshot
        ∧ ∃ p ∈ snapshot.posts, ∃ q ∈ snapshot.posts,
            p.author.id = q.author.id ∧ p.author ≠ q.author := by
  obtain ⟨snapshot, built⟩ := exists_build_twoSources
  obtain ⟨ordered, posts, h⟩ := build_eq_ok_iff.mp built
  have parsed (s : ParsedSource) (member : s ∈ twoParsed) : s ∈ ordered := by
    have results := parses_twoSources ▸ h.inOrder.parses
    exact ((List.map_perm_map_iff fun _ _ => Except.ok.inj).mp results).mem_iff.mp member
  obtain ⟨p, inP, _, first⟩ := h.exists_post (parsed _ List.mem_cons_self)
  obtain ⟨q, inQ, _, second⟩ := h.exists_post (parsed _ (List.mem_cons_of_mem _ List.mem_cons_self))
  obtain ⟨a, _, recordP⟩ := first.author
  obtain ⟨b, _, recordQ⟩ := second.author
  have sameKey : authorKey "E" = authorKey "e" := by decide +kernel
  refine ⟨snapshot, built, p, inP, q, inQ, (h.author_id_inj inP inQ).mpr ?_, ?_⟩
  · rw [recordP, recordQ]
    exact sameKey
  · rw [recordP, recordQ]
    intro same
    have sameEmail : "E" = "e" := congrArg PostAuthor.email same
    exact absurd sameEmail (by decide)

end Snapshot

end BlogSnapshot
