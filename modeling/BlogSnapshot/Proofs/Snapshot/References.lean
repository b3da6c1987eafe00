import BlogSnapshot.Proofs.Post.Outcome
import BlogSnapshot.Proofs.Snapshot.Assembly

/-! References from posts to authors, categories and tags. The post of a source refers to nothing
that is missing exactly if the tables hold what the source names, and the tables of a corpus hold
exactly what its sources declare.
-/

namespace BlogSnapshot

/-- The cause is a reference to an author, a category or a tag that is missing. -/
def Cause.IsDangling : Cause → Prop
  | .unresolvedAuthor _ | .unknownCategory _ | .unknownTag _ => True
  | _ => False

/-- The failure is an error about a reference to something that is missing. -/
def Failure.IsDangling : Failure → Prop
  | .content e => e.cause.IsDangling
  | .fault _ => False

/-- Every failure of a step has another reason than a reference to something that is missing. -/
def RefersWell {α : Type} (x : Except Failure α) : Prop :=
  FailsOnly (fun failure => ¬failure.IsDangling) x

/-- A source names only what sources declare: its author under the same key, and its category and
its tags under the same trimmed slugs.
-/
structure ParsedSource.DeclaredBy (s : ParsedSource) (sources : List ParsedSource) : Prop where
  author
    : ∃ t ∈ sources,
        authorKey t.frontmatter.author.email = authorKey s.frontmatter.author.email
  category
    : ∃ t ∈ sources,
        t.frontmatter.category.slug.trimBlanks = s.frontmatter.category.slug.trimBlanks
  tags
    : ∀ l ∈ s.frontmatter.tags,
        ∃ t ∈ sources, ∃ k ∈ t.frontmatter.tags, k.slug.trimBlanks = l.slug.trimBlanks

namespace Post

variable {settings : Settings} {builtAt : Moment} {tables : Tables} {id : Int}

-----------------------------------------------------------------------------------------
-- What the tables must hold
-----------------------------------------------------------------------------------------

/-- The tables hold what a source names, or its post is not built for a reference to something that
is missing.
-/
theorem covers_or_build_dangling (settings : Settings) (builtAt : Moment) (tables : Tables)
    (id : Int) (source : ParsedSource)
    : tables.Covers source.frontmatter
      ∨ ∃ failure,
          build settings builtAt tables id source = .error failure ∧ failure.IsDangling := by
  obtain ⟨r, outcome⟩ := exists_joinOutcome settings builtAt tables id source
  have comes := outcome.build_eq
  cases outcome with
  | unknownAuthor => exact .inr ⟨_, comes, trivial⟩
  | unknownCategory => exact .inr ⟨_, comes, trivial⟩
  | unknownTag => exact .inr ⟨_, comes, trivial⟩
  | unrenderable covers => exact .inl covers
  | refusedImage covers => exact .inl covers
  | built covers => exact .inl covers

/-- Once the tables hold what a source names, its post fails for its body or its image only. -/
theorem Tables.Covers.refersWell {source : ParsedSource}
    (covers : tables.Covers source.frontmatter)
    : RefersWell (build settings builtAt tables id source) := by
  obtain ⟨complete, eq⟩ := covers.build_eq settings builtAt id
  rw [eq]
  refine .bind (.mapError fun _ _ => ?_) fun content _ => .bind (.mapError fun _ _ => ?_) ?_
  · exact not_false
  · exact not_false
  · exact fun image _ => .ok _ _

/-- The post of a source refers to nothing that is missing exactly if the tables hold what the
source names.
-/
theorem refersWell_iff_covers (source : ParsedSource)
    : RefersWell (build settings builtAt tables id source)
      ↔ tables.Covers source.frontmatter := by
  refine ⟨fun well => ?_, fun covers => covers.refersWell⟩
  rcases covers_or_build_dangling settings builtAt tables id source
    with covers | ⟨failure, fails, dangling⟩
  · exact covers
  · exact absurd dangling (well failure fails)

end Post

-----------------------------------------------------------------------------------------
-- What the tables of a corpus hold
-----------------------------------------------------------------------------------------

open ParsedSource

variable {settings : Settings} {resolvedAt : Moment} {sources : List ParsedSource}
variable {entities : Entities}

/-- The tables of a corpus hold what a source names exactly if the corpus declares it. -/
theorem ofCorpus_covers_iff (s : ParsedSource)
    : (Post.Tables.ofCorpus settings resolvedAt sources).Covers s.frontmatter
      ↔ s.DeclaredBy sources := by
  have author := Post.Tables.author?_isSome settings resolvedAt sources s.frontmatter.author.email
  have category :=
    Post.Tables.category?_isSome settings resolvedAt sources s.frontmatter.category.slug
  have tag (l : FrontmatterLabel) := Post.Tables.tag?_isSome settings resolvedAt sources l.slug
  simp only [authorKeys, categorySlugs, tagSlugs, List.mem_map, List.mem_flatMap]
    at author category tag
  constructor
  · intro covers
    exact ⟨author.mp covers.author, category.mp covers.category,
      fun l member => (tag l).mp (covers.tags l member)⟩
  · intro declared
    exact ⟨author.mpr declared.author, category.mpr declared.category,
      fun l member => (tag l).mpr (declared.tags l member)⟩

/-- A source of a corpus names what it declares itself. -/
theorem declaredBy_of_mem {s : ParsedSource} (member : s ∈ sources) : s.DeclaredBy sources where
  author := ⟨s, member, rfl⟩
  category := ⟨s, member, rfl⟩
  tags := fun l tagged => ⟨s, member, l, tagged, rfl⟩

/-- Categories and tags that are given change nothing if they are those of the entities. -/
theorem withGiven_eq_ofEntities {categories : Option (List Category)} {tags : Option (List Tag)}
    (ownCategories : categories ∈ [none, some entities.categories])
    (ownTags : tags ∈ [none, some entities.tags])
    : Post.Tables.withGiven entities categories tags = .ofEntities entities := by
  rcases List.mem_pair.mp ownCategories with rfl | rfl <;>
    rcases List.mem_pair.mp ownTags with rfl | rfl <;>
      rfl

/-- Posts that are joined with the entities of a corpus, whether categories and tags are given or
not: the post of each source of the corpus refers to nothing that is missing, and the post of any
source does so exactly if the corpus declares what the source names.
-/
theorem refersWell_of_resolve
    (resolved : Entities.resolve settings resolvedAt sources = .ok entities)
    {categories : Option (List Category)} {tags : Option (List Tag)}
    (ownCategories : categories ∈ [none, some entities.categories])
    (ownTags : tags ∈ [none, some entities.tags]) (builtAt : Moment) (id : Int)
    (s : ParsedSource)
    : let tables := Post.Tables.withGiven entities categories tags
      (s ∈ sources → RefersWell (Post.build settings builtAt tables id s))
      ∧ (RefersWell (Post.build settings builtAt tables id s) ↔ s.DeclaredBy sources) := by
  intro tables
  obtain ⟨_, rfl⟩ := Entities.resolve_eq_ok_iff.mp resolved
  have corpus : tables = .ofCorpus settings resolvedAt sources :=
    withGiven_eq_ofEntities ownCategories ownTags
  have exactly : RefersWell (Post.build settings builtAt tables id s) ↔ s.DeclaredBy sources := by
    rw [Post.refersWell_iff_covers, corpus, ofCorpus_covers_iff]
  exact ⟨fun member => exactly.mpr (declaredBy_of_mem member), exactly⟩

/-- A source outside the corpus that names an author of the corpus in another spelling. -/
def stranger : ParsedSource :=
  Snapshot.documentParsed "c.md" "c" " E " " d " [⟨"H", " g", none⟩]

/-- The post of the stranger is joined with the entities of the two sources, whose categories are
given.
-/
theorem refersWell_of_stranger
    : ∃ entities,
        Entities.resolve {} Snapshot.someDay Snapshot.twoParsed = .ok entities
        ∧ some entities.categories ∈ [none, some entities.categories]
        ∧ none ∈ [none, some entities.tags]
        ∧ let tables := Post.Tables.withGiven entities (some entities.categories) none
          let post := Post.build {} Snapshot.someDay tables 3 stranger
          (stranger ∈ Snapshot.twoParsed → RefersWell post)
          ∧ (RefersWell post ↔ stranger.DeclaredBy Snapshot.twoParsed) := by
  have consistent : Consistent {} Snapshot.twoParsed :=
    ⟨by decide +kernel, by decide +kernel, by decide +kernel⟩
  have resolved : Entities.resolve {} Snapshot.someDay Snapshot.twoParsed
      = .ok (.ofFolds {} Snapshot.someDay Snapshot.twoParsed) :=
    Entities.resolve_of_consistent consistent
  have ownCategories (categories : List Category) : some categories ∈ [none, some categories] :=
    List.mem_pair.mpr (.inr rfl)
  have ownTags (tags : List Tag) : none ∈ [none, some tags] := List.mem_pair.mpr (.inl rfl)
  exact ⟨_, resolved, ownCategories _, ownTags _,
    refersWell_of_resolve resolved (ownCategories _) (ownTags _) Snapshot.someDay 3 stranger⟩

end BlogSnapshot
