import BlogSnapshot.Frontmatter.Read
import BlogSnapshot.Proofs.Yaml.Values

/-! How reading a source can fail. Most failures are errors of the content that name its path; the
others come of a value that the source spells and that cannot exist, and name nothing.
-/

namespace BlogSnapshot

/-- An error names a path, and is not that there are no sources. -/
structure ContentError.Names (path : Option String) (e : ContentError) : Prop where
  path : e.path = path
  cause : e.cause ≠ .noSources

/-- A failure is an error of the content that names the path. -/
inductive Failure.Names (path : Option String) : Failure → Prop
  | content {e : ContentError} (names : e.Names path) : Names path (.content e)

namespace Frontmatter

/-- The faults that the entries of a frontmatter block hold: the digits of a size of the image that
spell no integer, a moment that has no universal time, and an integer in the place of a moment that
has too many digits to be shown.
-/
inductive EntryFault (entries : List (Yaml.Value × Yaml.Value)) : Fault → Prop
  | size {image : List (Yaml.Value × Yaml.Value)} {key text : String} {fault : Yaml.ScalarFault}
      (isSize : key ∈ ["width", "height"])
      (described : Yaml.Value.get? "featured_image" entries = some (.map image))
      (spelled : Yaml.Value.get? key image = some (.text text))
      (digits : (Text.trim text.toList).all Text.isDecimalDigit)
      (refused : Yaml.Scalar.integer 10 text.toList = .error fault)
      : EntryFault entries (.scalar fault)
  | moment {key : String} {v : Yaml.Value} {m : Moment} {fault : CalendarFault}
      (isMoment : key ∈ ["published_at", "updated_at"])
      (spelled : Yaml.Value.get? key entries = some v)
      (denotes : Fields.momentOf? v = some m)
      (refused : m.toUtc = .error fault)
      : EntryFault entries (.calendar fault)
  | unshown {key : String} {v : Yaml.Value} (isMoment : key ∈ ["published_at", "updated_at"])
      (spelled : Yaml.Value.get? key entries = some v)
      (denotesNone : Fields.momentOf? v = none)
      (unshowable : v.isShowable = false)
      : EntryFault entries (.scalar .unshownInteger)

/-- Reading entries fails with an error that names the path, or with a fault that they hold. -/
inductive EntriesFail (entries : List (Yaml.Value × Yaml.Value)) (path : Option String)
    : Failure → Prop
  | content {failure : Failure} (names : failure.Names path) : EntriesFail entries path failure
  | fault {fault : Fault} (held : EntryFault entries fault)
      : EntriesFail entries path (.fault fault)

-----------------------------------------------------------------------------------------
-- Fields
-----------------------------------------------------------------------------------------

namespace Fields

variable (f : Fields) (key : String)

/-- A value that is there is found among the entries. -/
theorem get?_of_get {v : Yaml.Value} (found : f.get key = v) (isThere : v ≠ .null)
    : Yaml.Value.get? key f.entries = some v := by
  unfold get at found
  cases inEntries : Yaml.Value.get? key f.entries with
  | none => exact absurd (inEntries ▸ found).symm isThere
  | some w => rw [← found, inEntries, Option.getD_some]

theorem wrongShape_fails {α : Type} (expected : Shape)
    : FailsOnly (Failure.Names f.path) (f.wrongShape key expected : Except Failure α) :=
  .error (.content ⟨rfl, nofun⟩)

theorem string?_fails : FailsOnly (Failure.Names f.path) (f.string? key) := by
  unfold string?
  split
  · exact .ok _ _
  · exact .ok _ _
  · exact f.wrongShape_fails key .string

theorem string_fails : FailsOnly (Failure.Names f.path) (f.string key) :=
  (f.string?_fails key).map _

theorem mapping_fails : FailsOnly (Failure.Names f.path) (f.mapping key) := by
  unfold mapping
  split
  · exact .ok _ _
  · exact .ok _ _
  · exact f.wrongShape_fails key .mapping

/-- A mapping field is of the same source, and its entries are a value of the mapping. -/
theorem of_mapping {g : Fields} (found : f.mapping key = .ok g)
    : g.path = f.path
      ∧ (g.entries = [] ∨ Yaml.Value.get? key f.entries = some (.map g.entries)) := by
  unfold mapping at found
  split at found
  · cases found
    exact ⟨rfl, .inl rfl⟩
  case h_2 entries isMap =>
    cases found
    exact ⟨rfl, .inr (f.get?_of_get key isMap (by simp))⟩
  · cases found

/-- The items of a list are read or refused with the path, by induction on them. -/
theorem items_fails (position : Nat) (vs : List Yaml.Value)
    : FailsOnly (Failure.Names f.path) (f.items key position vs) := by
  induction vs generalizing position with
  | nil => exact .ok _ _
  | cons v rest ih =>
      unfold items
      split
      · exact .bind (ih _) fun _ _ => .ok _ _
      · exact .error (.content ⟨rfl, nofun⟩)

/-- The items of a list are of the same source, by induction on them. -/
theorem path_of_items {position : Nat} {vs : List Yaml.Value} {gs : List Fields}
    (read : f.items key position vs = .ok gs)
    : ∀ g ∈ gs, g.path = f.path := by
  induction vs generalizing position gs with
  | nil =>
      cases read
      simp
  | cons v rest ih =>
      unfold items at read
      split at read
      · obtain ⟨more, others, eq⟩ := (bind_eq_ok_iff _ _ _).mp read
        cases eq
        exact List.forall_mem_cons.mpr ⟨rfl, ih others⟩
      · cases read

theorem sequence_fails : FailsOnly (Failure.Names f.path) (f.sequence key) := by
  unfold sequence
  split
  · exact .ok _ _
  · exact f.items_fails key 0 _
  · exact f.wrongShape_fails key .list

theorem path_of_sequence {gs : List Fields} (read : f.sequence key = .ok gs)
    : ∀ g ∈ gs, g.path = f.path := by
  unfold sequence at read
  split at read
  · cases read
    simp
  · exact f.path_of_items key read
  · cases read

theorem label_fails : FailsOnly (Failure.Names f.path) f.label :=
  .bind (f.string_fails _) fun _ _ =>
    .bind (f.string_fails _) fun _ _ => .bind (f.string?_fails _) fun _ _ => .ok _ _

/-- An integer field fails with the path, or for digits that spell no integer. -/
theorem integer?_fails
    : FailsOnly
        (fun failure =>
          failure.Names f.path
          ∨ ∃ text fault,
              failure = .fault (.scalar fault)
              ∧ Yaml.Value.get? key f.entries = some (.text text)
              ∧ (Text.trim text.toList).all Text.isDecimalDigit
              ∧ Yaml.Scalar.integer 10 text.toList = .error fault)
        (f.integer? key) := by
  unfold integer?
  split
  · exact .ok _ _
  · exact .ok _ _
  case h_3 text isText =>
    have spelled := f.get?_of_get key isText (by simp)
    dsimp only
    split
    case isTrue digits =>
      have allDigits := (Bool.and_eq_true_iff.mp digits).2
      split
      · exact .ok _ _
      case h_2 fault refused =>
        exact .error (.inr ⟨text, fault, rfl, spelled, allDigits, refused⟩)
    case isFalse => exact (f.wrongShape_fails key .integer).mono fun _ => .inl
  · exact (f.wrongShape_fails key .integer).mono fun _ => .inl

/-- A value as a moment fails with the path, for a moment without universal time, or for a value
that is no moment and cannot be shown.
-/
theorem timestampOf_fails (v : Yaml.Value)
    : FailsOnly
        (fun failure =>
          failure.Names f.path
          ∨ (∃ m fault,
              failure = .fault (.calendar fault) ∧ momentOf? v = some m ∧ m.toUtc = .error fault)
          ∨ (failure = .fault (.scalar .unshownInteger)
              ∧ momentOf? v = none ∧ v.isShowable = false))
        (f.timestampOf key v) := by
  unfold timestampOf
  split
  case h_1 m denotes =>
    exact .mapError fun fault refused => .inr (.inl ⟨m, fault, rfl, denotes, refused⟩)
  case h_2 denotesNone =>
    split
    case isTrue => exact .error (.inl (.content ⟨rfl, nofun⟩))
    case isFalse unshowable =>
      exact .error (.inr (.inr ⟨rfl, denotesNone, Bool.eq_false_iff.mpr unshowable⟩))

end Fields

-----------------------------------------------------------------------------------------
-- Records
-----------------------------------------------------------------------------------------

section

variable (entries : List (Yaml.Value × Yaml.Value)) (path : Option String)

/-- A size of the image fails as reading the entries does. -/
theorem size_fails {image : Fields}
    (described : Fields.mapping { entries, path } "featured_image" = .ok image) {key : String}
    (isSize : key ∈ ["width", "height"])
    : FailsOnly (EntriesFail entries path) (image.integer? key) := by
  obtain ⟨fieldPath, inEntries⟩ := Fields.of_mapping _ _ described
  have samePath : image.path = path := fieldPath
  refine (image.integer?_fails key).mono ?_
  rintro failure (names | ⟨text, fault, rfl, spelled, digits, refused⟩)
  · exact .content (samePath ▸ names)
  · rcases inEntries with none | found
    · simp [none, Yaml.Value.get?] at spelled
    · exact .fault (.size isSize found spelled digits refused)

/-- A moment of the root fails as reading the entries does. -/
theorem timestampOf_root_fails {key : String} (isMoment : key ∈ ["published_at", "updated_at"])
    {v : Yaml.Value} (found : Fields.get { entries, path } key = v) (isThere : v ≠ .null)
    : FailsOnly (EntriesFail entries path) (Fields.timestampOf { entries, path } key v) := by
  refine (Fields.timestampOf_fails _ key v).mono ?_
  have spelled := Fields.get?_of_get _ key found isThere
  rintro failure (names | ⟨m, fault, rfl, denotes, refused⟩ | ⟨rfl, denotesNone, unshowable⟩)
  · exact .content names
  · exact .fault (.moment isMoment spelled denotes refused)
  · exact .fault (.unshown isMoment spelled denotesNone unshowable)

theorem published_fails
    : FailsOnly (EntriesFail entries path) (Fields.timestamp { entries, path } "published_at") := by
  unfold Fields.timestamp
  split
  · exact .error (.content (.content ⟨rfl, nofun⟩))
  case h_2 isThere => exact timestampOf_root_fails entries path (by simp) rfl isThere

theorem updated_fails
    : FailsOnly (EntriesFail entries path) (Fields.timestamp? { entries, path } "updated_at") := by
  unfold Fields.timestamp?
  split
  · exact .ok _ _
  case h_2 isThere => exact (timestampOf_root_fails entries path (by simp) rfl isThere).map _

/-- Reading entries fails with the path or with a fault that they hold, field by field. -/
theorem ofEntries_fails : FailsOnly (EntriesFail entries path) (ofEntries entries path) := by
  have content {α : Type} {x : Except Failure α} (fails : FailsOnly (Failure.Names path) x)
      : FailsOnly (EntriesFail entries path) x :=
    fails.mono fun _ => .content
  refine .bind (content (Fields.mapping_fails _ _)) fun author isAuthor => ?_
  refine .bind (content (Fields.mapping_fails _ _)) fun category isCategory => ?_
  refine .bind (content (Fields.mapping_fails _ _)) fun image isImage => ?_
  have authorPath : author.path = path := (Fields.of_mapping _ _ isAuthor).1
  have categoryPath : category.path = path := (Fields.of_mapping _ _ isCategory).1
  have imagePath : image.path = path := (Fields.of_mapping _ _ isImage).1
  refine .bind (content (Fields.string_fails _ _)) fun _ _ => ?_
  refine .bind (content (Fields.string_fails _ _)) fun _ _ => ?_
  refine .bind (content (Fields.string?_fails _ _)) fun _ _ => ?_
  refine .bind (published_fails entries path) fun _ _ => ?_
  refine .bind (updated_fails entries path) fun _ _ => ?_
  refine .bind (content (authorPath ▸ author.string_fails _)) fun _ _ => ?_
  refine .bind (content (authorPath ▸ author.string_fails _)) fun _ _ => ?_
  refine .bind (content (categoryPath ▸ category.label_fails)) fun _ _ => ?_
  refine .bind (content (Fields.sequence_fails _ _)) fun labels isList => ?_
  have labelPath : ∀ l ∈ labels, l.path = path := Fields.path_of_sequence _ _ isList
  refine .bind (.mapM fun l member => content (labelPath l member ▸ l.label_fails)) fun _ _ => ?_
  refine .bind (content (imagePath ▸ image.string_fails _)) fun _ _ => ?_
  refine .bind (size_fails entries path isImage (by simp)) fun _ _ => ?_
  refine .bind (size_fails entries path isImage (by simp)) fun _ _ => ?_
  exact .ok _ _

end

end Frontmatter

-----------------------------------------------------------------------------------------
-- Sources
-----------------------------------------------------------------------------------------

/-- The faults that the frontmatter block of a source holds: a fault that a YAML text can spell and
that stops this one, and the faults of the entries that the block denotes.
-/
inductive SourceFile.BlockHolds (source : SourceFile) : Fault → Prop
  | scalar {block body : String} {fault : Yaml.ScalarFault}
      (splits : split source.contents (some source.path) = .ok (block, body))
      (refused : Yaml.load block.toList = .error (.fault fault))
      (spelled : Yaml.Spelled fault)
      : source.BlockHolds (.scalar fault)
  | entry {block body : String} {entries : List (Yaml.Value × Yaml.Value)} {fault : Fault}
      (splits : split source.contents (some source.path) = .ok (block, body))
      (loads : Yaml.load block.toList = .ok (.map entries))
      (held : Frontmatter.EntryFault entries fault)
      : source.BlockHolds fault

namespace Frontmatter

/-- Loading a block fails with the path, or with a fault that the block spells. -/
theorem loadBlock_fails (block : String) (path : Option String)
    : FailsOnly
        (fun failure =>
          failure.Names path
          ∨ ∃ fault, failure = .fault (.scalar fault)
              ∧ Yaml.load block.toList = .error (.fault fault) ∧ Yaml.Spelled fault)
        (loadBlock block path) := by
  unfold loadBlock
  split
  · exact .ok _ _
  · exact .ok _ _
  · exact .error (.inl (.content ⟨rfl, nofun⟩))
  · exact .error (.inl (.content ⟨rfl, nofun⟩))
  case h_5 fault refused =>
    cases Yaml.load_known _ _ refused with
    | fault spelled => exact .error (.inr ⟨fault, rfl, refused, spelled⟩)

/-- The entries of a block are those of its mapping; an empty block has none. -/
theorem of_loadBlock {block : String} {path : Option String}
    {entries : List (Yaml.Value × Yaml.Value)} (loaded : loadBlock block path = .ok entries)
    : entries = [] ∨ Yaml.load block.toList = .ok (.map entries) := by
  unfold loadBlock at loaded
  split at loaded
  · exact .inl (Except.ok.inj loaded).symm
  case h_2 isMap => exact .inr (Except.ok.inj loaded ▸ isMap)
  all_goals cases loaded

/-- No fault is held where there are no entries. -/
theorem not_entryFault_nil (fault : Fault) : ¬ EntryFault [] fault := by
  rintro (⟨_, described, _⟩ | ⟨_, spelled, _⟩ | ⟨_, spelled, _⟩)
  · simp [Yaml.Value.get?] at described
  · simp [Yaml.Value.get?] at spelled
  · simp [Yaml.Value.get?] at spelled

end Frontmatter

namespace SourceFile

theorem splitDocument_fails (contents : List Char)
    : FailsOnly (· ≠ .noSources) (splitDocument contents) := by
  unfold splitDocument
  split
  · exact .error nofun
  · split
    · exact .error nofun
    · exact .ite (.error nofun) (.ok _ _)

theorem split_fails (contents : String) (path : Option String)
    : FailsOnly (ContentError.Names path) (split contents path) := by
  unfold split
  split
  · exact .ok _ _
  case h_2 cause failed => exact .error ⟨rfl, splitDocument_fails _ cause failed⟩

theorem validate_fails (f : Frontmatter) (path : Option String)
    : FailsOnly (ContentError.Names path) (f.validate path) := by
  unfold Frontmatter.validate
  split
  · exact .error ⟨rfl, nofun⟩
  · exact .ok _ _

/-- Parsing a source fails with its path, or with a fault that its frontmatter block holds. -/
theorem parse_fails (source : SourceFile)
    : FailsOnly
        (fun failure =>
          failure.Names (some source.path)
          ∨ ∃ fault, failure = .fault fault ∧ source.BlockHolds fault)
        source.parse := by
  refine .bind (.mapError ((split_fails _ _).mono ?_)) ?_
  · exact fun _ names => .inl (.content names)
  rintro ⟨block, body⟩ splitsOk
  have splits := (mapError_eq_ok_iff _ _ _).mp splitsOk
  refine .bind (.bind ?_ fun entries loaded => ?_) fun f _ => ?_
  · refine (Frontmatter.loadBlock_fails _ _).mono ?_
    rintro failure (names | ⟨fault, rfl, refused, spelled⟩)
    · exact .inl names
    · exact .inr ⟨_, rfl, .scalar splits refused spelled⟩
  · refine (Frontmatter.ofEntries_fails _ _).mono ?_
    rintro failure (names | held)
    · exact .inl names
    · rcases Frontmatter.of_loadBlock loaded with rfl | loads
      · exact absurd held (Frontmatter.not_entryFault_nil _)
      · exact .inr ⟨_, rfl, .entry splits loads held⟩
  · refine .bind (.mapError ((validate_fails _ _).mono ?_)) fun _ _ => .ok _ _
    exact fun _ names => .inl (.content names)

end SourceFile

end BlogSnapshot
