import BlogSnapshot.Files.Tree
import BlogSnapshot.Proofs.Index
import Mathlib.Data.List.Nodup
import Mathlib.Data.List.Perm.Basic

/-! The Markdown files of a tree. A directory is searched at any depth and only files count, so each
Markdown file is found once wherever it lies and whatever the directories are called.
-/

namespace BlogSnapshot.FileTree

/-- A file of a tree, with the names that lead to it and its bytes. -/
inductive HasFile : FileTree → List String → ByteArray → Prop
  | here (bytes : ByteArray) : HasFile (.file bytes) [] bytes
  | inside {entries : List (String × FileTree)} {name : String} {child : FileTree}
      {names : List String} {bytes : ByteArray} (entry : (name, child) ∈ entries)
      (rest : HasFile child names bytes)
      : HasFile (.directory entries) (name :: names) bytes

/-- The entries of each directory have names of their own, and no name has a slash in it. -/
inductive WellNamed : FileTree → Prop
  | file (bytes : ByteArray) : WellNamed (.file bytes)
  | directory {entries : List (String × FileTree)} (distinct : (entries.map Prod.fst).Nodup)
      (noSlash : ∀ entry ∈ entries, '/' ∉ entry.1.toList)
      (below : ∀ entry ∈ entries, WellNamed entry.2)
      : WellNamed (.directory entries)

/-- The name of a Markdown file is one of its own before the suffix. -/
def IsMarkdownName (name : String) : Prop :=
  ∃ stem, stem ≠ "" ∧ name = stem ++ ".md"

/-- A file of a tree whose last name is that of a Markdown file. -/
def HasMarkdown (t : FileTree) (names : List String) (bytes : ByteArray) : Prop :=
  t.HasFile names bytes ∧ ∃ dirs name, names = dirs ++ [name] ∧ IsMarkdownName name

/-- A visit of a tree comes by each Markdown file once, in whatever order, and by nothing else. -/
structure Visits (t : FileTree) (files : List (List String × ByteArray)) : Prop where
  once : (files.map Prod.fst).Nodup
  found : ∀ names bytes, (names, bytes) ∈ files ↔ t.HasMarkdown names bytes

variable {t : FileTree} {entries : List (String × FileTree)} {front names : List String}
  {bytes : ByteArray}

-----------------------------------------------------------------------------------------
-- Files and names
-----------------------------------------------------------------------------------------

theorem hasFile_file_iff {content : ByteArray}
    : HasFile (.file content) names bytes ↔ names = [] ∧ bytes = content := by
  constructor
  · intro has
    cases has
    exact ⟨rfl, rfl⟩
  · rintro ⟨rfl, rfl⟩
    exact .here bytes

/-- A directory is no file itself. -/
theorem HasFile.ne_nil (has : HasFile (.directory entries) names bytes) : names ≠ [] := by
  cases has with
  | inside => exact List.cons_ne_nil _ _

theorem not_hasFile_empty : ¬ empty.HasFile names bytes := by
  intro has
  cases has with
  | inside entry => cases entry

theorem hasFile_cons_iff {name : String}
    : HasFile (.directory entries) (name :: names) bytes
      ↔ ∃ child, (name, child) ∈ entries ∧ child.HasFile names bytes := by
  constructor
  · intro has
    cases has with
    | inside entry rest => exact ⟨_, entry, rest⟩
  · rintro ⟨child, entry, rest⟩
    exact .inside entry rest

/-- No name on the way to a file has a slash in it, by induction on the way. -/
theorem HasFile.noSlash (has : t.HasFile names bytes) (named : t.WellNamed)
    : ∀ name ∈ names, '/' ∉ name.toList := by
  induction has with
  | here => exact List.forall_mem_nil _
  | inside entry rest ih =>
      cases named with
      | directory _ noSlash below =>
          exact List.forall_mem_cons.mpr ⟨noSlash _ entry, ih (below _ entry)⟩

/-- What a name leads to is well named, and a missing directory will be. -/
theorem WellNamed.lookup (below : ∀ entry ∈ entries, WellNamed entry.2) (name : String)
    : ((entries.lookup name).getD empty).WellNamed := by
  cases found : entries.lookup name with
  | none => exact .directory List.nodup_nil (List.forall_mem_nil _) (List.forall_mem_nil _)
  | some child =>
      obtain ⟨before, after, rfl, _⟩ := List.lookup_eq_some_iff.mp found
      exact below (name, child) (by simp)

/-- What is reached from a tree by names is well named if the tree and what leads to it are, by
induction on the names.
-/
theorem WellNamed.of_walk {outer : List FileTree} {reached : FileTree} (named : t.WellNamed)
    (outerNamed : ∀ o ∈ outer, o.WellNamed) (walked : walk outer t names = .ok reached)
    : reached.WellNamed := by
  induction names generalizing outer t with
  | nil =>
      cases walked
      exact named
  | cons name names ih =>
      cases named with
      | file => cases walked
      | @directory entries distinct noSlash below =>
          have here : WellNamed (.directory entries) := .directory distinct noSlash below
          simp only [walk] at walked
          split at walked
          case isTrue up =>
            cases outer with
            | nil => exact ih here outerNamed walked
            | cons o outer =>
                obtain ⟨first, others⟩ := List.forall_mem_cons.mp outerNamed
                exact ih first others walked
          case isFalse =>
            cases found : entries.lookup name with
            | none =>
                rw [found] at walked
                cases walked
            | some child =>
                have childNamed := WellNamed.lookup below name
                rw [found] at childNamed walked
                exact ih childNamed (List.forall_mem_cons.mpr ⟨here, outerNamed⟩) walked

/-- A name is taken for that of a Markdown file by its last three characters. -/
theorem isMarkdownName_iff (name : String) : isMarkdownName name = true ↔ IsMarkdownName name := by
  rw [isMarkdownName, Bool.and_eq_true, decide_eq_true_eq, decide_eq_true_eq, ← String.length_toList]
  constructor
  · rintro ⟨suffix, longer⟩
    refine ⟨String.ofList (name.toList.take (name.toList.length - 3)), ?_, ?_⟩
    · rw [Ne, String.ofList_eq_empty_iff, List.take_eq_nil_iff, not_or]
      exact ⟨by omega, List.ne_nil_of_length_pos (by omega)⟩
    · rw [← String.toList_inj, String.toList_append, String.toList_ofList, ← suffix,
        List.take_append_drop]
  · rintro ⟨stem, nonempty, rfl⟩
    have own : stem.toList ≠ [] := by rwa [Ne, String.toList_eq_nil_iff]
    have length : (stem ++ ".md").toList.length = stem.toList.length + 3 := by simp
    have positive : 0 < stem.toList.length := List.length_pos_of_ne_nil own
    refine ⟨?_, by omega⟩
    rw [length, Nat.add_sub_cancel, String.toList_append, List.drop_left]

/-- The last of some names is that of a Markdown file. -/
theorem any_getLast?_iff (names : List String)
    : names.getLast?.any isMarkdownName
      ↔ ∃ dirs name, names = dirs ++ [name] ∧ IsMarkdownName name := by
  rw [Option.any_eq_true]
  constructor
  · rintro ⟨name, last, markdown⟩
    obtain ⟨dirs, rfl⟩ := List.getLast?_eq_some_iff.mp last
    exact ⟨dirs, name, rfl, (isMarkdownName_iff name).mp markdown⟩
  · rintro ⟨dirs, name, rfl, markdown⟩
    exact ⟨name, List.getLast?_concat, (isMarkdownName_iff name).mpr markdown⟩

-----------------------------------------------------------------------------------------
-- The search for Markdown files
-----------------------------------------------------------------------------------------

/-- What is found in a directory is found in its entries, by induction on them. -/
theorem markdownFilesOf_eq_flatMap (front : List String) (entries : List (String × FileTree))
    : markdownFilesOf front entries
      = entries.flatMap fun entry => markdownFiles (front ++ [entry.1]) entry.2 := by
  induction entries with
  | nil => rfl
  | cons entry rest ih => rw [markdownFilesOf, ih, List.flatMap_cons]

/-- The search finds the files below the names that have led to the tree, where the last name is
that of a Markdown file. By induction on the tree.
-/
theorem mem_markdownFiles (named : t.WellNamed) (front : List String)
    : (names, bytes) ∈ markdownFiles front t
      ↔ ∃ below,
          names = front ++ below ∧ t.HasFile below bytes ∧ names.getLast?.any isMarkdownName := by
  induction named generalizing front names with
  | file content =>
      rw [markdownFiles]
      constructor
      · intro member
        split at member
        case isTrue markdown =>
          cases List.mem_singleton.mp member
          exact ⟨[], by simp, .here _, markdown⟩
        case isFalse => cases member
      · rintro ⟨below, rfl, has, markdown⟩
        obtain ⟨rfl, rfl⟩ := hasFile_file_iff.mp has
        rw [List.append_nil] at markdown ⊢
        rw [if_pos markdown]
        exact List.mem_singleton_self _
  | @directory entries _ _ _ ih =>
      rw [markdownFiles, markdownFilesOf_eq_flatMap, List.mem_flatMap]
      constructor
      · rintro ⟨⟨name, child⟩, entry, member⟩
        obtain ⟨below, rfl, has, markdown⟩ := (ih _ entry _).mp member
        exact ⟨name :: below, List.append_assoc .., .inside entry has, markdown⟩
      · rintro ⟨below, rfl, has, markdown⟩
        cases has with
        | inside entry rest =>
            refine ⟨_, entry, (ih _ entry _).mpr ⟨_, ?_, rest, markdown⟩⟩
            rw [List.append_assoc, List.singleton_append]

/-- The search comes by no file twice, by induction on the tree: what is found in two entries differs
in the name of the entry.
-/
theorem nodup_markdownFiles (named : t.WellNamed) (front : List String)
    : ((markdownFiles front t).map Prod.fst).Nodup := by
  induction named generalizing front with
  | file content =>
      rw [markdownFiles]
      split <;> simp
  | @directory entries distinct _ below ih =>
      rw [markdownFiles, markdownFilesOf_eq_flatMap, List.map_flatMap, List.nodup_flatMap]
      refine ⟨fun entry member => ih entry member _, ?_⟩
      have apart : entries.Pairwise fun a b => a.1 ≠ b.1 := List.pairwise_map.mp distinct
      refine apart.imp_of_mem ?_
      intro a b inA inB other names inFirst inSecond
      obtain ⟨⟨_, bytes⟩, found, rfl⟩ := List.mem_map.mp inFirst
      obtain ⟨⟨_, bytes'⟩, found', same⟩ := List.mem_map.mp inSecond
      obtain ⟨later, first, -⟩ := (mem_markdownFiles (below a inA) _).mp found
      obtain ⟨later', second, -⟩ := (mem_markdownFiles (below b inB) _).mp found'
      rw [List.append_assoc] at first second
      rw [first, second] at same
      exact other (List.cons.inj (List.append_cancel_left same)).1.symm

/-- The search of a directory is a visit of it. -/
theorem visits_markdownFilesOf (named : WellNamed (.directory entries))
    : Visits (.directory entries) (markdownFilesOf [] entries) where
  once := by
    have once := nodup_markdownFiles named []
    rwa [markdownFiles] at once
  found names bytes := by
    have found : (names, bytes) ∈ markdownFiles [] (.directory entries) ↔ _ :=
      mem_markdownFiles named []
    simp only [markdownFiles, List.nil_append, exists_eq_left'] at found
    rw [found, any_getLast?_iff]
    rfl

/-- The Markdown files of two trees are the same. -/
def SameMarkdown (t t' : FileTree) : Prop :=
  ∀ names bytes, t.HasMarkdown names bytes ↔ t'.HasMarkdown names bytes

/-- Visits of trees with the same Markdown files differ in the order only. -/
theorem Visits.perm {t' : FileTree} {files others : List (List String × ByteArray)}
    (visits : Visits t files) (again : Visits t' others) (same : t.SameMarkdown t')
    : files.Perm others := by
  rw [List.perm_ext_iff_of_nodup visits.once.of_map again.once.of_map]
  intro ⟨names, bytes⟩
  rw [visits.found, same names bytes, again.found]

-----------------------------------------------------------------------------------------
-- Writing a file
-----------------------------------------------------------------------------------------

/-- An entry that is set takes the place of the entry of its name, by induction on the entries. -/
theorem mem_setEntry_iff (distinct : (entries.map Prod.fst).Nodup) {name other : String}
    {child c : FileTree}
    : (other, c) ∈ setEntry name child entries
      ↔ (other = name ∧ c = child) ∨ (other ≠ name ∧ (other, c) ∈ entries) := by
  induction entries with
  | nil => simp [setEntry]
  | cons entry rest ih =>
      obtain ⟨n, t⟩ := entry
      obtain ⟨new, distinctRest⟩ := List.nodup_cons.mp distinct
      rw [setEntry]
      split
      case isTrue isHere =>
        subst isHere
        have apart (member : (other, c) ∈ rest) : other ≠ n := by
          rintro rfl
          exact new (List.mem_map.mpr ⟨(other, c), member, rfl⟩)
        simp only [List.mem_cons, Prod.mk.injEq]
        tauto
      case isFalse isOther =>
        have apart : other = n → other ≠ name := by
          rintro rfl
          exact isOther
        simp only [List.mem_cons, Prod.mk.injEq, ih distinctRest]
        tauto

/-- In a directory with an entry set, the files below its name are those of the entry. -/
theorem hasFile_setEntry_iff (distinct : (entries.map Prod.fst).Nodup) {name other : String}
    {child : FileTree}
    : HasFile (.directory (setEntry name child entries)) (other :: names) bytes
      ↔ if other = name then child.HasFile names bytes
        else HasFile (.directory entries) (other :: names) bytes := by
  simp only [hasFile_cons_iff, mem_setEntry_iff distinct]
  split
  case isTrue isHere => simp [isHere]
  case isFalse isOther => simp [isOther]

/-- What a name leads to has the files below the name, and none where the name is missing. -/
theorem hasFile_lookup_iff (distinct : (entries.map Prod.fst).Nodup) (name : String)
    : ((entries.lookup name).getD empty).HasFile names bytes
      ↔ HasFile (.directory entries) (name :: names) bytes := by
  simp only [hasFile_cons_iff, ← Index.lookup_eq_some_iff_mem distinct]
  cases entries.lookup name with
  | none => simp [not_hasFile_empty]
  | some child => simp

/-- A file that is written where none lies below leaves all other files as they are, by induction on
the names that lead to it.
-/
theorem hasFile_put_iff {content : ByteArray} {place : List String} (named : t.WellNamed)
    (free : ∀ later bytes, t.HasFile (place ++ later) bytes → later = []) (other : names ≠ place)
    : (put (.file content) t place).HasFile names bytes ↔ t.HasFile names bytes := by
  induction place generalizing t names with
  | nil =>
      rw [put, hasFile_file_iff]
      exact iff_of_false (fun has => other has.1) (fun has => other (free names bytes has))
  | cons name place ih =>
      cases named with
      | file content => rfl
      | @directory entries distinct noSlash below =>
          simp only [put]
          cases names with
          | nil => exact iff_of_false (fun has => has.ne_nil rfl) (fun has => has.ne_nil rfl)
          | cons first names =>
              rw [hasFile_setEntry_iff distinct]
              split
              case isTrue isHere =>
                subst isHere
                rw [ih (.lookup below first) ?free (by simpa using other),
                  hasFile_lookup_iff distinct]
                intro later bytes has
                exact free later bytes ((hasFile_lookup_iff distinct first).mp has)
              case isFalse => rfl

/-- Writing a file that is no Markdown file, where none lies below, changes no Markdown file. -/
theorem sameMarkdown_write {p : Path} {content : ByteArray} (named : t.WellNamed)
    (free : ∀ later bytes, t.HasFile (p.names ++ later) bytes → later = [])
    (notMarkdown : ∀ dirs name, p.names = dirs ++ [name] → ¬ IsMarkdownName name)
    : (t.write p content).SameMarkdown t := by
  intro names bytes
  refine and_congr_left fun ⟨dirs, name, same, markdown⟩ => hasFile_put_iff named free ?_
  rintro rfl
  exact notMarkdown dirs name same markdown

end BlogSnapshot.FileTree
