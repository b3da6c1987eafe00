import BlogSnapshot.Media
import BlogSnapshot.Proofs.Text.Lowercase
import BlogSnapshot.Proofs.Url.Tail

/-! The file extension in a URL. It is read from the last segment of the path alone, so no query and
no fragment changes it or the type of the image. Dots at the start of a segment begin no extension,
and what follows the last one of the others is it, in lower case.
-/

namespace BlogSnapshot.Url

open Text

variable {stem suffix segment : List Char}

/-- The last segment of a path is what follows its last slash. -/
def IsLastSegment (path segment : List Char) : Prop :=
  '/' ∉ segment ∧ (segment = path ∨ ∃ front, path = front ++ '/' :: segment)

/-- Some dot of a segment comes after a character that is not one. -/
def HasInnerDot (segment : List Char) : Prop :=
  ∃ before after, segment = before ++ '.' :: after ∧ ∃ c ∈ before, c ≠ '.'

/-- A segment has no extension where it has no inner dot or ends in one; otherwise the extension is
what follows the last dot, in lower case, and has no mark in it that structures a URL.
-/
structure ReadsExtension (segment : List Char) (extension : Option String) : Prop where
  absent : extension = none ↔ ¬ HasInnerDot segment ∨ segment.getLast? = some '.'
  present : ∀ text, extension = some text →
    (∃ stem suffix,
      segment = stem ++ '.' :: suffix ∧ '.' ∉ suffix ∧ text.toList = lower suffix)
    ∧ text ≠ ""
    ∧ ∀ mark ∈ ['.', '/', '?', '#'], mark ∉ text.toList

/-- What a URL says of the extension of the file at it. -/
structure ExtensionLaw (url : String) : Prop where
  tail : Plain url.toList → ∀ mark ∈ ["?", "#"], ∀ q,
    fileExtension (url ++ mark ++ q) = fileExtension url
    ∧ Media.mimeOfUrl (url ++ mark ++ q) = Media.mimeOfUrl url
  read : ∀ extension, fileExtension url = .ok extension →
    ∃ parts segment,
      split url.toList = .ok parts
      ∧ IsLastSegment parts.path segment
      ∧ ReadsExtension segment extension

-----------------------------------------------------------------------------------------
-- The extension of a segment
-----------------------------------------------------------------------------------------

theorem isLastSegment_afterLast (path : List Char)
    : IsLastSegment path (afterLast (· = '/') path) := by
  rcases forall_or_last_char (· = '/') path with none | ⟨front, c, tail, rfl, none, cut⟩
  · rw [afterLast_of_forall none]
    exact ⟨forall_ne_iff_notMem.mp none, .inl rfl⟩
  · rw [afterLast_append_cons none cut]
    obtain rfl := of_decide_eq_true cut
    exact ⟨forall_ne_iff_notMem.mp none, .inr ⟨front, rfl⟩⟩

theorem extensionOf_of_notMem (noDot : '.' ∉ segment) : extensionOf segment = [] := by
  simp [extensionOf, afterLast_of_forall (forall_ne_iff_notMem.mpr noDot)]

theorem extensionOf_append (last : '.' ∉ suffix)
    : extensionOf (stem ++ '.' :: suffix) = if stem.any (· ≠ '.') then suffix else [] := by
  have shorter : suffix.length < (stem ++ '.' :: suffix).length := by simp; omega
  have before : (stem ++ '.' :: suffix).length - suffix.length - 1 = stem.length := by simp; omega
  rw [extensionOf, afterLast_append_cons (forall_ne_iff_notMem.mpr last) (decide_eq_true rfl)]
  simp only [shorter, before, List.take_left', decide_true, Bool.true_and]

/-- A character that is not a dot comes before some dot exactly if it comes before the last one. -/
theorem hasInnerDot_append (last : '.' ∉ suffix)
    : HasInnerDot (stem ++ '.' :: suffix) ↔ stem.any (· ≠ '.') := by
  simp only [List.any_eq_true, decide_eq_true_eq]
  constructor
  · rintro ⟨before, after, same, c, member, other⟩
    rcases List.append_eq_append_iff.mp same with ⟨between, rfl, later⟩ | ⟨between, rfl, _⟩
    · cases between with
      | nil => exact ⟨c, by simpa using member, other⟩
      | cons d between =>
          -- the later dot would be in the suffix
          obtain ⟨_, rfl⟩ := List.cons.inj later
          simp at last
    · exact ⟨c, List.mem_append_left _ member, other⟩
  · rintro ⟨c, member, other⟩
    exact ⟨stem, suffix, rfl, c, member, other⟩

theorem getLast?_append_dot (last : '.' ∉ suffix)
    : (stem ++ '.' :: suffix).getLast? = some '.' ↔ suffix = [] := by
  constructor
  · intro ends
    by_contra nonempty
    rw [List.getLast?_append_of_ne_nil _ (List.cons_ne_nil _ _),
      List.getLast?_cons_of_ne_nil nonempty] at ends
    exact last (List.mem_of_getLast? ends)
  · rintro rfl
    exact List.getLast?_concat

/-- The extension of a segment before it is taken to lower case. -/
theorem extensionOf_eq_nil_iff (segment : List Char)
    : extensionOf segment = [] ↔ ¬ HasInnerDot segment ∨ segment.getLast? = some '.' := by
  rcases forall_or_last_char (· = '.') segment with none | ⟨stem, c, suffix, rfl, none, cut⟩
  · have noDot := forall_ne_iff_notMem.mp none
    refine iff_of_true (extensionOf_of_notMem noDot) (.inl ?_)
    rintro ⟨before, after, rfl, _⟩
    simp at noDot
  · obtain rfl := of_decide_eq_true cut
    have last := forall_ne_iff_notMem.mp none
    rw [extensionOf_append last, hasInnerDot_append last, getLast?_append_dot last]
    split
    case isTrue inner => simp only [inner, not_true, false_or]
    case isFalse inner => exact iff_of_true rfl (.inl inner)

/-- An extension follows the last dot. -/
theorem exists_stem_of_ne_nil (nonempty : extensionOf segment ≠ [])
    : ∃ stem, segment = stem ++ '.' :: extensionOf segment ∧ '.' ∉ extensionOf segment := by
  rcases forall_or_last_char (· = '.') segment with none | ⟨stem, c, suffix, rfl, none, cut⟩
  · exact absurd (extensionOf_of_notMem (forall_ne_iff_notMem.mp none)) nonempty
  · obtain rfl := of_decide_eq_true cut
    have last := forall_ne_iff_notMem.mp none
    rw [extensionOf_append last] at nonempty ⊢
    split at nonempty
    case isTrue inner =>
      rw [if_pos inner]
      exact ⟨stem, rfl, last⟩
    case isFalse => exact absurd rfl nonempty

-----------------------------------------------------------------------------------------
-- The extension in a URL
-----------------------------------------------------------------------------------------

/-- The extension of a path. -/
def pathExtension (path : List Char) : Option String :=
  let ext := lower (extensionOf (afterLast (· = '/') path))
  if ext.isEmpty then none else some (String.ofList ext)

/-- The extension in a URL depends on its path alone. -/
theorem fileExtension_eq (url : String)
    : fileExtension url = (split url.toList).map fun parts => pathExtension parts.path := by
  rw [fileExtension]
  cases split url.toList <;> rfl

/-- The last segment is a part of its path. -/
theorem IsLastSegment.subset {path : List Char} (isLast : IsLastSegment path segment)
    : ∀ c ∈ segment, c ∈ path := by
  rcases isLast.2 with rfl | ⟨front, rfl⟩
  · exact fun _ member => member
  · exact fun c member => List.mem_append_right _ (List.mem_cons_of_mem _ member)

/-- A path without a query and a fragment has the extension of its last segment. -/
theorem readsExtension_pathExtension {path : List Char} (plain : Plain path)
    : ReadsExtension (afterLast (· = '/') path) (pathExtension path) := by
  have isLast := isLastSegment_afterLast path
  rw [pathExtension]
  generalize afterLast (· = '/') path = segment at *
  constructor
  case absent =>
    rw [← extensionOf_eq_nil_iff, ← lower_eq_nil_iff, ← List.isEmpty_iff]
    simp
  case present =>
    intro text found
    rw [Option.ite_none_left_eq_some, Option.some.injEq] at found
    obtain ⟨nonempty, rfl⟩ := found
    rw [List.isEmpty_iff, lower_eq_nil_iff] at nonempty
    obtain ⟨stem, split, noDot⟩ := exists_stem_of_ne_nil nonempty
    refine ⟨⟨stem, extensionOf segment, split, noDot, ?_⟩, ?_, ?_⟩
    · exact String.toList_ofList
    · rwa [Ne, String.ofList_eq_empty_iff, lower_eq_nil_iff]
    · rw [String.toList_ofList]
      have inSegment : ∀ c ∈ extensionOf segment, c ∈ segment := by
        intro c member
        rw [split]
        exact List.mem_append_right _ (List.mem_cons_of_mem _ member)
      -- none of the marks is a small letter, so one in lower case is one in the segment
      simp only [List.forall_mem_cons, List.not_mem_nil, false_imp_iff, implies_true, and_true]
      refine ⟨fun dot => ?_, fun slash => ?_, fun question => ?_, fun numberSign => ?_⟩
      · exact noDot (mem_of_mem_lower (by decide) dot)
      · exact isLast.1 (inSegment _ (mem_of_mem_lower (by decide) slash))
      · exact plain.1 (isLast.subset _ (inSegment _ (mem_of_mem_lower (by decide) question)))
      · exact plain.2 (isLast.subset _ (inSegment _ (mem_of_mem_lower (by decide) numberSign)))

/-- A query or a fragment after a URL changes no extension. -/
theorem fileExtension_append {url : String} {c : Char} (plain : Plain url.toList)
    (tail : IsTailMark c) (q : String)
    : fileExtension (url ++ String.singleton c ++ q) = fileExtension url := by
  have text : (url ++ String.singleton c ++ q).toList = url.toList ++ c :: q.toList := by simp
  obtain ⟨query, fragment, withTail⟩ := split_append plain tail q.toList
  rw [fileExtension_eq, fileExtension_eq, text, withTail]
  cases split url.toList <;> rfl

/-- The extension in a URL is the one that the last segment of its path has, and neither it nor the
type of the image, nor their failure, depends on a query or a fragment after the URL.
-/
theorem extensionLaw (url : String) : ExtensionLaw url := by
  constructor
  case tail =>
    intro plain mark isMark q
    have same : fileExtension (url ++ mark ++ q) = fileExtension url := by
      rcases List.mem_pair.mp isMark with rfl | rfl
      · exact fileExtension_append plain (.inl rfl) q
      · exact fileExtension_append plain (.inr rfl) q
    exact ⟨same, congrArg (Except.map Media.mimeOfExtension) same⟩
  case read =>
    intro extension found
    rw [fileExtension_eq, map_eq_ok_iff] at found
    obtain ⟨parts, parsed, rfl⟩ := found
    exact ⟨parts, _, parsed, isLastSegment_afterLast _,
      readsExtension_pathExtension (plain_path parsed)⟩

example : fileExtension "//cdn.example/v1.2/..Photo.tar.GZ#.png" = .ok (some "gz") := by
  decide +kernel

end BlogSnapshot.Url
