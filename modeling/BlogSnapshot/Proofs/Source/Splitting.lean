import BlogSnapshot.Proofs.Text.Split
import BlogSnapshot.Source

/-! Documents and their parts. Splitting a document undoes joining it: the frontmatter block ends
where the closing line first occurs, even if the end of that line opens another one, and the body is
what follows, to the last character.
-/

namespace BlogSnapshot.SourceFile

open Text

/-- A document is made up of a frontmatter block and a body. The block with the start of the closing
line has no closing line in it, and trimming leaves something of the body.
-/
structure IsDocumentOf (contents block body : String) : Prop where
  joined : contents = "---\n" ++ block ++ "\n---\n" ++ body
  first : ¬ "\n---\n".toList <:+: (block ++ "\n---").toList
  body : body.trimBlanks ≠ ""

/-- The errors about texts that are no document: one that does not start with the opening line, one
in which no closing line follows it, and any other one.
-/
inductive NoDocument (contents : String) (path : Option String) : ContentError → Prop
  | noOpening (unopened : ¬ "---\n".toList <+: contents.toList)
      : NoDocument contents path ⟨.noOpening, path⟩
  | noClosing {rest : String} (opened : contents = "---\n" ++ rest)
      (unclosed : ¬ "\n---\n".toList <:+: rest.toList)
      : NoDocument contents path ⟨.noClosing, path⟩
  | emptyBody {rest : String} (opened : contents = "---\n" ++ rest)
      (closed : "\n---\n".toList <:+: rest.toList)
      (noParts : ∀ block body, ¬ IsDocumentOf contents block body)
      : NoDocument contents path ⟨.emptyBody, path⟩

/-- Splitting gives the parts of a document, of which there is one way to have them, and fails for
any other text.
-/
structure UndoesJoining (contents : String) (path : Option String) : Prop where
  parts
    : ∀ block body,
        split contents path = .ok (block, body) ↔ IsDocumentOf contents block body
  failure : ∀ e, split contents path = .error e ↔ NoDocument contents path e
  oneWay
    : ∀ block body block' body',
        IsDocumentOf contents block body
        → IsDocumentOf contents block' body'
        → block = block' ∧ body = body'

-----------------------------------------------------------------------------------------
-- The two cuts
-----------------------------------------------------------------------------------------

section

variable {contents rest block body : List Char}

theorem splitDocument_of_unopened (unopened : ¬ opening <+: contents)
    : splitDocument contents = .error .noOpening := by
  rw [splitDocument, afterLead?_eq_none_iff.mpr unopened]

theorem splitDocument_of_unclosed (unclosed : ¬ closing <:+: rest)
    : splitDocument (opening ++ rest) = .error .noClosing := by
  rw [splitDocument, afterLead?_eq_some_iff.mpr rfl]
  simp only
  rw [(cutAtText?_eq_none_iff (by decide)).mpr unclosed]

/-- A joined document is cut where it was joined, unless the block closes before. -/
theorem splitDocument_joinDocument (first : ¬ closing <:+: block ++ closing.dropLast)
    : splitDocument (joinDocument block body)
      = if allBlank body then .error .emptyBody else .ok (block, body) := by
  have cut : cutAtText? closing (block ++ closing ++ body) = some (block, body) :=
    (cutAtText?_eq_some_iff (by decide)).mpr ⟨rfl, first⟩
  have opened : afterLead? opening (joinDocument block body) = some (block ++ closing ++ body) :=
    afterLead?_eq_some_iff.mpr (by simp [joinDocument])
  rw [splitDocument, opened]
  simp only [cut]

theorem exists_joinDocument (closed : closing <:+: rest)
    : ∃ block body,
        opening ++ rest = joinDocument block body ∧ ¬ closing <:+: block ++ closing.dropLast := by
  cases cut : cutAtText? closing rest with
  | none => exact absurd closed ((cutAtText?_eq_none_iff (by decide)).mp cut)
  | some parts =>
      obtain ⟨joined, first⟩ := (cutAtText?_eq_some_iff (by decide)).mp cut
      exact ⟨parts.1, parts.2, by simp [joinDocument, joined], first⟩

end

-----------------------------------------------------------------------------------------
-- Documents
-----------------------------------------------------------------------------------------

section

variable {contents block body : String} {path : Option String} {e : ContentError}

theorem ne_empty_trimBlanks_iff : body.trimBlanks ≠ "" ↔ allBlank body.toList = false := by
  rw [← Bool.not_eq_true, ← trim_eq_nil_iff, String.trimBlanks, ne_eq, ← String.toList_inj,
    String.toList_ofList, String.toList_empty]

theorem IsDocumentOf.split_eq (h : IsDocumentOf contents block body) (path : Option String)
    : split contents path = .ok (block, body) := by
  have joined : contents.toList = joinDocument block.toList body.toList := by
    rw [h.joined]
    simp [joinDocument, opening, closing]
  have first : ¬ closing <:+: block.toList ++ closing.dropLast := by
    simpa [closing] using h.first
  rw [split, joined, splitDocument_joinDocument first, ne_empty_trimBlanks_iff.mp h.body]
  simp

/-- A text with both lines is a document, unless trimming leaves nothing of its body. -/
theorem exists_isDocumentOf_or_split_eq {rest : String} (opened : contents = "---\n" ++ rest)
    (closed : "\n---\n".toList <:+: rest.toList) (path : Option String)
    : (∃ block body, IsDocumentOf contents block body)
      ∨ split contents path = .error ⟨.emptyBody, path⟩ := by
  obtain ⟨block, body, joined, first⟩ := exists_joinDocument closed
  have same : contents.toList = joinDocument block body := by
    rw [← joined, opened]
    simp [opening]
  cases blank : allBlank body with
  | true =>
      right
      rw [split, same, splitDocument_joinDocument first, blank]
      simp
  | false =>
      refine .inl ⟨String.ofList block, String.ofList body, ?_, ?_, ?_⟩
      · rw [← String.toList_inj, same]
        simp [joinDocument, opening, closing]
      · simpa [closing] using first
      · rw [ne_empty_trimBlanks_iff, String.toList_ofList, blank]

/-- Splitting a text that is no document fails with the error about it. -/
theorem NoDocument.split_eq (h : NoDocument contents path e) : split contents path = .error e := by
  cases h with
  | noOpening unopened =>
      rw [split, splitDocument_of_unopened (by simpa [opening] using unopened)]
  | @noClosing rest opened unclosed =>
      have same : contents.toList = opening ++ rest.toList := by
        rw [opened]
        simp [opening]
      rw [split, same, splitDocument_of_unclosed (by simpa [closing] using unclosed)]
  | emptyBody opened closed noParts =>
      rcases exists_isDocumentOf_or_split_eq opened closed path with ⟨block, body, parts⟩ | fails
      · exact absurd parts (noParts block body)
      · exact fails

/-- There are no other texts. -/
theorem isDocumentOf_or_noDocument (contents : String) (path : Option String)
    : (∃ block body, IsDocumentOf contents block body) ∨ ∃ e, NoDocument contents path e := by
  by_cases starts : "---\n".toList <+: contents.toList
  case neg => exact .inr ⟨_, .noOpening starts⟩
  case pos =>
    obtain ⟨rest, follows⟩ := starts
    have opened : contents = "---\n" ++ String.ofList rest := by
      rw [← String.toList_inj, ← follows]
      simp
    by_cases closed : "\n---\n".toList <:+: (String.ofList rest).toList
    case neg => exact .inr ⟨_, .noClosing opened closed⟩
    case pos =>
      by_cases parts : ∃ block body, IsDocumentOf contents block body
      case pos => exact .inl parts
      case neg =>
        simp only [not_exists] at parts
        exact .inr ⟨_, .emptyBody opened closed parts⟩

/-- Each text is a document or has an error about it, and splitting gives what the text has, so it
gives nothing else.
-/
theorem undoesJoining (contents : String) (path : Option String)
    : UndoesJoining contents path where
  parts block body := by
    refine ⟨fun splits => ?_, fun h => h.split_eq path⟩
    rcases isDocumentOf_or_noDocument contents path with ⟨block', body', h⟩ | ⟨e, h⟩
    · cases splits.symm.trans (h.split_eq path)
      exact h
    · cases splits.symm.trans h.split_eq
  failure e := by
    refine ⟨fun fails => ?_, fun h => h.split_eq⟩
    rcases isDocumentOf_or_noDocument contents path with ⟨block, body, h⟩ | ⟨e', h⟩
    · cases fails.symm.trans (h.split_eq path)
    · cases fails.symm.trans h.split_eq
      exact h
  oneWay block body block' body' h h' := by
    cases (h.split_eq path).symm.trans (h'.split_eq path)
    exact ⟨rfl, rfl⟩

-- The end of the closing line opens another one, which belongs to the body.
example : split "---\n\n---\n---\nb" none = .ok ("", "---\nb") := by decide +kernel

end

end BlogSnapshot.SourceFile
