import BlogSnapshot.Proofs.Resolution.Corpus
import BlogSnapshot.Proofs.Resolution.Reference
import BlogSnapshot.Proofs.Resolution.Spelling
import BlogSnapshot.Proofs.Text.SmallLetters

/-! The keys of authors. A key is the normal form of an email: its own key, and the same for all
emails that differ in blanks around them. The authors of a corpus are stored under their keys, so an
author is found by its own email and by each email of its key, and by no other one.
-/

namespace BlogSnapshot

open Declaration ParsedSource

-----------------------------------------------------------------------------------------
-- Normal forms
-----------------------------------------------------------------------------------------

/-- A key is its own key: lower case of a trimmed text is trimmed and in lower case. -/
theorem authorKey_authorKey (email : String) : authorKey (authorKey email) = authorKey email := by
  have trimmed := (Text.isTrimmed_trim email.toList).lower
  rw [authorKey, authorKey, String.lowerFull, String.lowerFull, String.trimBlanks,
    String.trimBlanks, String.toList_ofList, String.toList_ofList, String.toList_ofList,
    trimmed.trim_eq, Text.lower_lower]

/-- Blanks around an email do not change its key. -/
theorem authorKey_surrounded {before after : String} (email : String)
    (front : before.isAllBlank = true) (back : after.isAllBlank = true)
    : authorKey (before ++ email ++ after) = authorKey email := by
  rw [authorKey, authorKey, String.trimBlanks, String.trimBlanks, String.toList_append,
    String.toList_append, Text.trim_surrounded email.toList front back]

-----------------------------------------------------------------------------------------
-- Authors of a corpus
-----------------------------------------------------------------------------------------

/-- Sources without conflicts among their authors, their categories and their tags. -/
structure ParsedSource.ConflictFree (settings : Settings) (builtAt : Moment)
    (sources : List ParsedSource) : Prop where
  authors : (Resolution.authors sources).conflicts = []
  categories : (Resolution.categories settings builtAt sources).conflicts = []
  tags : (Resolution.tags settings builtAt sources).conflicts = []

/-- Sources without conflicts are consistent. -/
theorem ParsedSource.ConflictFree.consistent {settings : Settings} {builtAt : Moment}
    {sources : List ParsedSource} (free : ConflictFree settings builtAt sources)
    : Consistent settings sources := by
  obtain ⟨authors, categories, tags⟩ := free
  rw [Resolution.authors, resolve_conflicts, conflictsOf_eq_nil_iff] at authors
  rw [Resolution.categories, resolve_conflicts, conflictsOf_eq_nil_iff] at categories
  rw [Resolution.tags, resolve_conflicts, conflictsOf_eq_nil_iff] at tags
  exact ⟨authors, categories, tags⟩

/-- The authors of sources are found by the keys of emails: each by its own email, by exactly the
emails of its key, and none for an email whose key no source has.
-/
structure Entities.FindsByKey (sources : List ParsedSource) (e : Entities) : Prop where
  own : ∀ a ∈ e.authors, e.authorFor? a.email = some a
  found : ∀ email a, e.authorFor? email = some a ↔ a ∈ e.authors ∧ a.email = authorKey email
  missing
    : ∀ email,
        e.authorFor? email = none
          ↔ ∀ s ∈ sources, authorKey s.frontmatter.author.email ≠ authorKey email

namespace Entities

variable {settings : Settings} {builtAt : Moment} {sources : List ParsedSource}

/-- The authors of a corpus have distinct emails. -/
theorem nodup_map_email_authors (sources : List ParsedSource)
    : ((Resolution.authors sources).entities.map Author.email).Nodup :=
  (resolve_entities_ascending _ _ _ fun _ _ _ => rfl).nodup

/-- The author that is found for an email is the one under its key. -/
theorem authorFor?_ofFolds_eq_some_iff (email : String) (a : Author)
    : (ofFolds settings builtAt sources).authorFor? email = some a
      ↔ a ∈ (ofFolds settings builtAt sources).authors ∧ a.email = authorKey email :=
  find?_key_eq_some_iff (nodup_map_email_authors sources) (authorKey email) a

/-- The emails of authors are keys. -/
theorem authorKey_email_of_mem {a : Author}
    (member : a ∈ (ofFolds settings builtAt sources).authors)
    : authorKey a.email = a.email := by
  have declared : a.email ∈ (Resolution.authors sources).entities.map Author.email :=
    List.mem_map_of_mem member
  rw [Resolution.authors, mem_map_key_resolve_entities _ _ _ (fun _ _ _ => rfl), map_key_author]
    at declared
  obtain ⟨s, _, same⟩ := List.mem_map.mp declared
  rw [← same, authorKey_authorKey]

/-- The authors of a corpus are found by the keys of emails. -/
theorem findsByKey_ofFolds : (ofFolds settings builtAt sources).FindsByKey sources where
  own a member :=
    (authorFor?_ofFolds_eq_some_iff a.email a).mpr ⟨member, (authorKey_email_of_mem member).symm⟩
  found := authorFor?_ofFolds_eq_some_iff
  missing email := by
    have there : ((ofFolds settings builtAt sources).authorFor? email).isSome
        ↔ authorKey email ∈ authorKeys sources :=
      Post.Tables.author?_isSome settings builtAt sources email
    rw [← Option.not_isSome_iff_eq_none, there, authorKeys, List.mem_map]
    simp

end Entities

/-- A key is the normal form of an email, and so the authors of sources without conflicts are found
by the keys of emails.
-/
theorem found_by_normalForm
    : (∀ email, authorKey (authorKey email) = authorKey email)
      ∧ (∀ before email after : String,
          before.isAllBlank = true
          → after.isAllBlank = true
          → authorKey (before ++ email ++ after) = authorKey email)
      ∧ ∀ (settings : Settings) (builtAt : Moment) (sources : List ParsedSource),
          ConflictFree settings builtAt sources
          → ∃ e, Entities.resolve settings builtAt sources = .ok e ∧ e.FindsByKey sources :=
  ⟨authorKey_authorKey, fun _ email _ => authorKey_surrounded email,
    fun _ _ _ free =>
      ⟨_, Entities.resolve_of_consistent free.consistent, Entities.findsByKey_ofFolds⟩⟩

/-- Two sources of one author, whose email ends a word in a capital sigma in the first one and in
its final form in the second one. The dot of the first letter becomes a character of its own.
-/
def sigmaSources : List ParsedSource :=
  [
    labelledSource "a.md" ⟨"N", " İΣ@X"⟩ ⟨"C", "c", none⟩ ⟨"G", "g", none⟩,
    labelledSource "b.md" ⟨"N ", "i\u0307ς@x\u3000"⟩ ⟨"C", "c", none⟩ ⟨"G", "g", none⟩
  ]

/-- The two sources have one author, which is found by its key. -/
theorem found_by_normalForm_sigma
    : ("\t".isAllBlank = true
        ∧ "\n".isAllBlank = true
        ∧ authorKey ("\t" ++ "İΣ@X" ++ "\n") = authorKey "İΣ@X")
      ∧ ConflictFree {} { date := .epoch } sigmaSources
      ∧ ∃ e, Entities.resolve {} { date := .epoch } sigmaSources = .ok e
          ∧ e.FindsByKey sigmaSources := by
  have front : "\t".isAllBlank = true := by decide
  have back : "\n".isAllBlank = true := by decide
  have free : ConflictFree {} { date := .epoch } sigmaSources :=
    ⟨by decide +kernel, by decide +kernel, by decide +kernel⟩
  exact ⟨⟨front, back, found_by_normalForm.2.1 _ _ _ front back⟩, free,
    found_by_normalForm.2.2 _ _ _ free⟩

-- Both emails have the same key.
example : sigmaSources.map (fun s => authorKey s.frontmatter.author.email)
    = ["i\u0307ς@x", "i\u0307ς@x"] := by
  decide +kernel

end BlogSnapshot
