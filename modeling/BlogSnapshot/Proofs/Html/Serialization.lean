import BlogSnapshot.Proofs.Html.Cleaning
import BlogSnapshot.Proofs.Text.Split

/-! What the text of an allowed page says about the page. A text that begins with a start tag is
that of a page which has an element with the first attribute of that tag.
-/

namespace BlogSnapshot.Html

open Text (part_eq_of_append_eq part_eq_of_mark)

-----------------------------------------------------------------------------------------
-- Escaped texts
-----------------------------------------------------------------------------------------

/-- The form of a character begins with a character, which is no bracket. -/
theorem exists_escapedChar_eq (quoted : Bool) (c : Char)
    : ∃ d rest, escapedChar quoted c = d :: rest ∧ d ≠ '<' := by
  unfold escapedChar
  split_ifs <;> simp_all

/-- The form of a character in a value has no quote. -/
theorem quote_not_mem_escapedChar (c : Char) : '"' ∉ escapedChar true c := by
  unfold escapedChar
  split_ifs <;> simp_all [eq_comm]

/-- A form without ampersand is the character itself. -/
theorem escapedChar_of_plain {quoted : Bool} {c : Char} (plain : '&' ∉ escapedChar quoted c)
    : escapedChar quoted c = [c] := by
  unfold escapedChar at plain ⊢
  split_ifs at plain ⊢ <;> simp_all

theorem toList_escaped (quoted : Bool) (s : String)
    : (escaped quoted s).toList = s.toList.flatMap (escapedChar quoted) :=
  String.toList_ofList

/-- A value without ampersands in its form is its form. -/
theorem escaped_of_plain {quoted : Bool} {s : String} (plain : '&' ∉ (escaped quoted s).toList)
    : (escaped quoted s).toList = s.toList := by
  rw [toList_escaped] at plain ⊢
  have forms : s.toList.map (escapedChar quoted) = s.toList.map fun c => [c] := by
    apply List.map_congr_left
    intro c member
    exact escapedChar_of_plain fun inForm => plain (List.mem_flatMap.mpr ⟨c, member, inForm⟩)
  rw [List.flatMap_def, forms, ← List.flatMap_def, List.flatMap_singleton']

-----------------------------------------------------------------------------------------
-- Start tags
-----------------------------------------------------------------------------------------

/-- The attributes of a start tag, as they are written. -/
def attributesText (attributes : List Attribute) : List Char :=
  attributes.flatMap fun a => (renderAttribute a).toList

theorem attributesText_cons (a : Attribute) (rest : List Attribute)
    : attributesText (a :: rest)
      = ' ' :: (a.1.toList
          ++ '=' :: '"' :: ((escaped true a.2).toList ++ '"' :: attributesText rest)) := by
  simp [attributesText, renderAttribute]

theorem toList_renderStart (name : ElementName) (attributes : List Attribute)
    : (renderStart name attributes).toList
      = '<' :: (name.word.toList ++ (attributesText attributes ++ ['>'])) := by
  simp [renderStart, attributesText, List.flatMap_map]

/-- The text of a page that begins with an element begins with its start tag. -/
theorem exists_text_of_element (name : ElementName) (attributes : List Attribute)
    (children rest : List Node)
    : ∃ more,
        (renderForest (.element name attributes children :: rest)).toList
          = '<' :: (name.word.toList ++ (attributesText attributes ++ '>' :: more)) := by
  rw [renderForest, Node.render, String.toList_append]
  split
  · exact ⟨(renderForest rest).toList, by simp [toList_renderStart]⟩
  · exact ⟨(renderForest children).toList ++ ("</" ++ name.word ++ ">" ++ renderForest rest).toList,
      by simp [toList_renderStart]⟩

/-- The text of a page that begins with a text begins with its form, and so with no bracket. -/
theorem text_eq_nil_of_bracket {content : String} {rest : List Node} {more : List Char}
    (text : (renderForest (.text content :: rest)).toList = '<' :: more)
    : (renderForest rest).toList = '<' :: more := by
  rw [renderForest, Node.render, String.toList_append, toList_escaped] at text
  cases chars : content.toList with
  | nil => simpa [chars] using text
  | cons c cs =>
      obtain ⟨d, form, begins, noBracket⟩ := exists_escapedChar_eq false c
      rw [chars, List.flatMap_cons, begins] at text
      exact absurd (List.cons.inj text).1 noBracket

/-- Neither a blank nor a bracket is in the word of an allowed element. -/
theorem word_plain_of_allowed {word : String} (allowed : word ∈ allowedWords)
    : ∀ c ∈ word.toList, (c ≠ ' ' && c ≠ '>') = true := by
  have plain : allowedWords.all (·.toList.all fun c => c ≠ ' ' && c ≠ '>') := by decide
  exact List.all_eq_true.mp (List.all_eq_true.mp plain word allowed)

/-- No equals sign is in the name of an allowed attribute. -/
theorem equals_not_mem_of_allowed {word : String} {a : Attribute}
    (allowed : AttributeAllowed word a)
    : '=' ∉ a.1.toList := by
  rcases allowed.1 with common | own | ⟨_, rfl⟩
  · have none : ∀ name ∈ commonAttributes, '=' ∉ name.toList := by decide
    exact none a.1 common
  · have none : ∀ name ∈ ownNames, '=' ∉ name.toList := by decide
    exact none a.1 (ownAttributes_subset word own)
  · decide

/-- A start tag that is written with an attribute has this attribute first: the word ends at the
first blank or bracket, the name at the first equals sign and the value at the first quote.
-/
theorem exists_attribute_of_startText {word : String} {attributes : List Attribute}
    (inList : word ∈ allowedWords) (allowed : ∀ a ∈ attributes, AttributeAllowed word a)
    {tag name value after more : List Char}
    (tagPlain : ∀ c ∈ tag, (c ≠ ' ' && c ≠ '>') = true) (namePlain : '=' ∉ name)
    (valuePlain : '"' ∉ value ∧ '&' ∉ value)
    (same
      : word.toList ++ (attributesText attributes ++ '>' :: after)
        = tag ++ ' ' :: (name ++ '=' :: '"' :: (value ++ '"' :: more)))
    : ∃ a ∈ attributes, a.1.toList = name ∧ a.2.toList = value := by
  have wordPlain := word_plain_of_allowed inList
  cases attributes with
  | nil =>
      obtain ⟨_, ends, _⟩ := part_eq_of_append_eq wordPlain tagPlain rfl rfl same
      exact absurd ends (by decide)
  | cons a rest =>
      have equals := equals_not_mem_of_allowed (allowed a (by simp))
      have quotes : '"' ∉ (escaped true a.2).toList := by
        rw [toList_escaped]
        intro member
        obtain ⟨c, _, inForm⟩ := List.mem_flatMap.mp member
        exact quote_not_mem_escapedChar c inForm
      simp only [attributesText_cons, List.cons_append, List.append_assoc] at same
      obtain ⟨_, _, named⟩ := part_eq_of_append_eq wordPlain tagPlain rfl rfl same
      obtain ⟨sameName, valued⟩ := part_eq_of_mark equals namePlain named
      obtain ⟨sameValue, _⟩ := part_eq_of_mark quotes valuePlain.1 (List.cons.inj valued).2
      have plain : '&' ∉ (escaped true a.2).toList := sameValue ▸ valuePlain.2
      exact ⟨a, by simp, sameName, (escaped_of_plain plain).symm.trans sameValue⟩

/-- A page of allowed nodes whose text begins with a start tag has an element with the first
attribute of the tag, by induction on the texts that are empty in front of it.
-/
theorem exists_attribute_of_text {forest : List Node} (allowed : ForestAllowed forest)
    {tag name value more : List Char} (tagPlain : ∀ c ∈ tag, (c ≠ ' ' && c ≠ '>') = true)
    (namePlain : '=' ∉ name) (valuePlain : '"' ∉ value ∧ '&' ∉ value)
    (text
      : (renderForest forest).toList
        = '<' :: (tag ++ ' ' :: (name ++ '=' :: '"' :: (value ++ '"' :: more))))
    : ∃ t ∈ forestTags forest, ∃ a ∈ t.2, a.1.toList = name ∧ a.2.toList = value := by
  induction forest with
  | nil => simp [renderForest] at text
  | cons node rest ih =>
      obtain ⟨nodeAllowed, restAllowed⟩ := allowed
      cases node with
      | text content =>
          obtain ⟨t, member, found⟩ := ih restAllowed (text_eq_nil_of_bracket text)
          exact ⟨t, List.mem_append_right _ member, found⟩
      | comment content => exact nodeAllowed.elim
      | element elementName attributes children =>
          obtain ⟨inList, attributesAllowed, _⟩ := nodeAllowed
          obtain ⟨after, begins⟩ := exists_text_of_element elementName attributes children rest
          have same := (List.cons.inj (begins.symm.trans text)).2
          obtain ⟨a, member, found⟩ := exists_attribute_of_startText inList attributesAllowed
            tagPlain namePlain valuePlain same
          exact ⟨(elementName, attributes), by simp [forestTags, Node.tags], a, member, found⟩

end BlogSnapshot.Html
