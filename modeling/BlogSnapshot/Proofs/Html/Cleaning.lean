import BlogSnapshot.Html.Allowed

/-! What cleaning leaves of a page is allowed, whatever the page is, at any depth; so it can do no
harm: it runs no script, and no link of it does.
-/

namespace BlogSnapshot.Html

-----------------------------------------------------------------------------------------
-- Elements at any depth
-----------------------------------------------------------------------------------------

mutual

/-- The start tags of a node and of all below it: names with attributes. -/
def Node.tags : Node → List (ElementName × List Attribute)
  | .text _ => []
  | .comment _ => []
  | .element name attributes children => (name, attributes) :: forestTags children

/-- The start tags of nodes in a row and of all below them. -/
def forestTags : List Node → List (ElementName × List Attribute)
  | [] => []
  | node :: rest => node.tags ++ forestTags rest

end

/-- Nothing in a page runs a script: there is no script and no style, no attribute handles an event,
and the link of no attribute that is checked is a script. Every element is one of HTML.
-/
structure Harmless (forest : List Node) : Prop where
  elements : ∀ tag ∈ forestTags forest, tag.1.space = .html ∧ tag.1.word ∉ droppedWords
  handlers : ∀ tag ∈ forestTags forest, ∀ a ∈ tag.2, ¬ ['o', 'n'] <+: a.1.toList
  links
    : ∀ tag ∈ forestTags forest, ∀ a ∈ tag.2, a.1 ∈ linkAttributes →
        Url.Target.of a.2.toList ≠ .absolute "javascript"

-----------------------------------------------------------------------------------------
-- What is kept
-----------------------------------------------------------------------------------------

/-- A link that may stay is allowed. -/
theorem linkAllowed_of_isAllowedLink {link : String} (allowed : isAllowedLink link)
    : LinkAllowed link := by
  unfold isAllowedLink at allowed
  split at allowed
  case h_1 relative => exact .inl relative
  case h_2 scheme absolute => exact .inr ⟨scheme, by simpa using allowed, absolute⟩
  case h_3 => cases allowed

/-- An attribute that may stay is allowed. -/
theorem attributeAllowed_of_isAllowedAttribute {word : String} {a : Attribute}
    (allowed : isAllowedAttribute word a)
    : AttributeAllowed word a := by
  obtain ⟨named, checked⟩ := Bool.and_eq_true_iff.mp allowed
  constructor
  · rcases Bool.or_eq_true_iff.mp named with common | own
    · exact .inl (by simpa using common)
    · exact .inr (.inl (by simpa using own))
  · intro isLink
    have isChecked : linkAttributes.contains a.1 = true := List.contains_iff_mem.mpr isLink
    rw [isChecked, Bool.not_true, Bool.false_or] at checked
    exact linkAllowed_of_isAllowedLink checked

/-- The relation of a link is allowed, and is no address. -/
theorem attributeAllowed_linkRelation : AttributeAllowed "a" linkRelation :=
  ⟨.inr (.inr ⟨rfl, rfl⟩), fun isLink => absurd isLink (by decide)⟩

/-- What an element keeps of its attributes is allowed. -/
theorem attributeAllowed_of_kept {word : String} {attributes : List Attribute} {a : Attribute}
    (kept : a ∈ keptAttributes word attributes)
    : AttributeAllowed word a := by
  rcases List.mem_append.mp kept with own | added
  · exact attributeAllowed_of_isAllowedAttribute (List.mem_filter.mp own).2
  · split at added
    case isTrue isLink =>
      obtain rfl := List.mem_singleton.mp added
      exact isLink ▸ attributeAllowed_linkRelation
    case isFalse => cases added

/-- An element that is kept is one of HTML, for the root of a drawing or of a formula is no allowed
element.
-/
theorem space_eq_html_of_kept {name : ElementName} (kept : isDropped name = false)
    (allowed : name.word ∈ allowedWords)
    : name.space = .html := by
  obtain ⟨space, word⟩ := name
  have inHtml := (Bool.or_eq_false_iff.mp kept).2
  cases space with
  | html => rfl
  | svg =>
      obtain rfl : word = "svg" := by simpa using inHtml
      exact absurd allowed (by decide)
  | math =>
      obtain rfl : word = "math" := by simpa using inHtml
      exact absurd allowed (by decide)

-----------------------------------------------------------------------------------------
-- Clean pages
-----------------------------------------------------------------------------------------

theorem forestAllowed_append {left right : List Node} (hl : ForestAllowed left)
    (hr : ForestAllowed right)
    : ForestAllowed (left ++ right) := by
  induction left with
  | nil => exact hr
  | cons node rest ih => exact ⟨hl.1, ih hl.2⟩

theorem forestTags_append (left right : List Node)
    : forestTags (left ++ right) = forestTags left ++ forestTags right := by
  induction left with
  | nil => rfl
  | cons node rest ih => rw [List.cons_append, forestTags, forestTags, ih, List.append_assoc]

mutual

/-- What is left of a node is allowed: by cases on whether it goes, stays or opens up. -/
theorem Node.clean_allowed (node : Node) : ForestAllowed node.clean := by
  cases node with
  | text content => exact ⟨trivial, trivial⟩
  | comment content => exact trivial
  | element name attributes children =>
      unfold Node.clean
      split
      · exact trivial
      split
      case isTrue inList =>
        have allowed : name.word ∈ allowedWords := List.contains_iff_mem.mp inList
        exact ⟨⟨allowed, fun a => attributeAllowed_of_kept, cleanForest_allowed children⟩, trivial⟩
      case isFalse => exact cleanForest_allowed children

/-- What is left of nodes in a row is allowed. -/
theorem cleanForest_allowed (forest : List Node) : ForestAllowed (cleanForest forest) := by
  cases forest with
  | nil => exact trivial
  | cons node rest => exact forestAllowed_append node.clean_allowed (cleanForest_allowed rest)

end

mutual

/-- A start tag that is left of a node is one that was kept. -/
theorem Node.exists_kept_of_mem_tags (node : Node) {tag : ElementName × List Attribute}
    (member : tag ∈ forestTags node.clean)
    : ∃ name attributes, isDropped name = false
        ∧ name.word ∈ allowedWords
        ∧ tag = (name, keptAttributes name.word attributes) := by
  cases node with
  | text content => simp [Node.clean, forestTags, Node.tags] at member
  | comment content => simp [Node.clean, forestTags] at member
  | element name attributes children =>
      unfold Node.clean at member
      split at member
      · simp [forestTags] at member
      case isFalse kept =>
        split at member
        case isTrue inList =>
          simp only [forestTags, Node.tags, List.append_nil] at member
          rcases List.mem_cons.mp member with rfl | inside
          · exact ⟨name, attributes, by simpa using kept, List.contains_iff_mem.mp inList, rfl⟩
          · exact exists_kept_of_mem_forestTags children inside
        case isFalse => exact exists_kept_of_mem_forestTags children member

/-- A start tag that is left of nodes in a row is one that was kept. -/
theorem exists_kept_of_mem_forestTags (forest : List Node)
    {tag : ElementName × List Attribute} (member : tag ∈ forestTags (cleanForest forest))
    : ∃ name attributes, isDropped name = false
        ∧ name.word ∈ allowedWords
        ∧ tag = (name, keptAttributes name.word attributes) := by
  cases forest with
  | nil => simp [cleanForest, forestTags] at member
  | cons node rest =>
      rw [cleanForest, forestTags_append] at member
      rcases List.mem_append.mp member with first | later
      · exact node.exists_kept_of_mem_tags first
      · exact exists_kept_of_mem_forestTags rest later

end

-----------------------------------------------------------------------------------------
-- Clean pages are harmless
-----------------------------------------------------------------------------------------

/-- The further attributes that the elements have, all together. -/
def ownNames : List String :=
  [
    "href", "hreflang", "dir", "cite", "align", "char", "charoff", "span", "datetime", "size",
    "width", "alt", "height", "src", "start", "summary", "colspan", "headers", "rowspan", "scope"
  ]

theorem ownAttributes_subset (word : String) : ownAttributes word ⊆ ownNames := by
  unfold ownAttributes
  split <;> simp [ownNames]

/-- No attribute that the allow list names handles an event. -/
theorem not_handler_of_allowed {word : String} {a : Attribute} (allowed : AttributeAllowed word a)
    : ¬ ['o', 'n'] <+: a.1.toList := by
  rcases allowed.1 with common | own | ⟨_, rfl⟩
  · have none : ∀ name ∈ commonAttributes, ¬ ['o', 'n'] <+: name.toList := by decide
    exact none a.1 common
  · have none : ∀ name ∈ ownNames, ¬ ['o', 'n'] <+: name.toList := by decide
    exact none a.1 (ownAttributes_subset word own)
  · decide

/-- A link that is allowed is no script. -/
theorem not_script_of_allowed {link : String} (allowed : LinkAllowed link)
    : Url.Target.of link.toList ≠ .absolute "javascript" := by
  rintro isScript
  rcases allowed with relative | ⟨scheme, inList, absolute⟩
  · cases relative.symm.trans isScript
  · cases absolute.symm.trans isScript
    exact absurd inList (by decide)

/-- A clean page is harmless. -/
theorem harmless_cleanForest (forest : List Node) : Harmless (cleanForest forest) where
  elements := by
    intro tag member
    obtain ⟨name, attributes, kept, allowed, rfl⟩ := exists_kept_of_mem_forestTags forest member
    have apart : ∀ word ∈ allowedWords, word ∉ droppedWords := by decide
    exact ⟨space_eq_html_of_kept kept allowed, apart name.word allowed⟩
  handlers := by
    intro tag member a inTag
    obtain ⟨name, attributes, _, _, rfl⟩ := exists_kept_of_mem_forestTags forest member
    exact not_handler_of_allowed (attributeAllowed_of_kept inTag)
  links := by
    intro tag member a inTag isLink
    obtain ⟨name, attributes, _, _, rfl⟩ := exists_kept_of_mem_forestTags forest member
    exact not_script_of_allowed ((attributeAllowed_of_kept inTag).2 isLink)

end BlogSnapshot.Html
