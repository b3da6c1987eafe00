import BlogSnapshot.Html.Clean

/-! What a clean page is: every element and every attribute is one that the allow list names,
every link is relative or of an allowed scheme, and there is no comment.
-/

namespace BlogSnapshot.Html

/-- A link leads to somewhere relative to the page, or to an address of an allowed scheme. -/
def LinkAllowed (link : String) : Prop :=
  Url.Target.of link.toList = .relative
    ∨ ∃ scheme ∈ allowedSchemes, Url.Target.of link.toList = .absolute scheme

/-- An attribute has a name that the allow list gives to an element of the word, or it is the
relation of a link; and if its value is an address, that one is allowed.
-/
def AttributeAllowed (word : String) (a : Attribute) : Prop :=
  (a.1 ∈ commonAttributes ∨ a.1 ∈ ownAttributes word ∨ (word = "a" ∧ a = linkRelation))
    ∧ (a.1 ∈ linkAttributes → LinkAllowed a.2)

mutual

/-- A node and all below it are allowed. -/
def Node.Allowed : Node → Prop
  | .text _ => True
  | .comment _ => False
  | .element name attributes children =>
      name.word ∈ allowedWords
      ∧ (∀ a ∈ attributes, AttributeAllowed name.word a)
      ∧ ForestAllowed children

/-- Every node of a row is allowed. -/
def ForestAllowed : List Node → Prop
  | [] => True
  | node :: rest => node.Allowed ∧ ForestAllowed rest

end

end BlogSnapshot.Html
