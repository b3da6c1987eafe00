import BlogSnapshot.Data

/-! A whole list as a single page.
-/

namespace BlogSnapshot

/-- A page of items with its number, its capacity and the count of all items. -/
structure Page (α : Type) where
  data : List α
  total : Nat
  page : Nat
  perPage : Nat
  deriving DecidableEq, Repr

namespace Page

/-- All items as page 1 of 1. An empty page has room for one item. -/
def ofList {α : Type} (items : List α) : Page α :=
  ⟨items, items.length, 1, max items.length 1⟩

def toData {α : Type} (item : α → Data) (p : Page α) : Data :=
  .record [
    ("data", .list (p.data.map item)), ("total", .int p.total), ("page", .int p.page),
    ("per_page", .int p.perPage)
  ]

end Page

end BlogSnapshot
