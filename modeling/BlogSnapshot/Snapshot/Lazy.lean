/-! A value that is built on first access. A build that fails is tried again on the next access;
after one that succeeds the value stays.
-/

namespace BlogSnapshot

/-- A cell for a value that is built on demand, with the count of builds begun. -/
structure LazyCell (α : Type) where
  value : Option α := none
  builds : Nat := 0
  deriving DecidableEq, Repr

namespace LazyCell

variable {α ε : Type}

/-- Whether the value is there. -/
def loaded (c : LazyCell α) : Bool :=
  c.value.isSome

/-- The value, which `build` makes if it is not there. The count of builds is passed on, the
first build being number 1.
-/
def get (build : Nat → Except ε α) (c : LazyCell α) : Except ε α × LazyCell α :=
  match c.value with
  | some v => (.ok v, c)
  | none =>
      match build (c.builds + 1) with
      | .ok v => (.ok v, ⟨some v, c.builds + 1⟩)
      | .error e => (.error e, ⟨none, c.builds + 1⟩)

/-- Several accesses, one after another. -/
def getMany (build : Nat → Except ε α) : Nat → LazyCell α → List (Except ε α) × LazyCell α
  | 0, c => ([], c)
  | n + 1, c =>
      let (r, c) := c.get build
      let (rs, c) := getMany build n c
      (r :: rs, c)

end LazyCell

end BlogSnapshot
