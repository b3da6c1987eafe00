import BlogSnapshot.Snapshot.Lazy

/-! What is asked of a lazy cell, request after request, and what is answered.
-/

namespace BlogSnapshot.LazyCell

/-- What can be asked of a cell: its value, whether the value is there, and how many builds have
begun.
-/
inductive Request where
  | get
  | loaded
  | builds
  deriving DecidableEq, Repr

/-- What is answered: the value or the error of a build, or what was asked about the cell. -/
inductive Answer (α ε : Type) where
  | got (result : Except ε α)
  | loaded (b : Bool)
  | builds (count : Nat)

variable {α ε : Type}

/-- The answer to a request, and the cell after it. -/
def handle (build : Nat → Except ε α) (c : LazyCell α) : Request → Answer α ε × LazyCell α
  | .get =>
      let (result, c) := c.get build
      (.got result, c)
  | .loaded => (.loaded c.loaded, c)
  | .builds => (.builds c.builds, c)

/-- The answers to requests in a row, and the cell after them. -/
def handleAll (build : Nat → Except ε α) (c : LazyCell α)
    : List Request → List (Answer α ε) × LazyCell α
  | [] => ([], c)
  | request :: requests =>
      let (answer, c) := c.handle build request
      let (answers, c) := handleAll build c requests
      (answer :: answers, c)

end BlogSnapshot.LazyCell
