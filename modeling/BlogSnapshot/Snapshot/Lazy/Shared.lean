import BlogSnapshot.Snapshot.Lazy

/-! A lazy cell that several readers use at once. An access is a row of steps, and between two
steps of one reader others may take theirs. A reader that finds the flag unset takes the lock,
looks at the flag again, and builds only if it is still unset; the value is stored before the flag
is set.
-/

namespace BlogSnapshot.LazyCell

/-- Where a reader is within an access. From `locked` to `leaving` and `failing` it holds the
lock.
-/
inductive Place (α ε : Type) where
  | outside
  | waiting
  | locked
  | calling
  | building (number : Nat)
  | storing (value : α)
  | flagging
  | leaving
  | failing (error : ε)
  | reading
  deriving DecidableEq, Repr

/-- What is seen of an access: that it begins a build, and that it ends. -/
inductive Event (α ε : Type) where
  | began (reader number : Nat)
  | ended (reader : Nat) (result : Except ε (Option α))

/-- A cell with its flag and its lock, the builds that have begun, the place of each reader, and
the results of all accesses that have ended, the latest first.
-/
structure Shared (α ε : Type) where
  value : Option α := none
  flag : Bool := false
  holder : Option Nat := none
  builds : Nat := 0
  place : Nat → Place α ε := fun _ => .outside
  results : List (Nat × Except ε (Option α)) := []

namespace Shared

variable {α ε : Type}

/-- The state after a reader has gone to a place. -/
def goTo (s : Shared α ε) (reader : Nat) (place : Place α ε) : Shared α ε :=
  { s with place := fun r => if r = reader then place else s.place r }

/-- The state after a reader has ended its access with a result. -/
def finish (s : Shared α ε) (reader : Nat) (result : Except ε (Option α)) : Shared α ε :=
  { s with results := (reader, result) :: s.results }.goTo reader .outside

/-- The next step of a reader, unless it waits for a lock that is held. A build is begun in one
step and ends in another; its result depends on its number, the first being number 1.
-/
def step? (build : Nat → Except ε α) (s : Shared α ε) (reader : Nat) : Option (Shared α ε) :=
  match s.place reader with
  | .outside => some (s.goTo reader (if s.flag then .reading else .waiting))
  | .waiting =>
      if s.holder.isSome then none
      else some ({ s with holder := some reader }.goTo reader .locked)
  | .locked => some (s.goTo reader (if s.flag then .leaving else .calling))
  | .calling =>
      some ({ s with builds := s.builds + 1 }.goTo reader (.building (s.builds + 1)))
  | .building number =>
      match build number with
      | .ok value => some (s.goTo reader (.storing value))
      | .error error => some (s.goTo reader (.failing error))
  | .storing value => some ({ s with value := some value }.goTo reader .flagging)
  | .flagging => some ({ s with flag := true }.goTo reader .leaving)
  | .leaving => some ({ s with holder := none }.goTo reader .reading)
  | .failing error => some ({ s with holder := none }.finish reader (.error error))
  | .reading => some (s.finish reader (.ok s.value))

/-- What is seen of the next step of a reader: that it begins a build, or that its access ends. -/
def event? (s : Shared α ε) (reader : Nat) : Option (Event α ε) :=
  match s.place reader with
  | .calling => some (.began reader (s.builds + 1))
  | .failing error => some (.ended reader (.error error))
  | .reading => some (.ended reader (.ok s.value))
  | _ => none

/-- The log and the state after readers have taken a step each, in the order in which they are
named.
-/
def follow? (build : Nat → Except ε α)
    : List Nat → List (Event α ε) → Shared α ε → Option (List (Event α ε) × Shared α ε)
  | [], log, s => some (log, s)
  | reader :: readers, log, s => do
      let next ← s.step? build reader
      follow? build readers ((s.event? reader).toList ++ log) next

/-- The states that readers reach from a fresh cell by steps in any order, each with what has been
seen on the way to it, the latest first.
-/
inductive Run (build : Nat → Except ε α) : List (Event α ε) → Shared α ε → Prop
  | fresh : Run build [] {}
  | step {log : List (Event α ε)} {s next : Shared α ε} {reader : Nat} :
      Run build log s → s.step? build reader = some next
      → Run build ((s.event? reader).toList ++ log) next

end Shared

end BlogSnapshot.LazyCell
