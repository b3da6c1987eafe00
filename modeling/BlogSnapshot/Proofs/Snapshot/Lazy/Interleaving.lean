import BlogSnapshot.Proofs.Snapshot.Lazy.Stages

/-! Accesses to a shared cell in any interleaving. Builds never overlap, none is begun after one has
succeeded, and the accesses end as they do one after another.
-/

namespace BlogSnapshot.LazyCell

variable {α ε : Type}

-----------------------------------------------------------------------------------------
-- Accesses one after another
-----------------------------------------------------------------------------------------

/-- One access more comes after all others, by induction on their number. -/
theorem getMany_succ (build : Nat → Except ε α) (n : Nat) (c : LazyCell α)
    : getMany build (n + 1) c
      = ((getMany build n c).1 ++ [((getMany build n c).2.get build).1],
          ((getMany build n c).2.get build).2) := by
  induction n generalizing c with
  | zero => rfl
  | succ n ih =>
      have first (m : Nat) : getMany build (m + 1) c
          = ((c.get build).1 :: (getMany build m (c.get build).2).1,
              (getMany build m (c.get build).2).2) := rfl
      rw [first (n + 1), ih, first n]
      rfl

namespace Shared

/-- The reader and the result of an access that ends. -/
def Event.result? : Event α ε → Option (Nat × Except ε (Option α))
  | .began _ _ => none
  | .ended reader result => some (reader, result)

/-- (Sequential build log cell) says that as many accesses as have ended in the log, made one after
another, have the same results and leave the cell.
-/
structure Sequential (build : Nat → Except ε α) (log : List (Event α ε)) (cell : LazyCell α)
    : Prop where
  results : (getMany build (log.filterMap Event.result?).length {}).1.map (Except.map some)
    = ((log.filterMap Event.result?).map Prod.snd).reverse
  left : (getMany build (log.filterMap Event.result?).length {}).2 = cell

section

variable {build : Nat → Except ε α} {log : List (Event α ε)} {s : Shared α ε} {cell : LazyCell α}
  {count : Nat} {value : α}

/-- A build that is begun is no result. -/
theorem Sequential.began (sequential : Sequential build log cell) (reader number : Nat)
    : Sequential build (.began reader number :: log) cell :=
  ⟨sequential.results, sequential.left⟩

/-- An access that ends with what the cell gives next is one access more. -/
theorem Sequential.ended (sequential : Sequential build log cell) (reader : Nat)
    {result : Except ε (Option α)} (next : (cell.get build).1.map some = result)
    : Sequential build (.ended reader result :: log) (cell.get build).2 := by
  have one : (.ended reader result :: log : List (Event α ε)).filterMap Event.result?
      = (reader, result) :: log.filterMap Event.result? := rfl
  constructor
  · simp only [one, List.length_cons, getMany_succ, sequential.left, List.map_append,
      sequential.results, List.map_cons, List.map_nil, next, List.reverse_cons]
  · rw [one, List.length_cons, getMany_succ, sequential.left]

/-- As many failed builds as accesses, one after another. -/
theorem AllFailed.sequential (failed : AllFailed build count log)
    : Sequential build log { builds := count } := by
  induction failed with
  | none => exact ⟨rfl, rfl⟩
  | @more count _ reader error _ failure ih =>
      have next : ({ builds := count } : LazyCell α).get build
          = (.error error, { builds := count + 1 }) := by
        simp only [LazyCell.get, failure]
      have ended := (ih.began reader (count + 1)).ended reader (congrArg (·.1.map some) next)
      rw [next] at ended
      exact ended

/-- After the build that succeeded, each access gives its value. -/
theorem Succeeded.sequential (succeeded : Succeeded build value count log)
    : ∃ cell, Sequential build log cell
      ∧ cell.get build = (.ok value, ⟨some value, count + 1⟩) := by
  induction succeeded with
  | built failed success =>
      refine ⟨{ builds := count }, failed.sequential.began _ _, ?_⟩
      simp only [LazyCell.get, success]
  | @read _ reader _ ih =>
      obtain ⟨cell, sequential, next⟩ := ih
      have ended := sequential.ended reader (congrArg (·.1.map some) next)
      rw [next] at ended
      exact ⟨_, ended, rfl⟩

-----------------------------------------------------------------------------------------
-- What each event has before it
-----------------------------------------------------------------------------------------

/-- (Follows build earlier event) says what an event has before it: only failed builds, if it begins
one; the build that gave its value, if it ends with one; and the build that its own reader has just
begun and that failed, if it ends with an error.
-/
def Follows (build : Nat → Except ε α) (earlier : List (Event α ε)) : Event α ε → Prop
  | .began _ number =>
      ∀ r n, .began r n ∈ earlier → n < number ∧ ∃ error, build n = .error error
  | .ended _ (.ok result) =>
      ∃ r n value, .began r n ∈ earlier ∧ build n = .ok value ∧ result = some value
  | .ended reader (.error error) =>
      ∃ n rest, earlier = .began reader n :: rest ∧ build n = .error error

/-- (Accounted build log) says what each event of the log has before it. -/
def Accounted (build : Nat → Except ε α) (log : List (Event α ε)) : Prop :=
  ∀ later event earlier, log = later ++ event :: earlier → Follows build earlier event

/-- One event more that has before it what it should. -/
theorem Accounted.cons (accounted : Accounted build log) {event : Event α ε}
    (follows : Follows build log event)
    : Accounted build (event :: log) := by
  intro later middle earlier split
  cases later with
  | nil =>
      obtain ⟨rfl, rfl⟩ := List.cons.inj split
      exact follows
  | cons _ later =>
      obtain ⟨rfl, rfl⟩ := List.cons.inj split
      exact accounted later middle earlier rfl

/-- Builds that have all failed are numbered up to their count. -/
theorem AllFailed.of_began (failed : AllFailed build count log) {reader number : Nat}
    (began : .began reader number ∈ log)
    : number < count + 1 ∧ ∃ error, build number = .error error := by
  induction failed with
  | none => exact nomatch began
  | @more count _ _ error _ failure ih =>
      rcases List.mem_cons.mp began with impossible | began
      · exact nomatch impossible
      rcases List.mem_cons.mp began with this | before
      · cases this
        exact ⟨by omega, error, failure⟩
      · obtain ⟨below, failed⟩ := ih before
        exact ⟨by omega, failed⟩

theorem AllFailed.follows (failed : AllFailed build count log) (reader : Nat)
    : Follows build log (.began reader (count + 1)) :=
  fun _ _ began => failed.of_began began

theorem AllFailed.accounted (failed : AllFailed build count log) : Accounted build log := by
  induction failed with
  | none =>
      intro later event earlier split
      simp at split
  | @more count earlier reader _ before failure ih =>
      exact (ih.cons (before.follows reader)).cons ⟨count + 1, earlier, rfl, failure⟩

/-- The one build that succeeded is in the log, and it is the last that was begun. -/
theorem Succeeded.last (succeeded : Succeeded build value count log)
    : build (count + 1) = .ok value ∧ ∃ reader, .began reader (count + 1) ∈ log
      ∧ ∀ r n, .began r n ∈ log
        → (r = reader ∧ n = count + 1) ∨ ∃ error, build n = .error error := by
  induction succeeded with
  | @built _ reader failed success =>
      refine ⟨success, reader, List.mem_cons_self, fun r n began => ?_⟩
      rcases List.mem_cons.mp began with this | before
      · cases this
        exact .inl ⟨rfl, rfl⟩
      · exact .inr (failed.of_began before).2
  | read _ ih =>
      obtain ⟨success, reader, began, last⟩ := ih
      refine ⟨success, reader, List.mem_cons_of_mem _ began, fun r n member => ?_⟩
      rcases List.mem_cons.mp member with impossible | before
      · exact nomatch impossible
      · exact last r n before

theorem Succeeded.accounted (succeeded : Succeeded build value count log)
    : Accounted build log := by
  induction succeeded with
  | @built _ reader failed _ => exact failed.accounted.cons (failed.follows reader)
  | read before ih =>
      obtain ⟨success, reader, began, -⟩ := before.last
      exact ih.cons ⟨reader, count + 1, value, began, success, rfl⟩

-----------------------------------------------------------------------------------------
-- Runs
-----------------------------------------------------------------------------------------

/-- A log is that of failed builds, with a build under way or not, or one with the build that
succeeded.
-/
theorem Invariant.log_cases (holds : Invariant build log s)
    : (∃ count, AllFailed build count log)
      ∨ (∃ reader count earlier, AllFailed build count earlier
        ∧ log = .began reader (count + 1) :: earlier)
      ∨ ∃ value count, Succeeded build value count log := by
  have of_settled (settled : Settled build log s.contents)
      : (∃ count, AllFailed build count log)
        ∨ (∃ reader count earlier, AllFailed build count earlier
          ∧ log = .began reader (count + 1) :: earlier)
        ∨ ∃ value count, Succeeded build value count log := by
    rcases settled with empty | ⟨-, value, count, -, -, succeeded⟩
    · exact .inl ⟨_, empty.failed⟩
    · exact .inr (.inr ⟨value, count, succeeded⟩)
  cases lock : s.holder with
  | none => exact of_settled (holds.free lock)
  | some reader =>
      have evidence := holds.held reader lock
      cases here : s.place reader <;> rw [here] at evidence
      case locked => exact of_settled evidence
      case calling => exact .inl ⟨_, evidence.failed⟩
      case building | storing | failing =>
        obtain ⟨count, _, begun⟩ := evidence
        obtain ⟨earlier, failed, seen⟩ := begun.seen
        exact .inr (.inl ⟨reader, count, earlier, failed, seen⟩)
      case flagging | leaving =>
        obtain ⟨_, value, count, _, _, succeeded⟩ := evidence
        exact .inr (.inr ⟨value, count, succeeded⟩)
      case outside | waiting | reading => exact evidence.elim

theorem Invariant.accounted (holds : Invariant build log s) : Accounted build log := by
  rcases holds.log_cases
    with ⟨_, failed⟩ | ⟨reader, _, _, failed, rfl⟩ | ⟨_, _, succeeded⟩
  · exact failed.accounted
  · exact failed.accounted.cons (failed.follows reader)
  · exact succeeded.accounted

/-- All builds but the last one have failed. -/
theorem Invariant.one_left (holds : Invariant build log s)
    : ∃ reader number, ∀ r n, .began r n ∈ log
      → (r = reader ∧ n = number) ∨ ∃ error, build n = .error error := by
  rcases holds.log_cases
    with ⟨count, failed⟩ | ⟨reader, count, _, failed, rfl⟩ | ⟨_, count, succeeded⟩
  · exact ⟨0, 0, fun _ _ began => .inr (failed.of_began began).2⟩
  · refine ⟨reader, count + 1, fun r n began => ?_⟩
    rcases List.mem_cons.mp began with this | before
    · cases this
      exact .inl ⟨rfl, rfl⟩
    · exact .inr (failed.of_began before).2
  · obtain ⟨-, reader, -, last⟩ := succeeded.last
    exact ⟨reader, count + 1, last⟩

theorem Invariant.sequential (holds : Invariant build log s)
    : ∃ cell, Sequential build log cell := by
  rcases holds.log_cases
    with ⟨_, failed⟩ | ⟨reader, _, _, failed, rfl⟩ | ⟨_, _, succeeded⟩
  · exact ⟨_, failed.sequential⟩
  · exact ⟨_, failed.sequential.began reader _⟩
  · obtain ⟨cell, sequential, -⟩ := succeeded.sequential
    exact ⟨cell, sequential⟩

/-- A step adds the result that is seen of it. -/
theorem step?_results {t : Shared α ε} {reader : Nat} (steps : s.step? build reader = some t)
    : t.results = (s.event? reader).toList.filterMap Event.result? ++ s.results := by
  cases here : s.place reader <;> simp only [step?, event?, here, Option.some.injEq] at steps ⊢
  case waiting =>
    split at steps
    · cases steps
    · exact Option.some.inj steps ▸ rfl
  case building number =>
    cases result : build number <;> simp only [result, Option.some.injEq] at steps
      <;> exact steps ▸ rfl
  all_goals exact steps ▸ rfl

/-- The results kept in the state are those of the log, by induction on the run. -/
theorem Run.results_eq (run : Run build log s) : s.results = log.filterMap Event.result? := by
  induction run with
  | fresh => rfl
  | step _ steps ih => rw [step?_results steps, ih, List.filterMap_append]

/-- Readers that take their steps in a given order make a run. -/
theorem Run.follow {readers : List Nat} (run : Run build log s) {after : List (Event α ε)}
    {t : Shared α ε} (reached : follow? build readers log s = some (after, t))
    : Run build after t := by
  induction readers generalizing log s with
  | nil =>
      obtain ⟨rfl, rfl⟩ := Prod.mk.inj (Option.some.inj reached)
      exact run
  | cons reader readers ih =>
      obtain ⟨next, steps, rest⟩ := Option.bind_eq_some_iff.mp reached
      exact ih (run.step steps) rest

/-- What holds of accesses to a cell in any interleaving. `log` has what was seen, the latest first,
and `s` is where the cell and its readers are. -/
structure OneBuild (build : Nat → Except ε α) (log : List (Event α ε)) (s : Shared α ε)
    : Prop where
  /-- No two builds overlap. -/
  apart : ∀ {r r' n n'}, s.place r = .building n → s.place r' = .building n' → r = r'
  /-- A build is begun only after failed ones. An access that ends with a value has that of a build
  that succeeded; one that ends with an error has that of the build that its reader began last.
  -/
  accounted : ∀ {later event earlier}, log = later ++ event :: earlier
    → Follows build earlier event
  /-- One build succeeds at most. -/
  unique : ∀ {r r' n n' value value'}, .began r n ∈ log → build n = .ok value
    → .began r' n' ∈ log → build n' = .ok value' → r = r' ∧ n = n'
  /-- The flag is set only when the value of that build is there. -/
  flagged : s.flag = true
    → ∃ r n value, .began r n ∈ log ∧ build n = .ok value ∧ s.value = some value
  /-- The results that are kept are those of the accesses that have ended. -/
  results : s.results = log.filterMap Event.result?
  /-- The same accesses, one after another in the order in which they ended, have these results. -/
  sequential : (getMany build s.results.length {}).1.map (Except.map some)
    = (s.results.map Prod.snd).reverse

/-- Readers of a fresh cell share one build, in whatever order they take their steps and whichever
builds fail.
-/
theorem Run.oneBuild (run : Run build log s) : OneBuild build log s := by
  have holds := run.invariant
  have results := run.results_eq
  refine ⟨?apart, fun split => holds.accounted _ _ _ split, ?unique, ?flagged, results, ?_⟩
  case apart =>
    intro r r' n n' here there
    have lock := (holds.evidence here id).1
    have lock' := (holds.evidence there id).1
    exact Option.some.inj (lock.symm.trans lock')
  case unique =>
    intro r r' n n' value value' began success began' success'
    -- Only the last build can have succeeded, so each of the two is that one.
    obtain ⟨reader, number, last⟩ := holds.one_left
    have is {r n : Nat} {value : α} (began : .began r n ∈ log) (success : build n = .ok value)
        : r = reader ∧ n = number := by
      rcases last r n began with same | ⟨error, failure⟩
      · exact same
      · exact nomatch success.symm.trans failure
    obtain ⟨rfl, rfl⟩ := is began success
    obtain ⟨rfl, rfl⟩ := is began' success'
    exact ⟨rfl, rfl⟩
  case flagged =>
    intro flagged
    obtain ⟨⟨value, count, set, -, succeeded⟩, -⟩ := holds.stored_of_flag flagged
    obtain ⟨success, reader, began, -⟩ := succeeded.last
    exact ⟨reader, count + 1, value, began, success, set⟩
  obtain ⟨cell, sequential⟩ := holds.sequential
  rw [results]
  exact sequential.results

/-- A build of which the first try fails. -/
def secondTry (number : Nat) : Except String String :=
  if number = 1 then .error "E" else .ok "V"

/-- Two readers wait for the lock. The first one's build fails, the second one's gives the value,
which the first then reads by the flag alone, and a third that has waited meanwhile under the lock.
-/
theorem Run.oneBuild_threeReaders
    : ∃ log s, Run secondTry log s
      ∧ s.results = [(2, .ok (some "V")), (1, .ok (some "V")), (0, .ok (some "V")), (0, .error "E")]
      ∧ OneBuild secondTry log s := by
  have reached : (follow? secondTry
      [0, 1, 0, 0, 0, 0, 0, 1, 1, 1, 1, 2, 1, 1, 0, 0, 1, 1, 2, 2, 2, 2] [] {}).isSome := by
    decide
  obtain ⟨⟨log, s⟩, reached⟩ := Option.isSome_iff_exists.mp reached
  have run : Run secondTry log s := Run.fresh.follow reached
  refine ⟨log, s, run, ?_, run.oneBuild⟩
  obtain rfl := congrArg Prod.snd (Option.some.inj reached)
  rfl

end

end Shared

end BlogSnapshot.LazyCell
