import BlogSnapshot.Snapshot.Lazy.Shared

/-! What a shared cell and its log are between any two steps of its readers. The place of the
reader that holds the lock tells how far the cell is; readers without the lock leave it as it is.
-/

namespace BlogSnapshot.LazyCell.Shared

variable {α ε : Type}

-----------------------------------------------------------------------------------------
-- How far a cell is
-----------------------------------------------------------------------------------------

/-- (AllFailed build count log) says the log is that of as many builds as counted, each of which
failed and so ended the access that began it.
-/
inductive AllFailed (build : Nat → Except ε α) : Nat → List (Event α ε) → Prop
  | none : AllFailed build 0 []
  | more {count : Nat} {earlier : List (Event α ε)} {reader : Nat} {error : ε} :
      AllFailed build count earlier → build (count + 1) = .error error
      → AllFailed build (count + 1)
          (.ended reader (.error error) :: .began reader (count + 1) :: earlier)

/-- (Succeeded build value count log) says that after as many failed builds as counted one gave
the value, and that every access that has ended since then gave it too.
-/
inductive Succeeded (build : Nat → Except ε α) (value : α) (count : Nat)
    : List (Event α ε) → Prop
  | built {earlier : List (Event α ε)} {reader : Nat} :
      AllFailed build count earlier → build (count + 1) = .ok value
      → Succeeded build value count (.began reader (count + 1) :: earlier)
  | read {earlier : List (Event α ε)} {reader : Nat} :
      Succeeded build value count earlier
      → Succeeded build value count (.ended reader (.ok (some value)) :: earlier)

/-- The value of a cell, its flag, and the count of its builds. -/
structure Contents (α : Type) where
  value : Option α
  flag : Bool
  builds : Nat

/-- What is in a cell, whoever reads it. -/
def contents (s : Shared α ε) : Contents α :=
  ⟨s.value, s.flag, s.builds⟩

/-- The cell is unset, and all builds so far have failed. -/
structure Empty (build : Nat → Except ε α) (log : List (Event α ε)) (cell : Contents α)
    : Prop where
  unset : cell.value = none
  unflagged : cell.flag = false
  failed : AllFailed build cell.builds log

/-- The cell is unset, and the reader has begun a build after as many failed ones as counted. -/
structure Begun (build : Nat → Except ε α) (log : List (Event α ε)) (cell : Contents α)
    (reader count : Nat)
    : Prop where
  unset : cell.value = none
  unflagged : cell.flag = false
  counted : cell.builds = count + 1
  seen : ∃ earlier, AllFailed build count earlier ∧ log = .began reader (count + 1) :: earlier

/-- The cell has the value of the one build that succeeded. -/
def Stored (build : Nat → Except ε α) (log : List (Event α ε)) (cell : Contents α) : Prop :=
  ∃ value count, cell.value = some value ∧ cell.builds = count + 1
    ∧ Succeeded build value count log

/-- No build is under way: the cell is unset, or its value and its flag are set. -/
def Settled (build : Nat → Except ε α) (log : List (Event α ε)) (cell : Contents α) : Prop :=
  Empty build log cell ∨ (cell.flag = true ∧ Stored build log cell)

/-- What the place of the reader that holds the lock says about the cell. -/
def Evidence (build : Nat → Except ε α) (log : List (Event α ε)) (cell : Contents α)
    (reader : Nat)
    : Place α ε → Prop
  | .locked => Settled build log cell
  | .calling => Empty build log cell
  | .building number => ∃ count, number = count + 1 ∧ Begun build log cell reader count
  | .storing value =>
      ∃ count, build (count + 1) = .ok value ∧ Begun build log cell reader count
  | .flagging => cell.flag = false ∧ Stored build log cell
  | .leaving => cell.flag = true ∧ Stored build log cell
  | .failing error =>
      ∃ count, build (count + 1) = .error error ∧ Begun build log cell reader count
  | .outside | .waiting | .reading => False

/-- Where a reader can be without the lock. It reads the value only if the flag is set. -/
def Unheld (flag : Bool) : Place α ε → Prop
  | .outside | .waiting => True
  | .reading => flag = true
  | _ => False

/-- What holds between any two steps: a free lock means that no build is under way, the holder of
the lock is as far as the cell, and all other readers are where they need no lock.
-/
structure Invariant (build : Nat → Except ε α) (log : List (Event α ε)) (s : Shared α ε)
    : Prop where
  free : s.holder = none → Settled build log s.contents
  held : ∀ reader, s.holder = some reader
    → Evidence build log s.contents reader (s.place reader)
  unheld : ∀ reader, s.holder ≠ some reader → Unheld s.flag (s.place reader)

-----------------------------------------------------------------------------------------
-- The places of the readers
-----------------------------------------------------------------------------------------

section

variable {build : Nat → Except ε α} {log : List (Event α ε)} {s t : Shared α ε}
  {reader other : Nat} {place : Place α ε} {result : Except ε (Option α)}

@[simp] theorem goTo_place_self : (s.goTo reader place).place reader = place := by
  simp [goTo]

theorem goTo_place_other (distinct : other ≠ reader)
    : (s.goTo reader place).place other = s.place other := by
  simp [goTo, distinct]

@[simp] theorem finish_place_self : (s.finish reader result).place reader = .outside :=
  goTo_place_self

theorem finish_place_other (distinct : other ≠ reader)
    : (s.finish reader result).place other = s.place other :=
  goTo_place_other distinct

/-- A reader at a place that needs the lock holds it, so its place tells how far the cell is. -/
theorem Invariant.evidence (holds : Invariant build log s) (here : s.place reader = place)
    (needed : ¬ Unheld s.flag place)
    : s.holder = some reader ∧ Evidence build log s.contents reader place := by
  subst here
  have lock : s.holder = some reader :=
    Decidable.of_not_not fun absent => needed (holds.unheld reader absent)
  exact ⟨lock, holds.held reader lock⟩

/-- A reader at a place that needs no lock does not hold it. -/
theorem Invariant.holder_ne (holds : Invariant build log s) (here : s.place reader = place)
    (unneeded : ¬ Evidence build log s.contents reader place)
    : s.holder ≠ some reader := by
  subst here
  exact fun lock => unneeded (holds.held reader lock)

/-- Once the flag is set, the value stays: no build is under way, and the holder of the lock only
has to look at the flag or to leave.
-/
theorem Invariant.stored_of_flag (holds : Invariant build log s) (flagged : s.flag = true)
    : Stored build log s.contents
      ∧ ∀ r, s.holder = some r → s.place r = .locked ∨ s.place r = .leaving := by
  have settled {r : Nat} (held : s.holder = some r)
      : Stored build log s.contents ∧ (s.place r = .locked ∨ s.place r = .leaving) := by
    have evidence := holds.held r held
    cases here : s.place r <;> rw [here] at evidence
    case locked =>
      rcases evidence with empty | full
      · exact absurd (flagged.symm.trans empty.unflagged) (by decide)
      · exact ⟨full.2, .inl rfl⟩
    case leaving => exact ⟨evidence.2, .inr rfl⟩
    case calling => exact absurd (flagged.symm.trans evidence.unflagged) (by decide)
    case flagging => exact absurd (flagged.symm.trans evidence.1) (by decide)
    case building | storing | failing =>
      obtain ⟨_, _, begun⟩ := evidence
      exact absurd (flagged.symm.trans begun.unflagged) (by decide)
    case outside | waiting | reading => exact evidence.elim
  refine ⟨?_, fun r held => (settled held).2⟩
  cases lock : s.holder with
  | none =>
      rcases holds.free lock with empty | full
      · exact absurd (flagged.symm.trans empty.unflagged) (by decide)
      · exact full.2
  | some r => exact (settled lock).1

-----------------------------------------------------------------------------------------
-- Steps
-----------------------------------------------------------------------------------------

variable {seen : List (Event α ε)}

/-- A step of a reader without the lock that only changes its place. -/
theorem Invariant.goTo_unheld (holds : Invariant build log s)
    (absent : s.holder ≠ some reader) (allowed : Unheld s.flag place)
    : Invariant build log (s.goTo reader place) where
  free := holds.free
  held r lock := by
    have distinct : r ≠ reader := fun same => absent (same ▸ lock)
    rw [goTo_place_other distinct]
    exact holds.held r lock
  unheld r lock := by
    by_cases same : r = reader
    · rw [same, goTo_place_self]
      exact allowed
    · rw [goTo_place_other same]
      exact holds.unheld r lock

/-- A step of the reader that holds the lock and keeps it. -/
theorem Invariant.of_holder (holds : Invariant build log s) (lock : s.holder = some reader)
    (kept : t.holder = some reader) (flag : s.flag = true → t.flag = true)
    (others : ∀ r, r ≠ reader → t.place r = s.place r)
    (evidence : Evidence build seen t.contents reader (t.place reader))
    : Invariant build seen t where
  free unlocked := absurd (unlocked.symm.trans kept) (by simp)
  held r held := by
    obtain rfl : reader = r := Option.some.inj (kept.symm.trans held)
    exact evidence
  unheld r absent := by
    have distinct : r ≠ reader := fun same => absent (same ▸ kept)
    rw [others r distinct]
    have before := holds.unheld r fun held =>
      distinct (Option.some.inj (held.symm.trans lock))
    -- What a reader needs of the flag is only that it is set.
    cases here : s.place r <;> rw [here] at before <;> try exact before
    exact flag before

/-- A step of the reader that holds the lock and gives it up. -/
theorem Invariant.of_release (holds : Invariant build log s) (lock : s.holder = some reader)
    (released : t.holder = none) (flag : t.flag = s.flag)
    (others : ∀ r, r ≠ reader → t.place r = s.place r) (allowed : Unheld t.flag (t.place reader))
    (settled : Settled build seen t.contents)
    : Invariant build seen t where
  free _ := settled
  held r held := absurd (released.symm.trans held) (by simp)
  unheld r _ := by
    by_cases same : r = reader
    · rw [same]
      exact allowed
    · rw [others r same, flag]
      exact holds.unheld r fun held => same (Option.some.inj (held.symm.trans lock))

/-- A reader that takes the free lock finds that no build is under way. -/
theorem Invariant.acquire (holds : Invariant build log s) (unlocked : s.holder = none)
    : Invariant build log ({ s with holder := some reader }.goTo reader .locked) where
  free kept := nomatch kept
  held r held := by
    obtain rfl : reader = r := Option.some.inj held
    rw [goTo_place_self]
    exact holds.free unlocked
  unheld r absent := by
    have distinct : r ≠ reader := fun same => absent (same ▸ rfl)
    rw [goTo_place_other distinct]
    exact holds.unheld r (by simp [unlocked])

/-- A holder of the lock that finds the flag set has nothing to build. -/
theorem Invariant.look (holds : Invariant build log s) (here : s.place reader = .locked)
    : Invariant build log (s.goTo reader (if s.flag then .leaving else .calling)) := by
  obtain ⟨lock, settled⟩ := holds.evidence here id
  refine holds.of_holder lock lock id (fun r distinct => goTo_place_other distinct) ?_
  rw [goTo_place_self]
  rcases settled with empty | full
  · have unflagged : s.flag = false := empty.unflagged
    rw [unflagged]
    exact empty
  · have flagged : s.flag = true := full.1
    rw [flagged]
    exact full

/-- A build is begun only after all builds so far have failed. -/
theorem Invariant.begin (holds : Invariant build log s) (here : s.place reader = .calling)
    : Invariant build (.began reader (s.builds + 1) :: log)
        ({ s with builds := s.builds + 1 }.goTo reader (.building (s.builds + 1))) := by
  obtain ⟨lock, empty⟩ := holds.evidence here id
  refine holds.of_holder lock lock id (fun r distinct => goTo_place_other distinct) ?_
  rw [goTo_place_self]
  exact ⟨s.builds, rfl, empty.unset, empty.unflagged, rfl, log, empty.failed, rfl⟩

/-- A build ends with the result that its number gives. -/
theorem Invariant.built (holds : Invariant build log s) {number : Nat}
    (here : s.place reader = .building number)
    : (∀ value, build number = .ok value → Invariant build log (s.goTo reader (.storing value)))
      ∧ ∀ error, build number = .error error
        → Invariant build log (s.goTo reader (.failing error)) := by
  obtain ⟨lock, count, rfl, begun⟩ := holds.evidence here id
  have move (place : Place α ε) (evidence : Evidence build log s.contents reader place)
      : Invariant build log (s.goTo reader place) :=
    holds.of_holder lock lock id (fun r distinct => goTo_place_other distinct)
      (goTo_place_self ▸ evidence)
  constructor
  · intro value success
    exact move (.storing value) ⟨count, success, begun⟩
  · intro error failure
    exact move (.failing error) ⟨count, failure, begun⟩

/-- The value of the build that succeeded is stored before the flag is set. -/
theorem Invariant.store (holds : Invariant build log s) {value : α}
    (here : s.place reader = .storing value)
    : Invariant build log ({ s with value := some value }.goTo reader .flagging) := by
  obtain ⟨lock, count, success, begun⟩ := holds.evidence here id
  refine holds.of_holder lock lock id (fun r distinct => goTo_place_other distinct) ?_
  rw [goTo_place_self]
  obtain ⟨earlier, failed, rfl⟩ := begun.seen
  exact ⟨begun.unflagged, value, count, rfl, begun.counted, .built failed success⟩

/-- A set flag means that the value is stored. -/
theorem Invariant.raise (holds : Invariant build log s) (here : s.place reader = .flagging)
    : Invariant build log ({ s with flag := true }.goTo reader .leaving) := by
  obtain ⟨lock, -, stored⟩ := holds.evidence here id
  refine holds.of_holder lock lock (fun _ => rfl) (fun r distinct => goTo_place_other distinct) ?_
  rw [goTo_place_self]
  exact ⟨rfl, stored⟩

/-- A holder of the lock leaves it with the value there. -/
theorem Invariant.leave (holds : Invariant build log s) (here : s.place reader = .leaving)
    : Invariant build log ({ s with holder := none }.goTo reader .reading) := by
  obtain ⟨lock, full⟩ := holds.evidence here id
  refine holds.of_release lock rfl rfl (fun r distinct => goTo_place_other distinct) ?_ (.inr full)
  rw [goTo_place_self]
  exact full.1

/-- A failed build leaves the cell as it was, but for the count of builds. -/
theorem Invariant.fail (holds : Invariant build log s) {error : ε}
    (here : s.place reader = .failing error)
    : Invariant build (.ended reader (.error error) :: log)
        ({ s with holder := none }.finish reader (.error error)) := by
  obtain ⟨lock, count, failure, begun⟩ := holds.evidence here id
  refine holds.of_release lock rfl rfl (fun r distinct => finish_place_other distinct) ?_ (.inl ?_)
  · rw [finish_place_self]
    trivial
  · obtain ⟨earlier, failed, rfl⟩ := begun.seen
    have counted : s.builds = count + 1 := begun.counted
    refine ⟨begun.unset, begun.unflagged, ?_⟩
    show AllFailed build s.builds _
    rw [counted]
    exact .more failed failure

/-- A reader that reads the value gets that of the build that succeeded. -/
theorem Invariant.read (holds : Invariant build log s) (here : s.place reader = .reading)
    : Invariant build (.ended reader (.ok s.value) :: log)
        (s.finish reader (.ok s.value)) := by
  have absent := holds.holder_ne here id
  have flagged : s.flag = true := by
    have allowed := holds.unheld reader absent
    rwa [here] at allowed
  -- The holder of the lock, if there is one, may only be where a longer log still fits its place.
  obtain ⟨⟨value, count, set, counted, succeeded⟩, places⟩ := holds.stored_of_flag flagged
  have stored : Stored build (.ended reader (.ok s.value) :: log) s.contents := by
    refine ⟨value, count, set, counted, ?_⟩
    rw [show s.value = some value from set]
    exact .read succeeded
  constructor
  · intro _
    exact .inr ⟨flagged, stored⟩
  · intro r lock
    have distinct : r ≠ reader := fun same => absent (same ▸ lock)
    rw [finish_place_other distinct]
    rcases places r lock with locked | leaving
    · rw [locked]
      exact .inr ⟨flagged, stored⟩
    · rw [leaving]
      exact ⟨flagged, stored⟩
  · intro r lock
    by_cases same : r = reader
    · rw [same, finish_place_self]
      trivial
    · rw [finish_place_other same]
      exact holds.unheld r lock

/-- A step of any reader keeps the invariant, by the place of the reader. -/
theorem Invariant.step (holds : Invariant build log s) (steps : s.step? build reader = some t)
    : Invariant build ((s.event? reader).toList ++ log) t := by
  cases here : s.place reader <;> simp only [step?, event?, here, Option.some.injEq] at steps ⊢
  case outside =>
    subst steps
    refine holds.goTo_unheld (holds.holder_ne here id) ?_
    cases flag : s.flag
    · trivial
    · rfl
  case waiting =>
    split at steps
    · exact nomatch steps
    · rename_i unlocked
      obtain rfl := Option.some.inj steps
      exact holds.acquire (by simpa using unlocked)
  case locked => exact steps ▸ holds.look here
  case calling => exact steps ▸ holds.begin here
  case building number =>
    cases result : build number <;> simp only [result, Option.some.injEq] at steps
    case ok value => exact steps ▸ (holds.built here).1 value result
    case error error => exact steps ▸ (holds.built here).2 error result
  case storing value => exact steps ▸ holds.store here
  case flagging => exact steps ▸ holds.raise here
  case leaving => exact steps ▸ holds.leave here
  case failing error => exact steps ▸ holds.fail here
  case reading => exact steps ▸ holds.read here

/-- Every run keeps the invariant, by induction on it. -/
theorem Run.invariant (run : Run build log s) : Invariant build log s := by
  induction run with
  | fresh =>
      constructor
      · intro _
        exact .inl ⟨rfl, rfl, .none⟩
      · intro _ held
        exact nomatch held
      · intro _ _
        trivial
  | step _ steps ih => exact ih.step steps

end

end BlogSnapshot.LazyCell.Shared
