import BlogSnapshot.Snapshot.Lazy.Requests
import Mathlib.Data.List.Induction

/-! A lazy cell over all that is asked of it, one request after another. Every request for the value
begins a build until one succeeds; from then on no build is begun, and all requests for the value
get that of the first success.
-/

namespace BlogSnapshot.LazyCell

variable {α ε : Type} {build : Nat → Except ε α} {requests before : List Request} {value : α}
  {n : Nat}

/-- The build with the number is the first one that succeeds, and gives the value. -/
structure FirstSuccess (build : Nat → Except ε α) (n : Nat) (value : α) : Prop where
  positive : 0 < n
  succeeds : build n = .ok value
  failsBefore : ∀ m, 0 < m → m < n → ∃ error, build m = .error error

/-- No other build is the first one that succeeds. -/
theorem FirstSuccess.unique {n' : Nat} {value' : α} (first : FirstSuccess build n value)
    (other : FirstSuccess build n' value')
    : n = n' := by
  rcases Nat.lt_trichotomy n n' with less | same | more
  · obtain ⟨error, fails⟩ := other.failsBefore n first.positive less
    exact nomatch first.succeeds.symm.trans fails
  · exact same
  · obtain ⟨error, fails⟩ := first.failsBefore n' other.positive more
    exact nomatch other.succeeds.symm.trans fails

-----------------------------------------------------------------------------------------
-- Requests in a row
-----------------------------------------------------------------------------------------

/-- A fresh cell after requests. -/
def after (build : Nat → Except ε α) (requests : List Request) : LazyCell α :=
  (handleAll build {} requests).2

/-- What a fresh cell answers to requests. -/
def answers (build : Nat → Except ε α) (requests : List Request) : List (Answer α ε) :=
  (handleAll build {} requests).1

/-- What is answered to a request after others. -/
def answerAfter (build : Nat → Except ε α) (before : List Request) (request : Request)
    : Answer α ε :=
  ((after build before).handle build request).1

/-- A request for the value has got one. -/
def Served (build : Nat → Except ε α) (before : List Request) : Prop :=
  ∃ value, .got (.ok value) ∈ answers build before

/-- Requests are answered one after another, by induction on those that come first. -/
theorem handleAll_append (build : Nat → Except ε α) (c : LazyCell α) (first rest : List Request)
    : handleAll build c (first ++ rest)
      = ((handleAll build c first).1 ++ (handleAll build (handleAll build c first).2 rest).1,
          (handleAll build (handleAll build c first).2 rest).2) := by
  induction first generalizing c with
  | nil => rfl
  | cons request first ih =>
      have later := ih (c.handle build request).2
      have answers := congrArg (fun r => (c.handle build request).1 :: r.1) later
      have cell := congrArg Prod.snd later
      exact Prod.ext answers cell

theorem after_concat (build : Nat → Except ε α) (before : List Request) (request : Request)
    : after build (before ++ [request]) = ((after build before).handle build request).2 := by
  rw [after, handleAll_append]
  rfl

theorem answers_concat (build : Nat → Except ε α) (before : List Request) (request : Request)
    : answers build (before ++ [request])
      = answers build before ++ [answerAfter build before request] := by
  rw [answers, handleAll_append]
  rfl

/-- Every request has one answer, by induction on the requests from their end. -/
theorem length_answers (build : Nat → Except ε α) (requests : List Request)
    : (answers build requests).length = requests.length := by
  induction requests using List.reverseRecOn with
  | nil => rfl
  | append_singleton before request ih => simp [answers_concat, ih]

/-- Among the answers to requests, that to one of them depends on those before it alone. -/
theorem answers_getElem? (build : Nat → Except ε α) (before : List Request) (request : Request)
    (later : List Request)
    : (answers build (before ++ request :: later))[before.length]?
      = some (answerAfter build before request) := by
  have first : (answers build before).length = before.length := length_answers build before
  rw [answers, handleAll_append]
  change (answers build before ++ answerAfter build before request :: _)[before.length]? = _
  rw [List.getElem?_append_right (Nat.le_of_eq first), first, Nat.sub_self,
    List.getElem?_cons_zero]

-----------------------------------------------------------------------------------------
-- How far a cell is
-----------------------------------------------------------------------------------------

/-- The cell is unset: each request for the value has begun a build, and all of these failed. -/
structure Unset (build : Nat → Except ε α) (requests : List Request) : Prop where
  cell : after build requests = ⟨none, requests.count .get⟩
  failed : ∀ n, 0 < n → n ≤ requests.count .get → ∃ error, build n = .error error
  unanswered : ¬ Served build requests

/-- The cell holds the value of the first build that succeeds, and nothing else has been got. -/
structure Filled (build : Nat → Except ε α) (requests : List Request) (n : Nat) (value : α)
    : Prop where
  cell : after build requests = ⟨some value, n⟩
  first : FirstSuccess build n value
  reached : n ≤ requests.count .get
  answered : ∀ v, .got (.ok v) ∈ answers build requests ↔ v = value

/-- What is got from an unset cell is the result of the build with the number of the request. -/
theorem Unset.get (unset : Unset build before)
    : (after build before).get build
      = (build (before.count .get + 1),
          ⟨(build (before.count .get + 1)).toOption, before.count .get + 1⟩) := by
  rw [unset.cell, LazyCell.get]
  cases build (before.count .get + 1) <;> rfl

/-- A filled cell gives its value and stays as it is. -/
theorem Filled.get (filled : Filled build before n value)
    : (after build before).get build = (.ok value, after build before) := by
  rw [filled.cell]
  rfl

/-- A value has been got before a request or is the answer to it. -/
theorem got_mem_concat (build : Nat → Except ε α) (before : List Request) (request : Request)
    (v : α)
    : .got (.ok v) ∈ answers build (before ++ [request])
      ↔ .got (.ok v) ∈ answers build before
        ∨ answerAfter build before request = .got (.ok v) := by
  rw [answers_concat, List.mem_append, List.mem_singleton, eq_comm (a := Answer.got _)]

/-- Whoever asks a cell about itself gets no value and changes nothing. -/
theorem handle_of_ne_get (build : Nat → Except ε α) {request : Request} (other : request ≠ .get)
    (c : LazyCell α)
    : (c.handle build request).2 = c
      ∧ ∀ result, (c.handle build request).1 ≠ .got result := by
  cases request with
  | get => exact absurd rfl other
  | loaded | builds => exact ⟨rfl, nofun⟩

theorem count_concat_get (before : List Request)
    : (before ++ [Request.get]).count .get = before.count .get + 1 := by
  simp

theorem count_concat_of_ne_get {request : Request} (other : request ≠ .get)
    (before : List Request)
    : (before ++ [request]).count .get = before.count .get := by
  simp [other]

/-- An unset cell that is asked about itself stays unset. -/
theorem Unset.other (unset : Unset build before) {request : Request} (other : request ≠ .get)
    : Unset build (before ++ [request]) := by
  obtain ⟨kept, nothing⟩ := handle_of_ne_get build other (after build before)
  constructor
  · rw [after_concat, kept, unset.cell, count_concat_of_ne_get other]
  · rw [count_concat_of_ne_get other]
    exact unset.failed
  · rintro ⟨v, got⟩
    rcases (got_mem_concat build before request v).mp got with earlier | here
    · exact unset.unanswered ⟨v, earlier⟩
    · exact nothing _ here

/-- An unset cell stays unset by a build that fails. -/
theorem Unset.fails (unset : Unset build before) {error : ε}
    (fails : build (before.count .get + 1) = .error error)
    : Unset build (before ++ [.get]) := by
  constructor
  · rw [after_concat, handle, unset.get, fails, count_concat_get]
    rfl
  · intro n positive atMost
    rw [count_concat_get] at atMost
    rcases Nat.lt_or_eq_of_le atMost with earlier | rfl
    · exact unset.failed n positive (Nat.le_of_lt_succ earlier)
    · exact ⟨error, fails⟩
  · rintro ⟨v, got⟩
    rcases (got_mem_concat build before .get v).mp got with earlier | here
    · exact unset.unanswered ⟨v, earlier⟩
    · rw [answerAfter, handle, unset.get, fails] at here
      cases here

/-- An unset cell is filled by a build that succeeds, which is the first one. -/
theorem Unset.succeeds (unset : Unset build before)
    (succeeds : build (before.count .get + 1) = .ok value)
    : Filled build (before ++ [.get]) (before.count .get + 1) value := by
  constructor
  · rw [after_concat, handle, unset.get, succeeds]
    rfl
  · refine ⟨Nat.succ_pos _, succeeds, fun m positive less => ?_⟩
    exact unset.failed m positive (Nat.le_of_lt_succ less)
  · exact Nat.le_of_eq (count_concat_get before).symm
  · intro v
    have nothing : ¬ .got (.ok v) ∈ answers build before := fun got => unset.unanswered ⟨v, got⟩
    rw [got_mem_concat, or_iff_right nothing, answerAfter, handle, unset.get, succeeds]
    simp [eq_comm]

/-- A filled cell stays as it is, whatever it is asked. -/
theorem Filled.step (filled : Filled build before n value) (request : Request)
    : Filled build (before ++ [request]) n value := by
  have kept : ((after build before).handle build request).2 = after build before := by
    cases request with
    | get => rw [handle, filled.get]
    | loaded | builds => rfl
  have count : before.count .get ≤ (before ++ [request]).count .get := by simp
  refine ⟨?_, filled.first, Nat.le_trans filled.reached count, fun v => ?_⟩
  · rw [after_concat, kept, filled.cell]
  · have same (here : answerAfter build before request = .got (.ok v)) : v = value := by
      cases request with
      | get =>
          rw [answerAfter, handle, filled.get] at here
          cases here
          rfl
      | loaded | builds => cases here
    rw [got_mem_concat, filled.answered]
    exact or_iff_left_of_imp same

/-- A cell is unset until the first build that succeeds fills it, by induction on the requests from
their end.
-/
theorem unset_or_filled (build : Nat → Except ε α) (requests : List Request)
    : Unset build requests ∨ ∃ n value, Filled build requests n value := by
  induction requests using List.reverseRecOn with
  | nil =>
      left
      refine ⟨rfl, fun n positive none => ?_, ?_⟩
      · exact absurd positive (Nat.not_lt.mpr none)
      · rintro ⟨v, got⟩
        cases got
  | append_singleton before request ih =>
      rcases ih with unset | ⟨n, value, filled⟩
      · by_cases other : request = .get
        · subst other
          cases result : build (before.count .get + 1) with
          | error error => exact .inl (unset.fails result)
          | ok value => exact .inr ⟨_, value, unset.succeeds result⟩
        · exact .inl (unset.other other)
      · exact .inr ⟨n, value, filled.step request⟩

theorem Filled.served (filled : Filled build before n value) : Served build before :=
  ⟨value, (filled.answered value).mpr rfl⟩

/-- A cell from which no value has been got is unset. -/
theorem unset_of_not_served (unserved : ¬ Served build before) : Unset build before := by
  rcases unset_or_filled build before with unset | ⟨n, value, filled⟩
  · exact unset
  · exact absurd filled.served unserved

/-- A cell from which a value has been got is filled with it. -/
theorem exists_filled_of_got (got : .got (.ok value) ∈ answers build before)
    : ∃ n, Filled build before n value := by
  rcases unset_or_filled build before with unset | ⟨n, other, filled⟩
  · exact absurd ⟨value, got⟩ unset.unanswered
  · rw [(filled.answered value).mp got]
    exact ⟨n, filled⟩

/-- The first success is still to come while the cell is unset. -/
theorem Unset.count_lt (unset : Unset build before) (first : FirstSuccess build n value)
    : before.count .get < n := by
  by_contra reached
  obtain ⟨error, failed⟩ := unset.failed n first.positive (Nat.not_lt.mp reached)
  exact nomatch first.succeeds.symm.trans failed

-----------------------------------------------------------------------------------------
-- What every request finds
-----------------------------------------------------------------------------------------

/-- (BuildsUntilSuccess build before) says what a request finds that comes after others. `α` may be
any type, so that the value that is kept may also be an absent one.
-/
structure BuildsUntilSuccess (build : Nat → Except ε α) (before : List Request) : Prop where
  /-- Each request has its answer, which those after it do not change. -/
  answered : ∀ request later,
    (answers build (before ++ request :: later))[before.length]?
      = some (answerAfter build before request)
  /-- A request for the value begins a build exactly if none before it has got a value. -/
  begins : (after build (before ++ [.get])).builds = (after build before).builds + 1
    ↔ ¬ Served build before
  /-- Then it gets the result of its own build, whose number is its own among the requests for the
  value, and only a success leaves the value there.
  -/
  own : ¬ Served build before
    → (after build (before ++ [.get])).builds = before.count .get + 1
      ∧ answerAfter build before .get = .got (build (before.count .get + 1))
      ∧ (after build (before ++ [.get])).loaded = (build (before.count .get + 1)).isOk
  /-- Otherwise it gets the value that all before it have got, and changes nothing. -/
  kept : ∀ value, .got (.ok value) ∈ answers build before
    → answerAfter build before .get = .got (.ok value)
      ∧ after build (before ++ [.get]) = after build before
  /-- The value is there exactly if a request before has got it. -/
  loaded : ∃ b, answerAfter build before .loaded = .loaded b ∧ (b = true ↔ Served build before)
  /-- Other requests change nothing. -/
  idle : ∀ request, request ≠ .get → after build (before ++ [request]) = after build before
  /-- As many builds have begun as there were requests for the value, up to the first success. -/
  counted : ∀ n value, FirstSuccess build n value
    → answerAfter build before .builds = .builds (min (before.count .get) n)
  /-- Without a success every request for the value has begun a build. -/
  uncapped : (∀ n, 0 < n → ∃ error, build n = .error error)
    → answerAfter build before .builds = .builds (before.count .get)

/-- A fresh cell that is asked one thing after another builds its value until a build succeeds, and
never again.
-/
theorem buildsUntilSuccess (build : Nat → Except ε α) (before : List Request)
    : BuildsUntilSuccess build before := by
  have getAnswer : answerAfter build before .get = .got ((after build before).get build).1 := rfl
  have getAfter : after build (before ++ [.get]) = ((after build before).get build).2 :=
    after_concat build before .get
  refine ⟨answers_getElem? build before, ?begins, ?own, ?kept, ?loaded, ?idle, ?counted, ?uncapped⟩
  case own =>
    intro unserved
    have unset := unset_of_not_served unserved
    rw [getAfter, getAnswer, unset.get]
    refine ⟨rfl, rfl, ?_⟩
    cases build (before.count .get + 1) <;> rfl
  case kept =>
    intro value got
    obtain ⟨n, filled⟩ := exists_filled_of_got got
    rw [getAfter, getAnswer, filled.get]
    exact ⟨rfl, rfl⟩
  case idle =>
    intro request other
    rw [after_concat]
    exact (handle_of_ne_get build other (after build before)).1
  case begins =>
    rw [getAfter]
    rcases unset_or_filled build before with unset | ⟨n, value, filled⟩
    · rw [unset.get, unset.cell]
      exact iff_of_true rfl unset.unanswered
    · rw [filled.get]
      exact iff_of_false (Nat.ne_of_lt (Nat.lt_succ_self _)) (not_not_intro filled.served)
  case loaded =>
    refine ⟨(after build before).loaded, rfl, ?_⟩
    rcases unset_or_filled build before with unset | ⟨n, value, filled⟩
    · rw [unset.cell]
      exact iff_of_false nofun unset.unanswered
    · rw [filled.cell]
      exact iff_of_true rfl filled.served
  case counted =>
    intro n value first
    have answer : answerAfter build before .builds = .builds (after build before).builds := rfl
    rw [answer]
    rcases unset_or_filled build before with unset | ⟨m, value', filled⟩
    · rw [unset.cell, Nat.min_eq_left (Nat.le_of_lt (unset.count_lt first))]
    · rw [filled.cell, Nat.min_eq_right (first.unique filled.first ▸ filled.reached),
        first.unique filled.first]
  case uncapped =>
    intro fails
    have answer : answerAfter build before .builds = .builds (after build before).builds := rfl
    rcases unset_or_filled build before with unset | ⟨m, value', filled⟩
    · rw [answer, unset.cell]
    · obtain ⟨error, failed⟩ := fails m filled.first.positive
      exact nomatch filled.first.succeeds.symm.trans failed

/-- A first build that fails is made up for by the second one. Its value, that there is none, is kept
like any other.
-/
example
    : answers (fun n => if n = 1 then .error "E" else .ok (none : Option String))
          [.get, .loaded, .get, .loaded, .get, .builds]
      = [.got (.error "E"), .loaded false, .got (.ok none), .loaded true, .got (.ok none),
          .builds 2] :=
  rfl

end BlogSnapshot.LazyCell
