import BlogSnapshot.Site.History

/-! The snapshot of a site over all that happens to it. It is loaded by the first access that finds
files from which it can be loaded, each access before that fails with the error of its moment, and
all after that share it.
-/

namespace BlogSnapshot.Site

variable {δ : Type}

-----------------------------------------------------------------------------------------
-- Events
-----------------------------------------------------------------------------------------

/-- Whether an event needs the snapshot. The start of a site does if its settings say so. -/
def Event.accesses (settings : Settings) : Event δ → Bool
  | .start => settings.loadOnStartup
  | .access | .read _ => true
  | .ask | .replace _ | .pass _ => false

/-- The answer to an event when the snapshot is there. -/
def Event.answerFrom (snapshot : Snapshot) : Event δ → Answer δ
  | .access => .shared snapshot
  | .read view => .shown (view snapshot)
  | .ask => .loaded true
  | .start | .replace _ | .pass _ => .done

/-- The answer to an event that needs no snapshot, when there is none. -/
def Event.answerWithout : Event δ → Answer δ
  | .ask => .loaded false
  | _ => .done

/-- The files after an event. -/
def Event.filesAfter (files : FileTree) : Event δ → FileTree
  | .replace new => new
  | _ => files

/-- The time after an event. -/
def Event.timeAfter (now : Moment) : Event δ → Moment
  | .pass later => later
  | _ => now

/-- The site after events in a row. -/
def after (s : Site) (events : List (Event δ)) : Site :=
  (s.handleAll events).2

/-- What loading gives after events in a row, from the files and at the time that they leave. -/
def loadAfter (s : Site) (events : List (Event δ)) : Except Failure Snapshot :=
  Snapshot.load s.settings (events.foldl Event.timeAfter s.builtAt)
    (events.foldl Event.filesAfter s.files) s.base none

variable {s : Site} {event : Event δ} {snapshot : Snapshot} {failure : Failure}

/-- The answer to each event is that of the site as it is after the events before. -/
theorem handleAll_answer (s : Site) (before later : List (Event δ)) (event : Event δ)
    : (s.handleAll (before ++ event :: later)).1[before.length]?
      = some ((s.after before).handle event).1 := by
  induction before generalizing s with
  | nil => rfl
  | cons first rest ih => exact ih (s.handle first).2

theorem after_append (s : Site) (before later : List (Event δ))
    : s.after (before ++ later) = (s.after before).after later := by
  induction before generalizing s with
  | nil => rfl
  | cons first rest ih => exact ih (s.handle first).2

-----------------------------------------------------------------------------------------
-- One event
-----------------------------------------------------------------------------------------

/-- An event that needs the snapshot is answered from it, or with the reason why it is not there. -/
theorem handle_of_accesses (needed : event.accesses s.settings = true)
    : s.handle event
      = match s.content with
        | (.ok snapshot, after) => (event.answerFrom snapshot, after)
        | (.error failure, after) => (.failed failure, after) := by
  cases event with
  | start =>
      have onStartup : s.settings.loadOnStartup = true := needed
      rw [handle, ready, if_pos onStartup]
      rcases s.content with ⟨_ | _, _⟩ <;> rfl
  | access | read => rfl
  | ask | replace | pass => exact nomatch needed

/-- The start of a site that loads on demand changes nothing. -/
theorem handle_start_of_idle (notOnStartup : s.settings.loadOnStartup = false)
    : s.handle (.start : Event δ) = (.done, s) := by
  simp [handle, ready, notOnStartup]

/-- An event that needs no snapshot leaves the cell as it is. -/
theorem handle_of_idle (idle : event.accesses s.settings = false)
    : (s.handle event).2.cell = s.cell
      ∧ (s.cell.value = none → (s.handle event).1 = event.answerWithout)
      ∧ ∀ snapshot, s.cell.value = some snapshot
        → (s.handle event).1 = event.answerFrom snapshot := by
  cases event with
  | start =>
      rw [handle_start_of_idle idle]
      exact ⟨rfl, fun _ => rfl, fun _ _ => rfl⟩
  | access | read => exact nomatch idle
  | ask =>
      refine ⟨rfl, fun unset => ?_, fun snapshot set => ?_⟩
      · exact congrArg (fun v => Answer.loaded v.isSome) unset
      · exact congrArg (fun v => Answer.loaded v.isSome) set
  | replace | pass => exact ⟨rfl, fun _ => rfl, fun _ _ => rfl⟩

/-- An event changes the files and the time as it says, the cell, and nothing else. -/
theorem handle_site (s : Site) (event : Event δ)
    : (s.handle event).2
      = { s with
          files := event.filesAfter s.files
          builtAt := event.timeAfter s.builtAt
          cell := (s.handle event).2.cell } := by
  have content : s.content.2 = { s with cell := s.content.2.cell } := rfl
  cases needed : event.accesses s.settings with
  | true =>
      have kept : event.filesAfter s.files = s.files ∧ event.timeAfter s.builtAt = s.builtAt := by
        cases event with
        | start | access | read => exact ⟨rfl, rfl⟩
        | ask | replace | pass => exact nomatch needed
      rw [handle_of_accesses needed, kept.1, kept.2]
      rcases answer : s.content with ⟨_ | _, after⟩ <;> rw [answer] at content <;> exact content
  | false =>
      cases event with
      | start =>
          rw [handle_start_of_idle needed]
          rfl
      | access | read => exact nomatch needed
      | ask | replace | pass => rfl

/-- Once the snapshot is there, every event is answered from it and leaves it there. -/
theorem handle_of_loaded (set : s.cell.value = some snapshot) (event : Event δ)
    : (s.handle event).1 = event.answerFrom snapshot ∧ (s.handle event).2.cell = s.cell := by
  cases needed : event.accesses s.settings with
  | true =>
      have content : s.content = (.ok snapshot, s) := by simp [Site.content, LazyCell.get, set]
      rw [handle_of_accesses needed, content]
      exact ⟨rfl, rfl⟩
  | false =>
      obtain ⟨kept, -, answer⟩ := handle_of_idle needed
      exact ⟨answer snapshot set, kept⟩

/-- A snapshot that is not there is loaded; the cell keeps what comes of it. -/
theorem content_of_unset (unset : s.cell.value = none)
    : s.content = (s.load, { s with cell := ⟨s.load.toOption, s.cell.builds + 1⟩ }) := by
  cases load : s.load <;> simp [Site.content, LazyCell.get, unset, load, Except.toOption]

/-- An access when the snapshot is not there loads it or fails. -/
theorem handle_of_unset (unset : s.cell.value = none)
    (needed : event.accesses s.settings = true)
    : (∀ snapshot, s.load = .ok snapshot → (s.handle event).1 = event.answerFrom snapshot
        ∧ (s.handle event).2.cell = ⟨some snapshot, s.cell.builds + 1⟩)
      ∧ ∀ failure, s.load = .error failure → (s.handle event).1 = .failed failure
        ∧ (s.handle event).2.cell = ⟨none, s.cell.builds + 1⟩ := by
  rw [handle_of_accesses needed, content_of_unset unset]
  constructor
  · intro snapshot loads
    rw [loads]
    exact ⟨rfl, rfl⟩
  · intro failure fails
    rw [fails]
    exact ⟨rfl, rfl⟩

-----------------------------------------------------------------------------------------
-- All events
-----------------------------------------------------------------------------------------

/-- The files and the time of a site are those that the events leave, by induction on them. -/
theorem after_site (s : Site) (events : List (Event δ))
    : s.after events
      = { s with
          files := events.foldl Event.filesAfter s.files
          builtAt := events.foldl Event.timeAfter s.builtAt
          cell := (s.after events).cell } := by
  induction events generalizing s with
  | nil => rfl
  | cons event events ih =>
      have later := ih (s.handle event).2
      rw [handle_site s event] at later
      have cons : s.after (event :: events) = (s.handle event).2.after events := rfl
      rw [cons, handle_site s event]
      exact later

theorem settings_handle (s : Site) (event : Event δ)
    : (s.handle event).2.settings = s.settings := by
  rw [handle_site]

theorem settings_after (s : Site) (events : List (Event δ))
    : (s.after events).settings = s.settings := by
  rw [after_site]

/-- What loading gives at the site after events is what their files and time make it give. -/
theorem load_after (s : Site) (events : List (Event δ))
    : (s.after events).load = s.loadAfter events := by
  rw [after_site s events]
  rfl

/-- Once the snapshot is there, the cell stays as it is, by induction on the events. -/
theorem after_of_loaded (set : s.cell.value = some snapshot) (events : List (Event δ))
    : (s.after events).cell = s.cell := by
  induction events generalizing s with
  | nil => rfl
  | cons event events ih =>
      have kept : (s.handle event).2.cell = s.cell := (handle_of_loaded set event).2
      have set : (s.handle event).2.cell.value = some snapshot := by rw [kept, set]
      exact (ih set).trans kept

/-- (AtEach holds events) says that something holds of each event and the events before it. -/
def AtEach (holds : List (Event δ) → Event δ → Prop) (events : List (Event δ)) : Prop :=
  ∀ before event later, events = before ++ event :: later → holds before event

theorem AtEach.cons {holds : List (Event δ) → Event δ → Prop} {events : List (Event δ)}
    (here : holds [] event) (later : AtEach (fun before => holds (event :: before)) events)
    : AtEach holds (event :: events) := by
  intro before other rest split
  cases before with
  | nil =>
      obtain ⟨rfl, -⟩ := List.cons.inj split
      exact here
  | cons first before =>
      obtain ⟨rfl, rfl⟩ := List.cons.inj split
      exact later before other rest rfl

/-- What is answered to an event after others. -/
def answerAfter (s : Site) (before : List (Event δ)) (event : Event δ) : Answer δ :=
  ((s.after before).handle event).1

/-- What an event finds that comes before the snapshot is there: an access fails for the reason for
which loading fails at that moment, and the snapshot is still not there.
-/
structure Unserved (s : Site) (before : List (Event δ)) (event : Event δ) : Prop where
  fails : event.accesses s.settings = true
    → ∃ failure, s.loadAfter before = .error failure
      ∧ s.answerAfter before event = .failed failure
  idle : event.accesses s.settings = false
    → s.answerAfter before event = event.answerWithout
  absent : (s.after (before ++ [event])).loaded = false

/-- What an event finds from the time when the snapshot is there: it is answered from the snapshot,
which stays there, and no other build is begun.
-/
structure Served (s : Site) (snapshot : Snapshot) (builds : Nat) (before : List (Event δ))
    (event : Event δ)
    : Prop where
  answer : s.answerAfter before event = event.answerFrom snapshot
  loaded : (s.after (before ++ [event])).loaded = true
  kept : (s.after (before ++ [event])).cell = ⟨some snapshot, builds⟩

/-- (OneSnapshot s events) says that no event gets a snapshot, or that all that come before some
access get none and that this access and all that come after it get the one that loading gives at
its moment.
-/
inductive OneSnapshot (s : Site) (events : List (Event δ)) : Prop
  | none (unserved : AtEach s.Unserved events)
  | one {first rest : List (Event δ)} {event : Event δ} {snapshot : Snapshot} {builds : Nat}
      (split : events = first ++ event :: rest)
      (needed : event.accesses s.settings = true)
      (loads : s.loadAfter first = .ok snapshot)
      (unserved : AtEach s.Unserved first)
      (served : AtEach (fun before => s.Served snapshot builds (first ++ before))
        (event :: rest))

section

variable {events before : List (Event δ)} {builds : Nat}

/-- Loading after an event and others is loading after the others at the site after the event. -/
theorem loadAfter_cons (s : Site) (event : Event δ) (before : List (Event δ))
    : s.loadAfter (event :: before) = (s.handle event).2.loadAfter before := by
  rw [← load_after, ← load_after]
  rfl

theorem Unserved.cons (other : Event δ) (unserved : (s.handle other).2.Unserved before event)
    : s.Unserved (other :: before) event := by
  constructor
  · rw [loadAfter_cons, ← settings_handle s other]
    exact unserved.fails
  · rw [← settings_handle s other]
    exact unserved.idle
  · exact unserved.absent

/-- The first event of all gets no snapshot if it needs none or if loading fails. -/
theorem Unserved.first (unset : s.cell.value = none)
    (fails : event.accesses s.settings = true → ∃ failure, s.load = .error failure)
    : s.Unserved [] event ∧ (s.handle event).2.cell.value = none := by
  cases needed : event.accesses s.settings with
  | true =>
      obtain ⟨failure, fails⟩ := fails needed
      obtain ⟨answer, cell⟩ := (handle_of_unset unset needed).2 failure fails
      have absent : (s.handle event).2.cell.value = none := by rw [cell]
      refine ⟨⟨fun _ => ⟨failure, fails, answer⟩, ?_, ?_⟩, absent⟩
      · intro idle
        exact nomatch needed.symm.trans idle
      · exact congrArg (fun v => Option.isSome v) absent
  | false =>
      obtain ⟨kept, answer, -⟩ := handle_of_idle needed
      have absent : (s.handle event).2.cell.value = none := by rw [kept, unset]
      refine ⟨⟨?_, fun _ => answer unset, ?_⟩, absent⟩
      · intro access
        exact nomatch needed.symm.trans access
      · exact congrArg (fun v => Option.isSome v) absent

/-- All events are served that come when the snapshot is there. -/
theorem Served.of_loaded (set : (s.after before).cell = ⟨some snapshot, builds⟩)
    : s.Served snapshot builds before event := by
  have value : (s.after before).cell.value = some snapshot := by rw [set]
  obtain ⟨answer, kept⟩ := handle_of_loaded value event
  have cell : (s.after (before ++ [event])).cell = ⟨some snapshot, builds⟩ := by
    rw [after_append]
    exact kept.trans set
  refine ⟨answer, ?_, cell⟩
  rw [Site.loaded, cell]
  rfl

theorem Served.cons (other : Event δ)
    (served : (s.handle other).2.Served snapshot builds before event)
    : s.Served snapshot builds (other :: before) event :=
  ⟨served.answer, served.loaded, served.kept⟩

theorem AtEach.nil (holds : List (Event δ) → Event δ → Prop) : AtEach holds [] := by
  intro before event later split
  simp at split

/-- A site whose snapshot is not there gets one at most, by induction on the events: the first of
them loads it, or it leaves the site without a snapshot.
-/
theorem OneSnapshot.of_unset (unset : s.cell.value = Option.none) (events : List (Event δ))
    : OneSnapshot s events := by
  induction events generalizing s with
  | nil => exact .none (.nil _)
  | cons event rest ih =>
      -- Either this event loads the snapshot, or the site after it is as unset as the one before.
      by_cases served : event.accesses s.settings = true ∧ ∃ snapshot, s.load = .ok snapshot
      · obtain ⟨needed, snapshot, loads⟩ := served
        obtain ⟨answer, cell⟩ := (handle_of_unset unset needed).1 snapshot loads
        have set : (s.handle event).2.cell.value = some snapshot := by rw [cell]
        refine .one (List.nil_append _).symm needed loads (.nil _) (.cons ⟨answer, ?_, cell⟩ ?_)
        · exact congrArg (fun v => Option.isSome v) set
        · intro before other later _
          exact .of_loaded ((after_of_loaded set before).trans cell)
      · have fails (needed : event.accesses s.settings = true)
            : ∃ failure, s.load = .error failure := by
          cases load : s.load with
          | error failure => exact ⟨failure, rfl⟩
          | ok snapshot => exact absurd ⟨needed, snapshot, load⟩ served
        obtain ⟨unserved, unset⟩ := Unserved.first unset fails
        cases ih unset with
        | none later =>
            exact .none (.cons unserved fun _ _ _ split => (later _ _ _ split).cons event)
        | one split needed loads before served =>
            exact .one (congrArg (event :: ·) split) (settings_handle s event ▸ needed)
              (loadAfter_cons s event _ ▸ loads)
              (.cons unserved fun _ _ _ split => (before _ _ _ split).cons event)
              (fun _ _ _ split => (served _ _ _ split).cons event)

/-- What holds of all that happens to a site from its beginning. -/
structure SharesSnapshot (s : Site) (events : List (Event δ)) : Prop where
  /-- Each event is answered by the site as the events before leave it. -/
  answers : AtEach
    (fun before event =>
      (s.handleAll events).1[before.length]? = some (s.answerAfter before event))
    events
  /-- At most one snapshot is ever answered. -/
  oneSnapshot : OneSnapshot s events
  /-- The start of the site is an access if the settings ask for it. -/
  starts : s.settings.loadOnStartup = true → ∀ before : List (Event δ),
    (s.after (before ++ [.start])).cell = (s.after (before ++ [.access])).cell
    ∧ ∀ failure, s.answerAfter before .start = .failed failure
      ↔ s.answerAfter before .access = .failed failure
  /-- Otherwise it changes nothing. -/
  startsIdle : s.settings.loadOnStartup = false → ∀ before : List (Event δ),
    s.after (before ++ [.start]) = s.after before ∧ s.answerAfter before .start = .done

/-- All that read a site share its one snapshot, whatever happens to it from its beginning. -/
theorem sharesSnapshot (settings : Settings) (builtAt : Moment) (base : Path) (files : FileTree)
    (events : List (Event δ))
    : SharesSnapshot { settings, builtAt, base, files } events := by
  generalize site : ({ settings, builtAt, base, files } : Site) = s
  have unset : s.cell.value = none := by rw [← site]
  refine ⟨?_, .of_unset unset events, ?_, ?_⟩
  · rintro before event later rfl
    exact handleAll_answer s before later event
  · intro onStartup before
    have start : Event.accesses (s.after before).settings (.start : Event δ) = true := by
      rw [settings_after]
      exact onStartup
    have access : Event.accesses (s.after before).settings (.access : Event δ) = true := rfl
    rw [after_append, after_append, answerAfter, answerAfter]
    show ((s.after before).handle .start).2.cell = ((s.after before).handle .access).2.cell ∧ _
    rw [handle_of_accesses start, handle_of_accesses access]
    rcases (s.after before).content with ⟨_ | _, _⟩ <;> simp [Event.answerFrom]
  · intro notOnStartup before
    have idle : (s.after before).handle (.start : Event δ) = (.done, s.after before) := by
      apply handle_start_of_idle
      rw [settings_after]
      exact notOnStartup
    rw [after_append, answerAfter]
    show ((s.after before).handle .start).2 = s.after before ∧ _
    rw [idle]
    exact ⟨rfl, rfl⟩

end

end BlogSnapshot.Site
