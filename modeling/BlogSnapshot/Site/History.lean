import BlogSnapshot.Site

/-! What happens to a running site, event after event, and what is answered.
-/

namespace BlogSnapshot.Site

/-- What can happen to a site: that it starts, that its snapshot is asked for, by itself or through
the configuration of the app, or read, that someone asks whether it is there, that its files are
replaced, and that time passes.
-/
inductive Event (δ : Type) where
  | start
  | access
  | read (view : Snapshot → δ)
  | ask
  | replace (files : FileTree)
  | pass (now : Moment)

/-- What is answered: nothing but that it is done, whether the snapshot is there, the snapshot, what
is read of it, or why it cannot be loaded.
-/
inductive Answer (δ : Type) where
  | done
  | loaded (b : Bool)
  | shared (snapshot : Snapshot)
  | shown (data : δ)
  | failed (failure : Failure)

variable {δ : Type}

/-- The answer to an event, and the site after it. -/
def handle (s : Site) : Event δ → Answer δ × Site
  | .start =>
      match s.ready with
      | (.ok (), after) => (.done, after)
      | (.error failure, after) => (.failed failure, after)
  | .access =>
      match s.content with
      | (.ok snapshot, after) => (.shared snapshot, after)
      | (.error failure, after) => (.failed failure, after)
  | .read view =>
      match s.content with
      | (.ok snapshot, after) => (.shown (view snapshot), after)
      | (.error failure, after) => (.failed failure, after)
  | .ask => (.loaded s.loaded, s)
  | .replace files => (.done, s.withFiles files)
  | .pass now => (.done, { s with builtAt := now })

/-- The answers to events in a row, and the site after them. -/
def handleAll (s : Site) : List (Event δ) → List (Answer δ) × Site
  | [] => ([], s)
  | event :: events =>
      let (answer, s) := s.handle event
      let (answers, s) := handleAll s events
      (answer :: answers, s)

end BlogSnapshot.Site
