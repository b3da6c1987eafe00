import BlogSnapshot.Proofs.Calendar.Millis
import BlogSnapshot.Proofs.Snapshot.DisplayOrder
import BlogSnapshot.Proofs.Snapshot.Listing

/-! The times that are written on the contents of posts. Each is the count of milliseconds of the
moment at which the post is published, so that it goes down along with the dates.
-/

namespace BlogSnapshot

/-- The content of a body has the milliseconds of the moment with which it is stamped. -/
theorem PostContent.time_of_ofBody {settings : Settings} {body : String} {publishedAt : Moment}
    {content : PostContent} (rendered : ofBody settings body publishedAt = .ok content)
    : content.time = publishedAt.millis := by
  obtain ⟨html, -, made⟩ := (bind_eq_ok_iff _ _ _).mp rendered
  rw [← Except.ok.inj made]

namespace Snapshot

variable {settings : Settings} {builtAt : Moment} {sources : List SourceFile}
variable {ordered : List ParsedSource} {posts : List Post} {snapshot : Snapshot}

/-- The content of a listed post has the milliseconds of the date by which the post is shown. -/
theorem Assembly.time_eq (h : Assembly settings builtAt sources ordered posts snapshot) {p : Post}
    (member : p ∈ snapshot.posts)
    : p.publishedAt = some p.displayDate ∧ p.content.time = p.displayDate.millis := by
  obtain ⟨s, n, -, post⟩ := h.exists_source member
  have shown : p.displayDate = s.frontmatter.publishedAt := by
    rw [Post.displayDate, post.published]
    rfl
  rw [shown]
  exact ⟨post.published, PostContent.time_of_ofBody post.content⟩

/-- A listed post is no older than those that are shown after it. -/
theorem Assembly.newestFirst (h : Assembly settings builtAt sources ordered posts snapshot)
    : snapshot.posts.Pairwise fun p q => q.displayDate.instant ≤ p.displayDate.instant := by
  rw [h.snapshot]
  refine (Post.displayOrder_sorted posts).imp fun {p q} ordered => ?_
  rcases (Post.displayKey_le_iff p q).mp ordered with newer | ⟨same, -⟩
  · exact newer.le
  · exact same.ge

/-- (TimesFollowDates snapshot) says that the content of each post has the milliseconds of its
publication, and that along the posts they never increase.
-/
structure TimesFollowDates (snapshot : Snapshot) : Prop where
  published : ∀ p ∈ snapshot.posts, ∃ m, p.publishedAt = some m ∧ p.content.time = m.millis
  descending : snapshot.posts.Pairwise fun p q => q.content.time ≤ p.content.time

theorem Assembly.timesFollowDates (h : Assembly settings builtAt sources ordered posts snapshot)
    : TimesFollowDates snapshot where
  published p member := ⟨p.displayDate, h.time_eq member⟩
  descending := by
    refine h.newestFirst.imp_of_mem ?_
    intro p q first second notOlder
    rw [(h.time_eq first).2, (h.time_eq second).2]
    have fewer := q.displayDate.orderedMillis.monotone p.displayDate notOlder
    exact Int.ofNat_le.mpr fewer

/-- The milliseconds of moments keep their order, and so do the times on the contents of posts. -/
theorem ordered_times
    : (∀ m : Moment, m.OrderedMillis)
      ∧ ∀ {settings builtAt sources snapshot},
          build settings builtAt sources = .ok snapshot → TimesFollowDates snapshot := by
  refine ⟨Moment.orderedMillis, fun {_ _ _ _} built => ?_⟩
  obtain ⟨ordered, posts, h⟩ := build_eq_ok_iff.mp built
  exact h.timesFollowDates

/-- The times on the contents of the two sources' posts never increase. -/
theorem ordered_times_twoSources
    : ∃ snapshot,
        build {} someDay twoSources = .ok snapshot ∧ TimesFollowDates snapshot := by
  obtain ⟨snapshot, built⟩ := exists_build_twoSources
  exact ⟨snapshot, built, ordered_times.2 built⟩

end Snapshot

end BlogSnapshot
