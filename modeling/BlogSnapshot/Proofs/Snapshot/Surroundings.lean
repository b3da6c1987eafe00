import BlogSnapshot.Proofs.Post.Stamp
import BlogSnapshot.Proofs.Snapshot.Assembly
import BlogSnapshot.Proofs.Snapshot.Buckets

/-! Two builds of the same sources in different surroundings. Their times and their settings, unless
these give colors, show nowhere but in the fields that a build stamps: both fail in the same way, or
their snapshots differ by the stamp.
-/

namespace BlogSnapshot

/-- Posts are shown in the order of their slugs and dates, which are not stamped. -/
theorem Post.displayOrder_stamped (t : Stamp) (posts : List Post)
    : displayOrder (posts.map (stamped t)) = (displayOrder posts).map (stamped t) := by
  have bySlug : (posts.map (stamped t)).mergeSort (fun p q => p.slug ≤ q.slug)
      = (posts.mergeSort fun p q => p.slug ≤ q.slug).map (stamped t) := by
    symm
    apply List.map_mergeSort
    intros
    rfl
  rw [displayOrder, bySlug]
  symm
  apply List.map_mergeSort
  intros
  rfl

namespace Snapshot

/-- The snapshot with the fields that a build stamps written over. -/
def stamped (t : Stamp) (s : Snapshot) : Snapshot :=
  ⟨s.posts.map (Post.stamped t), s.categories.map (Category.stamped t),
    s.tags.map (Tag.stamped t)⟩

@[simp] theorem stamped_stamped (t u : Stamp) (s : Snapshot)
    : (s.stamped t).stamped u = s.stamped u := by
  simp [stamped, Function.comp_def]

-----------------------------------------------------------------------------------------
-- What is asked of a snapshot
-----------------------------------------------------------------------------------------

theorem postsByCategory_stamped (t : Stamp) (s : Snapshot) (id : Int)
    : (s.stamped t).postsByCategory id = (s.postsByCategory id).map (Post.stamped t) := by
  simp only [postsByCategory_eq, stamped, ← Post.displayOrder_stamped, List.filter_map]
  rfl

theorem postsByTag_stamped (t : Stamp) (s : Snapshot) (id : Int)
    : (s.stamped t).postsByTag id = (s.postsByTag id).map (Post.stamped t) := by
  simp only [postsByTag_eq, stamped, ← Post.displayOrder_stamped, List.flatMap_map,
    List.map_flatMap, List.map_replicate]
  rfl

/-- No stamp is part of an address. -/
theorem routes_stamped (t : Stamp) (s : Snapshot) : (s.stamped t).routes = s.routes := by
  simp only [routes, stamped, List.map_map]
  rfl

-----------------------------------------------------------------------------------------
-- Builds
-----------------------------------------------------------------------------------------

theorem ofRecords_stamped (t : Stamp) (posts : List Post) (categories : List Category)
    (tags : List Tag)
    : ofRecords (posts.map (Post.stamped t)) (categories.map (Category.stamped t))
          (tags.map (Tag.stamped t))
      = (ofRecords posts categories tags).stamped t := by
  rw [ofRecords, Post.displayOrder_stamped]
  rfl

/-- Consecutive posts differ by the stamp, by induction on their sources. -/
theorem buildPosts_stamped (settings settings' : Settings) (builtAt builtAt' : Moment)
    (tables : Post.Tables) (id : Nat) (sources : List ParsedSource)
    : buildPosts settings' builtAt' (tables.stamped (.ofBuild settings' builtAt')) id sources
      = (buildPosts settings builtAt tables id sources).map
          (List.map (Post.stamped (.ofBuild settings' builtAt'))) := by
  induction sources generalizing id with
  | nil => rfl
  | cons source rest ih =>
      simp only [buildPosts, Post.build_stamped settings settings' builtAt builtAt', ih, map_bind,
        bind_map_left]
      rfl

section

variable {settings settings' : Settings} (colors : settings.SameColors settings')
  (builtAt builtAt' : Moment)

include colors

theorem ofParsed_stamped (parsed : List ParsedSource)
    : ofParsed settings' builtAt' parsed
      = (ofParsed settings builtAt parsed).map (stamped (.ofBuild settings' builtAt')) := by
  unfold ofParsed
  split
  · rfl
  simp only [Entities.resolve_stamped colors builtAt builtAt', mapError_map, bind_map_left,
    map_bind]
  simp only [Post.Tables.ofEntities_stamped, Entities.stamped_categories, Entities.stamped_tags,
    buildPosts_stamped settings settings' builtAt builtAt', bind_map_left, ofRecords_stamped]
  rfl

/-- One build gives what another one gives with the same colors, but for the stamp. -/
theorem build_stamped (sources : List SourceFile)
    : build settings' builtAt' sources
      = (build settings builtAt sources).map (stamped (.ofBuild settings' builtAt')) := by
  unfold build
  rw [map_bind]
  simp only [ofParsed_stamped colors builtAt builtAt']

end

/-- (SameButStamp s s') says that two snapshots are equal once the fields that a build stamps are
written over. So are their buckets, and what is not stamped is equal as it is: the ids and the order
of the posts, their times, their HTML, and all addresses.
-/
structure SameButStamp (s s' : Snapshot) : Prop where
  equal : ∀ t, s.stamped t = s'.stamped t
  byCategory : ∀ t id, (s.postsByCategory id).map (Post.stamped t)
    = (s'.postsByCategory id).map (Post.stamped t)
  byTag : ∀ t id, (s.postsByTag id).map (Post.stamped t) = (s'.postsByTag id).map (Post.stamped t)
  order : s.posts.map (fun p => (p.id, p.slug)) = s'.posts.map (fun p => (p.id, p.slug))
  times : s.posts.map (fun p => (p.publishedAt, p.createdAt, p.updatedAt, p.content.time))
    = s'.posts.map (fun p => (p.publishedAt, p.createdAt, p.updatedAt, p.content.time))
  html : s.posts.map (·.content.html) = s'.posts.map (·.content.html)
  routes : s.routes = s'.routes

/-- A snapshot is the same as the stamped one but for the stamp. -/
theorem sameButStamp_stamped (t : Stamp) (s : Snapshot) : SameButStamp s (s.stamped t) := by
  have kept {β : Type} (view : Post → β) (unstamped : ∀ p, view (p.stamped t) = view p)
      : s.posts.map view = (s.stamped t).posts.map view := by
    simp only [stamped, List.map_map, Function.comp_def, unstamped]
  constructor
  case equal =>
    intro u
    exact (stamped_stamped t u s).symm
  case byCategory =>
    intro u id
    simp only [postsByCategory_stamped, List.map_map, Function.comp_def, Post.stamped_stamped]
  case byTag =>
    intro u id
    simp only [postsByTag_stamped, List.map_map, Function.comp_def, Post.stamped_stamped]
  case order => exact kept _ fun _ => rfl
  case times => exact kept _ fun _ => rfl
  case html => exact kept _ fun p => p.stamped_html t
  case routes => exact (routes_stamped t s).symm

/-- The results of two builds that cannot be told apart by anything that is not stamped. -/
inductive Alike : Except Failure Snapshot → Except Failure Snapshot → Prop
  | failed (failure : Failure) : Alike (.error failure) (.error failure)
  | built {s s' : Snapshot} : SameButStamp s s' → Alike (.ok s) (.ok s')

/-- Neither the time of a build nor any setting but the colors of categories and tags shows in
anything but the stamp.
-/
theorem build_alike {settings settings' : Settings} (colors : settings.SameColors settings')
    (builtAt builtAt' : Moment) (sources : List SourceFile)
    : Alike (build settings builtAt sources) (build settings' builtAt' sources) := by
  rw [build_stamped colors builtAt builtAt']
  cases build settings builtAt sources with
  | error failure => exact .failed failure
  | ok s => exact .built (sameButStamp_stamped _ s)

/-- Settings that differ from the default ones in all but the colors of categories and tags. -/
def otherSettings : Settings where
  contentDir := "posts"
  loadOnStartup := true
  textColor := none
  contentVersion := some "2"
  contentBlockId := some "body"

/-- A day after that on which the sources are published. -/
def laterDay : Moment where
  date := ⟨2027, 1, 1, by decide, Date.epoch.month_range, by decide⟩
  offset := some .utc

/-- Two sources are built in two surroundings. -/
theorem build_alike_twoSources
    : ∃ s s', build {} someDay twoSources = .ok s
      ∧ build otherSettings laterDay twoSources = .ok s' ∧ SameButStamp s s' := by
  obtain ⟨s, built⟩ := exists_build_twoSources
  have colors : Settings.SameColors {} otherSettings := ⟨rfl, rfl⟩
  have alike := build_alike colors someDay laterDay twoSources
  rw [built] at alike
  cases result : build otherSettings laterDay twoSources with
  | error failure =>
      rw [result] at alike
      exact nomatch alike
  | ok s' =>
      rw [result] at alike
      cases alike with
      | built same => exact ⟨s, s', built, rfl, same⟩

end Snapshot

end BlogSnapshot
