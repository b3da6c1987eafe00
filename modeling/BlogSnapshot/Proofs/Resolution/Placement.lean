import BlogSnapshot.Proofs.Frontmatter.Placement
import BlogSnapshot.Proofs.Resolution.Corpus

/-! Entities do not depend on the paths of the sources that declare them. A path is written on a
conflict and on nothing else, so a corpus has the same tables under any paths.
-/

namespace BlogSnapshot

namespace Declaration

variable {ν ε : Type}

/-- The declaration as one of a source under another path. -/
def placed (path : String) (d : Declaration ν) : Declaration ν :=
  { d with path }

variable (path : String) (ds : List (Declaration ν))

/-- The table of first declarations does not depend on paths, by induction on the declarations. -/
theorem firsts_placed : firsts (ds.map (placed path)) = firsts ds := by
  induction ds with
  | nil => rfl
  | cons d rest ih =>
      rw [List.map_cons, firsts, firsts, ih]
      rfl

/-- Declarations agree under any paths. -/
theorem agree_placed : Agree (ds.map (placed path)) ↔ Agree ds := by
  simp only [Agree, List.forall_mem_map]
  rfl

/-- The entities of declarations do not depend on paths. -/
theorem resolve_entities_placed [DecidableEq ν] (conflict : Declaration ν → ν → Cause)
    (entity : Nat → String → ν → ε)
    : (resolve conflict entity (ds.map (placed path))).entities
      = (resolve conflict entity ds).entities := by
  rw [resolve_entities, resolve_entities, ranked, ranked, firsts_placed]

end Declaration

namespace ParsedSource

variable (path : String) (sources : List ParsedSource) (default : Option String)

theorem map_author_placed
    : (sources.map (placed path)).map author
      = (sources.map author).map (Declaration.placed path) := by
  rw [List.map_map, List.map_map]
  rfl

theorem map_category_placed
    : (sources.map (placed path)).map (category default)
      = (sources.map (category default)).map (Declaration.placed path) := by
  rw [List.map_map, List.map_map]
  rfl

theorem flatMap_tags_placed
    : (sources.map (placed path)).flatMap (tags default)
      = (sources.flatMap (tags default)).map (Declaration.placed path) := by
  have own (s : ParsedSource)
      : tags default (s.placed path) = (s.tags default).map (Declaration.placed path) := by
    rw [tags, tags, List.map_map]
    rfl
  simp only [List.flatMap_map, List.map_flatMap, own]

/-- A corpus is consistent under any paths. -/
theorem consistent_placed (settings : Settings)
    : Consistent settings (sources.map (placed path)) ↔ Consistent settings sources := by
  have authors := Declaration.agree_placed path (sources.map author)
  have categories :=
    Declaration.agree_placed path (sources.map (category settings.categoryColor))
  have labels := Declaration.agree_placed path (sources.flatMap (tags settings.tagColor))
  rw [← map_author_placed] at authors
  rw [← map_category_placed] at categories
  rw [← flatMap_tags_placed] at labels
  constructor
  · rintro ⟨a, c, t⟩
    exact ⟨authors.mp a, categories.mp c, labels.mp t⟩
  · rintro ⟨a, c, t⟩
    exact ⟨authors.mpr a, categories.mpr c, labels.mpr t⟩

end ParsedSource

/-- The entities of a corpus do not depend on paths. -/
theorem Entities.ofFolds_placed (settings : Settings) (builtAt : Moment) (path : String)
    (sources : List ParsedSource)
    : ofFolds settings builtAt (sources.map (ParsedSource.placed path))
      = ofFolds settings builtAt sources := by
  simp only [ofFolds, Resolution.authors, Resolution.categories, Resolution.tags,
    ParsedSource.map_author_placed, ParsedSource.map_category_placed,
    ParsedSource.flatMap_tags_placed, Declaration.resolve_entities_placed]

end BlogSnapshot
