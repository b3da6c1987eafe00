import BlogSnapshot.Proofs.Resolution.Entities

/-! What the declarations of sources come to by definition, and that the three resolutions come to
it. The conflicts depend on the order of the sources, for a conflict is one with what was declared
before; whether there are any does not, and where there are none the entities do not either.
-/

namespace BlogSnapshot

namespace Declaration

variable {ν ε : Type}

-----------------------------------------------------------------------------------------
-- The entities and conflicts of declarations by definition
-----------------------------------------------------------------------------------------

/-- The declared keys in ascending order, each of them once. -/
def sortedKeys (ds : List (Declaration ν)) : List String :=
  (ds.map (·.key)).dedup.mergeSort fun a b => a ≤ b

theorem mem_sortedKeys {ds : List (Declaration ν)} {key : String}
    : key ∈ sortedKeys ds ↔ key ∈ ds.map (·.key) := by
  rw [sortedKeys, List.mem_mergeSort, List.mem_dedup]

theorem sortedKeys_ascending (ds : List (Declaration ν))
    : Sorting.Ascending id (sortedKeys ds) := by
  have compares : Sorting.Compares (fun a b : String => decide (a ≤ b)) id :=
    fun _ _ => decide_eq_true_iff
  exact compares.ascending (by simpa using List.nodup_dedup (ds.map (·.key)))

/-- The value of the first declaration of a declared key. -/
def firstValue (ds : List (Declaration ν)) (key : { key // key ∈ sortedKeys ds }) : ν :=
  (earliest? ds key).get ((earliest?_isSome ds key).mpr (mem_sortedKeys.mp key.2))

/-- What declarations come to by definition. There is one entity for each declared key, in ascending
order of keys and numbered from 1, with the value of the first declaration of the key. There is one
conflict for each declaration whose value is not that of the first declaration of its key, in the
order of the declarations.
-/
def reference [DecidableEq ν] (conflict : Declaration ν → ν → Cause)
    (entity : Nat → String → ν → ε) (ds : List (Declaration ν))
    : Resolution ε where
  entities :=
    ((sortedKeys ds).attach.zipIdx 1).map fun (key, id) => entity id key (firstValue ds key)
  conflicts :=
    ds.filterMap fun d =>
      match earliest? ds d.key with
      | none => none
      | some first => if first = d.value then none else some ⟨conflict d first, some d.path⟩

/-- A key with its first value is a key with its earliest value. -/
theorem mem_attach_map_firstValue (ds : List (Declaration ν)) (key : String) (v : ν)
    : (key, v) ∈ (sortedKeys ds).attach.map (fun k => (k.1, firstValue ds k))
      ↔ earliest? ds key = some v := by
  rw [List.mem_map]
  constructor
  · rintro ⟨k, _, same⟩
    obtain ⟨rfl, rfl⟩ := Prod.mk.inj same
    exact (Option.some_get _).symm
  · intro found
    have declared : key ∈ sortedKeys ds := by
      rw [mem_sortedKeys, ← earliest?_isSome, found]
      rfl
    refine ⟨⟨key, declared⟩, List.mem_attach _ _, Prod.ext rfl ?_⟩
    exact Option.get_of_eq_some _ found

/-- The ranked table has the sorted keys with their first values, for both ascend strictly and hold
the same pairs.
-/
theorem ranked_eq (ds : List (Declaration ν))
    : ranked ds = (sortedKeys ds).attach.map fun k => (k.1, firstValue ds k) := by
  apply (ranked_ascending ds).eq_of_mem_iff
  · have keys : ((sortedKeys ds).attach.map Subtype.val).Pairwise (· < ·) := by
      rw [List.attach_map_subtype_val]
      exact sortedKeys_ascending ds
    exact List.pairwise_map.mpr (List.pairwise_map.mp keys)
  · rintro ⟨key, v⟩
    rw [mem_ranked, mem_attach_map_firstValue]

/-- Where declarations agree, the ranked table does not depend on their order. -/
theorem Agree.ranked_eq_of_perm {ds es : List (Declaration ν)} (agree : Agree ds)
    (perm : ds.Perm es)
    : ranked ds = ranked es := by
  have agreeToo : Agree es := agree.subset perm.symm.subset
  apply (ranked_ascending ds).eq_of_mem_iff (ranked_ascending es)
  rintro ⟨key, v⟩
  rw [mem_ranked, mem_ranked]
  exact ⟨agreeToo.earliest?_of_subset perm.subset, agree.earliest?_of_subset perm.symm.subset⟩

variable [DecidableEq ν]

/-- There is no conflict exactly if the declarations agree. -/
theorem conflictsOf_eq_nil_iff (conflict : Declaration ν → ν → Cause) (ds : List (Declaration ν))
    : conflictsOf conflict ds = [] ↔ Agree ds := by
  refine ⟨fun none => (agree_iff ds).mpr ?_, fun agree => agree.conflictsOf_eq_nil conflict⟩
  intro d member
  obtain ⟨first, found⟩ := earliest?_of_mem member
  have silent := Option.map_eq_none_iff.mp (List.filterMap_eq_nil_iff.mp none d member)
  by_cases same : first = d.value
  · exact same ▸ found
  · have clashes : clash? ds d = some first := (clash?_eq_some_iff ds d first).mpr ⟨found, same⟩
    exact absurd (silent.symm.trans clashes) nofun

/-- Resolving declarations comes to what they come to by definition. -/
theorem resolve_eq_reference (conflict : Declaration ν → ν → Cause)
    (entity : Nat → String → ν → ε) (ds : List (Declaration ν))
    : resolve conflict entity ds = reference conflict entity ds := by
  have entities : (resolve conflict entity ds).entities
      = (reference conflict entity ds).entities := by
    rw [resolve_entities, ranked_eq, List.zipIdx_map, List.map_map]
    rfl
  have conflicts : (resolve conflict entity ds).conflicts
      = (reference conflict entity ds).conflicts := by
    rw [resolve_conflicts, conflictsOf, reference]
    apply List.filterMap_congr
    intro d _
    rw [clash?]
    cases earliest? ds d.key with
    | none => rfl
    | some first => by_cases same : first = d.value <;> simp [Option.filter_some, same]
  exact congrArg₂ Resolution.mk entities conflicts

end Declaration

open Declaration

/-- A resolution of sources is by what they declare: it is what their declarations come to by
definition. Whether it has conflicts does not depend on the order of the sources, and if it has none
its entities do not either.
-/
structure Resolution.IsBy {ν ε : Type} [DecidableEq ν]
    (declared : List ParsedSource → List (Declaration ν)) (conflict : Declaration ν → ν → Cause)
    (entity : Nat → String → ν → ε) (resolution : List ParsedSource → Resolution ε)
    : Prop where
  reference
    : ∀ sources, resolution sources = Declaration.reference conflict entity (declared sources)
  conflictFree
    : ∀ sources others : List ParsedSource,
        sources.Perm others
        → ((resolution sources).conflicts = [] ↔ (resolution others).conflicts = [])
  entities
    : ∀ sources others : List ParsedSource,
        sources.Perm others
        → (resolution sources).conflicts = []
        → (resolution sources).entities = (resolution others).entities

/-- Resolving what sources declare is by what they declare, if other orders of the sources are other
orders of the declarations.
-/
theorem Resolution.isBy_resolve {ν ε : Type} [DecidableEq ν]
    {declared : List ParsedSource → List (Declaration ν)}
    (reordered
      : ∀ {sources others : List ParsedSource},
          sources.Perm others → (declared sources).Perm (declared others))
    (conflict : Declaration ν → ν → Cause) (entity : Nat → String → ν → ε)
    : IsBy declared conflict entity fun sources => resolve conflict entity (declared sources) where
  reference := fun sources => resolve_eq_reference conflict entity (declared sources)
  conflictFree := by
    intro sources others perm
    rw [resolve_conflicts, resolve_conflicts, conflictsOf_eq_nil_iff, conflictsOf_eq_nil_iff]
    have same := reordered perm
    exact ⟨fun agree => agree.subset same.symm.subset, fun agree => agree.subset same.subset⟩
  entities := by
    intro sources others perm none
    rw [resolve_conflicts, conflictsOf_eq_nil_iff] at none
    rw [resolve_entities, resolve_entities, none.ranked_eq_of_perm (reordered perm)]

/-- The authors, the categories and the tags of sources are by what the sources declare, in any
order of the sources: authors under the trimmed email in lower case with the trimmed name, and
categories and tags under the trimmed slug with the trimmed name and the color, or the color of the
settings where there is none. Tags are declared in the order of the sources, and in that of the
frontmatter within one source.
-/
theorem resolutions_areBy (settings : Settings) (builtAt : Moment)
    : Resolution.IsBy
        (fun sources => sources.map fun s =>
          ⟨authorKey s.frontmatter.author.email, s.frontmatter.author.name.trimBlanks, s.path⟩)
        (fun d first => .conflictingAuthor d.key first d.value)
        (fun id key name => ⟨id, name, key⟩)
        Resolution.authors
      ∧ Resolution.IsBy
          (fun sources => sources.map fun s =>
            let l := s.frontmatter.category
            ⟨l.slug.trimBlanks, (l.name.trimBlanks, l.color.or settings.categoryColor), s.path⟩)
          (fun d _ => .conflictingCategory d.key)
          (fun id slug value =>
            {
              id, slug
              name := value.1
              color := value.2
              textColor := settings.textColor
              createdAt := builtAt
              updatedAt := builtAt
            })
          (Resolution.categories settings builtAt)
      ∧ Resolution.IsBy
          (fun sources => sources.flatMap fun s => s.frontmatter.tags.map fun l =>
            ⟨l.slug.trimBlanks, (l.name.trimBlanks, l.color.or settings.tagColor), s.path⟩)
          (fun d _ => .conflictingTag d.key)
          (fun id slug value =>
            {
              id, slug
              name := value.1
              color := value.2
              textColor := settings.textColor
              createdAt := builtAt
              updatedAt := builtAt
            })
          (Resolution.tags settings builtAt) :=
  ⟨Resolution.isBy_resolve (fun perm => perm.map _) _ _,
    Resolution.isBy_resolve (fun perm => perm.map _) _ _,
    Resolution.isBy_resolve (fun perm => perm.flatMap_right _) _ _⟩

end BlogSnapshot
