import BlogSnapshot.Proofs.Index
import BlogSnapshot.Proofs.Sorting
import BlogSnapshot.Resolution

/-! What a fold of declarations computes: the earliest value of every key, and a conflict for each
declaration that differs from the earliest one of its key.
-/

namespace BlogSnapshot.Declaration

variable {ν : Type}

/-- The value of the earliest declaration of a key. -/
def earliest? (ds : List (Declaration ν)) (key : String) : Option ν :=
  (ds.find? fun d => d.key = key).map (·.value)

/-- All declarations of one key have one value. -/
def Agree (ds : List (Declaration ν)) : Prop :=
  ∀ d ∈ ds, ∀ e ∈ ds, d.key = e.key → d.value = e.value

instance [DecidableEq ν] (ds : List (Declaration ν)) : Decidable (Agree ds) :=
  inferInstanceAs (Decidable (∀ d ∈ ds, ∀ e ∈ ds, d.key = e.key → d.value = e.value))

/-- The declaration `d` is the first that differs from the earliest one of its key, which has the
value `first`.
-/
structure FirstClash (ds : List (Declaration ν)) (d : Declaration ν) (first : ν) : Prop where
  agreeBefore
    : ∃ before after,
        ds = before ++ d :: after ∧ ∀ e ∈ before, earliest? ds e.key = some e.value
  earliest : earliest? ds d.key = some first
  differs : first ≠ d.value

/-- The keys in the order of their first declarations, with the values declared there. -/
def firsts : List (Declaration ν) → List (String × ν)
  | [] => []
  | d :: rest => (d.key, d.value) :: (firsts rest).filter (·.1 ≠ d.key)

/-- The keys in ascending order, with the values of their earliest declarations. -/
def ranked (ds : List (Declaration ν)) : List (String × ν) :=
  (firsts ds).mergeSort fun a b => a.1 ≤ b.1

-----------------------------------------------------------------------------------------
-- The earliest value of a key
-----------------------------------------------------------------------------------------

@[simp]
theorem earliest?_nil (key : String) : earliest? ([] : List (Declaration ν)) key = none :=
  rfl

theorem earliest?_cons (d : Declaration ν) (rest : List (Declaration ν)) (key : String)
    : earliest? (d :: rest) key
      = if d.key = key then some d.value else earliest? rest key := by
  by_cases same : d.key = key <;> simp [earliest?, same]

/-- An earlier list of declarations has the word on its keys. -/
theorem earliest?_append (ds es : List (Declaration ν)) (key : String)
    : earliest? (ds ++ es) key = (earliest? ds key).or (earliest? es key) := by
  simp [earliest?, List.find?_append, Option.map_or]

/-- Exactly the declared keys have an earliest value. -/
theorem earliest?_isSome (ds : List (Declaration ν)) (key : String)
    : (earliest? ds key).isSome ↔ key ∈ ds.map (·.key) := by
  simp [earliest?]

/-- An earliest value is declared. -/
theorem mem_of_earliest? {ds : List (Declaration ν)} {key : String} {v : ν}
    (found : earliest? ds key = some v)
    : ∃ d ∈ ds, d.key = key ∧ d.value = v := by
  obtain ⟨d, first, value⟩ := Option.map_eq_some_iff.mp found
  exact ⟨d, List.mem_of_find?_eq_some first, by simpa using List.find?_some first, value⟩

/-- The key of a declaration has an earliest value. -/
theorem earliest?_of_mem {ds : List (Declaration ν)} {d : Declaration ν} (member : d ∈ ds)
    : ∃ first, earliest? ds d.key = some first :=
  Option.isSome_iff_exists.mp ((earliest?_isSome ds d.key).mpr (List.mem_map_of_mem member))

/-- Declarations agree when each repeats the earliest one of its key. -/
theorem agree_iff (ds : List (Declaration ν))
    : Agree ds ↔ ∀ d ∈ ds, earliest? ds d.key = some d.value := by
  constructor
  · intro agree d member
    obtain ⟨first, found⟩ := earliest?_of_mem member
    obtain ⟨e, inDs, sameKey, value⟩ := mem_of_earliest? found
    rw [found, ← value, agree e inDs d member sameKey]
  · intro repeats d inD e inE sameKey
    have both : some d.value = some e.value := by
      rw [← repeats d inD, ← repeats e inE, sameKey]
    exact Option.some.inj both

/-- Fewer declarations agree where all do. -/
theorem Agree.subset {ds fewer : List (Declaration ν)} (agree : Agree ds) (subset : fewer ⊆ ds)
    : Agree fewer :=
  fun d inD e inE => agree d (subset inD) e (subset inE)

/-- Where declarations agree, the earliest value of a key among fewer of them is the earliest among
all.
-/
theorem Agree.earliest?_of_subset {ds fewer : List (Declaration ν)} (agree : Agree ds)
    (subset : fewer ⊆ ds) {key : String} {v : ν} (found : earliest? fewer key = some v)
    : earliest? ds key = some v := by
  obtain ⟨d, member, rfl, rfl⟩ := mem_of_earliest? found
  exact (agree_iff ds).mp agree d (subset member)

-----------------------------------------------------------------------------------------
-- The table of first declarations
-----------------------------------------------------------------------------------------

/-- The table of first declarations holds the earliest values, by induction on the declarations.
-/
theorem mem_firsts (ds : List (Declaration ν)) (key : String) (v : ν)
    : (key, v) ∈ firsts ds ↔ earliest? ds key = some v := by
  induction ds with
  | nil => simp [firsts]
  | cons d rest ih =>
      by_cases same : d.key = key
      · subst same
        simp [firsts, earliest?_cons, eq_comm]
      · have other : key ≠ d.key := fun eq => same eq.symm
        simp [firsts, earliest?_cons, same, other, ih]

/-- No key has two first declarations, by induction on the declarations. -/
theorem nodup_firsts (ds : List (Declaration ν)) : ((firsts ds).map Prod.fst).Nodup := by
  induction ds with
  | nil => simp [firsts]
  | cons d rest ih =>
      have fewer : (((firsts rest).filter (·.1 ≠ d.key)).map Prod.fst).Nodup :=
        (List.filter_sublist.map Prod.fst).nodup ih
      simpa [firsts] using fewer

/-- Looking a key up among the first declarations gives its earliest value. -/
theorem lookup_firsts (ds : List (Declaration ν)) (key : String)
    : (firsts ds).lookup key = earliest? ds key := by
  apply Option.ext
  intro v
  rw [Index.lookup_eq_some_iff_mem (nodup_firsts ds), mem_firsts]

/-- The keys of the table are those that are declared. -/
theorem mem_keys_firsts (ds : List (Declaration ν)) (key : String)
    : key ∈ (firsts ds).map Prod.fst ↔ key ∈ ds.map (·.key) := by
  rw [← earliest?_isSome, Option.isSome_iff_exists]
  simp [← mem_firsts]

/-- One more declaration enters the table only if its key is new, by induction on the earlier
ones.
-/
theorem firsts_snoc (ds : List (Declaration ν)) (d : Declaration ν)
    : firsts (ds ++ [d])
      = if (earliest? ds d.key).isSome then firsts ds
        else firsts ds ++ [(d.key, d.value)] := by
  induction ds with
  | nil => simp [firsts]
  | cons head rest ih =>
      by_cases same : head.key = d.key
      · by_cases known : (earliest? rest d.key).isSome
          <;> simp [firsts, ih, known, earliest?_cons, same]
      · have other : d.key ≠ head.key := fun eq => same eq.symm
        by_cases known : (earliest? rest d.key).isSome
          <;> simp [firsts, ih, known, earliest?_cons, same, other]

/-- The ranked keys ascend strictly. -/
theorem ranked_ascending (ds : List (Declaration ν))
    : Sorting.Ascending Prod.fst (ranked ds) :=
  Sorting.Compares.ascending (fun _ _ => decide_eq_true_iff) (nodup_firsts ds)

/-- The ranked table holds the earliest values. -/
theorem mem_ranked (ds : List (Declaration ν)) (key : String) (v : ν)
    : (key, v) ∈ ranked ds ↔ earliest? ds key = some v := by
  rw [ranked, List.mem_mergeSort, mem_firsts]

/-- The ranked keys are those that are declared. -/
theorem mem_keys_ranked (ds : List (Declaration ν)) (key : String)
    : key ∈ (ranked ds).map Prod.fst ↔ key ∈ ds.map (·.key) := by
  rw [← mem_keys_firsts]
  exact ((List.mergeSort_perm (firsts ds) _).map Prod.fst).mem_iff

-----------------------------------------------------------------------------------------
-- The fold
-----------------------------------------------------------------------------------------

variable [DecidableEq ν]

/-- The earliest value of the key of a declaration, where it is not the declaration's own. -/
def clash? (ds : List (Declaration ν)) (d : Declaration ν) : Option ν :=
  (earliest? ds d.key).filter (· ≠ d.value)

/-- The conflicts of declarations, in their order: one for each that differs from the earliest
declaration of its key.
-/
def conflictsOf (conflict : Declaration ν → ν → Cause) (ds : List (Declaration ν))
    : List ContentError :=
  ds.filterMap fun d => (clash? ds d).map fun first => ⟨conflict d first, some d.path⟩

theorem clash?_eq_some_iff (ds : List (Declaration ν)) (d : Declaration ν) (first : ν)
    : clash? ds d = some first ↔ earliest? ds d.key = some first ∧ first ≠ d.value := by
  simp [clash?, Option.filter_eq_some_iff]

/-- A declaration that repeats the earliest one of its key does not clash. -/
theorem clash?_of_repeated {ds : List (Declaration ν)} {d : Declaration ν}
    (repeats : earliest? ds d.key = some d.value)
    : clash? ds d = none := by
  simp [clash?, repeats, Option.filter_some]

/-- One more declaration adds its own conflict and leaves the others, for the earliest value of
a key that is declared already does not change.
-/
theorem conflictsOf_snoc (conflict : Declaration ν → ν → Cause) (ds : List (Declaration ν))
    (d : Declaration ν)
    : conflictsOf conflict (ds ++ [d])
      = conflictsOf conflict ds
        ++ ((clash? ds d).map fun first =>
            (⟨conflict d first, some d.path⟩ : ContentError)).toList := by
  have old : ∀ e ∈ ds, clash? (ds ++ [d]) e = clash? ds e := by
    intro e member
    obtain ⟨first, found⟩ := earliest?_of_mem member
    simp [clash?, earliest?_append, found]
  have own : clash? (ds ++ [d]) d = clash? ds d := by
    cases found : earliest? ds d.key <;>
      simp [clash?, earliest?_append, earliest?_cons, found, Option.filter_some]
  unfold conflictsOf
  rw [List.filterMap_append]
  congr 1
  · apply List.filterMap_congr
    intro e member
    rw [old e member]
  · rw [List.filterMap_cons, own]
    cases clash? ds d <;> rfl

/-- A fold that has read some declarations knows their first ones and their conflicts, and
reading on extends both: by induction on the declarations still to be read.
-/
theorem fold_firsts (conflict : Declaration ν → ν → Cause) (rest seen : List (Declaration ν))
    : fold conflict rest (firsts seen, conflictsOf conflict seen)
      = (firsts (seen ++ rest), conflictsOf conflict (seen ++ rest)) := by
  induction rest generalizing seen with
  | nil => simp [fold]
  | cons d rest ih =>
      have next := ih (seen ++ [d])
      rw [List.append_assoc, List.singleton_append] at next
      rw [fold, lookup_firsts, ← next, firsts_snoc, conflictsOf_snoc]
      cases found : earliest? seen d.key with
      | none => simp [clash?, found]
      | some first =>
          by_cases same : first = d.value <;> simp [clash?, found, same, Option.filter_some]

/-- A fold gives the first declarations and the conflicts of what it reads. -/
theorem fold_eq (conflict : Declaration ν → ν → Cause) (ds : List (Declaration ν))
    : fold conflict ds ([], []) = (firsts ds, conflictsOf conflict ds) :=
  fold_firsts conflict ds []

/-- Declarations that agree have no conflicts. -/
theorem Agree.conflictsOf_eq_nil {ds : List (Declaration ν)} (agree : Agree ds)
    (conflict : Declaration ν → ν → Cause)
    : conflictsOf conflict ds = [] := by
  apply List.filterMap_eq_nil_iff.mpr
  intro d member
  rw [clash?_of_repeated ((agree_iff ds).mp agree d member), Option.map_none]

/-- The first clash gives the first conflict. -/
theorem FirstClash.head?_conflictsOf {ds : List (Declaration ν)} {d : Declaration ν} {first : ν}
    (clash : FirstClash ds d first) (conflict : Declaration ν → ν → Cause)
    : (conflictsOf conflict ds).head? = some ⟨conflict d first, some d.path⟩ := by
  obtain ⟨⟨before, after, split, agree⟩, earliest, differs⟩ := clash
  have silent : ∀ e ∈ before, clash? ds e = none :=
    fun e member => clash?_of_repeated (agree e member)
  have clashes : clash? ds d = some first := (clash?_eq_some_iff ds d first).mpr ⟨earliest, differs⟩
  have headless : (before.filterMap fun e => (clash? ds e).map fun first =>
      (⟨conflict e first, some e.path⟩ : ContentError)) = [] := by
    apply List.filterMap_eq_nil_iff.mpr
    intro e member
    rw [silent e member, Option.map_none]
  calc (conflictsOf conflict ds).head?
      = ((before ++ d :: after).filterMap fun e => (clash? ds e).map fun first =>
          (⟨conflict e first, some e.path⟩ : ContentError)).head? := by
        rw [← split, conflictsOf]
    _ = some ⟨conflict d first, some d.path⟩ := by
        rw [List.filterMap_append, headless, List.filterMap_cons, clashes]
        rfl

/-- Declarations agree, or else there is a first clash among them. -/
theorem agree_or_firstClash (ds : List (Declaration ν))
    : Agree ds ∨ ∃ d first, FirstClash ds d first := by
  cases found : ds.find? fun d => earliest? ds d.key ≠ some d.value with
  | none =>
      left
      apply (agree_iff ds).mpr
      intro d member
      simpa using List.find?_eq_none.mp found d member
  | some d =>
      right
      obtain ⟨differs, before, after, split, agree⟩ := List.find?_eq_some_iff_append.mp found
      have member : d ∈ ds := by simp [split]
      obtain ⟨first, earliest⟩ := earliest?_of_mem member
      refine ⟨d, first, ⟨before, after, split, ?_⟩, earliest, ?_⟩
      · intro e inBefore
        simpa using agree e inBefore
      · rintro rfl
        simp [earliest] at differs

end BlogSnapshot.Declaration
