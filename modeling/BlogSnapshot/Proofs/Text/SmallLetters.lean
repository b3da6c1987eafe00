import BlogSnapshot.Proofs.Text.Lowercase
import BlogSnapshot.Proofs.Text.Trimming

/-! Lower case of lower case. All that lower case writes are characters that it leaves as they are,
whatever stands around them, and it writes a blank only where there was one. So it can be repeated
and changes nothing, although the form of a sigma depends on its neighbours.
-/

namespace BlogSnapshot.Text

-----------------------------------------------------------------------------------------
-- Runs
-----------------------------------------------------------------------------------------

/-- Whether no small letter of a run is a capital letter of the other one: the other one lies beside
them, or it passes over them, for it has only every second code point.
-/
def CaseRun.isApart (run other : CaseRun) : Bool :=
  (run.small + (run.last - run.first)).blt other.first
  || other.last.blt run.small
  || other.first.ble run.small
    && (run.first == run.last || run.step % other.step == 0)
    && (run.small - other.first) % other.step != 0

/-- The dotted capital I as a run of its own, without the dot of its small letter. -/
def dottedRun : CaseRun := ⟨0x130, 0x130, 1, 0x69⟩

theorem caseRuns_apart
    : ∀ run ∈ caseRuns, ∀ other ∈ dottedRun :: caseRuns, run.isApart other = true := by
  have all : (caseRuns.all fun run => (dottedRun :: caseRuns).all run.isApart) = true := by
    decide +kernel
  simpa only [List.all_eq_true] using all

/-- No small letter is blank, for no blank is among the small letters of a run. -/
theorem caseRuns_solid
    : ∀ run ∈ caseRuns, ∀ b ∈ blanks,
        b.toNat < run.small ∨ run.small + (run.last - run.first) < b.toNat := by
  have all : caseRuns.all (fun run => blanks.all fun b =>
      b.toNat < run.small || run.small + (run.last - run.first) < b.toNat) = true := by
    decide +kernel
  simpa using all

namespace CaseRun

variable {run other : CaseRun} {n m : Nat}

theorem smallOf?_eq_none_of_isApart (apart : run.isApart other = true)
    (found : run.smallOf? n = some m)
    : other.smallOf? m = none := by
  obtain ⟨⟨first, last, step⟩, rfl⟩ := smallOf?_eq_some_iff.mp found
  rw [Option.eq_none_iff_forall_ne_some]
  intro k again
  obtain ⟨⟨firstToo, lastToo, stepToo⟩, -⟩ := smallOf?_eq_some_iff.mp again
  simp only [isApart, Bool.or_eq_true, Bool.and_eq_true, Nat.blt_eq, Nat.ble_eq, beq_iff_eq,
    bne_iff_ne] at apart
  rcases apart with (below | above) | ⟨⟨starts, steps⟩, passes⟩
  · omega
  · omega
  · have far : other.step ∣ n - run.first := by
      rcases steps with single | steps
      · have same : n - run.first = 0 := by omega
        rw [same]
        exact Nat.dvd_zero _
      · exact Nat.dvd_trans (Nat.dvd_of_mod_eq_zero steps) (Nat.dvd_of_mod_eq_zero step)
    have shifted : run.small + (n - run.first) - other.first
        = run.small - other.first + (n - run.first) := by omega
    rw [shifted] at stepToo
    exact passes (Nat.mod_eq_zero_of_dvd
      ((Nat.dvd_add_iff_left far).mpr (Nat.dvd_of_mod_eq_zero stepToo)))

end CaseRun

-----------------------------------------------------------------------------------------
-- Characters
-----------------------------------------------------------------------------------------

/-- Lower case leaves a character as it is, whatever stands around it. -/
def IsLowered (c : Char) : Prop :=
  c ≠ 'Σ' ∧ c ≠ 'İ' ∧ lowerSimple c = c

instance (c : Char) : Decidable (IsLowered c) :=
  inferInstanceAs (Decidable (_ ∧ _))

theorem IsLowered.lowerChar_eq {c : Char} (lowered : IsLowered c) (before after : List Char)
    : lowerChar before c after = [c] := by
  obtain ⟨notSigma, notDotted, simple⟩ := lowered
  rw [lowerChar, if_neg notSigma, if_neg notDotted, simple]

/-- What lower case makes of a solid character is lowered and solid. -/
structure IsSolidSmall (c d : Char) : Prop where
  lowered : IsLowered d
  solid : isBlank c = false → isBlank d = false

theorem isSolidSmall_toLower {c : Char} (ascii : c.toNat < 0x80)
    : IsSolidSmall c (lowerSimple c) := by
  have all : ∀ n < 0x80, IsLowered (lowerSimple (Char.ofNat n))
      ∧ (isBlank (Char.ofNat n) = false → isBlank (lowerSimple (Char.ofNat n)) = false) := by
    decide +kernel
  obtain ⟨lowered, solid⟩ := all c.toNat ascii
  rw [Char.ofNat_toNat] at lowered solid
  exact ⟨lowered, solid⟩

/-- The small letter of a run is no capital letter of any run. -/
theorem isLowered_of_smallOf? {run : CaseRun} (member : run ∈ caseRuns) {n m : Nat}
    (found : run.smallOf? n = some m)
    : IsLowered (Char.ofNat m) := by
  have least := (caseRuns_isSmall run member).le_toNat found
  have code : (Char.ofNat m).toNat = m := (caseRuns_isSmall run member).toNat_ofNat found
  have noCapital : ∀ other ∈ dottedRun :: caseRuns, other.smallOf? m = none := by
    intro other among
    exact CaseRun.smallOf?_eq_none_of_isApart (caseRuns_apart run member other among) found
  refine ⟨?_, ?_, ?_⟩
  · intro isSigma
    obtain ⟨other, among, capital⟩ : ∃ other ∈ caseRuns, other.smallOf? 0x3a3 ≠ none := by
      decide +kernel
    rw [isSigma] at code
    have none := noCapital other (List.mem_cons_of_mem _ among)
    rw [← code] at none
    exact capital none
  · intro isDotted
    rw [isDotted] at code
    have none := noCapital dottedRun List.mem_cons_self
    rw [← code] at none
    cases none
  · unfold lowerSimple
    split
    case isTrue ascii =>
      have small : ∀ k < 0x80, 0x61 ≤ k → (Char.ofNat k).toLower = Char.ofNat k := by decide
      rw [code] at ascii least
      exact small m ascii least
    case isFalse =>
      have none : caseRuns.findSome? (·.smallOf? (Char.ofNat m).toNat) = none := by
        rw [List.findSome?_eq_none_iff, code]
        exact fun other among => noCapital other (List.mem_cons_of_mem _ among)
      rw [none]

theorem isSolidSmall_lowerSimple {c : Char} (notSigma : c ≠ 'Σ') (notDotted : c ≠ 'İ')
    : IsSolidSmall c (lowerSimple c) := by
  by_cases ascii : c.toNat < 0x80
  case pos => exact isSolidSmall_toLower ascii
  case neg =>
    cases found : caseRuns.findSome? (·.smallOf? c.toNat) with
    | none =>
        have same : lowerSimple c = c := by rw [lowerSimple, if_neg ascii, found]
        exact ⟨same.symm ▸ ⟨notSigma, notDotted, same⟩, fun solid => same.symm ▸ solid⟩
    | some m =>
        have shown : lowerSimple c = Char.ofNat m := by rw [lowerSimple, if_neg ascii, found]
        obtain ⟨run, member, small⟩ := List.exists_of_findSome?_eq_some found
        refine shown ▸ ⟨isLowered_of_smallOf? member small, fun _ => ?_⟩
        by_contra blank
        have among := mem_blanks_of_isBlank ((Bool.not_eq_false _).mp blank)
        have beside := caseRuns_solid run member _ among
        rw [(caseRuns_isSmall run member).toNat_ofNat small] at beside
        obtain ⟨⟨first, last, -⟩, rfl⟩ := CaseRun.smallOf?_eq_some_iff.mp small
        omega

theorem isSolidSmall_of_mem_lowerChar {before after : List Char} {c d : Char}
    (member : d ∈ lowerChar before c after)
    : IsSolidSmall c d := by
  unfold lowerChar lowerSigma at member
  split at member
  · split at member <;> rw [List.mem_singleton.mp member] <;>
      exact ⟨by decide +kernel, fun _ => by decide⟩
  case isFalse notSigma =>
    split at member
    · rcases List.mem_pair.mp member with rfl | rfl <;>
        exact ⟨by decide +kernel, fun _ => by decide⟩
    case isFalse notDotted =>
      rw [List.mem_singleton.mp member]
      exact isSolidSmall_lowerSimple notSigma notDotted

-----------------------------------------------------------------------------------------
-- Texts
-----------------------------------------------------------------------------------------

/-- Lower case writes lowered characters only, by induction on the text. -/
theorem isLowered_of_mem_lowerFrom {before s : List Char} {d : Char}
    (member : d ∈ lowerFrom before s)
    : IsLowered d := by
  induction s generalizing before with
  | nil => cases member
  | cons c rest ih =>
      rcases List.mem_append.mp member with here | later
      · exact (isSolidSmall_of_mem_lowerChar here).lowered
      · exact ih later

/-- Lowered characters stay, by induction on the text. -/
theorem lowerFrom_eq_self {s : List Char} (lowered : ∀ c ∈ s, IsLowered c) (before : List Char)
    : lowerFrom before s = s := by
  induction s generalizing before with
  | nil => rfl
  | cons c rest ih =>
      obtain ⟨first, others⟩ := List.forall_mem_cons.mp lowered
      rw [lowerFrom, first.lowerChar_eq, ih others]
      rfl

/-- Lower case of lower case is lower case. -/
theorem lower_lower (s : List Char) : lower (lower s) = lower s :=
  lowerFrom_eq_self (fun _ => isLowered_of_mem_lowerFrom) []

/-- Lower case ends in a blank only where the text does, by induction on the text. -/
theorem EndsSolid.lowerFrom {s : List Char} (ends : EndsSolid s) (before : List Char)
    : EndsSolid (Text.lowerFrom before s) := by
  induction s generalizing before with
  | nil => exact ends
  | cons c rest ih =>
      have later : EndsSolid rest := by
        intro d last
        exact ends d (by simp [List.getLast?_cons, Option.mem_def.mp last])
      refine .append (fun nothing => ?_) (ih later _)
      -- Nothing is written for the rest of the text only if there is none, and then `c` ends it.
      have alone : rest = [] := by
        cases rest with
        | nil => rfl
        | cons d rest => simp [Text.lowerFrom, lowerChar_ne_nil] at nothing
      subst alone
      refine endsSolid_of_forall fun d member => ?_
      exact (isSolidSmall_of_mem_lowerChar member).solid (ends c rfl)

/-- Lower case of a trimmed text is trimmed. -/
theorem IsTrimmed.lower {s : List Char} (trimmed : IsTrimmed s) : IsTrimmed (Text.lower s) where
  starts d first := by
    cases s with
    | nil => cases first
    | cons c rest =>
        obtain ⟨e, more, shown⟩ := List.exists_cons_of_ne_nil (lowerChar_ne_nil [] c rest)
        have same : e = d := by simpa [Text.lower, lowerFrom, shown] using first
        have member : d ∈ lowerChar [] c rest := by simp [shown, same]
        exact (isSolidSmall_of_mem_lowerChar member).solid (trimmed.starts c rfl)
  ends := trimmed.ends.lowerFrom []

end BlogSnapshot.Text
