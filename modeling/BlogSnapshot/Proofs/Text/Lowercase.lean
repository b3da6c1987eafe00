import BlogSnapshot.Text.Lowercase
import Mathlib.Data.List.Basic

/-! What lower case makes of a text: it leaves no character without a form, and all that it puts in
place of another character are small letters and a combining mark.
-/

namespace BlogSnapshot.Text

/-- The small letters of a run are characters that are not below `a`. -/
def CaseRun.IsSmall (run : CaseRun) : Prop :=
  0x61 ≤ run.small
  ∧ (run.small + (run.last - run.first) < 0xd800
    ∨ 0xdfff < run.small ∧ run.small + (run.last - run.first) < 0x110000)

instance (run : CaseRun) : Decidable run.IsSmall :=
  inferInstanceAs (Decidable (_ ∧ _))

theorem caseRuns_isSmall : ∀ run ∈ caseRuns, run.IsSmall := by
  decide +kernel

theorem CaseRun.smallOf?_eq_some_iff {run : CaseRun} {n m : Nat}
    : run.smallOf? n = some m
      ↔ (run.first ≤ n ∧ n ≤ run.last ∧ (n - run.first) % run.step = 0)
        ∧ run.small + (n - run.first) = m := by
  simp only [smallOf?, Option.ite_none_right_eq_some, Bool.and_eq_true, decide_eq_true_eq,
    Option.some.injEq, and_assoc]

theorem toNat_ofNat {n : Nat} (valid : n.isValidChar) : (Char.ofNat n).toNat = n := by
  rw [Char.ofNat, dif_pos valid]
  rfl

/-- What a run makes of a letter is a character with that code. -/
theorem CaseRun.IsSmall.toNat_ofNat {run : CaseRun} (small : run.IsSmall) {n m : Nat}
    (found : run.smallOf? n = some m)
    : (Char.ofNat m).toNat = m := by
  obtain ⟨⟨first, last, -⟩, rfl⟩ := smallOf?_eq_some_iff.mp found
  obtain ⟨least, valid⟩ := small
  refine Text.toNat_ofNat ?_
  simp only [Nat.isValidChar]
  omega

/-- What a run makes of a letter is a character that is not below `a`. -/
theorem CaseRun.IsSmall.le_toNat {run : CaseRun} (small : run.IsSmall) {n m : Nat}
    (found : run.smallOf? n = some m)
    : 0x61 ≤ (Char.ofNat m).toNat := by
  rw [small.toNat_ofNat found]
  obtain ⟨-, rfl⟩ := smallOf?_eq_some_iff.mp found
  exact Nat.le_add_right_of_le small.1

/-- Whatever replaces a character in lower case is not below `a`. -/
def KeptOrSmall (c d : Char) : Prop :=
  d = c ∨ 0x61 ≤ d.toNat

theorem keptOrSmall_toLower (c : Char) (ascii : c.toNat < 0x80) : KeptOrSmall c c.toLower := by
  have all : ∀ n < 0x80, (Char.ofNat n).toLower = Char.ofNat n
      ∨ 0x61 ≤ (Char.ofNat n).toLower.toNat := by
    decide
  have here := all c.toNat ascii
  rwa [Char.ofNat_toNat] at here

theorem keptOrSmall_lowerSimple (c : Char) : KeptOrSmall c (lowerSimple c) := by
  unfold lowerSimple
  split
  case isTrue ascii => exact keptOrSmall_toLower c ascii
  case isFalse =>
    split
    case h_1 n found =>
      obtain ⟨run, member, small⟩ := List.exists_of_findSome?_eq_some found
      exact .inr ((caseRuns_isSmall run member).le_toNat small)
    case h_2 => exact .inl rfl

theorem keptOrSmall_lowerChar {before after : List Char} {c d : Char}
    (member : d ∈ lowerChar before c after)
    : KeptOrSmall c d := by
  unfold lowerChar lowerSigma at member
  split at member
  · right
    split at member <;> rw [List.mem_singleton.mp member] <;> decide
  · split at member
    · right
      rcases List.mem_pair.mp member with rfl | rfl <;> decide
    · rw [List.mem_singleton.mp member]
      exact keptOrSmall_lowerSimple c

theorem lowerChar_ne_nil (before : List Char) (c : Char) (after : List Char)
    : lowerChar before c after ≠ [] := by
  unfold lowerChar
  split
  · simp
  · split <;> simp

/-- A character below `a` that a text has in lower case, it has itself, by induction on the text. -/
theorem mem_of_mem_lowerFrom {mark : Char} (low : mark.toNat < 0x61) {before s : List Char}
    (member : mark ∈ lowerFrom before s)
    : mark ∈ s := by
  induction s generalizing before with
  | nil => exact member
  | cons c rest ih =>
      rcases List.mem_append.mp member with here | later
      · rcases keptOrSmall_lowerChar here with rfl | small
        · exact List.mem_cons_self
        · omega
      · exact List.mem_cons_of_mem c (ih later)

theorem mem_of_mem_lower {mark : Char} (low : mark.toNat < 0x61) {s : List Char}
    (member : mark ∈ lower s)
    : mark ∈ s :=
  mem_of_mem_lowerFrom low member

/-- Only the empty text has an empty lower case. -/
theorem lower_eq_nil_iff (s : List Char) : lower s = [] ↔ s = [] := by
  cases s with
  | nil => exact iff_of_true rfl rfl
  | cons c rest => simp [lower, lowerFrom, lowerChar_ne_nil]

end BlogSnapshot.Text
