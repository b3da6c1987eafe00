import BlogSnapshot.Proofs.Text.Split

/-! Characters taken off the end of a text, and trimmed texts, which neither begin nor end in a
blank. Trimming a text gives one, changes none of them, and does not depend on the blanks around the
text.
-/

namespace BlogSnapshot.Text

-----------------------------------------------------------------------------------------
-- The end of a text
-----------------------------------------------------------------------------------------

section

variable {p : Char → Bool} {s t : List Char} {c : Char}

/-- What is left of a text when characters are taken off its end begins as the text does. -/
theorem dropRightWhile_cons (kept : p c = false)
    : dropRightWhile p (c :: s) = c :: dropRightWhile p s := by
  unfold dropRightWhile
  rw [List.reverse_cons, List.dropWhile_append]
  split
  case isTrue gone =>
    rw [List.isEmpty_iff.mp gone, List.dropWhile_cons_of_neg (by simp [kept])]
    rfl
  case isFalse => simp

/-- Characters at the end of a text are taken off up to one that stays. -/
theorem dropRightWhile_append_of_left (left : dropRightWhile p t ≠ [])
    : dropRightWhile p (s ++ t) = s ++ dropRightWhile p t := by
  unfold dropRightWhile at left ⊢
  rw [List.reverse_append, List.dropWhile_append, if_neg, List.reverse_append,
    List.reverse_reverse]
  simpa [List.isEmpty_iff] using left

/-- Where all characters at the end of a text are taken off, what is before them stays if its last
one does.
-/
theorem dropRightWhile_append_of_gone (gone : ∀ c ∈ t, p c = true)
    (stays : ∀ c ∈ s.getLast?, p c = false)
    : dropRightWhile p (s ++ t) = s := by
  unfold dropRightWhile
  rw [List.reverse_append, dropWhile_append (by simpa using gone), List.reverse_reverse]
  rwa [List.head?_reverse]

/-- A text is what is left of it and then what is taken off its end. -/
theorem exists_eq_dropRightWhile_append (p : Char → Bool) (s : List Char)
    : ∃ gone, s = dropRightWhile p s ++ gone ∧ ∀ c ∈ gone, p c = true := by
  refine ⟨(s.reverse.takeWhile p).reverse, ?_, ?_⟩
  · rw [dropRightWhile, ← List.reverse_append, List.takeWhile_append_dropWhile,
      List.reverse_reverse]
  · intro c member
    exact List.mem_takeWhile_imp (List.mem_reverse.mp member)

theorem dropRightWhile_ne_nil (member : c ∈ s) (kept : p c = false)
    : dropRightWhile p s ≠ [] := by
  unfold dropRightWhile
  intro nothing
  rw [List.reverse_eq_nil_iff, List.dropWhile_eq_nil_iff] at nothing
  have := nothing c (by simpa using member)
  simp [kept] at this

/-- Taking characters off the end of a text leaves a front part of it. -/
theorem dropRightWhile_isPrefix : dropRightWhile p s <+: s := by
  unfold dropRightWhile
  have := List.dropWhile_suffix p (l := s.reverse)
  rwa [← List.reverse_prefix, List.reverse_reverse] at this

end

-----------------------------------------------------------------------------------------
-- Trimmed texts
-----------------------------------------------------------------------------------------

/-- Every blank character is in the list of them. -/
theorem mem_blanks_of_isBlank {c : Char} (blank : isBlank c = true) : c ∈ blanks := by
  by_cases ascii : c.toNat < 0x80
  case pos =>
    have all : ∀ n < 0x80, isBlank (Char.ofNat n) = true → Char.ofNat n ∈ blanks := by decide
    have here := all c.toNat ascii
    rw [Char.ofNat_toNat] at here
    exact here blank
  case neg => rwa [isBlank, if_neg ascii, List.contains_iff_mem] at blank

/-- A text neither begins nor ends in a blank. -/
structure IsTrimmed (s : List Char) : Prop where
  starts : ∀ c ∈ s.head?, isBlank c = false
  ends : EndsSolid s

/-- Trimming changes no trimmed text. -/
theorem IsTrimmed.trim_eq {s : List Char} (trimmed : IsTrimmed s) : trim s = s := by
  cases s with
  | nil => rfl
  | cons c rest =>
      have kept := trim_append (trimmed.starts c rfl) trimmed.ends (List.forall_mem_nil _)
      rwa [List.append_nil] at kept

/-- What a text begins with after characters are passed over is none of them. -/
theorem head?_dropWhile {p : Char → Bool} {s : List Char} {c : Char}
    (first : (s.dropWhile p).head? = some c)
    : p c = false := by
  have stops := List.head?_dropWhile_not p s
  rwa [first] at stops

theorem isTrimmed_trim (s : List Char) : IsTrimmed (trim s) where
  starts c first := by
    obtain ⟨gone, shown⟩ := dropRightWhile_isPrefix (p := isBlank) (s := trimLeft s)
    refine head?_dropWhile (s := s) ?_
    rw [← trimLeft, ← shown, List.head?_append]
    exact Option.or_eq_some_iff.mpr (.inl first)
  ends c last := by
    rw [trim, trimRight, dropRightWhile, List.getLast?_reverse] at last
    exact head?_dropWhile last

/-- Trimming does not depend on the blanks around a text. -/
theorem trim_surrounded {before after : List Char} (s : List Char)
    (front : allBlank before = true) (back : allBlank after = true)
    : trim (before ++ s ++ after) = trim s := by
  rw [allBlank, List.all_eq_true] at front back
  have passed : trimLeft (before ++ s ++ after) = trimLeft (s ++ after) := by
    rw [trimLeft, trimLeft, List.append_assoc, List.dropWhile_append_of_pos front]
  have takenOff (t : List Char) : trimRight (t ++ after) = trimRight t := by
    rw [trimRight, dropRightWhile, List.reverse_append, List.dropWhile_append_of_pos]
    · rfl
    · simpa using back
  by_cases blank : allBlank s = true
  case pos =>
    have all : allBlank (s ++ after) = true := by
      rw [allBlank, List.all_append, ← allBlank, blank, Bool.true_and, List.all_eq_true]
      exact back
    rw [trim, passed, ← trim, (trim_eq_nil_iff _).mpr all, (trim_eq_nil_iff _).mpr blank]
  case neg =>
    have something : trimLeft s ≠ [] := by
      rw [trimLeft, Ne, List.dropWhile_eq_nil_iff]
      rwa [allBlank, List.all_eq_true] at blank
    have split : trimLeft (s ++ after) = trimLeft s ++ after := by
      rw [trimLeft, List.dropWhile_append, if_neg]
      · rfl
      · rwa [List.isEmpty_iff]
    rw [trim, passed, split, takenOff, trim]

end BlogSnapshot.Text
