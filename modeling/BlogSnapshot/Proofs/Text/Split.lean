import BlogSnapshot.Text.Blank
import BlogSnapshot.Text.Split
import Mathlib.Data.List.Infix
import Mathlib.Data.List.TakeDrop
import Mathlib.Data.List.TakeWhile

/-! Cutting a text at another text, and what is left of one that is trimmed. A cut is at the first
occurrence, and where two occurrences overlap, the earlier one counts.
-/

namespace BlogSnapshot.Text

variable {lead mark s rest head tail : List Char}

/-- The rest of a text is what follows the text that it starts with, by induction on both. -/
theorem afterLead?_eq_some_iff : afterLead? lead s = some rest ↔ s = lead ++ rest := by
  induction lead generalizing s with
  | nil => simp [afterLead?]
  | cons c lead ih =>
      cases s with
      | nil => simp [afterLead?]
      | cons d s =>
          rw [afterLead?, List.cons_append, List.cons.injEq]
          split
          case isTrue same => rw [ih, and_iff_right same.symm]
          case isFalse other => simp [Ne.symm other]

/-- A text that does not start with the other one has no rest. -/
theorem afterLead?_eq_none_iff : afterLead? lead s = none ↔ ¬ lead <+: s := by
  rw [Option.eq_none_iff_forall_ne_some]
  constructor
  · rintro none ⟨rest, same⟩
    exact none rest (afterLead?_eq_some_iff.mpr same.symm)
  · intro other rest found
    exact other ⟨rest, (afterLead?_eq_some_iff.mp found).symm⟩

/-- What stands before the last character of a mark starts a text with the mark. -/
theorem prefix_append_mark (head mark tail : List Char)
    : head ++ mark.dropLast <+: head ++ mark ++ tail := by
  rw [List.append_assoc, List.prefix_append_right_inj]
  exact (List.dropLast_prefix mark).trans (List.prefix_append mark tail)

/-- Nothing stands before the first mark of a text that starts with the mark. -/
theorem eq_nil_of_starts_of_first (starts : mark <+: head ++ mark ++ tail)
    (first : ¬ mark <:+: head ++ mark.dropLast)
    : head = [] := by
  by_contra later
  have longer : 0 < head.length := List.length_pos_of_ne_nil later
  -- the mark at the start ends before the first mark does
  have within : mark <+: head ++ mark.dropLast := by
    apply List.prefix_of_prefix_length_le starts (prefix_append_mark head mark tail)
    simp only [List.length_append, List.length_dropLast]
    omega
  exact first within.isInfix

/-- A text is cut at a mark where the mark first occurs: what stands before the last character of
that occurrence has no other one in it, however the mark overlaps itself. By induction on the text.
-/
theorem cutAtText?_eq_some_iff (nonempty : mark ≠ [])
    : cutAtText? mark s = some (head, tail)
      ↔ s = head ++ mark ++ tail ∧ ¬ mark <:+: head ++ mark.dropLast := by
  induction s generalizing head with
  | nil => simp [cutAtText?, nonempty]
  | cons c rest ih =>
      rw [cutAtText?]
      cases found : afterLead? mark (c :: rest) with
      | some after =>
          have starts : c :: rest = mark ++ after := afterLead?_eq_some_iff.mp found
          simp only [Option.some.injEq, Prod.mk.injEq]
          constructor
          · rintro ⟨rfl, rfl⟩
            refine ⟨starts, fun occurs => ?_⟩
            -- a mark has no room in its own start
            have positive : 0 < mark.length := List.length_pos_of_ne_nil nonempty
            have short := occurs.length_le
            simp only [List.nil_append, List.length_dropLast] at short
            omega
          · rintro ⟨split, first⟩
            obtain rfl := eq_nil_of_starts_of_first ⟨after, starts.symm.trans split⟩ first
            exact ⟨rfl, List.append_cancel_left (starts.symm.trans split)⟩
      | none =>
          have other : ¬ mark <+: c :: rest := afterLead?_eq_none_iff.mp found
          simp only [Option.map_eq_some_iff, Prod.exists]
          constructor
          · rintro ⟨before, after, cut, same⟩
            cases same
            obtain ⟨rfl, first⟩ := ih.mp cut
            refine ⟨rfl, fun occurs => ?_⟩
            rcases List.infix_cons_iff.mp occurs with starts | later
            · exact other (starts.trans (prefix_append_mark (c :: before) mark tail))
            · exact first later
          · rintro ⟨split, first⟩
            cases head with
            | nil => exact absurd ⟨tail, split.symm⟩ other
            | cons d before =>
                obtain ⟨rfl, rfl⟩ := List.cons.inj split
                exact ⟨before, tail, ih.mpr ⟨rfl, fun later => first (List.infix_cons later)⟩, rfl⟩

/-- A text is not cut exactly if the mark does not occur in it, by induction on the text. -/
theorem cutAtText?_eq_none_iff (nonempty : mark ≠ [])
    : cutAtText? mark s = none ↔ ¬ mark <:+: s := by
  induction s with
  | nil =>
      cases mark with
      | nil => exact absurd rfl nonempty
      | cons c mark => simp [cutAtText?]
  | cons c rest ih =>
      rw [List.infix_cons_iff, cutAtText?]
      cases found : afterLead? mark (c :: rest) with
      | none =>
          simp [afterLead?_eq_none_iff.mp found, ih]
      | some tail =>
          have starts : mark <+: c :: rest := ⟨tail, (afterLead?_eq_some_iff.mp found).symm⟩
          simp [starts]

-----------------------------------------------------------------------------------------
-- Texts that end at a mark
-----------------------------------------------------------------------------------------

/-- Where a part of a text ends at the first character of another kind, the part and what follows
are determined by the whole.
-/
theorem part_eq_of_append_eq {isPart : Char → Bool} {v w : List Char} {c d : Char}
    {r s : List Char} (inV : ∀ x ∈ v, isPart x) (inW : ∀ x ∈ w, isPart x)
    (endsV : isPart c = false) (endsW : isPart d = false) (same : v ++ c :: r = w ++ d :: s)
    : v = w ∧ c = d ∧ r = s := by
  have parts := congrArg (List.takeWhile isPart) same
  rw [List.takeWhile_append_of_pos inV, List.takeWhile_append_of_pos inW,
    List.takeWhile_cons_of_neg (by simpa using endsV),
    List.takeWhile_cons_of_neg (by simpa using endsW), List.append_nil, List.append_nil] at parts
  subst parts
  exact ⟨rfl, List.cons.inj (List.append_cancel_left same)⟩

/-- Where a part of a text ends at the first mark, the part and what follows are determined. -/
theorem part_eq_of_mark {mark : Char} {v w r s : List Char} (notInV : mark ∉ v)
    (notInW : mark ∉ w) (same : v ++ mark :: r = w ++ mark :: s)
    : v = w ∧ r = s := by
  have apart {part : List Char} (notIn : mark ∉ part)
      : ∀ c ∈ part, decide (c ≠ mark) = true := by
    intro c member
    exact decide_eq_true fun isMark => notIn (isMark ▸ member)
  have ends : decide (mark ≠ mark) = false := by simp
  obtain ⟨parts, _, rests⟩ := part_eq_of_append_eq (apart notInV) (apart notInW) ends ends same
  exact ⟨parts, rests⟩

section

variable {p : Char → Bool} {c : Char}

/-- No character of a text is the mark. -/
theorem forall_ne_iff_notMem {mark : Char}
    : (∀ x ∈ s, decide (x = mark) = false) ↔ mark ∉ s := by
  simp only [decide_eq_false_iff_not]
  exact ⟨fun none member => none mark member rfl, fun none x member same => none (same ▸ member)⟩

/-- A text without such a character is not cut. -/
theorem cutAt_of_forall (none : ∀ x ∈ s, p x = false) : cutAt p s = (s, .none) := by
  induction s with
  | nil => rfl
  | cons x s ih =>
      obtain ⟨first, later⟩ := List.forall_mem_cons.mp none
      simp only [cutAt, first, Bool.false_eq_true, if_false, ih later]

/-- A text is cut at the first such character. -/
theorem cutAt_append_cons (none : ∀ x ∈ head, p x = false) (cut : p c = true) (rest : List Char)
    : cutAt p (head ++ c :: rest) = (head, some rest) := by
  induction head with
  | nil => simp only [List.nil_append, cutAt, cut, if_true]
  | cons x head ih =>
      obtain ⟨first, later⟩ := List.forall_mem_cons.mp none
      simp only [List.cons_append, cutAt, first, Bool.false_eq_true, if_false, ih later]

/-- A text has no such character, or there is a first one, by induction on the text. -/
theorem forall_or_first_char (p : Char → Bool) (s : List Char)
    : (∀ x ∈ s, p x = false)
      ∨ ∃ head c rest, s = head ++ c :: rest ∧ (∀ x ∈ head, p x = false) ∧ p c = true := by
  induction s with
  | nil => exact .inl (List.forall_mem_nil _)
  | cons x s ih =>
      cases isCut : p x with
      | true => exact .inr ⟨[], x, s, rfl, List.forall_mem_nil _, isCut⟩
      | false =>
          rcases ih with none | ⟨head, c, rest, rfl, none, cut⟩
          · exact .inl (List.forall_mem_cons.mpr ⟨isCut, none⟩)
          · exact .inr ⟨x :: head, c, rest, rfl, List.forall_mem_cons.mpr ⟨isCut, none⟩, cut⟩

/-- What follows the last such character is the whole text without one. -/
theorem afterLast_of_forall (none : ∀ x ∈ s, p x = false) : afterLast p s = s := by
  have all : s.reverse.takeWhile (!p ·) = s.reverse := by
    rw [List.takeWhile_eq_self_iff]
    intro x member
    simp [none x (List.mem_reverse.mp member)]
  rw [afterLast, all, List.reverse_reverse]

/-- What follows the last such character. -/
theorem afterLast_append_cons (none : ∀ x ∈ tail, p x = false) (cut : p c = true)
    (front : List Char)
    : afterLast p (front ++ c :: tail) = tail := by
  have all : ∀ x ∈ tail.reverse, (!p x) = true := by
    intro x member
    simp [none x (List.mem_reverse.mp member)]
  rw [afterLast, List.reverse_append, List.reverse_cons, List.append_assoc,
    List.takeWhile_append_of_pos all, List.singleton_append,
    List.takeWhile_cons_of_neg (by simp [cut]), List.append_nil, List.reverse_reverse]

/-- A text has no such character, or there is a last one. -/
theorem forall_or_last_char (p : Char → Bool) (s : List Char)
    : (∀ x ∈ s, p x = false)
      ∨ ∃ front c tail, s = front ++ c :: tail ∧ (∀ x ∈ tail, p x = false) ∧ p c = true := by
  rcases forall_or_first_char p s.reverse with none | ⟨tail, c, front, split, none, cut⟩
  · exact .inl fun x member => none x (List.mem_reverse.mpr member)
  · refine .inr ⟨front.reverse, c, tail.reverse, ?_, ?_, cut⟩
    · simpa using congrArg List.reverse split
    · exact fun x member => none x (List.mem_reverse.mp member)

/-- Passing over the start of a text stops at a character of another kind, if not before. -/
theorem dropWhile_append_cons (stops : p c = false) (s rest : List Char)
    : (s ++ c :: rest).dropWhile p = s.dropWhile p ++ c :: rest := by
  rw [List.dropWhile_append]
  split
  case isTrue passed =>
    rw [List.dropWhile_cons_of_neg (by simp [stops]), List.isEmpty_iff.mp passed, List.nil_append]
  case isFalse => rfl

theorem takeWhile_append_cons (stops : p c = false) (s rest : List Char)
    : (s ++ c :: rest).takeWhile p = s.takeWhile p := by
  induction s with
  | nil => exact List.takeWhile_cons_of_neg (by simp [stops])
  | cons x s ih => simp only [List.cons_append, List.takeWhile_cons, ih]

end

-----------------------------------------------------------------------------------------
-- Blank texts
-----------------------------------------------------------------------------------------

/-- Trimming leaves nothing exactly of a blank text. -/
theorem trim_eq_nil_iff (s : List Char) : trim s = [] ↔ allBlank s = true := by
  have trailing : trim s = [] ↔ ∀ c ∈ trimLeft s, isBlank c = true := by
    rw [trim, trimRight, dropRightWhile, List.reverse_eq_nil_iff, List.dropWhile_eq_nil_iff]
    simp only [List.mem_reverse]
  have leading : trimLeft s = [] ↔ allBlank s = true := by
    rw [trimLeft, List.dropWhile_eq_nil_iff, allBlank, List.all_eq_true]
  rw [trailing, ← leading]
  constructor
  · intro blank
    by_contra something
    have starts := List.head_dropWhile_not isBlank something
    exact Bool.false_ne_true (starts.symm.trans (blank _ (List.head_mem something)))
  · intro nothing
    simp [nothing]

/-- Characters before a text that does not begin with such a one are passed over. -/
theorem dropWhile_append {p : Char → Bool} {front s : List Char} (all : ∀ c ∈ front, p c = true)
    (stops : ∀ c ∈ s.head?, p c = false)
    : (front ++ s).dropWhile p = s := by
  rw [List.dropWhile_append_of_pos all]
  cases s with
  | nil => rfl
  | cons c s => exact List.dropWhile_cons_of_neg (by simp [stops c (by simp)])

/-- A text does not end in a blank. -/
def EndsSolid (s : List Char) : Prop :=
  ∀ c ∈ s.getLast?, isBlank c = false

theorem endsSolid_of_forall {s : List Char} (solid : ∀ c ∈ s, isBlank c = false) : EndsSolid s :=
  fun c last => solid c (List.mem_of_getLast? last)

/-- A text ends as its second part does, or as its first part where the second one is empty. -/
theorem EndsSolid.append {s t : List Char} (front : t = [] → EndsSolid s) (back : EndsSolid t)
    : EndsSolid (s ++ t) := by
  intro c last
  rw [List.getLast?_append, Option.mem_def, Option.or_eq_some_iff] at last
  rcases last with inBack | ⟨noBack, inFront⟩
  · exact back c inBack
  · exact front (List.getLast?_eq_none_iff.mp noBack) c inFront

theorem EndsSolid.cons {c : Char} {s : List Char} (solid : isBlank c = false) (back : EndsSolid s)
    : EndsSolid (c :: s) :=
  .append (s := [c]) (fun _ => endsSolid_of_forall (by simpa using solid)) back

/-- Trimming takes blanks off the end of a text and leaves what neither begins nor ends in one. -/
theorem trim_append {c : Char} {s blanks : List Char} (starts : isBlank c = false)
    (ends : EndsSolid (c :: s)) (blank : ∀ b ∈ blanks, isBlank b = true)
    : trim (c :: s ++ blanks) = c :: s := by
  have left : trimLeft (c :: s ++ blanks) = c :: s ++ blanks :=
    List.dropWhile_cons_of_neg (by simp [starts])
  have right : ((c :: s ++ blanks).reverse.dropWhile isBlank) = (c :: s).reverse := by
    rw [List.reverse_append]
    refine dropWhile_append (by simpa using blank) ?_
    rw [List.head?_reverse]
    exact ends
  rw [trim, left, trimRight, dropRightWhile, right, List.reverse_reverse]

end BlogSnapshot.Text
