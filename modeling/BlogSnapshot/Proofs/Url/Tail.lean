import BlogSnapshot.Proofs.Steps
import BlogSnapshot.Proofs.Text.Split
import BlogSnapshot.Url.Parts

/-! URLs with a query or a fragment. Whatever a question mark or a number sign begins is left over by
each step that splits the URL before it, so scheme, authority and path are those of the URL alone.
-/

namespace BlogSnapshot.Url

open Text

/-- A text has neither a question mark nor a number sign. -/
def Plain (s : List Char) : Prop :=
  '?' ∉ s ∧ '#' ∉ s

/-- The marks at which a query or a fragment begins. -/
def IsTailMark (c : Char) : Prop :=
  c = '?' ∨ c = '#'

variable {url s q : List Char} {mark : Char}

theorem Plain.notMem (plain : Plain s) (tail : IsTailMark mark) : mark ∉ s := by
  rcases tail with rfl | rfl
  · exact plain.1
  · exact plain.2

/-- A part of such a text is another one. -/
theorem Plain.mono {t : List Char} (plain : Plain s) (sub : ∀ c ∈ t, c ∈ s) : Plain t :=
  ⟨fun member => plain.1 (sub _ member), fun member => plain.2 (sub _ member)⟩

-----------------------------------------------------------------------------------------
-- Scheme and authority
-----------------------------------------------------------------------------------------

/-- What is dropped from a URL is dropped from its two parts. -/
theorem cleaned_append (tail : IsTailMark mark) (url q : List Char)
    : cleaned (url ++ mark :: q) = cleaned url ++ mark :: q.filter (!isLayout ·) := by
  have kept : isControlOrSpace mark = false ∧ isLayout mark = false := by
    rcases tail with rfl | rfl <;> decide
  rw [cleaned, dropWhile_append_cons kept.1, List.filter_append,
    List.filter_cons_of_pos (by simp [kept.2])]
  rfl

theorem Plain.cleaned (plain : Plain url) : Plain (cleaned url) :=
  plain.mono fun _ member => (List.dropWhile_suffix _).mem (List.mem_of_mem_filter member)

/-- A text in which something before the first colon is no part of a scheme has none. -/
theorem splitScheme_of_not_scheme {head rest : List Char} {c : Char}
    (cut : cutAt (· = ':') s = (head, some rest)) (member : c ∈ head)
    (other : isSchemeChar c = false)
    : splitScheme s = ([], s) := by
  have notAll : head.all isSchemeChar = false := by
    rw [List.all_eq_false]
    exact ⟨c, member, by simp [other]⟩
  cases head with
  | nil => cases member
  | cons first head => simp only [splitScheme, cut, notAll, Bool.and_false, Bool.false_eq_true, if_false]

/-- A text without a colon has no scheme. -/
theorem splitScheme_of_no_colon (none : ∀ c ∈ s, decide (c = ':') = false)
    : splitScheme s = ([], s) := by
  rw [splitScheme, cutAt_of_forall none]
  cases s <;> rfl

/-- A scheme ends before the tail, and a colon in the tail makes none. -/
theorem splitScheme_append (tail : IsTailMark mark) (s q : List Char)
    : splitScheme (s ++ mark :: q) = ((splitScheme s).1, (splitScheme s).2 ++ mark :: q) := by
  rcases forall_or_first_char (· = ':') s with none | ⟨head, c, rest, rfl, none, cut⟩
  · rw [splitScheme_of_no_colon none]
    have other : isSchemeChar mark = false ∧ decide (mark = ':') = false := by
      rcases tail with rfl | rfl <;> decide
    rcases forall_or_first_char (· = ':') q with noneLater | ⟨later, c, rest, rfl, noneLater, cut⟩
    · apply splitScheme_of_no_colon
      exact List.forall_mem_append.mpr ⟨none, List.forall_mem_cons.mpr ⟨other.2, noneLater⟩⟩
    · have noneBefore : ∀ c ∈ s ++ mark :: later, decide (c = ':') = false :=
        List.forall_mem_append.mpr ⟨none, List.forall_mem_cons.mpr ⟨other.2, noneLater⟩⟩
      have cutLater := cutAt_append_cons noneBefore cut rest
      rw [List.append_assoc, List.cons_append] at cutLater
      exact splitScheme_of_not_scheme cutLater (by simp) other.1
  · rw [List.append_assoc, List.cons_append, splitScheme, splitScheme,
      cutAt_append_cons none cut, cutAt_append_cons none cut]
    cases head with
    | nil => simp
    | cons first head =>
        dsimp only
        split_ifs <;> simp

theorem Plain.splitScheme (plain : Plain s) : Plain (splitScheme s).2 := by
  refine plain.mono fun c member => ?_
  rcases forall_or_first_char (· = ':') s with none | ⟨head, colon, rest, rfl, none, cut⟩
  · rwa [splitScheme_of_no_colon none] at member
  · rw [Url.splitScheme, cutAt_append_cons none cut] at member
    cases head with
    | nil => exact member
    | cons first head =>
        dsimp only at member
        split_ifs at member
        · exact List.mem_append_right _ (List.mem_cons_of_mem _ member)
        · exact member

/-- A text that does not start with two slashes has no authority. -/
theorem splitAuthority_of_not_starts (other : ¬ ['/', '/'] <+: s)
    : splitAuthority s = ([], s) := by
  unfold splitAuthority
  split
  case h_1 rest => exact absurd ⟨rest, rfl⟩ other
  case h_2 => rfl

/-- An authority ends before the tail. -/
theorem splitAuthority_append (tail : IsTailMark mark) (s q : List Char)
    : splitAuthority (s ++ mark :: q)
      = ((splitAuthority s).1, (splitAuthority s).2 ++ mark :: q) := by
  by_cases starts : ['/', '/'] <+: s
  · obtain ⟨rest, rfl⟩ := starts
    have ends : (!(decide (mark = '/') || decide (mark = '?') || decide (mark = '#'))) = false := by
      rcases tail with rfl | rfl <;> decide
    simp only [List.cons_append, List.nil_append, splitAuthority]
    rw [takeWhile_append_cons ends, dropWhile_append_cons ends]
  · have slash : '/' ≠ mark := by
      rcases tail with rfl | rfl <;> decide
    have other : ¬ ['/', '/'] <+: s ++ mark :: q := by
      match s with
      | [] => simp [slash]
      | [c] => simp [slash]
      | c :: d :: rest => simpa using starts
    rw [splitAuthority_of_not_starts starts, splitAuthority_of_not_starts other]

theorem Plain.splitAuthority (plain : Plain s) : Plain (splitAuthority s).2 := by
  refine plain.mono fun c member => ?_
  unfold Url.splitAuthority at member
  split at member
  · exact List.mem_cons_of_mem _ (List.mem_cons_of_mem _ ((List.dropWhile_suffix _).mem member))
  · exact member

-----------------------------------------------------------------------------------------
-- Query and fragment
-----------------------------------------------------------------------------------------

/-- Nothing is split off a text without the mark. -/
theorem splitOff_of_plain (plain : Plain s) (tail : IsTailMark mark)
    : splitOff mark s = (s, []) := by
  rw [splitOff, cutAt_of_forall (forall_ne_iff_notMem.mpr (plain.notMem tail))]
  rfl

theorem splitOff_append (plain : Plain s) (tail : IsTailMark mark) (q : List Char)
    : splitOff mark (s ++ mark :: q) = (s, q) := by
  have none := forall_ne_iff_notMem.mpr (plain.notMem tail)
  rw [splitOff, cutAt_append_cons none (decide_eq_true rfl)]
  rfl

/-- What is left when something is split off a text starts it and does not have the mark. -/
theorem splitOff_start (mark : Char) (s : List Char)
    : (splitOff mark s).1 <+: s ∧ mark ∉ (splitOff mark s).1 := by
  rcases forall_or_first_char (· = mark) s with none | ⟨head, c, rest, rfl, none, cut⟩
  · rw [splitOff, cutAt_of_forall none]
    exact ⟨List.prefix_rfl, forall_ne_iff_notMem.mp none⟩
  · rw [splitOff, cutAt_append_cons none cut]
    exact ⟨List.prefix_append _ _, forall_ne_iff_notMem.mp none⟩

/-- What is before the tail stays when the fragment and the query are split off. -/
theorem path_append (plain : Plain s) (tail : IsTailMark mark) (q : List Char)
    : (splitOff '?' (splitOff '#' (s ++ mark :: q)).1).1 = s := by
  rcases tail with rfl | rfl
  · have noNumberSign {query : List Char} (none : ∀ c ∈ query, decide (c = '#') = false)
        : ∀ c ∈ s ++ '?' :: query, decide (c = '#') = false := by
      refine List.forall_mem_append.mpr ⟨?_, List.forall_mem_cons.mpr ⟨by decide, none⟩⟩
      exact forall_ne_iff_notMem.mpr plain.2
    -- a fragment may follow the query
    have cut : ∃ query, (splitOff '#' (s ++ '?' :: q)).1 = s ++ '?' :: query := by
      rcases forall_or_first_char (· = '#') q with none | ⟨query, c, fragment, rfl, none, cut⟩
      · exact ⟨q, by rw [splitOff, cutAt_of_forall (noNumberSign none)]⟩
      · have cutLater := cutAt_append_cons (noNumberSign none) cut fragment
        rw [List.append_assoc, List.cons_append] at cutLater
        exact ⟨query, by rw [splitOff, cutLater]⟩
    obtain ⟨query, cut⟩ := cut
    rw [cut, splitOff_append plain (.inl rfl)]
  · rw [splitOff_append plain (.inr rfl), splitOff_of_plain plain (.inl rfl)]

/-- A text without a tail is a path. -/
theorem path_of_plain (plain : Plain s) : (splitOff '?' (splitOff '#' s).1).1 = s := by
  rw [splitOff_of_plain plain (.inr rfl), splitOff_of_plain plain (.inl rfl)]

-----------------------------------------------------------------------------------------
-- Whole URLs
-----------------------------------------------------------------------------------------

/-- The components of a URL with what follows its authority still in one text. -/
def assemble (scheme authority rest : List Char) : Parts where
  scheme := scheme
  authority := authority
  path := (splitOff '?' (splitOff '#' rest).1).1
  query := (splitOff '?' (splitOff '#' rest).1).2
  fragment := (splitOff '#' rest).2

/-- Only the authority of a URL is checked. -/
theorem split_of_parts {schemed authorized : List Char × List Char}
    (scheme : splitScheme (cleaned url) = schemed)
    (authority : splitAuthority schemed.2 = authorized)
    : split url
      = checkBrackets authorized.1 >>= fun _ => checkDelimiters authorized.1 >>= fun _ =>
        .ok (assemble schemed.1 authorized.1 authorized.2) := by
  subst scheme authority
  rfl

/-- A URL with a tail is split as the URL alone, up to the query and the fragment. -/
theorem split_append (plain : Plain url) (tail : IsTailMark mark) (q : List Char)
    : ∃ query fragment,
        split (url ++ mark :: q)
          = (split url).map fun parts => { parts with query, fragment } := by
  obtain ⟨schemed, scheme⟩ : ∃ schemed, splitScheme (cleaned url) = schemed := ⟨_, rfl⟩
  obtain ⟨authorized, authority⟩ : ∃ authorized, splitAuthority schemed.2 = authorized := ⟨_, rfl⟩
  have rest : Plain authorized.2 := by
    subst scheme authority
    exact plain.cleaned.splitScheme.splitAuthority
  have schemeTail := splitScheme_append tail (cleaned url) (q.filter (!isLayout ·))
  rw [← cleaned_append tail, scheme] at schemeTail
  have authorityTail := splitAuthority_append tail schemed.2 (q.filter (!isLayout ·))
  rw [authority] at authorityTail
  rw [split_of_parts schemeTail authorityTail, split_of_parts scheme authority]
  obtain ⟨parts, withTail⟩ : ∃ parts, assemble schemed.1 authorized.1
      (authorized.2 ++ mark :: q.filter (!isLayout ·)) = parts := ⟨_, rfl⟩
  have samePath : parts.path = (assemble schemed.1 authorized.1 authorized.2).path := by
    subst withTail
    exact (path_append rest tail _).trans (path_of_plain rest).symm
  refine ⟨parts.query, parts.fragment, ?_⟩
  cases checkBrackets authorized.1 with
  | error fault => rfl
  | ok _ =>
      cases checkDelimiters authorized.1 with
      | error fault => rfl
      | ok _ =>
          subst withTail
          exact congrArg (fun path => Except.ok { assemble _ _ _ with path }) samePath

/-- The path of a URL has neither a question mark nor a number sign. -/
theorem plain_path {parts : Parts} (parsed : split url = .ok parts) : Plain parts.path := by
  rw [split_of_parts rfl rfl, bind_eq_ok_iff] at parsed
  obtain ⟨_, _, parsed⟩ := parsed
  obtain ⟨_, _, parsed⟩ := (bind_eq_ok_iff ..).mp parsed
  cases parsed
  obtain ⟨start, noQuestionMark⟩ := splitOff_start '?' (splitOff '#' _).1
  exact ⟨noQuestionMark, fun member => (splitOff_start '#' _).2 (start.mem member)⟩

end BlogSnapshot.Url
