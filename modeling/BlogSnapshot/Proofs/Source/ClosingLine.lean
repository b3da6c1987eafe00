import BlogSnapshot.Proofs.Source.Splitting

/-! Where the frontmatter block of a document ends, line by line. The first line of three dashes
after the opening line closes the block, unless it follows the opening line at once: that one is
passed over, and the block goes on to the next such line, or the document has no end of its block.
-/

namespace BlogSnapshot.SourceFile

open Text

-----------------------------------------------------------------------------------------
-- Lines
-----------------------------------------------------------------------------------------

/-- Lines one after another, each closed by a line feed. -/
def closedLines (lines : List String) : String :=
  String.join (lines.map (· ++ "\n"))

/-- The characters of lines that are closed. -/
def unlines (lines : List (List Char)) : List Char :=
  lines.flatMap (· ++ ['\n'])

/-- The characters of the line that opens and closes a block. -/
def dashes : List Char := ['-', '-', '-']

theorem toList_closedLines (lines : List String)
    : (closedLines lines).toList = unlines (lines.map String.toList) := by
  simp [closedLines, unlines, String.toList_join, List.flatMap_map]

section

variable {line other rest tail s : List Char} {lines : List (List Char)}

theorem unlines_cons
    : unlines (line :: lines) ++ tail = line ++ '\n' :: (unlines lines ++ tail) := by
  simp [unlines]

/-- A text begins with a closed line exactly if that is its first line. -/
theorem closed_prefix_iff (plain : '\n' ∉ line) (otherPlain : '\n' ∉ other)
    : other ++ ['\n'] <+: line ++ '\n' :: rest ↔ other = line := by
  constructor
  · rintro ⟨after, same⟩
    rw [List.append_assoc, List.singleton_append] at same
    exact (part_eq_of_mark otherPlain plain same).1
  · rintro rfl
    exact ⟨rest, by simp⟩

/-- What starts with a line feed occurs at the end of the first line or after it. -/
theorem lineFeed_infix_iff (plain : '\n' ∉ line)
    : '\n' :: s <:+: line ++ '\n' :: rest ↔ s <+: rest ∨ '\n' :: s <:+: rest := by
  induction line with
  | nil => simp [List.infix_cons_iff, List.cons_prefix_cons]
  | cons c line ih =>
      rw [List.mem_cons, not_or] at plain
      rw [List.cons_append, List.infix_cons_iff, ih plain.2, List.cons_prefix_cons]
      simp [plain.1]

/-- Closed lines begin with the opening one exactly if it is the first of them. -/
theorem opening_prefix_iff (plain : ∀ l ∈ lines, '\n' ∉ l) (ends : '\n' ∉ tail)
    : opening <+: unlines lines ++ tail ↔ lines.head? = some dashes := by
  have opens : opening = dashes ++ ['\n'] := rfl
  cases lines with
  | nil =>
      constructor
      · intro starts
        exact absurd (starts.subset (by decide : '\n' ∈ opening)) ends
      · simp
  | cons line more =>
      rw [unlines_cons, opens, closed_prefix_iff (plain line (by simp)) (by decide)]
      simp [eq_comm]

/-- The closing text occurs in closed lines exactly if a line of three dashes is among them and not
the first, by induction on the lines.
-/
theorem closing_infix_iff (plain : ∀ l ∈ lines, '\n' ∉ l) (ends : '\n' ∉ tail)
    : closing <:+: unlines lines ++ tail ↔ dashes ∈ lines.tail := by
  induction lines with
  | nil =>
      constructor
      · intro occurs
        exact absurd (occurs.subset (by decide : '\n' ∈ closing)) ends
      · simp
  | cons line more ih =>
      have morePlain : ∀ l ∈ more, '\n' ∉ l := fun l member => plain l (by simp [member])
      -- It occurs at the end of this line, where the next one opens with it, or further on.
      have closes : closing = '\n' :: opening := rfl
      rw [unlines_cons, closes, lineFeed_infix_iff (plain line (by simp)), ← closes,
        ih morePlain, opening_prefix_iff morePlain ends, List.tail_cons]
      cases more with
      | nil => simp
      | cons next others => simp [eq_comm]

/-- Every text is made up of closed lines and a rest without line feed. -/
theorem exists_unlines (s : List Char)
    : ∃ lines tail, s = unlines lines ++ tail ∧ (∀ l ∈ lines, '\n' ∉ l) ∧ '\n' ∉ tail := by
  induction s with
  | nil => exact ⟨[], [], rfl, by simp, by simp⟩
  | cons c s ih =>
      obtain ⟨lines, tail, rfl, plain, ends⟩ := ih
      by_cases feed : c = '\n'
      case pos => exact ⟨[] :: lines, tail, by simp [unlines, feed], by simpa using plain, ends⟩
      case neg =>
        cases lines with
        | nil => exact ⟨[], c :: tail, rfl, by simp, by simp [ends, Ne.symm feed]⟩
        | cons line more =>
            refine ⟨(c :: line) :: more, tail, by simp [unlines], ?_, ends⟩
            simp only [List.forall_mem_cons] at plain ⊢
            exact ⟨by simp [plain.1, Ne.symm feed], plain.2⟩

/-- The lines of a block with line feeds between them, and the line feed that ends the block. -/
theorem intercalate_append_lineFeed (nonempty : lines ≠ [])
    : ['\n'].intercalate lines ++ ['\n'] = unlines lines := by
  induction lines with
  | nil => exact absurd rfl nonempty
  | cons line more ih =>
      cases more with
      | nil => simp [unlines]
      | cons next others =>
          rw [List.intercalate_cons_cons, List.append_assoc, ih (by simp)]
          simp [unlines]

end

-----------------------------------------------------------------------------------------
-- Closing lines of a document
-----------------------------------------------------------------------------------------

/-- A text opens a block, and a later line of it that is closed by a line feed is exactly three
dashes.
-/
def HasClosingLine (contents : String) : Prop :=
  ∃ before after,
    contents = "---\n" ++ closedLines before ++ "---\n" ++ after
    ∧ ∀ l ∈ before, '\n' ∉ l.toList

/-- The parts of a document by its lines: between the opening line and the first later line of three
dashes stand the lines of the front, and after it the body.
-/
structure ClosesAfter (contents : String) (front : List String) (body : String) : Prop where
  joined : contents = "---\n" ++ closedLines front ++ "---\n" ++ body
  plain : ∀ l ∈ front, '\n' ∉ l.toList
  first : "---" ∉ front

/-- What splitting gives for a front and a body: the lines of the front as the block, unless
the body is blank.
-/
def partsOf (front : List String) (body : String) (path : Option String)
    : Except ContentError (String × String) :=
  if body.isAllBlank then .error ⟨.emptyBody, path⟩ else .ok ("\n".intercalate front, body)

/-- The line at which the block of a document ends. It is the first closing line if a line stands
before it. A closing line that follows the opening line at once counts as the first line of a block
that ends at the next closing line, without which the document is refused.
-/
structure EndsAtLine (contents : String) (path : Option String) : Prop where
  exists_first : HasClosingLine contents → ∃ front body, ClosesAfter contents front body
  later
    : ∀ line front body,
        ClosesAfter contents (line :: front) body
        → split contents path = partsOf (line :: front) body path
  passedOver
    : ∀ body front rest,
        ClosesAfter contents [] body
        → ClosesAfter ("---\n" ++ body) front rest
        → split contents path = partsOf ("---" :: front) rest path
  unclosed
    : ∀ body,
        ClosesAfter contents [] body
        → ¬ HasClosingLine ("---\n" ++ body)
        → split contents path = .error ⟨.noClosing, path⟩

section

variable {contents body : String} {front : List String} {path : Option String}

theorem not_mem_map_toList (first : "---" ∉ front) : dashes ∉ front.map String.toList := by
  intro member
  obtain ⟨l, inFront, same⟩ := List.mem_map.mp member
  have isDashes : l = "---" := String.toList_inj.mp same
  exact first (isDashes ▸ inFront)

theorem plain_map_toList (plain : ∀ l ∈ front, '\n' ∉ l.toList)
    : ∀ l ∈ front.map String.toList, '\n' ∉ l := by
  simpa using plain

/-- A block of at least one line ends at the closing line after it, if no line of it but the first
is a closing line.
-/
theorem split_closedLines {line : String} (plain : ∀ l ∈ line :: front, '\n' ∉ l.toList)
    (first : "---" ∉ front)
    (joined : contents = "---\n" ++ closedLines (line :: front) ++ "---\n" ++ body)
    : split contents path = partsOf (line :: front) body path := by
  have block : ("\n".intercalate (line :: front)).toList ++ ['\n']
      = unlines ((line :: front).map String.toList) := by
    rw [String.toList_intercalate]
    exact intercalate_append_lineFeed (by simp)
  have parts : contents.toList
      = joinDocument ("\n".intercalate (line :: front)).toList body.toList := by
    rw [joined]
    simp only [String.toList_append, toList_closedLines, ← block]
    simp [joinDocument, opening, closing]
  have noEarlier : ¬ closing
      <:+: ("\n".intercalate (line :: front)).toList ++ closing.dropLast := by
    have start : closing.dropLast = ['\n'] ++ dashes := rfl
    rw [start, ← List.append_assoc, block,
      closing_infix_iff (plain_map_toList plain) (by decide), List.map_cons, List.tail_cons]
    exact not_mem_map_toList first
  rw [split, parts, splitDocument_joinDocument noEarlier, partsOf, String.isAllBlank]
  cases allBlank body.toList with
  | true => rfl
  | false => simp only [Bool.false_eq_true, if_false, String.ofList_toList]

/-- Up to the first of its closing lines a document has a front. -/
theorem HasClosingLine.exists_first (has : HasClosingLine contents)
    : ∃ front body, ClosesAfter contents front body := by
  obtain ⟨before, after, joined, plain⟩ := has
  by_cases earlier : "---" ∈ before
  case neg => exact ⟨before, after, joined, plain, earlier⟩
  case pos =>
    obtain ⟨front, more, rfl, first⟩ := List.eq_append_cons_of_mem earlier
    refine ⟨front, closedLines more ++ "---\n" ++ after, ?_, ?_, first⟩
    · rw [joined]
      simp [closedLines, String.join_append, String.append_assoc]
    · exact fun l member => plain l (by simp [member])

/-- Without a closing line in its body, a document whose first closing line follows the opening line
at once is refused.
-/
theorem split_unclosed (joined : contents = "---\n" ++ "---\n" ++ body)
    (unclosed : ¬ HasClosingLine ("---\n" ++ body))
    : split contents path = .error ⟨.noClosing, path⟩ := by
  obtain ⟨lines, tail, made, plain, ends⟩ := exists_unlines body.toList
  have noneLater : dashes ∉ lines := by
    intro member
    obtain ⟨before, after, rfl⟩ := List.append_of_mem member
    refine unclosed
      ⟨before.map String.ofList, String.ofList (unlines after ++ tail), ?_, ?_⟩
    · rw [← String.toList_inj]
      simp [toList_closedLines, made, unlines, dashes, Function.comp_def]
    · intro l inBefore
      obtain ⟨chars, member, rfl⟩ := List.mem_map.mp inBefore
      rw [String.toList_ofList]
      exact plain chars (by simp [member])
  have parts : contents.toList = opening ++ (unlines (dashes :: lines) ++ tail) := by
    rw [joined]
    simp [made, unlines, dashes, opening]
  have dashesPlain : ∀ l ∈ dashes :: lines, '\n' ∉ l :=
    List.forall_mem_cons.mpr ⟨by decide, plain⟩
  rw [split, parts, splitDocument_of_unclosed]
  rwa [closing_infix_iff dashesPlain ends]

/-- The end of a block by lines and by the closing text agree but for a closing line that has no
line feed before it other than that of the opening line.
-/
theorem endsAtLine (contents : String) (path : Option String) : EndsAtLine contents path where
  exists_first has := has.exists_first
  later line front body closes := by
    have notIn := closes.first
    rw [List.mem_cons, not_or] at notIn
    exact split_closedLines closes.plain notIn.2 closes.joined
  passedOver body front rest atOnce closes := by
    apply split_closedLines
    · exact List.forall_mem_cons.mpr ⟨by decide, closes.plain⟩
    · exact closes.first
    · have noLines : closedLines [] = "" := rfl
      have opened : contents = "---\n" ++ ("---\n" ++ body) := by
        rw [atOnce.joined, noLines, String.append_empty, String.append_assoc]
      rw [opened, closes.joined]
      simp [closedLines, String.append_assoc]
  unclosed body atOnce unclosed :=
    split_unclosed (by rw [atOnce.joined]; simp [closedLines]) unclosed

/-- The first closing line of a document does not always end its block: after the opening line it
does not.
-/
theorem closing_line_passed_over
    : ClosesAfter "---\n---\nb" [] "b"
      ∧ partsOf [] "b" none = .ok ("", "b")
      ∧ split "---\n---\nb" none = .error ⟨.noClosing, none⟩
      ∧ ClosesAfter "---\n---\na\n---\nb" [] "a\n---\nb"
      ∧ partsOf [] "a\n---\nb" none = .ok ("", "a\n---\nb")
      ∧ split "---\n---\na\n---\nb" none = .ok ("---\na", "b") := by
  refine ⟨⟨by decide, by simp, by simp⟩, by decide +kernel, by decide +kernel,
    ⟨by decide, by simp, by simp⟩, by decide +kernel, by decide +kernel⟩

end

end BlogSnapshot.SourceFile
