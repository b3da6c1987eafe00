import BlogSnapshot.Proofs.Yaml.Flow
import Mathlib.Algebra.Group.Nat.Defs

/-! The characters of a line in flow style: the cursor moves past them one by one, what stands
between double quotes is read as the text that was written, and a plain key as its name.
-/

namespace BlogSnapshot.Yaml

/-- The characters from the space to the tilde. -/
def isVisible (c : Char) : Bool :=
  ' ' ≤ c && c ≤ '~'

theorem ne_of_isVisible {c d : Char} (visible : isVisible c = true) (other : isVisible d = false)
    : c ≠ d := by
  rintro rfl
  exact absurd visible (Bool.eq_false_iff.mp other)

theorem isAcceptable_of_isVisible {c : Char} (visible : isVisible c = true)
    : isAcceptable c = true := by
  have bounds : ' ' ≤ c ∧ c ≤ '~' := by simpa [isVisible] using visible
  simp [isAcceptable, bounds]

theorem isPlainBreak_of_isVisible {c : Char} (visible : isVisible c = true)
    : isPlainBreak c = false := by
  simp [isPlainBreak, ne_of_isVisible visible (d := '\n') rfl,
    ne_of_isVisible visible (d := '\u0085') rfl, ne_of_isVisible visible (d := '\u2028') rfl,
    ne_of_isVisible visible (d := '\u2029') rfl]

theorem isBreak_of_isVisible {c : Char} (visible : isVisible c = true) : isBreak c = false := by
  simp [isBreak, isPlainBreak_of_isVisible visible, ne_of_isVisible visible (d := '\r') rfl]

theorem Mark.step_inLine {c : Char} (visible : isVisible c = true) (i : Nat) (next : Option Char)
    : (Mark.inLine i).step c next = .inLine (i + 1) := by
  simp [Mark.step, isPlainBreak_of_isVisible visible, ne_of_isVisible visible (d := '\r') rfl,
    ne_of_isVisible visible (d := '\ufeff') rfl, Mark.inLine]

-----------------------------------------------------------------------------------------
-- The cursor
-----------------------------------------------------------------------------------------

namespace Cursor

theorem next_inLine {c : Char} (visible : isVisible c = true) (rest : List Char) (i : Nat)
    : next ⟨c :: rest, .inLine i⟩ = ⟨rest, .inLine (i + 1)⟩ := by
  simp only [next, Mark.step_inLine visible]

/-- Past visible characters, by induction on them. -/
theorem skip_inLine {cs : List Char} (visible : ∀ c ∈ cs, isVisible c = true) (rest : List Char)
    (i : Nat)
    : skip ⟨cs ++ rest, .inLine i⟩ cs.length = ⟨rest, .inLine (i + cs.length)⟩ := by
  induction cs generalizing i with
  | nil => rfl
  | cons c more ih =>
      obtain ⟨first, others⟩ := List.forall_mem_cons.mp visible
      rw [List.cons_append, List.length_cons, skip, next_inLine first, ih others]
      congr 2
      omega

/-- The visible characters before one that does not satisfy `p`, by induction on them. -/
theorem span_inLine {p : Char → Bool} {cs : List Char}
    (satisfy : ∀ c ∈ cs, isVisible c = true ∧ p c = true) {rest : List Char}
    (stops : ∀ c ∈ rest.head?, p c = false) (i : Nat)
    : span ⟨cs ++ rest, .inLine i⟩ p = (cs, ⟨rest, .inLine (i + cs.length)⟩) := by
  induction cs generalizing i with
  | nil =>
      cases rest with
      | nil => rfl
      | cons d more =>
          have stop : p d = false := stops d rfl
          simp [span, spanFrom, stop]
  | cons c more ih =>
      obtain ⟨⟨visible, first⟩, others⟩ := List.forall_mem_cons.mp satisfy
      have later := ih others (i + 1)
      rw [span] at later ⊢
      simp only [List.cons_append, spanFrom, first, if_true, Mark.step_inLine visible, later,
        List.length_cons, Nat.add_right_comm, ← Nat.add_assoc]

end Cursor

-----------------------------------------------------------------------------------------
-- Escapes
-----------------------------------------------------------------------------------------

namespace Token

open Text Frontmatter

theorem hexDigit_facts : ∀ n < 16,
    isHex (hexDigit n) = true ∧ hexValue (hexDigit n) = n ∧ isVisible (hexDigit n) = true := by
  decide

theorem length_hexFixed (width n : Nat) : (hexFixed width n).length = width := by
  induction width generalizing n with
  | zero => rfl
  | succ width ih => simp [hexFixed, ih]

/-- The digits of a number, by induction on their count. -/
theorem of_mem_hexFixed {width n : Nat} {c : Char} (member : c ∈ hexFixed width n)
    : isHex c = true ∧ isVisible c = true := by
  induction width generalizing n with
  | zero => cases member
  | succ width ih =>
      rcases List.mem_append.mp member with before | last
      · exact ih before
      · obtain ⟨hex, _, visible⟩ := hexDigit_facts (n % 16) (by omega)
        exact List.mem_singleton.mp last ▸ ⟨hex, visible⟩

/-- The digits of a number denote it where there are enough of them, by induction on their count. -/
theorem ofHex_hexFixed {width n : Nat} (fits : n < 16 ^ width) : ofHex (hexFixed width n) = n := by
  induction width generalizing n with
  | zero =>
      rw [Nat.pow_zero] at fits
      exact (Nat.lt_one_iff.mp fits).symm
  | succ width ih =>
      obtain ⟨_, last, _⟩ := hexDigit_facts (n % 16) (by omega)
      have more := ih (n := n / 16) (by rw [Nat.pow_succ] at fits; omega)
      rw [ofHex] at more
      rw [hexFixed, ofHex, List.foldl_append, more, List.foldl_cons, List.foldl_nil, last]
      omega

theorem charOfCode_toNat (c : Char) : charOfCode c.toNat = .ok c := by
  have valid : c.toNat < 0xd800 ∨ 0xdfff < c.toNat ∧ c.toNat < 0x110000 := c.valid
  have noSurrogate : (0xd800 ≤ c.toNat && c.toNat < 0xe000) = false := by
    simp only [Bool.and_eq_false_iff, decide_eq_false_iff_not]
    omega
  have inRange : c.toNat < 0x110000 := by omega
  simp [charOfCode, noSurrogate, inRange]

theorem length_escapeChar (c : Char) : (escapeChar c).length = 10 := by
  simp [escapeChar, length_hexFixed]

theorem isVisible_of_mem_escapeChar {c d : Char} (member : d ∈ escapeChar c)
    : isVisible d = true := by
  simp only [escapeChar, List.mem_cons] at member
  rcases member with rfl | rfl | digit
  · rfl
  · rfl
  · exact (of_mem_hexFixed digit).2

/-- An escape of eight hexadecimal digits is read as its character. -/
theorem escape_escapeChar (start : Mark) (c : Char) (rest : List Char) (i : Nat)
    : escape start ⟨(escapeChar c).tail ++ rest, .inLine i⟩
      = .ok ([c], ⟨rest, .inLine (i + 9)⟩) := by
  have length := length_hexFixed 8 c.toNat
  have digits : (hexFixed 8 c.toNat ++ rest).take 8 = hexFixed 8 c.toNat :=
    List.take_left' length
  have noBad : (hexFixed 8 c.toNat).find? (!isHex ·) = none := by
    rw [List.find?_eq_none]
    intro d member
    simp [(of_mem_hexFixed member).1]
  have visible : ∀ d ∈ hexFixed 8 c.toNat, isVisible d = true := fun d member =>
    (of_mem_hexFixed member).2
  have skipped := Cursor.skip_inLine visible rest (i + 1)
  rw [length] at skipped
  have inRange : c.toNat < 16 ^ 8 := by
    have valid : c.toNat < 0xd800 ∨ 0xdfff < c.toNat ∧ c.toNat < 0x110000 := c.valid
    omega
  simp [escape, escapeChar, Cursor.peek, escaped?, escapeLength?, Cursor.next_inLine, digits, noBad,
    length, ofHex_hexFixed inRange, charOfCode_toNat, skipped, bind, Except.bind, pure, Except.pure,
    isVisible]

-----------------------------------------------------------------------------------------
-- Scalars
-----------------------------------------------------------------------------------------

/-- Characters that stand for themselves between double quotes. -/
def isVerbatim (c : Char) : Bool :=
  isVisible c && c ≠ ' ' && c ≠ '"' && c ≠ '\\' && c ≠ '\''

theorem isVisible_of_isVerbatim {c : Char} (verbatim : isVerbatim c = true)
    : isVisible c = true := by
  simp only [isVerbatim, Bool.and_eq_true] at verbatim
  exact verbatim.1.1.1.1

/-- The characters of plain keys. -/
def isKeyChar (c : Char) : Bool :=
  ('a' ≤ c && c ≤ 'z') || c = '_'

/-- A text that can be written between double quotes: with all its characters escaped, or as it is.
-/
def IsQuotable (escaped : Bool) (cs : List Char) : Prop :=
  escaped = true ∨ ∀ c ∈ cs, isVerbatim c = true

/-- A text that can be written without quotes as a key. -/
structure IsPlainKey (name : String) : Prop where
  chars : ∀ c ∈ name.toList, isKeyChar c = true
  solid : name.toList ≠ []
  short : name.length ≤ 1024
  isText : Tag.ofPlain name = Tag.str

/-- A quoted scalar ends at its closing quote. -/
theorem quotedText_close (start : Mark) (fuel : Nat) (rest : List Char) (i : Nat)
    : quotedText true start (fuel + 1) ⟨'"' :: rest, .inLine i⟩
      = .ok ([], ⟨rest, .inLine (i + 1)⟩) := by
  simp [quotedText, Cursor.next_inLine, isVisible, bind, Except.bind, pure, Except.pure]

/-- A verbatim character is read as itself. -/
theorem quotedText_verbatim {c : Char} (verbatim : isVerbatim c = true) (start : Mark) (fuel : Nat)
    (rest : List Char) (i : Nat)
    : quotedText true start (fuel + 1) ⟨c :: rest, .inLine i⟩
      = (quotedText true start fuel ⟨rest, .inLine (i + 1)⟩).map fun r => (c :: r.1, r.2) := by
  obtain ⟨visible, noSpace, noQuote, noBackslash, noApostrophe⟩ :
      isVisible c = true ∧ c ≠ ' ' ∧ c ≠ '"' ∧ c ≠ '\\' ∧ c ≠ '\'' := by
    simpa [isVerbatim, and_assoc] using verbatim
  have noTab := ne_of_isVisible visible (d := '\t') rfl
  have noBreak := isBreak_of_isVisible visible
  rw [quotedText]
  simp only [Cursor.next_inLine visible]
  split
  all_goals simp_all [bind, Except.bind, pure, Except.pure, Except.map]

/-- An escape is read as its character. -/
theorem quotedText_escapeChar (c : Char) (start : Mark) (fuel : Nat) (rest : List Char) (i : Nat)
    : quotedText true start (fuel + 1) ⟨escapeChar c ++ rest, .inLine i⟩
      = (quotedText true start fuel ⟨rest, .inLine (i + 10)⟩).map fun r => (c :: r.1, r.2) := by
  have escaped := escape_escapeChar start c rest (i + 1)
  have backslash : escapeChar c = '\\' :: (escapeChar c).tail := rfl
  rw [backslash, List.cons_append, quotedText]
  simp [escaped, Cursor.next_inLine, isVisible, bind, Except.bind, pure, Except.pure, Except.map,
    Functor.map]

/-- Text in double quotes is read as it was written, by induction on its characters. -/
theorem quotedText_quoted {escaped : Bool} {cs : List Char}
    (legal : IsQuotable escaped cs) (start : Mark) {fuel : Nat} (enough : cs.length < fuel)
    (rest : List Char) (i : Nat)
    : quotedText true start fuel ⟨Piece.quotedText escaped cs ++ '"' :: rest, .inLine i⟩
      = .ok (cs, ⟨rest, .inLine (i + (Piece.quotedText escaped cs).length + 1)⟩) := by
  obtain ⟨fuel, rfl⟩ := Nat.exists_eq_add_one.mpr (show 0 < fuel by omega)
  induction cs generalizing i fuel with
  | nil => cases escaped <;> exact quotedText_close start fuel rest i
  | cons c more ih =>
      rw [List.length_cons] at enough
      obtain ⟨fuel, rfl⟩ := Nat.exists_eq_add_one.mpr (show 0 < fuel by omega)
      have enough : more.length < fuel + 1 := Nat.lt_of_succ_lt_succ enough
      cases escaped with
      | true =>
          have later := ih (.inl rfl) (i + 10) fuel enough
          simp only [Piece.quotedText, if_true] at later
          rw [Piece.quotedText, if_pos rfl, List.flatMap_cons, List.append_assoc,
            quotedText_escapeChar, later, List.length_append, length_escapeChar,
            ← Nat.add_assoc]
          rfl
      | false =>
          obtain ⟨first, others⟩ := List.forall_mem_cons.mp (legal.resolve_left Bool.false_ne_true)
          have later := ih (.inr others) (i + 1) fuel enough
          simp only [Piece.quotedText, Bool.false_eq_true, if_false] at later ⊢
          have position : i + 1 + more.length + 1 = i + (c :: more).length + 1 := by
            rw [List.length_cons]
            omega
          rw [List.cons_append, quotedText_verbatim first, later, position]
          rfl

theorem length_le_quotedText (escaped : Bool) (cs : List Char)
    : cs.length ≤ (Piece.quotedText escaped cs).length := by
  cases escaped with
  | true =>
      simp only [Piece.quotedText, if_true, List.length_flatMap, length_escapeChar, List.map_const',
        List.sum_replicate_nat]
      omega
  | false => exact Nat.le_refl _

theorem IsQuotable.visible_text {escaped : Bool} {s : String}
    (quotable : IsQuotable escaped s.toList)
    : ∀ c ∈ (Piece.quoted escaped s).text, isVisible c = true := by
  have inside : ∀ c ∈ Piece.quotedText escaped s.toList, isVisible c = true := by
    cases escaped with
    | true =>
        intro c member
        obtain ⟨d, _, inEscape⟩ := List.mem_flatMap.mp member
        exact isVisible_of_mem_escapeChar inEscape
    | false =>
        intro c member
        exact isVisible_of_isVerbatim (quotable.resolve_left Bool.false_ne_true c member)
  simp only [Piece.text, List.cons_append, List.forall_mem_cons, List.forall_mem_append]
  exact ⟨rfl, inside, rfl, List.forall_mem_nil _⟩

/-- A quoted scalar is read as the text that was written. -/
theorem quoted_inLine {escaped : Bool} {s : String}
    (legal : IsQuotable escaped s.toList) (rest : List Char) (i : Nat)
    : quoted true ⟨(Piece.quoted escaped s).text ++ rest, .inLine i⟩
      = .ok (.inLine (.scalar s false) i (Piece.quoted escaped s).width,
          ⟨rest, .inLine (i + (Piece.quoted escaped s).width)⟩) := by
  have enough : s.toList.length < ((Piece.quoted escaped s).text ++ rest).length + 1 := by
    have := length_le_quotedText escaped s.toList
    simp only [Piece.text, List.length_append, List.length_cons]
    omega
  have width : (Piece.quoted escaped s).width = (Piece.quotedText escaped s.toList).length + 2 := by
    simp [Piece.width, Piece.text]
  have text : (Piece.quoted escaped s).text ++ rest
      = '"' :: (Piece.quotedText escaped s.toList ++ '"' :: rest) := by
    simp [Piece.text]
  have chars := quotedText_quoted legal (.inLine i) enough rest (i + 1)
  have position : i + 1 + (Piece.quotedText escaped s.toList).length + 1
      = i + ((Piece.quotedText escaped s.toList).length + 2) := by
    omega
  rw [text] at chars ⊢
  rw [quoted, Cursor.next_inLine (by rfl), chars, width, position]
  simp [inLine, bind, Except.bind, pure, Except.pure]

theorem IsPlainKey.exists_cons {name : String} (isKey : IsPlainKey name)
    : ∃ c more, name.toList = c :: more ∧ isKeyChar c = true := by
  obtain ⟨c, more, chars⟩ := List.exists_cons_of_ne_nil isKey.solid
  exact ⟨c, more, chars, isKey.chars c (by rw [chars]; exact List.mem_cons_self)⟩

theorem ne_of_isKeyChar {c d : Char} (isKey : isKeyChar c = true) (other : isKeyChar d = false)
    : c ≠ d := by
  rintro rfl
  exact absurd isKey (Bool.eq_false_iff.mp other)

theorem isVisible_of_isKeyChar {c : Char} (isKey : isKeyChar c = true) : isVisible c = true := by
  simp only [isKeyChar, Bool.or_eq_true, Bool.and_eq_true, decide_eq_true_eq] at isKey
  rcases isKey with ⟨low, high⟩ | rfl
  · simp only [isVisible, Bool.and_eq_true, decide_eq_true_eq]
    exact ⟨Char.le_trans (by decide) low, Char.le_trans high (by decide)⟩
  · rfl

theorem IsPlainKey.visible_text {name : String} (isKey : IsPlainKey name)
    : ∀ c ∈ (Piece.key name).text, isVisible c = true := by
  rw [Piece.text, List.forall_mem_append]
  exact ⟨fun c member => isVisible_of_isKeyChar (isKey.chars c member),
    List.all_eq_true.mp (by decide)⟩

/-- A character of a key does not end it, whatever is next. -/
theorem endsPlain_of_isKeyChar {c : Char} (isKey : isKeyChar c = true) (next : Option Char)
    : endsPlain true c next = false := by
  have noBreak := isBreak_of_isVisible (isVisible_of_isKeyChar isKey)
  simp [endsPlain, noBreak, ne_of_isKeyChar isKey (d := ' ') rfl,
    ne_of_isKeyChar isKey (d := '\t') rfl, ne_of_isKeyChar isKey (d := ':') rfl,
    ne_of_isKeyChar isKey (d := ',') rfl, ne_of_isKeyChar isKey (d := '?') rfl,
    ne_of_isKeyChar isKey (d := '[') rfl, ne_of_isKeyChar isKey (d := ']') rfl,
    ne_of_isKeyChar isKey (d := '\x7b') rfl, ne_of_isKeyChar isKey (d := '\x7d') rfl]

/-- The name of a key ends at its colon, by induction on its characters. -/
theorem plainRun_key {name : List Char} (isKey : ∀ c ∈ name, isKeyChar c = true) (rest : List Char)
    (i : Nat)
    : plainRun true (.inLine i) (name ++ ':' :: ' ' :: rest)
      = (name, ⟨':' :: ' ' :: rest, .inLine (i + name.length)⟩) := by
  induction name generalizing i with
  | nil => rfl
  | cons c more ih =>
      obtain ⟨first, others⟩ := List.forall_mem_cons.mp isKey
      have position : i + 1 + more.length = i + (c :: more).length := by
        rw [List.length_cons]
        omega
      rw [List.cons_append, plainRun, endsPlain_of_isKeyChar first,
        Mark.step_inLine (isVisible_of_isKeyChar first), ih others, position]
      rfl

/-- A plain key is read as its name. -/
theorem plain_key {name : String} (isKey : IsPlainKey name) (indent : Int) (rest : List Char)
    (i : Nat)
    : plain true indent ⟨name.toList ++ ':' :: ' ' :: rest, .inLine i⟩
      = (.inLine (.scalar name true) i name.length,
          ⟨':' :: ' ' :: rest, .inLine (i + name.length)⟩, false) := by
  have run := plainRun_key isKey.chars rest i
  have noComment : Cursor.peek ⟨name.toList ++ ':' :: ' ' :: rest, .inLine i⟩ ≠ some '#' := by
    obtain ⟨c, more, chars, first⟩ := isKey.exists_cons
    rw [chars]
    exact fun hash => ne_of_isKeyChar first (d := '#') rfl (Option.some.inj hash)
  have noSpaces : plainSpaces ⟨':' :: ' ' :: rest, .inLine (i + name.toList.length)⟩
      = ([], ⟨':' :: ' ' :: rest, .inLine (i + name.toList.length)⟩, false) := rfl
  have read (fuel : Nat)
      : plainText true (indent + 1) [] (.inLine i) false (fuel + 1)
          ⟨name.toList ++ ':' :: ' ' :: rest, .inLine i⟩
        = ⟨name.toList, .inLine (i + name.toList.length),
            ⟨':' :: ' ' :: rest, .inLine (i + name.toList.length)⟩, false⟩ := by
    rw [plainText, if_neg noComment, run]
    simp [noSpaces, isKey.solid]
  rw [plain, read]
  simp [inLine, String.length_toList]

end Token

end BlogSnapshot.Yaml
