import BlogSnapshot.Proofs.Steps
import BlogSnapshot.Yaml.Load

/-! Where the faults of a YAML text come from. Reading a text fails with an error of the text, but
for values that it spells and that do not exist: codes of characters, numbers of versions, and
truth values, numbers and moments that are written out or that mappings stand for.
-/

namespace BlogSnapshot.Yaml

/-- The faults that a text can spell: the code of a character beyond the last one, the number of a
version in too many digits, a scalar that is no truth value, no number or no moment, although its
tag says so, and a mapping in the place of a scalar, whose default entries have no end or which is
tagged as a moment.
-/
inductive Spelled : ScalarFault → Prop
  | character {code : Nat} {fault : ScalarFault}
      (refused : Token.charOfCode code = .error (.fault fault))
      : Spelled fault
  | version {count : Nat} (long : maxDigits < count) : Spelled (.tooManyDigits count)
  | bool {text : List Char} {fault : ScalarFault} (refused : Scalar.bool text = .error fault)
      : Spelled fault
  | int {text : List Char} {fault : ScalarFault} (refused : Scalar.int text = .error fault)
      : Spelled fault
  | float {text : List Char} {fault : ScalarFault} (refused : Scalar.float text = .error fault)
      : Spelled fault
  | timestamp {text : List Char} {fault : ScalarFault}
      (refused : Scalar.timestamp text = .error fault)
      : Spelled fault
  | endless {d : Document} {s : Value.Store} {n : Node}
      (endless : ∀ fuel, Value.scalarText d s fuel n = .error (.fault .endlessText))
      : Spelled .endlessText
  | stampOfEntries {d : Document} {s : Value.Store} {n : Node} {fuel : Nat} {text : String}
      (isMapping : n.kind = .mapping) (read : Value.scalarText d s fuel n = .ok text)
      : Spelled .entriesAsText

/-- A failure is an error of the text, or a fault that it spells. -/
inductive Known : Failure → Prop
  | text (e : Error) : Known (.text e)
  | fault {fault : ScalarFault} (spelled : Spelled fault) : Known (.fault fault)

variable {α : Type}

/-- A step that knows errors of the text only fails with such an error. -/
theorem text_known (x : Except Error α) : FailsOnly Known (x.mapError .text) :=
  .mapError fun e _ => .text e

-----------------------------------------------------------------------------------------
-- Tokens
-----------------------------------------------------------------------------------------

namespace Token

theorem charOfCode_known (code : Nat) : FailsOnly Known (charOfCode code) := by
  intro e refused
  cases e with
  | text error => exact .text error
  | fault fault => exact .fault (.character refused)

theorem escape_known (start : Mark) (c : Cursor) : FailsOnly Known (escape start c) := by
  unfold escape
  split
  · exact text_known _
  split
  · exact .ok _ _
  · dsimp only
    split
    · exact text_known _
    split
    · exact text_known _
    · exact .bind (charOfCode_known _) fun _ _ => .ok _ _
  · split
    · exact text_known _
    · exact text_known _

/-- A quoted scalar fails as its escapes do, by induction on the fuel. -/
theorem quotedText_known (double : Bool) (start : Mark) (fuel : Nat) (c : Cursor)
    : FailsOnly Known (quotedText double start fuel c) := by
  induction fuel generalizing c with
  | zero => exact .ok _ _
  | succ fuel ih =>
      unfold quotedText
      -- Every chunk, whatever character it starts with, goes on with the rest of the scalar.
      extract_lets goOn
      have onward (step : Option (List Char × Cursor)) : FailsOnly Known (goOn step) := by
        cases step with
        | none => exact .ok _ _
        | some chunk => exact .bind (ih _) fun _ _ => .ok _ _
      have given (step : Option (List Char × Cursor))
          : FailsOnly Known (pure step >>= goOn) :=
        .bind (.ok _ _) fun step _ => onward step
      split
      · exact given _
      · exact given _
      · exact given _
      · refine .ite (.bind ((escape_known _ _).map _) fun step _ => onward step) (given _)
      · exact .ite (.bind ((text_known _).map _) fun step _ => onward step) (given _)
      · exact .bind ((text_known _).map _) fun step _ => onward step

theorem quoted_known (double : Bool) (c : Cursor) : FailsOnly Known (quoted double c) :=
  .bind (quotedText_known _ _ _ _) fun _ _ => .ok _ _

theorem versionNumber_known (start : Mark) (c : Cursor)
    : FailsOnly Known (versionNumber start c) := by
  unfold versionNumber
  dsimp only
  split
  · exact text_known _
  split
  case isTrue long => exact .error (.fault (.version long))
  case isFalse => exact .ok _ _

theorem versionValue_known (start : Mark) (c : Cursor)
    : FailsOnly Known (versionValue start c) := by
  refine .bind (versionNumber_known _ _) fun major _ => .ite (text_known _) ?_
  exact .bind (versionNumber_known _ _) fun minor _ => .ite (.ok _ _) (text_known _)

theorem directive_known (c : Cursor) : FailsOnly Known (directive c) := by
  unfold directive
  dsimp only
  refine .ite (text_known _) (.ite ?_ (.ite ?_ ?_))
  · exact .bind (versionValue_known _ _) fun _ _ => .ite (.ok _ _) (text_known _)
  · exact .bind (text_known _) fun _ _ => .ite (.ok _ _) (text_known _)
  · exact .bind (.ok _ _) fun _ _ => .ite (.ok _ _) (text_known _)

namespace Scanner

theorem property_known (s : Scanner) {read : Cursor → Except Failure (Token × Cursor)}
    (known : ∀ c, FailsOnly Known (read c))
    : FailsOnly Known (s.property read) :=
  .bind (text_known _) fun s _ => .bind (known s.cursor) fun _ _ => .ok _ _

/-- The next tokens are refused with a known failure, whatever character they start with: only
directives and quoted scalars can hold a fault.
-/
theorem fetch_known (s : Scanner) : FailsOnly Known s.fetch := by
  unfold fetch
  refine .bind (text_known _) fun s _ => ?_
  dsimp only
  split
  · exact text_known _
  have marks {x : Except Error Scanner} {goOn : Scanner → Except Failure Scanner}
      (known : ∀ s, FailsOnly Known (goOn s))
      : FailsOnly Known (x.mapError .text >>= goOn) :=
    .bind (text_known x) fun s _ => known s
  have properties {read : Cursor → Except Failure (Token × Cursor)}
      (known : ∀ c, FailsOnly Known (read c))
      : FailsOnly Known ((s.unwind s.column).property read) :=
    property_known _ known
  refine .ite (marks fun s => .bind (directive_known _) fun _ _ => .ok _ _) ?_
  refine .ite (marks fun s => .ok _ _) ?_
  iterate 8 refine .ite (text_known _) ?_
  iterate 3 refine .ite (properties fun _ => text_known _) ?_
  refine .ite (text_known _) (.ite (properties fun _ => quoted_known _ _) ?_)
  exact .ite (text_known _) (.error (Known.text _))

/-- Tokens end in a known failure, if in any, by induction on the fuel: releasing a token changes
no failure.
-/
theorem run_known (fuel : Nat) (s : Scanner) : ∀ e ∈ (run fuel s).2, Known e := by
  induction fuel generalizing s with
  | zero => simp [run]
  | succ fuel ih =>
      unfold run
      extract_lets more
      have fetched (s : Scanner) : ∀ e ∈ (more s).2, Known e := by
        intro e failed
        simp only [more] at failed
        split at failed
        case h_1 _ refused => exact fetch_known s e (Option.some.inj failed ▸ refused)
        · split at failed
          · exact Option.some.inj failed ▸ .text _
          · exact ih _ e failed
      split
      · simp
      split
      · exact fetched s
      · split
        · exact fetched s
        · exact ih _

end Scanner

theorem scan_known (text : List Char) : ∀ e ∈ (scan text).2, Known e :=
  Scanner.run_known _ _

end Token

end BlogSnapshot.Yaml
