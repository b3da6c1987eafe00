import BlogSnapshot.Proofs.Calendar.IsoText
import BlogSnapshot.Proofs.Frontmatter.Integer
import BlogSnapshot.Proofs.Frontmatter.Schema
import BlogSnapshot.Proofs.Yaml.Flow.Building

/-! The values of a frontmatter block as trees in flow style: texts with all their characters
escaped, moments and sizes as they are, and mappings of fields that may be absent. The lines of the
trees are the written forms, and what is read of them are the values.
-/

namespace BlogSnapshot

open Yaml

-----------------------------------------------------------------------------------------
-- Lines
-----------------------------------------------------------------------------------------

namespace Yaml

/-- Parts with a comma between them, by induction on the parts after the first one. -/
theorem Piece.lineText_commas (parts : List (List Piece))
    : lineText (commas parts) = Frontmatter.commaSeparated (parts.map lineText) := by
  cases parts with
  | nil => rfl
  | cons part rest =>
      rw [commas, lineText_append]
      induction rest generalizing part with
      | nil => simp [lineText, Frontmatter.commaSeparated]
      | cons next rest ih =>
          have comma : lineText (.comma :: next) = ',' :: ' ' :: lineText next := rfl
          rw [List.flatMap_cons, lineText_append, comma, List.cons_append, List.cons_append, ih]
          rfl

theorem Piece.lineText_inBrackets (isMap : Bool) (parts : List (List Piece))
    : lineText (inBrackets isMap parts)
      = (opening isMap).text ++ Frontmatter.commaSeparated (parts.map lineText)
        ++ (closing isMap).text := by
  have last : lineText [closing isMap] = (closing isMap).text := List.append_nil _
  rw [inBrackets, lineText_append, last, ← lineText_commas]
  rfl

namespace Flow

theorem lineText_text (escaped : Bool) (s : String)
    : (text escaped s).lineText = '"' :: Piece.quotedText escaped s.toList ++ ['"'] := by
  rw [lineText, pieces]
  exact List.append_nil _

theorem lineText_list (items : List Flow)
    : (list items).lineText = Frontmatter.writeList (items.map lineText) := by
  rw [lineText, pieces_list, Piece.lineText_inBrackets, List.map_map]
  rfl

theorem lineText_map (entries : List (String × Flow))
    : (map entries).lineText
      = Frontmatter.writeMapping
          (entries.map fun e => Frontmatter.writeEntry e.1 e.2.lineText) := by
  have entry (e : String × Flow)
      : Piece.lineText (entryPieces e) = Frontmatter.writeEntry e.1 e.2.lineText := by
    simp [entryPieces, Piece.lineText, Piece.text, Frontmatter.writeEntry, lineText]
  rw [lineText, pieces_map, Piece.lineText_inBrackets, List.map_map]
  simp only [Function.comp_def, entry]
  rfl

end Flow

-----------------------------------------------------------------------------------------
-- Characters
-----------------------------------------------------------------------------------------

theorem Token.isVerbatim_of_isDigit {c : Char} (digit : c.isDigit = true)
    : isVerbatim c = true := by
  have code := Calendar.code_of_isDigit digit
  have all : ∀ n < 58, 48 ≤ n → isVerbatim (Char.ofNat n) = true := by decide
  rw [← Char.ofNat_toNat c]
  exact all c.toNat (by omega) code.1

theorem Token.not_isBlank_of_isVerbatim {c : Char} (verbatim : isVerbatim c = true)
    : Text.isBlank c = false := by
  have noBlank : ∀ b ∈ Text.blanks, isVerbatim b = false := by
    have all : Text.blanks.all (!isVerbatim ·) = true := by decide
    simpa using all
  by_contra blank
  rw [Bool.not_eq_false] at blank
  rw [noBlank c (Text.mem_blanks_of_isBlank blank)] at verbatim
  cases verbatim

end Yaml

open Calendar in
/-- The ISO form of a moment in universal time needs no escapes. -/
theorem Moment.isVerbatim_iso {m : Moment} (universal : m.offset = some .utc)
    : ∀ c ∈ m.iso.toList, Token.isVerbatim c = true := by
  have digits (d : Digits) : ∀ c ∈ d.chars, Token.isVerbatim c = true := fun c member =>
    Token.isVerbatim_of_isDigit (d.isDigit c member)
  have fraction : ∀ c ∈ m.clock.written.fractionText, Token.isVerbatim c = true := by
    unfold WrittenTime.fractionText
    cases m.clock.written.fraction with
    | none => exact nofun
    | some ds => exact List.forall_mem_cons.mpr ⟨by decide, digits ds⟩
  have zone : ∀ c ∈ WrittenZone.zero.text, Token.isVerbatim c = true :=
    List.all_eq_true.mp (by decide)
  have timeText : m.written.timeText = 'T' :: m.clock.written.clockText := rfl
  rw [toList_iso universal, WrittenStamp.text, timeText, WrittenTime.clockText]
  simp only [List.forall_mem_append, List.forall_mem_cons]
  exact ⟨
    digits _, by decide, digits _, by decide, digits _, by decide, digits _, by decide, digits _,
    by decide, digits _, fraction, zone
  ⟩

namespace Frontmatter

-----------------------------------------------------------------------------------------
-- Texts, moments and sizes
-----------------------------------------------------------------------------------------

/-- A text with all its characters escaped. -/
def textFlow (s : String) : Flow :=
  .text true s

/-- A moment in its ISO form. -/
def momentFlow (m : Moment) : Flow :=
  .text false m.iso

/-- A whole number in its digits. -/
def integerFlow (n : Int) : Flow :=
  .text false (toString n)

/-- A size is a natural number that is not too long to be read. -/
def IsSize (n : Int) : Prop :=
  0 ≤ n ∧ n < 10 ^ 4300

theorem lineText_textFlow (s : String) : (textFlow s).lineText = writeText s :=
  Flow.lineText_text true s

theorem lineText_momentFlow (m : Moment) : (momentFlow m).lineText = writeMoment m :=
  Flow.lineText_text false m.iso

theorem lineText_integerFlow (n : Int) : (integerFlow n).lineText = writeInteger n :=
  Flow.lineText_text false (toString n)

theorem toString_size (n : Nat) : toString (n : Int) = String.ofList (Nat.toDigits 10 n) :=
  Nat.repr_eq_ofList_toDigits

theorem isDigit_of_mem_toDigits {n : Nat} {c : Char} (member : c ∈ Nat.toDigits 10 n)
    : c.isDigit = true :=
  Nat.isDigit_of_mem_toDigits (by decide) (by decide) member

theorem wellFormed_textFlow (s : String) : (textFlow s).WellFormed :=
  .text (.inl rfl)

theorem wellFormed_momentFlow {m : Moment} (universal : m.offset = some .utc)
    : (momentFlow m).WellFormed :=
  .text (.inr (Moment.isVerbatim_iso universal))

theorem wellFormed_integerFlow {n : Int} (isSize : IsSize n) : (integerFlow n).WellFormed := by
  obtain ⟨k, rfl⟩ := Int.eq_ofNat_of_zero_le isSize.1
  refine .text (.inr fun c member => ?_)
  rw [toString_size, String.toList_ofList] at member
  exact Token.isVerbatim_of_isDigit (isDigit_of_mem_toDigits member)

theorem readsTimestamp_iso {m : Moment} (universal : m.offset = some .utc)
    : ReadsTimestamp (.text m.iso) m := by
  have solid : ∀ c ∈ m.iso.toList, Text.isBlank c = false := fun c member =>
    Token.not_isBlank_of_isVerbatim (Moment.isVerbatim_iso universal c member)
  have trimmed : Text.IsTrimmed m.iso.toList :=
    ⟨fun c first => solid c (List.mem_of_mem_head? first), Text.endsSolid_of_forall solid⟩
  have denotes : Fields.momentOf? (.text m.iso) = some m := by
    rw [Fields.momentOf?, trimmed.trim_eq, Moment.readMoment_iso universal]
  have unshifted : m.shift = 0 := by
    rw [Moment.shift, universal]
    rfl
  rw [ReadsTimestamp, (Fields.timestamp_of_get rfl Value.noConfusion).1,
    Fields.timestampOf_eq_ok_iff]
  exact ⟨m, denotes, by rw [Moment.toUtc_of_unshifted unshifted, ← universal]⟩

theorem forall_isBlank_nil : ∀ c ∈ [], Text.isBlank c = true :=
  List.forall_mem_nil _

/-- A size in decimal digits. -/
def sizeDigits (n : Nat) : WrittenInteger where
  before := []
  digits := Nat.toDigits 10 n
  after := []
  before_blank := forall_isBlank_nil
  digits_decimal c member := by
    rw [Text.isDecimalDigit,
      Calendar.readsDigits_decimal.digit (isDigit_of_mem_toDigits member)]
    rfl
  digits_ne_nil := Nat.toDigits_ne_nil
  after_blank := forall_isBlank_nil

theorem text_sizeDigits (n : Nat) : (sizeDigits n).text = Nat.toDigits 10 n := by
  rw [WrittenInteger.text, sizeDigits, List.nil_append, List.append_nil]

theorem value_sizeDigits (n : Nat) : (sizeDigits n).value = n := by
  have digits : (Nat.toDigits 10 n).map (fun c => (Text.decimalValue? c).getD 0)
      = (Nat.toDigits 10 n).map fun c => c.toNat - 48 := by
    refine List.map_congr_left fun c member => ?_
    rw [Calendar.readsDigits_decimal.digit (isDigit_of_mem_toDigits member)]
    rfl
  rw [WrittenInteger.value, sizeDigits, digits, Text.ofDigits, List.foldl_map]
  exact Nat.ofDigitChars_eq_foldl.symm.trans Nat.ofDigitChars_ten_toDigits

theorem readsInteger_size {n : Int} (isSize : IsSize n)
    : ReadsInteger (.text (toString n)) (some n) := by
  obtain ⟨k, rfl⟩ := Int.eq_ofNat_of_zero_le isSize.1
  have small : k < 10 ^ 4300 := by exact_mod_cast isSize.2
  have few : (Nat.toDigits 10 k).length ≤ 4300 := Calendar.length_toDigits_le (by decide) small
  have short : ¬ maxDigits < (sizeDigits k).digits.length := Nat.not_lt.mpr few
  have shown : toString (k : Int) = String.ofList (sizeDigits k).text := by
    rw [text_sizeDigits, toString_size]
  have found : (Fields.single "" (.text (toString (k : Int)))).get ""
      = .text (String.ofList (sizeDigits k).text) :=
    congrArg Value.text shown
  rw [ReadsInteger, Fields.integer?_of_written found,
    WrittenInteger.integer_of_clean (List.forall_mem_nil _), if_neg short, value_sizeDigits]
  rfl

-----------------------------------------------------------------------------------------
-- Mappings
-----------------------------------------------------------------------------------------

/-- The fields of a mapping in their order, each with what is written of it, if it is there. -/
abbrev FlowFields := List (String × Option Flow)

namespace FlowFields

/-- The fields that are there. -/
def present (fields : FlowFields) : List (String × Flow) :=
  fields.filterMap fun e => e.2.map (e.1, ·)

def flow (fields : FlowFields) : Flow :=
  .map fields.present

/-- The entries that are read. -/
def entries (fields : FlowFields) : Entries :=
  fields.present.map fun e => (.text e.1, e.2.value)

theorem value_flow (fields : FlowFields) : fields.flow.value = .map fields.entries := by
  rw [flow, Flow.value, entries]

theorem lineText_flow (fields : FlowFields)
    : fields.flow.lineText
      = writeMapping (fields.flatMap fun e => writeEntry? e.1 (e.2.map Flow.lineText)) := by
  rw [flow, Flow.lineText_map]
  refine congrArg writeMapping ?_
  induction fields with
  | nil => rfl
  | cons e fields ih =>
      obtain ⟨key, t⟩ := e
      cases t with
      | none => exact ih
      | some t => exact congrArg (writeEntry key t.lineText :: ·) ih

theorem wellFormed_flow {fields : FlowFields} (keys : ∀ e ∈ fields, Token.IsPlainKey e.1)
    (distinct : (fields.map (·.1)).Nodup) (each : ∀ e ∈ fields, ∀ t ∈ e.2, t.WellFormed)
    : fields.flow.WellFormed := by
  have field {e : String × Option Flow} {b : String × Flow} (made : e.2.map (e.1, ·) = some b)
      : e = (b.1, some b.2) := by
    obtain ⟨k, _ | t⟩ := e <;> cases made
    rfl
  have origin {b : String × Flow} (member : b ∈ fields.present) : (b.1, some b.2) ∈ fields := by
    obtain ⟨e, inside, made⟩ := List.mem_filterMap.mp member
    exact field made ▸ inside
  have names : (fields.present.map (·.1)).Nodup := by
    refine List.pairwise_map.mpr (List.pairwise_filterMap.mpr ?_)
    refine (List.pairwise_map.mp distinct).imp fun other b first c second => ?_
    rwa [field first, field second] at other
  exact .map (fun b member => keys _ (origin member)) names
    fun b member => each _ (origin member) b.2 rfl

theorem valueAt_cons {key : String} (e : String × Option Flow) (fields : FlowFields)
    : valueAt key (entries (e :: fields))
      = if e.1 = key ∧ e.2.isSome then e.2.elim .null Flow.value
        else valueAt key (entries fields) := by
  obtain ⟨k, _ | t⟩ := e
  · simp [entries, present]
  · by_cases same : k = key <;> simp [entries, present, valueAt, Value.get?, same]

theorem valueAt_of_not_mem {fields : FlowFields} {key : String}
    (absent : key ∉ fields.map (·.1))
    : valueAt key fields.entries = .null := by
  induction fields with
  | nil => rfl
  | cons e fields ih =>
      simp only [List.map_cons, List.mem_cons, not_or] at absent
      rw [valueAt_cons, if_neg fun same => absent.1 same.1.symm, ih absent.2]

/-- What is under the key of a field is its value, by induction on the fields. -/
theorem valueAt_of_mem {fields : FlowFields} {key : String} {t : Option Flow}
    (distinct : (fields.map (·.1)).Nodup) (member : (key, t) ∈ fields)
    : valueAt key fields.entries = t.elim .null Flow.value := by
  induction fields with
  | nil => cases member
  | cons e fields ih =>
      obtain ⟨new, distinct⟩ := List.nodup_cons.mp distinct
      rw [valueAt_cons]
      rcases List.mem_cons.mp member with rfl | later
      · cases t with
        | none => exact (if_neg (by simp)).trans (valueAt_of_not_mem new)
        | some t => exact if_pos ⟨rfl, rfl⟩
      · have other : e.1 ≠ key := fun same => new (List.mem_map.mpr ⟨_, later, same.symm⟩)
        rw [if_neg fun same => other same.1, ih distinct later]

section

variable {fields : FlowFields} {key : String}

theorem isSolid_of_mem {s : String} (distinct : (fields.map (·.1)).Nodup)
    (member : (key, some (textFlow s)) ∈ fields) (solid : s.isAllBlank = false)
    : IsSolid (valueAt key fields.entries) s := by
  refine ⟨?_, solid⟩
  rw [valueAt_of_mem distinct member, Option.elim_some, textFlow, Flow.value]

theorem textValue_of_mem {s : Option String} (distinct : (fields.map (·.1)).Nodup)
    (member : (key, s.map textFlow) ∈ fields)
    : valueAt key fields.entries = textValue s := by
  rw [valueAt_of_mem distinct member]
  cases s with
  | none => rfl
  | some s =>
      rw [Option.map_some, Option.elim_some, textFlow, Flow.value]
      rfl

theorem readsTimestamp_of_mem {m : Moment} (distinct : (fields.map (·.1)).Nodup)
    (member : (key, some (momentFlow m)) ∈ fields) (universal : m.offset = some .utc)
    : ReadsTimestamp (valueAt key fields.entries) m := by
  rw [valueAt_of_mem distinct member, Option.elim_some, momentFlow, Flow.value]
  exact readsTimestamp_iso universal

theorem readsTimestamp?_of_mem {m : Option Moment} (distinct : (fields.map (·.1)).Nodup)
    (member : (key, m.map momentFlow) ∈ fields) (universal : ∀ n ∈ m, n.offset = some .utc)
    : m.elim (valueAt key fields.entries = .null)
        (ReadsTimestamp (valueAt key fields.entries)) := by
  cases m with
  | none => exact valueAt_of_mem distinct member
  | some m => exact readsTimestamp_of_mem distinct member (universal m rfl)

theorem readsInteger_of_mem {n : Option Int} (distinct : (fields.map (·.1)).Nodup)
    (member : (key, n.map integerFlow) ∈ fields) (isSize : ∀ k ∈ n, IsSize k)
    : ReadsInteger (valueAt key fields.entries) n := by
  rw [valueAt_of_mem distinct member]
  cases n with
  | none => rfl
  | some n =>
      rw [Option.map_some, Option.elim_some, integerFlow, Flow.value]
      exact readsInteger_size (isSize n rfl)

theorem map_of_mem {inner : FlowFields} (distinct : (fields.map (·.1)).Nodup)
    (member : (key, some inner.flow) ∈ fields)
    : valueAt key fields.entries = .map inner.entries := by
  rw [valueAt_of_mem distinct member, Option.elim_some, value_flow]

theorem list_of_mem {items : List FlowFields} (distinct : (fields.map (·.1)).Nodup)
    (member : (key, some (.list (items.map flow))) ∈ fields)
    : valueAt key fields.entries = .list ((items.map entries).map .map) := by
  rw [valueAt_of_mem distinct member, Option.elim_some, Flow.value, List.map_map, List.map_map]
  simp only [Function.comp_def, value_flow]

end

end FlowFields

end Frontmatter

end BlogSnapshot
