import BlogSnapshot.Text.CaseTable

/-! Lower case with the full mapping of Unicode: one letter may become two, and a capital sigma
at the end of a word takes its final form.
-/

namespace BlogSnapshot.Text

/-- The small letter of a run at a capital letter that it holds. -/
def CaseRun.smallOf? (run : CaseRun) (n : Nat) : Option Nat :=
  if run.first ≤ n && n ≤ run.last && (n - run.first) % run.step = 0 then
    some (run.small + (n - run.first))
  else none

/-- The simple lower-case mapping of one character. -/
def lowerSimple (c : Char) : Char :=
  if c.toNat < 0x80 then c.toLower
  else match caseRuns.findSome? (·.smallOf? c.toNat) with
    | some n => Char.ofNat n
    | none => c

/-- Whether one of the ranges holds the character. -/
def inRanges (ranges : List (Nat × Nat)) (c : Char) : Bool :=
  ranges.any fun r => r.1 ≤ c.toNat && c.toNat ≤ r.2

/-- Whether the first character that is not passed over has case. -/
def casedNext (s : List Char) : Bool :=
  match s.dropWhile (inRanges ignorableRanges) with
  | [] => false
  | c :: _ => inRanges casedRanges c

/-- A sigma is final when a cased letter precedes it and none follows. -/
def lowerSigma (before after : List Char) : Char :=
  if casedNext before && !casedNext after then 'ς' else 'σ'

/-- The lower case of one character between its neighbours, the preceding ones nearest first.
The dotted capital I keeps its dot as a combining mark.
-/
def lowerChar (before : List Char) (c : Char) (after : List Char) : List Char :=
  if c = 'Σ' then [lowerSigma before after]
  else if c = 'İ' then ['i', '\u0307']
  else [lowerSimple c]

/-- Lower case from left to right; `before` is the text already read, reversed. -/
def lowerFrom (before : List Char) : List Char → List Char
  | [] => []
  | c :: rest => lowerChar before c rest ++ lowerFrom (c :: before) rest

/-- The lower-case form of a text. -/
def lower (s : List Char) : List Char :=
  lowerFrom [] s

end BlogSnapshot.Text

namespace String

/-- The lower-case form of a string. -/
def lowerFull (s : String) : String :=
  ofList (BlogSnapshot.Text.lower s.toList)

end String
