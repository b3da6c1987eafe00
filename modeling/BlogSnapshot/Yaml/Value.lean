import BlogSnapshot.Calendar.Format
import BlogSnapshot.Number.Shortest
import BlogSnapshot.Text.Quoted
import BlogSnapshot.Yaml.Fault

/-! Values that a YAML text denotes, and the form in which messages show them.
-/

namespace BlogSnapshot.Yaml

/-- A value. A collection that contains itself ends in `cycle` where it would repeat. -/
inductive Value
  | null
  | bool (b : Bool)
  | int (n : Int)
  | float (x : Binary64)
  | text (s : String)
  | bytes (bytes : List UInt8)
  | date (d : Date)
  | moment (m : Moment)
  | list (items : List Value)
  | map (entries : List (Value × Value))
  | set (items : List Value)
  | pair (first second : Value)
  | cycle (isMap : Bool)
  deriving Repr, Inhabited

namespace Value

/-- The number that a truth value, an integer or a double stands for in comparisons. -/
def number? : Value → Option (Int × Nat ⊕ Binary64)
  | bool b => some (.inl (if b then 1 else 0, 1))
  | int n => some (.inl (n, 1))
  | float (.finite s m e) =>
      let (p, q) := Binary64.ratio m e
      some (.inl (if s then -(p : Int) else p, q))
  | float x => some (.inr x)
  | _ => none

/-- Whether two numbers are equal as rational numbers. -/
def sameNumber : Int × Nat ⊕ Binary64 → Int × Nat ⊕ Binary64 → Bool
  | .inl (p, q), .inl (r, s) => p * s = r * q
  | .inr x, .inr y => x.same y
  | _, _ => false

/-- Whether two values are the same key of a mapping. Numbers are compared by value, and moments
with offsets by instant. Collections are no keys.
-/
def sameKey (a b : Value) : Bool :=
  match a.number?, b.number? with
  | some x, some y => sameNumber x y
  | none, none =>
      match a, b with
      | null, null => true
      | text s, text t => s = t
      | bytes s, bytes t => s = t
      | date d, date e => d = e
      | moment m, moment n =>
          m.offset.isSome = n.offset.isSome && m.instant = n.instant
      | _, _ => false
  | _, _ => false

/-- Whether a value is the double that is no number. -/
def isNoNumber : Value → Bool
  | float .nan => true
  | _ => false

/-- The value under a text key. -/
def get? (key : String) : List (Value × Value) → Option Value
  | [] => none
  | (text k, v) :: rest => if k = key then some v else get? key rest
  | _ :: rest => get? key rest

mutual

/-- The form in which a message shows a value. -/
def shown : Value → String
  | null => "None"
  | bool b => if b then "True" else "False"
  | int n => toString n
  | float x => x.text
  | text s => s.quotedText
  | bytes bs => String.ofList (Text.quotedBytes bs)
  | date d => d.shown
  | moment m => m.shown
  | list items => "[" ++ shownItems items ++ "]"
  | map entries => "\x7b" ++ shownEntries entries ++ "\x7d"
  | set [] => "set()"
  | set items => "\x7b" ++ shownItems items ++ "\x7d"
  | pair first second => "(" ++ first.shown ++ ", " ++ second.shown ++ ")"
  | cycle isMap => if isMap then "\x7b...\x7d" else "[...]"

def shownItems : List Value → String
  | [] => ""
  | [v] => v.shown
  | v :: vs => v.shown ++ ", " ++ shownItems vs

def shownEntries : List (Value × Value) → String
  | [] => ""
  | [(k, v)] => k.shown ++ ": " ++ v.shown
  | (k, v) :: rest => k.shown ++ ": " ++ v.shown ++ ", " ++ shownEntries rest

end

mutual

/-- Whether a message can show a value: no integer in it has too many digits. -/
def isShowable : Value → Bool
  | int n => n.natAbs < 10 ^ maxDigits
  | list items => itemsShowable items
  | map entries => entriesShowable entries
  | set items => itemsShowable items
  | pair first second => first.isShowable && second.isShowable
  | _ => true

def itemsShowable : List Value → Bool
  | [] => true
  | v :: vs => v.isShowable && itemsShowable vs

def entriesShowable : List (Value × Value) → Bool
  | [] => true
  | (k, v) :: rest => k.isShowable && v.isShowable && entriesShowable rest

end

end Value

end BlogSnapshot.Yaml
