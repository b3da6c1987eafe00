import BlogSnapshot.Text.Blank
import BlogSnapshot.Text.Lowercase
import BlogSnapshot.Text.Split

/-! Tags of HTML within a text with markup: where a start tag ends, and whether it is one.
-/

namespace BlogSnapshot.Markdown.RawTag

open Text

/-- Whether a character goes on with a name. -/
def isNameChar (c : Char) : Bool :=
  !("\t\n\r\x0c />\x00".toList.contains c)

/-- Whether an attribute may start after a character. -/
def precedesAttribute (c : Char) : Bool :=
  c = '"' || c = '\'' || c = '/' || isBlank c

/-- What a tag turns out to be. -/
inductive Shape where
  | start
  | empty
  /-- It is not a tag but text. -/
  | text
  deriving DecidableEq, Repr

/-- A place within a tag: the characters before it, the nearest first, and those after it. -/
structure Place where
  before : List Char
  after : List Char
  deriving Repr

namespace Place

/-- The place after `n` more characters. -/
def skip (p : Place) (n : Nat) : Place :=
  ⟨(p.after.take n).reverse ++ p.before, p.after.drop n⟩

/-- The place after all characters that satisfy `f`. -/
def skipWhile (p : Place) (f : Char → Bool) : Place :=
  p.skip (p.after.takeWhile f).length

/-- The place after a value in quotes. -/
def skipQuoted? (p : Place) : Option Place :=
  match p.after with
  | c :: rest =>
      if c = '"' || c = '\'' then
        match cutAt (· = c) rest with
        | (value, some _) => some (p.skip (value.length + 2))
        | (_, none) => none
      else none
  | [] => none

/-- The place after a value without quotes. -/
def skipBare (p : Place) : Place :=
  p.skipWhile fun c => c ≠ '\x60' && c ≠ '>' && !isBlank c

/-- The place after an equals sign and a value, and whether the value has no quotes. A quote that
is not closed begins no value; what is before it is one if there is anything to be one.
-/
def skipValue? (p : Place) : Option (Place × Bool) :=
  let sign := p.skipWhile isBlank
  let signs := (sign.after.takeWhile (· = '=')).length
  if signs = 0 then none
  else
    let signed := sign.skip signs
    let value := signed.skipWhile isBlank
    match value.skipQuoted? with
    | some p => some (p, false)
    | none =>
        if value.after.head? = some '"' || value.after.head? = some '\'' then
          let blanks := value.before.length - signed.before.length
          if 0 < blanks then some (signed.skip (blanks - 1), true)
          else if 1 < signs then some ((sign.skip (signs - 1)).skipBare, true)
          else none
        else some (value.skipBare, true)

/-- The place after commas. -/
def skipCommas : Nat → Place → Place
  | 0, p => p
  | fuel + 1, p =>
      let next := p.skipWhile isBlank
      if next.after.head? = some ',' then skipCommas fuel (next.skip 1) else p

/-- The place after blanks and slashes, but before a slash at the end of the tag. -/
def skipGap : Nat → Place → Place
  | 0, p => p
  | fuel + 1, p =>
      match p.after with
      | '/' :: '>' :: _ => p
      | c :: _ => if c = '/' || isBlank c then skipGap fuel (p.skip 1) else p
      | [] => p

/-- The place after at most `fuel` attributes; whether there was one, and whether a value without
quotes is the last thing.
-/
def skipAttributes : Nat → Place → Bool → Bool → Place × Bool × Bool
  | 0, p, found, bare => (p, found, bare)
  | fuel + 1, p, found, bare =>
      match p.before, p.after with
      | prev :: _, c :: _ =>
          if precedesAttribute prev && c ≠ '\x60' && c ≠ '/' && c ≠ '>' && !isBlank c then
            let named := (p.skip 1).skipWhile fun c =>
              c ≠ '/' && c ≠ '=' && c ≠ '>' && !isBlank c
            match named.skipValue? with
            | some (valued, isBare) =>
                let ended := skipGap fuel (skipCommas fuel valued)
                let bareLast := isBare && ended.after.length = valued.after.length
                skipAttributes fuel ended true bareLast
            | none => skipAttributes fuel (skipGap fuel named) true false
          else (p, found, bare)
      | _, _ => (p, found, bare)

end Place

/-- Reads what starts with an angle bracket and a letter: its name, its shape, its text and the
text after it.
-/
def read (s : List Char) : List Char × Shape × List Char × List Char :=
  let named := (Place.mk [] s |>.skip 1).skipWhile fun c => isNameChar c && c ≠ '\x60'
  let gap := named.skipWhile fun c => c = '/' || isBlank c
  let (p, hasAttributes, bareLast) := gap.skipAttributes s.length false false
  let p := p.skipWhile isBlank
  let name := lower (named.before.reverse.drop 1)
  match p.after with
  | '>' :: _ =>
      let slashed := p.before.head? = some '/' && !hasAttributes && !bareLast
      done name (if slashed then .empty else .start) (p.skip 1)
  | '/' :: '>' :: _ => done name .empty (p.skip 2)
  | c :: _ =>
      if c.isAlpha || c = '=' || c = '/' then done name .text ((Place.mk [] s).skip 1)
      else done name .text p
  | [] => done name .text ((Place.mk [] s).skip 1)
where
  done (name : List Char) (shape : Shape) (p : Place)
      : List Char × Shape × List Char × List Char :=
    (name, shape, p.before.reverse, p.after)

end BlogSnapshot.Markdown.RawTag
