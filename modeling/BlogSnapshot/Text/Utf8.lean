/-! Decoding UTF-8 with the place and the cause of the first failure.
-/

namespace BlogSnapshot.Text

/-- Why bytes are not UTF-8. -/
inductive Utf8Cause
  | start
  | continuation
  | ended
  deriving DecidableEq, Repr

/-- Where a failure is, how many bytes it spans, and its cause. -/
structure Utf8Fault where
  position : Nat
  span : Nat
  cause : Utf8Cause
  deriving DecidableEq, Repr

def Utf8Cause.text : Utf8Cause → String
  | start => "invalid start byte"
  | continuation => "invalid continuation byte"
  | ended => "unexpected end of data"

/-- Continuation bytes that are needed after a leading byte, with the range of the first. -/
def utf8Lead (b : Nat) : Option (Nat × Nat × Nat) :=
  if b < 0xc2 then none
  else if b < 0xe0 then some (1, 0x80, 0xbf)
  else if b < 0xf0 then
    some (2, if b = 0xe0 then 0xa0 else 0x80, if b = 0xed then 0x9f else 0xbf)
  else if b < 0xf5 then
    some (3, if b = 0xf0 then 0x90 else 0x80, if b = 0xf4 then 0x8f else 0xbf)
  else none

/-- The number of good continuation bytes, at most `need`, and whether the bytes ran out. -/
def utf8Tail (low high : Nat) : Nat → List Nat → Nat × Bool
  | 0, _ => (0, false)
  | _ + 1, [] => (0, true)
  | need + 1, b :: rest =>
      if low ≤ b && b ≤ high then
        let (n, ended) := utf8Tail 0x80 0xbf need rest
        (n + 1, ended)
      else (0, false)

/-- The bits that a leading byte contributes. -/
def utf8LeadBits (b need : Nat) : Nat :=
  b % Nat.pow 2 (6 - need)

/-- Decoding from a position; `fuel` bounds the number of characters. -/
def utf8From : Nat → Nat → List Nat → Except Utf8Fault (List Char)
  | 0, _, _ => .ok []
  | _ + 1, _, [] => .ok []
  | fuel + 1, position, b :: rest =>
      if b < 0x80 then (utf8From fuel (position + 1) rest).map (Char.ofNat b :: ·)
      else match utf8Lead b with
        | none => .error ⟨position, 1, .start⟩
        | some (need, low, high) =>
            let (found, ended) := utf8Tail low high need rest
            if found = need then
              let code := (rest.take need).foldl (fun n c => n * 64 + c % 64)
                (utf8LeadBits b need)
              (utf8From fuel (position + need + 1) (rest.drop need)).map (Char.ofNat code :: ·)
            else if ended then .error ⟨position, found + 1, .ended⟩
            else .error ⟨position, found + 1, .continuation⟩

/-- The characters that bytes encode. -/
def decodeUtf8 (bytes : List Nat) : Except Utf8Fault (List Char) :=
  utf8From bytes.length 0 bytes

end BlogSnapshot.Text
