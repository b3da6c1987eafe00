import BlogSnapshot.Calendar.Fault
import BlogSnapshot.Yaml.Error

/-! Failures while a YAML text is read. Besides errors of the text, a value that a scalar spells
may not exist; such a fault carries no position.
-/

namespace BlogSnapshot.Yaml

/-- Why the value of a scalar does not exist. -/
inductive ScalarFault
  | calendar (fault : CalendarFault)
  | notInteger (base : Nat) (text : String)
  | tooManyDigits (count : Nat)
  | unshownInteger
  | notFloat (text : String)
  | floatOverflow
  | characterCode
  | characterOverflow
  | unknownWord (word : String)
  | emptyText
  | noTimestamp
  | entriesAsText
  | endlessText
  deriving DecidableEq, Repr

/-- A failure: an error of the text, or a value that does not exist. -/
inductive Failure
  | text (error : Error)
  | fault (fault : ScalarFault)
  deriving DecidableEq, Repr

/-- The most digits that are read or shown as one number. -/
def maxDigits : Nat := 4300

/-- A quoted text cut to 200 characters. -/
def shortQuoted (s : String) : String :=
  String.ofList (s.quotedText.toList.take 200)

/-- The wording of a scalar fault. -/
def ScalarFault.message : ScalarFault → String
  | calendar fault => fault.message
  | notInteger base text =>
      "invalid literal for int() with base " ++ toString base ++ ": " ++ shortQuoted text
  | tooManyDigits count =>
      "Exceeds the limit (" ++ toString maxDigits ++ " digits) for integer string conversion: "
        ++ "value has " ++ toString count
        ++ " digits; use sys.set_int_max_str_digits() to increase the limit"
  | unshownInteger =>
      "Exceeds the limit (" ++ toString maxDigits
        ++ " digits) for integer string conversion; "
        ++ "use sys.set_int_max_str_digits() to increase the limit"
  | notFloat text => "could not convert string to float: " ++ text.quotedText
  | floatOverflow => "int too large to convert to float"
  | characterCode => "chr() arg not in range(0x110000)"
  | characterOverflow => "Python int too large to convert to C int"
  | unknownWord word => word.quotedText
  | emptyText => "string index out of range"
  | noTimestamp => "'NoneType' object has no attribute 'groupdict'"
  | entriesAsText => "expected string or bytes-like object, got 'list'"
  | endlessText => "maximum recursion depth exceeded"

end BlogSnapshot.Yaml
