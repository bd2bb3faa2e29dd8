import ImageMetadata.Text.Blank
import ImageMetadata.Text.Quoted

/-!
# Integers written in decimal

An integer literal is an optional sign and decimal digits of any script, with single underscores
allowed between digits and white space, the information separators apart, around the whole. At most
4300 digits are accepted.
-/

namespace ImageMetadata.Text.IntegerLiteral

/-- The zero of each script's decimal digits; the other nine follow it. -/
def zeros : List Nat :=
  [0x30, 0x660, 0x6F0, 0x7C0, 0x966, 0x9E6, 0xA66, 0xAE6, 0xB66, 0xBE6, 0xC66, 0xCE6, 0xD66, 0xDE6,
    0xE50, 0xED0, 0xF20, 0x1040, 0x1090, 0x17E0, 0x1810, 0x1946, 0x19D0, 0x1A80, 0x1A90, 0x1B50,
    0x1BB0, 0x1C40, 0x1C50, 0xA620, 0xA8D0, 0xA900, 0xA9D0, 0xA9F0, 0xAA50, 0xABF0, 0xFF10,
    0x104A0, 0x10D30, 0x11066, 0x110F0, 0x11136, 0x111D0, 0x112F0, 0x11450, 0x114D0, 0x11650,
    0x116C0, 0x11730, 0x118E0, 0x11950, 0x11C50, 0x11D50, 0x11DA0, 0x16A60, 0x16AC0, 0x16B50,
    0x1D7CE, 0x1D7D8, 0x1D7E2, 0x1D7EC, 0x1D7F6, 0x1E140, 0x1E2F0, 0x1E950, 0x1FBF0]

/-- The value of a decimal digit of any script. -/
def digit? (c : Char) : Option Nat :=
  (zeros.find? fun base => base ≤ c.toNat && c.toNat < base + 10).map fun base => c.toNat - base

/-- The most digits that a literal may have. -/
def digitLimit : Nat := 4300

/-- Why a text is no integer literal. -/
inductive Fault where
  | malformed (text : List Char)
  | tooLong (digits : Nat)
  deriving DecidableEq, Repr

/-- Whether each underscore of a run of digits and underscores stands between two digits, given
whether a digit stands before the run. -/
def spaced : Bool → List Char → Bool
  | afterDigit, [] => afterDigit
  | afterDigit, c :: rest => if c = '_' then afterDigit && spaced false rest else spaced true rest

/-- The number with the given decimal digits, the most significant one first. -/
def value (list : List Nat) : Nat := list.foldl (fun n d => 10 * n + d) 0

/-- Whether a character may stand around a literal. -/
def isMargin (c : Char) : Bool := isBlank c && !(0x1C ≤ c.toNat && c.toNat ≤ 0x1F)

/-- The integer that a literal denotes. -/
def read (text : List Char) : Except Fault Int :=
  let body := ((text.dropWhile isMargin).reverse.dropWhile isMargin).reverse
  let unsigned := match body with
    | '+' :: rest => rest
    | '-' :: rest => rest
    | _ => body
  let inRun := fun c => c = '_' || (digit? c).isSome
  let run := unsigned.takeWhile inRun
  let list := run.filterMap digit?
  if !spaced false run then .error (.malformed text)
  else if digitLimit < list.length then .error (.tooLong list.length)
  else if !(unsigned.dropWhile inRun).isEmpty then .error (.malformed text)
  else if body.head? = some '-' then .ok (-(value list : Int))
  else .ok (value list)

/-- The wording of a fault; the quoted text is cut after 200 characters. -/
def Fault.message : Fault → String
  | malformed text =>
    "invalid literal for int() with base 10: " ++
      String.ofList ((Quoted.text text).toList.take 200)
  | tooLong digits =>
    "Exceeds the limit (" ++ toString digitLimit ++
      " digits) for integer string conversion: value has " ++ toString digits ++
      " digits; use sys.set_int_max_str_digits() to increase the limit"

end ImageMetadata.Text.IntegerLiteral
