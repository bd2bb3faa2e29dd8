/-!
# White space and line ends

White space is the Unicode property together with the four information separators. A line ends at a
line feed, a carriage return, the pair of both, a vertical tab, a form feed, one of three
information separators, NEL, or one of the two Unicode separators.
-/

namespace ImageMetadata.Text

/-- Closed ranges of the code points of white space, ascending and apart. -/
def blankRanges : List (Nat × Nat) :=
  [(0x09, 0x0D), (0x1C, 0x20), (0x85, 0x85), (0xA0, 0xA0), (0x1680, 0x1680), (0x2000, 0x200A),
    (0x2028, 0x2029), (0x202F, 0x202F), (0x205F, 0x205F), (0x3000, 0x3000)]

/-- Whether a character is white space. -/
def isBlank (c : Char) : Bool := blankRanges.any fun r => r.1 ≤ c.toNat && c.toNat ≤ r.2

/-- The text without white space at either end. -/
def trim (text : List Char) : List Char :=
  ((text.dropWhile isBlank).reverse.dropWhile isBlank).reverse

/-- Whether a character ends a line. -/
def endsLine (c : Char) : Bool :=
  [0x0A, 0x0B, 0x0C, 0x0D, 0x1C, 0x1D, 0x1E, 0x85, 0x2028, 0x2029].contains c.toNat

/-- The lines of a text, each with the characters that end it. -/
def lines : List Char → List (List Char)
  | [] => []
  | c :: rest =>
    if endsLine c then
      if c = '\r' ∧ rest.head? = some '\n' then
        match lines rest with
        | line :: others => (c :: line) :: others
        | [] => [[c]]
      else [c] :: lines rest
    else
      match lines rest with
      | line :: others => (c :: line) :: others
      | [] => [[c]]

/-- Puts four spaces in front of each line that has more than white space. -/
def indent (text : String) : String :=
  String.ofList ((lines text.toList).flatMap fun line =>
    if line.all isBlank then line else [' ', ' ', ' ', ' '] ++ line)

end ImageMetadata.Text
