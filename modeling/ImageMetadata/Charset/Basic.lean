import ImageMetadata.Bytes

/-!
# Character sets

A character set has names and a rule that gives the text of bytes. Most sets follow one of two
rules: each byte has its place in a table, or a lead byte says how many bytes follow it, and they
tell the place in a larger table.
-/

namespace ImageMetadata

/-- A character set. -/
structure Charset where
  /-- The names of the set, in capital letters. -/
  names : List String
  /-- The text of bytes, if they have one. -/
  decode? : Bytes → Option (List Char)

namespace Charset

/-- Stands in a table at a place that has no character. -/
def unassigned : Char := Char.ofNat 0xFFFD

/-- The character at a place of a text that is a table. -/
def charAt? (table : String) (place : Nat) : Option Char :=
  (table.toList[place]?).filter fun c => c ≠ unassigned

/-- What single bytes stand for. -/
structure ByteTable where
  /-- The bytes below this one stand for the characters with their numbers. -/
  start : Nat
  /-- The characters of the bytes from `start` on. -/
  upper : String
  /-- The bytes below `start` that stand for another character. -/
  lower : List (UInt8 × Char) := []

namespace ByteTable

/-- The character of a byte. -/
def char? (table : ByteTable) (b : UInt8) : Option Char :=
  match table.lower.lookup b with
  | some c => some c
  | none =>
    if b.toNat < table.start then some (Char.ofNat b.toNat)
    else charAt? table.upper (b.toNat - table.start)

/-- The text of bytes, each of which is a character. -/
def decode? (table : ByteTable) (bytes : Bytes) : Option (List Char) := bytes.mapM table.char?

theorem char?_of_lt {table : ByteTable} {b : UInt8} (h : table.lower.lookup b = none)
    (lt : b.toNat < table.start) : table.char? b = some (Char.ofNat b.toNat) := by
  simp [char?, h, lt]

/-- Bytes below `start` are read as the numbers of their characters, if none of them is changed. -/
theorem decode?_of_lt {table : ByteTable} {bytes : Bytes} (h : table.lower = [])
    (lt : ∀ b ∈ bytes, b.toNat < table.start) :
    table.decode? bytes = some (bytes.map fun b => Char.ofNat b.toNat) := by
  induction bytes with
  | nil => rfl
  | cons b rest ih =>
    have hb := char?_of_lt (b := b) (by rw [h]; rfl) (lt b List.mem_cons_self)
    have hrest := ih fun c hc => lt c (List.mem_cons_of_mem b hc)
    rw [decode?] at hrest ⊢
    rw [List.mapM_cons, hb, hrest]
    rfl

end ByteTable

/-- A character set of single bytes. -/
def ofTable (names : List String) (start : Nat) (upper : String) : Charset :=
  ⟨names, ByteTable.decode? { start, upper }⟩

/-- A large table of characters in lines of equal width; the end of a line may be missing. -/
structure Grid where
  width : Nat
  lines : Array String

/-- The character at a place of a grid, counted through the lines. -/
def Grid.char? (grid : Grid) (place : Nat) : Option Char :=
  (grid.lines[place / grid.width]?).bind fun line => charAt? line (place % grid.width)

/-- The text of bytes by a rule for a byte and what follows it: it gives a character and the number
of further bytes that belong to it. -/
def stepwise (step : UInt8 → Bytes → Option (Char × Nat)) : Bytes → Option (List Char)
  | [] => some []
  | b :: rest =>
    match step b rest with
    | some (c, more) => (stepwise step (rest.drop more)).map (c :: ·)
    | none => none
  termination_by bytes => bytes.length
  decreasing_by simp only [List.length_drop, List.length_cons]; omega

/-- The text in which each of some sequences is put together to one character. Where several
sequences start at a place, the first one of the list counts. -/
def compose (sequences : List (List Char × Char)) : List Char → List Char
  | [] => []
  | c :: rest =>
    match sequences.find? fun s => s.1.isPrefixOf (c :: rest) with
    | some (parts, composed) => composed :: compose sequences (rest.drop (parts.length - 1))
    | none => c :: compose sequences rest
  termination_by text => text.length
  decreasing_by
    · simp only [List.length_drop, List.length_cons]; omega
    · simp

/-- The sequences of a base and one mark, from texts with the bases and the composed characters. -/
def withMark (mark : Char) (bases composed : String) : List (List Char × Char) :=
  List.zipWith (fun base c => ([base, mark], c)) bases.toList composed.toList

end Charset

end ImageMetadata
