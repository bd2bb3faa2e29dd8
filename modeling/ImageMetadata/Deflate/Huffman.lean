import ImageMetadata.Deflate.Bits

/-!
# Canonical prefix codes

A code is given by the length of each symbol's code word; words of one length are consecutive
numbers in the order of their symbols, and shorter words come first.
-/

namespace ImageMetadata.Deflate

/-- A canonical code: the number of words of each length from 1 to 15, and the symbols in the order
of their words. -/
structure Huffman where
  counts : List Nat
  symbols : Array Nat

namespace Huffman

/-- The lengths that a code word may have. -/
def lengthRange : List Nat := (List.range 15).map (· + 1)

/-- The code with the given word lengths; a length of zero leaves the symbol out. -/
def ofLengths (lengths : List Nat) : Huffman :=
  { counts := lengthRange.map fun n => lengths.count n
    symbols := (lengthRange.flatMap fun n =>
      (List.range lengths.length).filter fun i => lengths[i]? == some n).toArray }

/-- The number of words of greatest length that the code leaves free, negative if it has too many.
-/
def slack (code : Huffman) : Int := code.counts.foldl (fun (left : Int) (n : Nat) => 2 * left - n) 1

/-- Whether every bit string begins with exactly one word. -/
def isComplete (code : Huffman) : Bool := code.slack == 0

/-- Whether the code can be used for symbols: complete, or with no word longer than one bit. -/
def isUsable (code : Huffman) : Bool :=
  code.isComplete || (decide (0 < code.slack) && (code.counts.drop 1).all (· == 0))

/-- Follows the bits through the word lengths: `word` is what has been read, `first` the first word
of the present length and `index` the place of its symbol. -/
def follow (symbols : Array Nat) : List Nat → Nat → Nat → Nat → Bits → Option (Nat × Bits)
  | [], _, _, _, _ => none
  | _ :: _, _, _, _, [] => none
  | count :: counts, word, first, index, b :: bits =>
    let word := word + b.toNat
    if word < first + count then
      (symbols[index + (word - first)]?).map fun symbol => (symbol, bits)
    else follow symbols counts (2 * word) (2 * (first + count)) (index + count) bits

/-- The symbol of the word at the start of the bits, and the bits behind it. -/
def symbol? (code : Huffman) (bits : Bits) : Option (Nat × Bits) :=
  follow code.symbols code.counts 0 0 0 bits

end Huffman

end ImageMetadata.Deflate
