import ImageMetadata.Deflate.Huffman

/-!
# Inflating

A compressed stream is a sequence of blocks: stored bytes, symbols of the fixed code, or symbols of
a code that the block itself describes. A symbol is a byte, the end of the block, or a length that
is followed by a distance and copies bytes already written.
-/

namespace ImageMetadata.Deflate

namespace Inflate

/-- The least length of each length symbol and its number of extra bits, from symbol 257 on. -/
def lengthTable : List (Nat × Nat) :=
  [(3, 0), (4, 0), (5, 0), (6, 0), (7, 0), (8, 0), (9, 0), (10, 0), (11, 1), (13, 1), (15, 1),
    (17, 1), (19, 2), (23, 2), (27, 2), (31, 2), (35, 3), (43, 3), (51, 3), (59, 3), (67, 4),
    (83, 4), (99, 4), (115, 4), (131, 5), (163, 5), (195, 5), (227, 5), (258, 0)]

/-- The least distance of each distance symbol and its number of extra bits. -/
def distanceTable : List (Nat × Nat) :=
  [(1, 0), (2, 0), (3, 0), (4, 0), (5, 1), (7, 1), (9, 2), (13, 2), (17, 3), (25, 3), (33, 4),
    (49, 4), (65, 5), (97, 5), (129, 6), (193, 6), (257, 7), (385, 7), (513, 8), (769, 8),
    (1025, 9), (1537, 9), (2049, 10), (3073, 10), (4097, 11), (6145, 11), (8193, 12), (12289, 12),
    (16385, 13), (24577, 13)]

/-- The fixed code of literals and lengths. -/
def fixedLiterals : Huffman :=
  Huffman.ofLengths (List.replicate 144 8 ++ List.replicate 112 9 ++ List.replicate 24 7 ++
    List.replicate 8 8)

/-- The fixed code of distances. -/
def fixedDistances : Huffman := Huffman.ofLengths (List.replicate 30 5)

/-- A base value and the extra bits that are added to it. -/
def extended? (table : List (Nat × Nat)) (symbol : Nat) (bits : Bits) : Option (Nat × Bits) := do
  let (base, width) ← table[symbol]?
  let (extra, rest) ← bits.number? width
  pure (base + extra, rest)

/-- Appends `count` bytes, each the one that stands `distance` before the end. -/
def copy (distance : Nat) : Nat → Array UInt8 → Array UInt8
  | 0, out => out
  | count + 1, out => copy distance count (out.push (out.getD (out.size - distance) 0))

/-- Decodes symbols up to the end of the block. Each symbol takes at least one bit, so the number of
bits bounds the number of symbols. -/
def symbols (literals distances : Huffman) :
    Nat → Bits → Array UInt8 → Option (Array UInt8 × Bits)
  | 0, _, _ => none
  | fuel + 1, bits, out =>
    match literals.symbol? bits with
    | none => none
    | some (symbol, bits) =>
      if symbol < 256 then symbols literals distances fuel bits (out.push (UInt8.ofNat symbol))
      else if symbol = 256 then some (out, bits)
      else
        match extended? lengthTable (symbol - 257) bits with
        | none => none
        | some (length, bits) =>
          match distances.symbol? bits with
          | none => none
          | some (symbol, bits) =>
            match extended? distanceTable symbol bits with
            | none => none
            | some (distance, bits) =>
              if out.size < distance then none
              else symbols literals distances fuel bits (copy distance length out)

/-- Reads `count` whole bytes. -/
def stored : Nat → Bits → Array UInt8 → Option (Array UInt8 × Bits)
  | 0, bits, out => some (out, bits)
  | count + 1, bits, out =>
    match bits.number? 8 with
    | some (n, rest) => stored count rest (out.push (UInt8.ofNat n))
    | none => none

/-- The order in which the word lengths of the code-length code stand. -/
def lengthOrder : List Nat := [16, 17, 18, 0, 8, 7, 9, 6, 10, 5, 11, 4, 12, 3, 13, 2, 14, 1, 15]

/-- Reads `count` numbers of three bits. -/
def triples : Nat → Bits → Option (List Nat × Bits)
  | 0, bits => some ([], bits)
  | count + 1, bits => do
    let (n, rest) ← bits.number? 3
    let (others, rest) ← triples count rest
    pure (n :: others, rest)

/-- Reads word lengths until there are `total` of them; a repetition may not go beyond. -/
def lengths (code : Huffman) (total : Nat) : Nat → Bits → List Nat → Option (List Nat × Bits)
  | 0, _, _ => none
  | fuel + 1, bits, done =>
    if done.length = total then some (done, bits)
    else do
      let (symbol, bits) ← code.symbol? bits
      if symbol < 16 then lengths code total fuel bits (done ++ [symbol])
      else
        let (value, base, width) ←
          if symbol = 16 then done.getLast?.map fun last => (last, 3, 2)
          else if symbol = 17 then some (0, 3, 3)
          else some (0, 11, 7)
        let (extra, bits) ← bits.number? width
        if total < done.length + (base + extra) then none
        else lengths code total fuel bits (done ++ List.replicate (base + extra) value)

/-- Reads the two codes that stand at the start of a block. -/
def codes? (bits : Bits) : Option (Huffman × Huffman × Bits) := do
  let (literalCount, bits) ← bits.number? 5
  let (distanceCount, bits) ← bits.number? 5
  let (lengthCount, bits) ← bits.number? 4
  let literalCount := literalCount + 257
  let distanceCount := distanceCount + 1
  if 286 < literalCount || 30 < distanceCount then none
  else
    let (given, bits) ← triples (lengthCount + 4) bits
    let places := lengthOrder.zip given
    let code := Huffman.ofLengths ((List.range 19).map fun i => (places.lookup i).getD 0)
    if !code.isComplete then none
    else
      let (all, bits) ← lengths code (literalCount + distanceCount) (bits.length + 1) bits []
      let literals := Huffman.ofLengths (all.take literalCount)
      let distances := Huffman.ofLengths (all.drop literalCount)
      if all.getD 256 0 = 0 || !literals.isUsable || !distances.isUsable then none
      else pure (literals, distances, bits)

/-- Decodes one block behind its final mark. -/
def block (bits : Bits) (out : Array UInt8) : Option (Array UInt8 × Bits) := do
  let (kind, bits) ← bits.number? 2
  if kind = 0 then
    let (count, bits) ← bits.align.number? 16
    let (inverse, bits) ← bits.number? 16
    if count + inverse = 65535 then stored count bits out else none
  else if kind = 1 then symbols fixedLiterals fixedDistances (bits.length + 1) bits out
  else if kind = 2 then
    let (literals, distances, bits) ← codes? bits
    symbols literals distances (bits.length + 1) bits out
  else none

/-- Decodes blocks up to the final one. Each block takes at least three bits. -/
def blocks : Nat → Bits → Array UInt8 → Option (Array UInt8 × Bits)
  | 0, _, _ => none
  | fuel + 1, bits, out => do
    let (final, bits) ← bits.number? 1
    let (out, bits) ← block bits out
    if final = 1 then some (out, bits) else blocks fuel bits out

end Inflate

/-- The bytes that a compressed stream stands for, and the bits behind the stream. -/
def inflate? (bits : Bits) : Option (Bytes × Bits) :=
  (Inflate.blocks (bits.length + 1) bits #[]).map fun (out, rest) => (out.toList, rest)

end ImageMetadata.Deflate
