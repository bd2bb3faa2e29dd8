import ImageMetadata.Proofs.Integers
import ImageMetadata.Proofs.Text.Utf8
import ImageMetadata.Tiff.Value

/-!
# Values and their displays

The value that bytes store and the text that displays it are read from the bytes apart from each
other. Both exist for the same bytes, and both give back what was packed into the bytes: integers
and fractions of any width, sign and number, and texts.
-/

namespace ImageMetadata.Tiff

namespace FieldType

/-- How the numbers of an integer type are stored. -/
def integer? : FieldType → Option Signedness
  | byte | short | long | ifd | long8 | ifd8 => some .unsigned
  | sbyte | sshort | slong | slong8 => some .signed
  | _ => none

/-- How the numerators and denominators of a fraction type are stored. -/
def fraction? : FieldType → Option Signedness
  | rational => some .unsigned
  | srational => some .signed
  | _ => none

theorem ofCode_code (type : FieldType) : ofCode type.code = .ok type := by
  rw [ofCode, if_neg (Int.not_lt.2 (Int.natCast_nonneg _)), Int.toNat_natCast, ofCode?_code]

theorem ofCode_of_ne {code : Int} (unknown : ∀ type : FieldType, (type.code : Int) ≠ code) :
    ofCode code = .error (.unknownFieldType code) := by
  unfold ofCode
  split
  · rename_i type found
    split at found
    · cases found
    · rename_i positive
      have same : type.code = code.toNat := by simpa using List.find?_some found
      exact absurd (same ▸ Int.toNat_of_nonneg (Int.not_lt.1 positive)) (unknown type)
  · rfl

end FieldType

namespace Value

variable {α : Type} {type : FieldType} {sign : Signedness} {order : ByteOrder} {count : Nat}
  {raw : Bytes}

/-- Texts and bytes may have any size, and numbers have a fixed one. -/
def Admits (type : FieldType) (count : Nat) (raw : Bytes) : Prop :=
  type = .ascii ∨ type = .undefined ∨ raw.length = count * type.size

theorem accepts_iff : accepts type count raw = true ↔ Admits type count raw := by
  simp [accepts, Admits, Nat.mul_comm, or_assoc]

theorem decodeCode_code (type : FieldType) (count : Nat) (raw : Bytes) (order : ByteOrder) :
    decodeCode type.code count raw order = decode type count raw order := by
  rw [decodeCode, FieldType.ofCode_code]
  rfl

theorem displayCode_code (type : FieldType) (count : Nat) (raw : Bytes) (order : ByteOrder) :
    displayCode type.code count raw order = display type count raw order := by
  rw [displayCode, FieldType.ofCode_code]
  rfl

theorem decode_of_admits (h : Admits type count raw) (order : ByteOrder) :
    decode type count raw order = .ok (ofRaw type count raw order) :=
  if_pos (accepts_iff.2 h)

theorem display_of_admits (h : Admits type count raw) (order : ByteOrder) :
    display type count raw order = .ok (displayRaw type count raw order) :=
  if_pos (accepts_iff.2 h)

/-- A single number is a scalar, and any other count of numbers is a list. -/
def ofNumbers : List Number → Value
  | [x] => .scalar x
  | items => .list items

/-- What is packed piece by piece is taken apart again. -/
theorem pieces_flatMap {size : Nat} {pack : α → Bytes} (items : List α)
    (length : ∀ a ∈ items, (pack a).length = size) :
    pieces size items.length (items.flatMap pack) = items.map pack := by
  induction items with
  | nil => rfl
  | cons a rest ih =>
      obtain ⟨head, others⟩ := List.forall_mem_cons.1 length
      rw [List.length_cons, pieces, List.flatMap_cons, List.take_left' head, List.drop_left' head,
        ih others, List.map_cons]

/-- Bytes are read back as numbers, and displayed as their texts. The display breaks off after
sixteen texts. -/
structure IsReadBack (type : FieldType) (order : ByteOrder) (count : Nat) (raw : Bytes)
    (numbers : List Number) (texts : List String) : Prop where
  decode : decodeCode type.code count raw order = .ok (ofNumbers numbers)
  display : count ≤ 16 → displayCode type.code count raw order = .ok (" ".intercalate texts)
  display_long : 16 < count → displayCode type.code count raw order =
    .ok (" ".intercalate (texts.take 16) ++ s!" ... ({count} values)")

theorem ofRaw_eq_ofNumbers (text : type ≠ .ascii) (bytes : type ≠ .undefined) :
    ofRaw type count raw order =
      ofNumbers ((pieces type.size count raw).map (number type order)) := by
  cases type <;> first | contradiction | rfl

theorem displayRaw_eq_displayItems (text : type ≠ .ascii) (bytes : type ≠ .undefined) :
    displayRaw type count raw order =
      displayItems ((pieces type.size count raw).map (numberText type order)) := by
  cases type <;> first | contradiction | rfl

/-- Items are read back if each one is. -/
theorem isReadBack_flatMap {pack : α → Bytes} {value : α → Number} {text : α → String}
    (items : List α) (notText : type ≠ .ascii) (notBytes : type ≠ .undefined)
    (length : ∀ a ∈ items, (pack a).length = type.size)
    (decodes : ∀ a ∈ items, number type order (pack a) = value a)
    (displays : ∀ a ∈ items, numberText type order (pack a) = text a) :
    IsReadBack type order items.length (items.flatMap pack) (items.map value) (items.map text) := by
  have size : (items.flatMap pack).length = items.length * type.size := by
    rw [List.length_flatMap, List.map_congr_left length, List.map_const',
      List.sum_replicate_nat]
  have admits : Admits type items.length (items.flatMap pack) := .inr (.inr size)
  have display : displayCode type.code items.length (items.flatMap pack) order =
      .ok (displayItems (items.map text)) := by
    rw [displayCode_code, display_of_admits admits, displayRaw_eq_displayItems notText notBytes,
      pieces_flatMap items length, List.map_map]
    exact congrArg (fun texts => Except.ok (displayItems texts)) (List.map_congr_left displays)
  refine ⟨?_, fun short => ?_, fun long => ?_⟩
  · rw [decodeCode_code, decode_of_admits admits, ofRaw_eq_ofNumbers notText notBytes,
      pieces_flatMap items length, List.map_map]
    exact congrArg (fun numbers => Except.ok (ofNumbers numbers)) (List.map_congr_left decodes)
  · rw [display, displayItems, List.length_map]
    exact congrArg Except.ok (if_neg (Nat.not_lt.2 short))
  · rw [display, displayItems, List.length_map]
    exact congrArg Except.ok (if_pos long)

theorem isReadBack_integers (known : type.integer? = some sign) {ns : List Int}
    (fits : ∀ n ∈ ns, sign.Fits type.size n) :
    IsReadBack type order ns.length (ns.flatMap fun n => sign.write order type.size n)
      (ns.map .integer) (ns.map toString) := by
  have notText : type ≠ .ascii := by
    rintro rfl
    cases known
  have notBytes : type ≠ .undefined := by
    rintro rfl
    cases known
  have reads (piece : Bytes) : number type order piece = .integer (sign.read order piece) := by
    cases type <;> cases known <;> rfl
  have shows (piece : Bytes) : numberText type order piece = toString (sign.read order piece) := by
    cases type <;> cases known <;> rfl
  apply isReadBack_flatMap ns notText notBytes
  · exact fun n _ => sign.length_write order type.size n
  · intro n member
    rw [reads, sign.read_write order (fits n member)]
  · intro n member
    rw [shows, sign.read_write order (fits n member)]

theorem isReadBack_fractions (known : type.fraction? = some sign) {ps : List (Int × Int)}
    (fits : ∀ p ∈ ps, sign.Fits 4 p.1 ∧ sign.Fits 4 p.2) :
    IsReadBack type order ps.length
      (ps.flatMap fun p => sign.write order 4 p.1 ++ sign.write order 4 p.2)
      (ps.map fun p => .real (quotient p.1 p.2)) (ps.map fun p => s!"{p.1}/{p.2}") := by
  have notText : type ≠ .ascii := by
    rintro rfl
    cases known
  have notBytes : type ≠ .undefined := by
    rintro rfl
    cases known
  have reads (piece : Bytes) : number type order piece =
      .real (quotient (sign.read order (piece.take 4)) (sign.read order (piece.drop 4))) := by
    cases type <;> cases known <;> rfl
  have shows (piece : Bytes) : numberText type order piece =
      s!"{sign.read order (piece.take 4)}/{sign.read order (piece.drop 4)}" := by
    cases type <;> cases known <;> rfl
  have size : type.size = 8 := by
    cases type <;> cases known <;> rfl
  have halves (p : Int × Int) (rest : Bytes) :
      (sign.write order 4 p.1 ++ rest).take 4 = sign.write order 4 p.1 ∧
        (sign.write order 4 p.1 ++ rest).drop 4 = rest :=
    ⟨List.take_left' (sign.length_write order 4 p.1),
      List.drop_left' (sign.length_write order 4 p.1)⟩
  apply isReadBack_flatMap ps notText notBytes
  · intro p _
    rw [List.length_append, sign.length_write, sign.length_write, size]
  · intro p member
    rw [reads, (halves p _).1, (halves p _).2, sign.read_write order (fits p member).1,
      sign.read_write order (fits p member).2]
  · intro p member
    rw [shows, (halves p _).1, (halves p _).2, sign.read_write order (fits p member).1,
      sign.read_write order (fits p member).2]

/-- NULs at the end are no part of a text. -/
theorem trimNul_append {chars : List Char} (free : chars.getLast? ≠ some (Char.ofNat 0)) (n : Nat) :
    trimNul (chars ++ List.replicate n (Char.ofNat 0)) = chars := by
  have ended : chars.reverse.dropWhile (· == Char.ofNat 0) = chars.reverse := by
    rw [← List.head?_reverse] at free
    cases reversed : chars.reverse with
    | nil => rfl
    | cons c rest =>
        rw [reversed] at free
        have other : (c == Char.ofNat 0) = false :=
          beq_false_of_ne fun same => free (congrArg some same)
        rw [List.dropWhile_cons, other]
        rfl
  rw [trimNul, List.reverse_append, List.reverse_replicate]
  rw [List.dropWhile_append_of_pos (by simp), ended, List.reverse_reverse]

theorem encode_nuls (n : Nat) :
    Text.Utf8.encode (List.replicate n (Char.ofNat 0)) = List.replicate n 0 := by
  induction n with
  | zero => rfl
  | succ n ih => rw [List.replicate_succ, Text.Utf8.encode_cons, ih, List.replicate_succ]; rfl

theorem text8_encode {chars : List Char} (free : chars.getLast? ≠ some (Char.ofNat 0)) (n : Nat) :
    text8 (Text.Utf8.encode chars ++ List.replicate n 0) = chars := by
  have whole : Text.Utf8.encode chars ++ Text.Utf8.encode (List.replicate n (Char.ofNat 0)) =
      Text.Utf8.encode (chars ++ List.replicate n (Char.ofNat 0)) :=
    List.flatMap_append.symm
  rw [text8, ← encode_nuls, whole, Text.Utf8.decodeReplacing_encode, trimNul_append free]

/-- Values and their displays belong together, in a byte order: they exist for the same bytes, and
they give back what was packed. -/
structure AreFaithful (order : ByteOrder) : Prop where
  /-- A type code may be unknown. -/
  unknown {code : Int} (count : Nat) (raw : Bytes) :
    (∀ type : FieldType, (type.code : Int) ≠ code) →
      (Problem.unknownFieldType code).kind = .key ∧
        decodeCode code count raw order = .error (.unknownFieldType code) ∧
        displayCode code count raw order = .error (.unknownFieldType code)
  /-- Bytes of another size are refused. -/
  refused (type : FieldType) (count : Nat) (raw : Bytes) : ¬ Admits type count raw →
    Problem.valueSize.kind = .packing ∧ decodeCode type.code count raw order = .error .valueSize ∧
      displayCode type.code count raw order = .error .valueSize
  admitted (type : FieldType) (count : Nat) (raw : Bytes) : Admits type count raw →
    (∃ value, decodeCode type.code count raw order = .ok value) ∧
      ∃ text, displayCode type.code count raw order = .ok text
  integers {type : FieldType} {sign : Signedness} : type.integer? = some sign →
    ∀ ns : List Int, (∀ n ∈ ns, sign.Fits type.size n) →
      IsReadBack type order ns.length (ns.flatMap fun n => sign.write order type.size n)
        (ns.map .integer) (ns.map toString)
  fractions {type : FieldType} {sign : Signedness} : type.fraction? = some sign →
    ∀ ps : List (Int × Int), (∀ p ∈ ps, sign.Fits 4 p.1 ∧ sign.Fits 4 p.2) →
      IsReadBack type order ps.length
        (ps.flatMap fun p => sign.write order 4 p.1 ++ sign.write order 4 p.2)
        (ps.map fun p => .real (quotient p.1 p.2)) (ps.map fun p => s!"{p.1}/{p.2}")
  /-- A text may be followed by NULs, but must not end in one. -/
  text (chars : List Char) (nuls count : Nat) : chars.getLast? ≠ some (Char.ofNat 0) →
    decodeCode FieldType.ascii.code count (Text.Utf8.encode chars ++ List.replicate nuls 0) order =
        .ok (.text chars) ∧
      displayCode FieldType.ascii.code count (Text.Utf8.encode chars ++ List.replicate nuls 0)
        order = .ok (String.ofList chars)

theorem areFaithful (order : ByteOrder) : AreFaithful order where
  unknown count raw other := by
    have missing := FieldType.ofCode_of_ne other
    refine ⟨rfl, ?_, ?_⟩
    · rw [decodeCode, missing]
      rfl
    · rw [displayCode, missing]
      rfl
  refused type count raw other := by
    have rejected : ¬ accepts type count raw = true := fun h => other (accepts_iff.1 h)
    rw [decodeCode_code, displayCode_code]
    exact ⟨rfl, if_neg rejected, if_neg rejected⟩
  admitted type count raw admits := by
    rw [decodeCode_code, displayCode_code]
    exact ⟨⟨_, decode_of_admits admits order⟩, _, display_of_admits admits order⟩
  integers known ns fits := isReadBack_integers known fits
  fractions known ps fits := isReadBack_fractions known fits
  text chars nuls count free := by
    have trimmed := text8_encode free nuls
    rw [decodeCode_code, displayCode_code, decode_of_admits (.inl rfl),
      display_of_admits (.inl rfl), ofRaw, displayRaw, trimmed]
    exact ⟨rfl, rfl⟩

end Value

end ImageMetadata.Tiff
