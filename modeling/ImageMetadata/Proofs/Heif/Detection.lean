import ImageMetadata.Proofs.Heif.Contents
import ImageMetadata.Proofs.Heif.Reads
import ImageMetadata.Reader
import Mathlib.Algebra.Group.Nat.Defs

/-!
# Detecting HEIF files

The signature of a HEIF file is in its first twelve bytes, where the major brand stands if the header
of the file type box is short. The reader also knows the long header, and the compatible brands. So a
file that the reader accepts is detected if its major brand is one of the family and stands after a
short header, and no other format is ever mistaken for it.
-/

namespace ImageMetadata

namespace ByteOrder

theorem littleValue_append (l r : Bytes) :
    littleValue (l ++ r) = littleValue l + Bytes.capacity l.length * littleValue r := by
  induction l with
  | nil => simp [littleValue, Bytes.capacity]
  | cons b rest ih =>
      rw [List.cons_append, littleValue, littleValue, ih, List.length_cons, Bytes.capacity_succ,
        Nat.mul_add, Nat.add_assoc, Nat.mul_comm _ 256, Nat.mul_assoc]

/-- The first byte of a number is zero if the other bytes have room for the number. -/
theorem eq_zero_of_unsigned_lt {b : UInt8} {rest : Bytes}
    (small : big.unsigned (b :: rest) < Bytes.capacity rest.length) : b = 0 := by
  have high : Bytes.capacity rest.length * b.toNat < Bytes.capacity rest.length * 1 := by
    rw [unsigned, List.reverse_cons, littleValue_append, List.length_reverse] at small
    have digit : littleValue [b] = b.toNat := by simp [littleValue]
    rw [digit] at small
    omega
  have digit : b.toNat = 0 := Nat.lt_one_iff.1 (Nat.lt_of_mul_lt_mul_left high)
  exact UInt8.toNat_inj.1 digit

end ByteOrder

namespace Bytes

variable {bytes : Bytes}

/-- A number in some bytes starts with a zero if one byte less has room for it. -/
theorem zero_of_unsigned_lt {offset : Nat} (width : Nat)
    (inside : offset + (width + 1) ≤ bytes.length)
    (small : ByteOrder.big.unsigned (bytes.slice offset (width + 1)) < capacity width) :
    bytes[offset]? = some 0 := by
  have size := slice_length_of_le inside
  cases stored : bytes.slice offset (width + 1) with
  | nil => simp [stored] at size
  | cons b rest =>
      rw [stored] at small size
      obtain rfl : rest.length = width := by simpa using size
      have first := congrArg (·[0]?) stored
      simpa [slice, ByteOrder.eq_zero_of_unsigned_lt small] using first

/-- Bytes that start with a zero do not start with anything else. -/
theorem take_ne_of_zero (zero : bytes[0]? = some 0) {b : UInt8} (other : b ≠ 0) (n : Nat)
    (rest : Bytes) : bytes.take (n + 1) ≠ b :: rest := by
  intro same
  have first := congrArg (·[0]?) same
  simp only [List.getElem?_take, zero] at first
  simp at first
  exact other first.symm

end Bytes

namespace Format

/-- No other signature starts with a zero. -/
theorem detect_of_zero {bytes : Bytes} (zero : bytes[0]? = some 0) :
    detect bytes =
      if bytes.slice 4 4 = Bytes.ascii "ftyp" ∧ bytes.slice 8 4 ∈ Heif.brands then .ok .heif
      else .error (.signature (bytes.take 12)) := by
  have head : (bytes.take 12)[0]? = some 0 := by simp [zero]
  have jpeg : (bytes.take 12).take 2 ≠ Jpeg.signature :=
    Bytes.take_ne_of_zero head (by decide) 1 _
  have png : (bytes.take 12).take 8 ≠ Png.signature :=
    Bytes.take_ne_of_zero head (by decide) 7 _
  have riff : (bytes.take 12).take 4 ≠ Bytes.ascii "RIFF" :=
    Bytes.take_ne_of_zero head (by decide) 3 _
  have tiff : (bytes.take 12).take 4 ∉ Tiff.signatures := by
    simp only [Tiff.signatures, List.mem_cons, List.not_mem_nil, or_false, not_or]
    exact ⟨Bytes.take_ne_of_zero head (by decide) 3 _, Bytes.take_ne_of_zero head (by decide) 3 _,
      Bytes.take_ne_of_zero head (by decide) 3 _, Bytes.take_ne_of_zero head (by decide) 3 _⟩
  have type : Bytes.slice (bytes.take 12) 4 4 = bytes.slice 4 4 := by
    simp only [Bytes.slice, List.drop_take, List.take_take]
    rfl
  have brand : Bytes.slice (bytes.take 12) 8 4 = bytes.slice 8 4 := by
    simp only [Bytes.slice, List.drop_take, List.take_take]
    rfl
  unfold detect ofHead?
  dsimp only
  rw [if_neg jpeg, if_neg png, if_neg (fun h => riff h.1), if_neg tiff, type, brand]
  by_cases found : bytes.slice 4 4 = Bytes.ascii "ftyp" ∧ bytes.slice 8 4 ∈ Heif.brands
  · rw [if_pos found, if_pos found]
  · rw [if_neg found, if_neg found]

end Format

namespace Heif

variable {bytes : Bytes} {strict : Bool} {limit : Int} {depth start stop : Nat}

/-- The first box that is found starts with a header, and has contents. -/
theorem Reads.head {events : List Event} {first : Box} {rest : List Box}
    (reads : Reads bytes strict limit depth start stop events (first :: rest)) :
    ∃ (h : BoxHeader start stop) (inner : List Event) (used : Nat),
      Starts bytes strict start stop h inner first.content used ∧
        h.box first.content first.children = first := by
  cases reads with
  | leaf head _ _ | closed head _ _ _ _ | opened head _ _ _ _ => exact ⟨_, _, _, head, rfl⟩

/-- The major brand of a file type box is the first thing in it. -/
theorem major_eq_of_decode {payload major : Bytes} {minor : Nat} {compatible : List Bytes}
    {c : Cursor} (decoded : Content.decodeFileType.decode payload =
      .ok (.fileType major minor compatible, c)) :
    4 ≤ payload.length ∧ payload.take 4 = major := by
  obtain ⟨_, _, first, run⟩ := Cursor.ok_of_run_bind (Reading.run_of_decode decoded)
  obtain ⟨_, _, _, run⟩ := Cursor.ok_of_run_bind run
  obtain ⟨_, _, _, run⟩ := Cursor.ok_of_run_bind run
  obtain ⟨_, _, _, ⟨⟩⟩ := Cursor.ok_of_run_bind run
  have inside := (Cursor.of_run_read first).1
  cases (Cursor.run_read inside).symm.trans first
  exact ⟨by simpa [Cursor.ofBytes, Cursor.size] using inside, rfl⟩

/-- The major brand stands after the header of a file type box. -/
theorem Starts.major_eq {h : BoxHeader start stop} {events : List Event} {major : Bytes}
    {minor used : Nat} {compatible : List Bytes}
    (head : Starts bytes strict start stop h events (.fileType major minor compatible) used)
    (type : h.id = Bytes.ascii "ftyp") : bytes.slice (start + h.size) 4 = major := by
  have reading := readContent_eq_iff.1 head.content_eq
  generalize content_eq : Content.fileType major minor compatible = content at reading
  cases reading with
  | media _ | unrecognized _ _ | unreadable _ _ _ _ => cases content_eq
  | decoded ruled decoded =>
      subst content_eq
      rw [type] at ruled
      obtain rfl : Content.decodeFileType = _ := Option.some.inj ruled
      obtain ⟨long, first⟩ := major_eq_of_decode decoded
      rw [BoxHeader.payload, Bytes.slice_length] at long
      rw [BoxHeader.payload, Bytes.take_slice, Nat.min_eq_left (by omega)] at first
      exact first

/-- A length that is stored in four bytes, or in eight, starts with a zero if it is small. -/
theorem zero_of_readHeader {h : BoxHeader 0 bytes.length} (small : bytes.length < 2 ^ 24)
    (room : 8 ≤ bytes.length) (read : readHeader bytes 0 bytes.length = .ok h) :
    bytes[0]? = some 0 ∧ (h.size = 8 ∨ h.size = 16 ∧ bytes[8]? = some 0) := by
  obtain ⟨_, size, length⟩ := readHeader_eq_iff.1 read
  have inside := h.length_le
  have within := h.size_le
  have short_lt : shortLength bytes 0 < 2 ^ 24 := by
    unfold boxLength at length
    split at length
    · omega
    split at length <;> omega
  refine ⟨Bytes.zero_of_unsigned_lt 3 (by omega) short_lt, ?_⟩
  by_cases long : shortLength bytes 0 = 1
  · right
    rw [boxLength, if_neg (by omega), if_pos long] at length
    rw [headerSize, if_pos long] at size
    have room7 : 2 ^ 24 ≤ Bytes.capacity 7 := by decide
    have long_lt : ByteOrder.big.unsigned (bytes.slice (0 + 8) 8) < Bytes.capacity 7 := by omega
    exact ⟨size.symm, Bytes.zero_of_unsigned_lt 7 (by omega) long_lt⟩
  · left
    rw [headerSize, if_neg long] at size
    exact size.symm

/-- Bytes that start with a zero are no brand. -/
theorem slice_not_mem_brands {offset : Nat} (zero : bytes[offset]? = some 0) :
    bytes.slice offset 4 ∉ brands := by
  intro member
  have first : (bytes.slice offset 4)[0]? = some 0 := by simp [Bytes.slice, zero]
  have other : ∀ brand ∈ brands, brand[0]? ≠ some 0 := by decide
  exact other _ member first

/-- The first box of a file shows a brand of the family: its header is short, so that the major brand
stands among the first twelve bytes, and the major brand is one of the family. -/
def Box.ShowsBrand (first : Box) (major : Bytes) : Prop :=
  first.headerSize = 8 ∧ major ∈ brands

/-- A file that is accepted is one that is read, and its first box lists a brand of the family. -/
theorem isRead_of_metadata {m : Metadata} (read : (metadata bytes ⟨true, limit⟩).result = .ok m) :
    ∃ inner last boxes, Session.IsRead bytes true limit inner last boxes := by
  rw [metadata_eq] at read
  obtain ⟨⟨⟩, loaded, _⟩ := Outcome.ok_of_bind read
  rcases run : (Session.readAll limit).run (Session.start bytes true) with ⟨⟨events, result⟩, s⟩
  rw [run] at loaded
  obtain rfl : result = .ok () := loaded
  obtain ⟨inner, last, boxes, known, _⟩ := Session.run_readAll_iff.1 run
  exact ⟨inner, last, boxes, known⟩

/-- The first box shows a brand of the family if a brand of the family stands where signatures have
one. -/
theorem Starts.showsBrand_iff {first : Box} {h : BoxHeader 0 bytes.length} {events : List Event}
    {major : Bytes} {minor used : Nat} {compatible : List Bytes} (small : bytes.length < 2 ^ 24)
    (head : Starts bytes strict 0 bytes.length h events (.fileType major minor compatible) used)
    (type : h.id = Bytes.ascii "ftyp") (size : first.headerSize = h.size) :
    first.ShowsBrand major ↔ bytes.slice 8 4 ∈ brands := by
  have major_eq := head.major_eq type
  have room := head.room
  unfold Box.ShowsBrand
  rw [size]
  rcases (zero_of_readHeader small (by omega) head.header_eq).2 with short | ⟨long, zero⟩
  · rw [short, Nat.zero_add] at major_eq
    simp [short, major_eq]
  · simp [long, slice_not_mem_brands zero]

end Heif

/-- A file is read in the format that is detected. -/
theorem Metadata.result_ofBytes (bytes : Bytes) (policy : Policy) :
    (ofBytes bytes policy).result =
      (Format.detect bytes).bind fun format => (format.metadata bytes policy).result := by
  unfold ofBytes
  cases Format.detect bytes with
  | error p => rfl
  | ok format =>
      rw [Outcome.ofExcept_ok, pure_bind, Outcome.bind_of_ok _ rfl]
      rfl

open Heif in
/-- A small file that the strict reader accepts starts with a file type box, which lists a brand of
the family. If the box shows the brand then the file is detected, and is read into the same
metadata; otherwise no format at all is detected. -/
theorem Metadata.ofBytes_of_heif {bytes : Bytes} {limit : Int} {m : Metadata}
    (small : bytes.length < 2 ^ 24)
    (read : (Heif.metadata bytes ⟨true, limit⟩).result = .ok m) :
    ∃ first rest major minor compatible,
      (readBoxes bytes true limit 0 0 bytes.length).result = .ok (first :: rest) ∧
      first.id = Bytes.ascii "ftyp" ∧ first.content = .fileType major minor compatible ∧
      Session.hasBrand (major :: compatible) = true ∧
      (first.ShowsBrand major → Format.detect bytes = .ok .heif ∧
        (Metadata.ofBytes bytes ⟨true, limit⟩).result = .ok m) ∧
      (¬ first.ShowsBrand major →
        Format.detect bytes = .error (.signature (bytes.take 12)) ∧
          (Metadata.ofBytes bytes ⟨true, limit⟩).result = .error (.signature (bytes.take 12))) := by
  obtain ⟨inner, last, boxes, room, headed, reads, first, rest, major, minor, compatible, rfl,
    content, checked⟩ := isRead_of_metadata read
  obtain ⟨h, events, used, head, box⟩ := reads.head
  have type : h.id = Bytes.ascii "ftyp" := by
    rw [← headed]
    exact (readHeader_eq_iff.1 head.header_eq).1.symm
  have size : first.headerSize = h.size := by rw [← box]; rfl
  have zero := (zero_of_readHeader small room head.header_eq).1
  rw [content] at head
  have shows := head.showsBrand_iff small type size
  have detected := Format.detect_of_zero zero
  simp only [headed, true_and] at detected
  have listed : Session.hasBrand (major :: compatible) = true :=
    Outcome.result_check_iff.1 (congrArg Outcome.result checked) rfl
  refine ⟨first, rest, major, minor, compatible, by rw [reads.readBoxes_eq],
    by rw [← box]; exact type, content, listed, fun shown => ?_, fun hidden => ?_⟩
  · rw [if_pos (shows.1 shown)] at detected
    refine ⟨detected, ?_⟩
    rw [result_ofBytes, detected]
    exact read
  · rw [if_neg (mt shows.2 hidden)] at detected
    refine ⟨detected, ?_⟩
    rw [result_ofBytes, detected]
    rfl

namespace Heif

/-- A container without any items. -/
def emptyItems : Bytes :=
  [0, 0, 0, 42] ++ Bytes.ascii "meta" ++ [0, 0, 0, 0] ++
    [0, 0, 0, 14] ++ Bytes.ascii "iinf" ++ [0, 0, 0, 0, 0, 0] ++
    [0, 0, 0, 16] ++ Bytes.ascii "iloc" ++ [0, 0, 0, 0, 0x44, 0, 0, 0]

/-- A file whose major brand is one of the family. -/
def shownFile : Bytes :=
  [0, 0, 0, 20] ++ Bytes.ascii "ftypheic" ++ [0, 0, 0, 0] ++ Bytes.ascii "mp42" ++ emptyItems

/-- A file with a compatible brand of the family, but with a foreign major brand. -/
def compatibleFile : Bytes :=
  [0, 0, 0, 20] ++ Bytes.ascii "ftypmp42" ++ [0, 0, 0, 0] ++ Bytes.ascii "heic" ++ emptyItems

/-- A file whose major brand, which is one of the family, stands after a long header. -/
def longFile : Bytes :=
  [0, 0, 0, 1] ++ Bytes.ascii "ftyp" ++ [0, 0, 0, 0, 0, 0, 0, 24] ++ Bytes.ascii "heic" ++
    [0, 0, 0, 0] ++ emptyItems

theorem exists_metadata_of_isOk {bytes : Bytes} {policy : Policy}
    (accepted : (metadata bytes policy).result.isOk = true) :
    ∃ m, (metadata bytes policy).result = .ok m := by
  cases result : (metadata bytes policy).result with
  | error p => simp [result, Except.isOk, Except.toBool] at accepted
  | ok m => exact ⟨m, rfl⟩

/-- A small file that the strict reader accepts, although no format is detected. -/
structure IsOverlooked (bytes : Bytes) : Prop where
  small : bytes.length < 2 ^ 24
  accepted : ∃ m, (metadata bytes ⟨true, 32⟩).result = .ok m
  undetected : Format.detect bytes = .error (.signature (bytes.take 12))
  unread : (Metadata.ofBytes bytes ⟨true, 32⟩).result = .error (.signature (bytes.take 12))

end Heif

open Heif in
/-- The file that shows its brand is detected, and is read into the same metadata. -/
theorem Metadata.ofBytes_of_heif_shown :
    shownFile.length < 2 ^ 24 ∧ ∃ m, (Heif.metadata shownFile ⟨true, 32⟩).result = .ok m ∧
      Format.detect shownFile = .ok .heif ∧
      (Metadata.ofBytes shownFile ⟨true, 32⟩).result = .ok m := by
  have small : shownFile.length < 2 ^ 24 := by decide
  obtain ⟨m, read⟩ : ∃ m, (Heif.metadata shownFile ⟨true, 32⟩).result = .ok m :=
    exists_metadata_of_isOk (by decide +kernel)
  obtain ⟨first, rest, major, minor, compatible, boxes, _, content, _, detected, _⟩ :=
    ofBytes_of_heif small read
  have found : (readBoxes shownFile true 32 0 0 shownFile.length).result = .ok
      [⟨Bytes.ascii "ftyp", 0, 20, 8, .fileType (Bytes.ascii "heic") 0 [Bytes.ascii "mp42"], []⟩,
        ⟨Bytes.ascii "meta", 20, 42, 8, .metaBox ⟨0, 0⟩,
          [⟨Bytes.ascii "iinf", 32, 14, 8, .itemInformation ⟨0, 0⟩ 0, []⟩,
            ⟨Bytes.ascii "iloc", 46, 16, 8, .itemLocation ⟨0, 0⟩ [], []⟩]⟩] :=
    Except.toOption_eq_some_iff.1 (by decide +kernel)
  cases boxes.symm.trans found
  cases content
  exact ⟨small, m, read, detected ⟨rfl, by decide⟩⟩

/-- The strict reader accepts files that are not detected: one that is in the family by a compatible
brand only, and one whose major brand is further back than signatures are looked for. -/
theorem Format.overlooks_heif :
    Heif.IsOverlooked Heif.compatibleFile ∧ Heif.IsOverlooked Heif.longFile := by
  constructor
  · exact
      { small := by decide
        accepted := Heif.exists_metadata_of_isOk (by decide +kernel)
        undetected := by rfl
        unread := by rfl }
  · exact
      { small := by decide
        accepted := Heif.exists_metadata_of_isOk (by decide +kernel)
        undetected := by rfl
        unread := by rfl }

end ImageMetadata
