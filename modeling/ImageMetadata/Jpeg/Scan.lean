import ImageMetadata.Identifier
import ImageMetadata.Outcome

/-!
# Marker streams

A JPEG stream is searched for segments up to the start of scan, the end of image, or the end of the
bytes. Bytes before a marker are passed over. A segment has to be complete to be collected; an
incomplete one ends the search, and one with an impossible length is passed over.
-/

namespace ImageMetadata.Jpeg

/-- A segment with its length, which counts the two bytes that store it. Only the payload of an APP1
segment is kept. -/
structure Segment where
  marker : Marker
  /-- The position of the byte FF before the marker. -/
  offset : Nat
  length : Nat
  payload : Option Bytes
  deriving DecidableEq, Repr

/-- What a search has found so far. -/
structure Scan where
  segments : List Segment
  /-- The payloads of the Exif segments without their identifiers, joined. -/
  exif : Bytes
  exifCount : Nat
  /-- The payload of the first XMP segment without its identifier. -/
  xmp : Option Bytes
  position : Nat
  /-- Whether the search came to its end. -/
  done : Bool

/-- A marker with the number of bytes that were passed over before it. -/
structure Found where
  marker : Marker
  skipped : Nat
  rest : Bytes

/-- Finds the next marker, before or after a byte FF. Further bytes FF are fill; FF and a zero is
data and no marker. -/
def next? : Bool → Nat → Bytes → Option Found
  | _, _, [] => none
  | false, skipped, b :: rest =>
    if b = 0xFF then next? true skipped rest else next? false (skipped + 1) rest
  | true, skipped, b :: rest =>
    if b = 0xFF then next? true skipped rest
    else if b = 0 then next? false (skipped + 2) rest
    else some ⟨b, skipped, rest⟩

theorem next?_length {filling : Bool} {skipped : Nat} {bytes : Bytes} {found : Found}
    (h : next? filling skipped bytes = some found) : found.rest.length < bytes.length := by
  fun_induction next? filling skipped bytes <;> simp_all <;> try omega
  subst h; simp

namespace Scan

/-- Nothing found yet. -/
def start : Scan := ⟨[], [], 0, none, 0, false⟩

/-- The TIFF stream of the Exif segments, once the search came to its end and if there are any. -/
def exif? (s : Scan) : Option Bytes := if s.done ∧ 0 < s.exifCount then some s.exif else none

/-- Moves to a position. -/
def moveTo (position : Nat) : Action Scan Unit :=
  Action.update fun s => { s with position := position }

/-- Ends the search. -/
def finish : Action Scan Unit := Action.update fun s => { s with done := true }

/-- Adds a segment to those found. -/
def addSegment (segment : Segment) : Action Scan Unit :=
  Action.update fun s => { s with segments := s.segments ++ [segment] }

/-- Uses the payload of an APP1 segment. -/
def usePayload (offset : Nat) (payload : Bytes) : Action Scan Unit := do
  let s ← Action.state
  match payload.after? exifIdentifier, payload.after? xmpIdentifier with
  | some exif, _ =>
    Action.update fun s => { s with exif := s.exif ++ exif, exifCount := s.exifCount + 1 }
    Outcome.trace (.exifSegment (s.exifCount + 1) offset exif.length)
  | none, some xmp =>
    match s.xmp with
    | none => Action.update fun s => { s with xmp := some xmp }
    | some _ => Outcome.trace (.extraXmpSegment offset)
  | none, none => Outcome.trace (.unrecognizedApp1 offset)

/-- What is left to search after some bytes were used; nothing if the search ends there. -/
abbrev Left (bytes : Bytes) := Option { rest : Bytes // rest.length ≤ bytes.length }

/-- What comes after the two bytes of a length field, or after a part of that, is not longer. -/
theorem length_drop_le_of_field (a b : UInt8) (body : Bytes) (count : Nat) :
    (body.drop count).length ≤ (a :: b :: body).length := by
  rw [List.length_drop, List.length_cons, List.length_cons]
  omega

/-- Takes a segment whose length field stands at a position, before the bytes that are left. -/
def takeSegment (strict : Bool) (marker : Marker) (position : Nat) :
    (after : Bytes) → Action Scan (Left after)
  | a :: b :: body => do
    let length := ByteOrder.big.unsigned [a, b]
    let kept := marker == Marker.app1
    moveTo (position + 2)
    if length < 2 then
      Outcome.flag strict (.segmentLength marker (position - 2) length)
      return some ⟨body, length_drop_le_of_field a b body 0⟩
    else
      Action.when (!kept) (Outcome.trace (.segmentSkipped marker (position - 2) length))
      if body.length < length - 2 then
        Outcome.trace (.segmentOutside marker (position + 2))
        return none
      else
        let payload := body.take (length - 2)
        moveTo (position + length)
        addSegment ⟨marker, position - 2, length, if kept then some payload else none⟩
        Action.when kept (usePayload (position - 2) payload)
        return some ⟨body.drop (length - 2), length_drop_le_of_field a b body (length - 2)⟩
  | _ => do
    Outcome.trace (.segmentOutside marker position)
    return none

/-- Does what a marker asks for, in a stream of `size` bytes. -/
def step (strict : Bool) (size : Nat) (found : Found) : Action Scan (Left found.rest) := do
  let position := size - found.rest.length
  moveTo position
  Action.when (0 < found.skipped) (Outcome.trace (.resynchronized found.skipped (position - 2)))
  if found.marker.standsAlone then return some ⟨found.rest, Nat.le_refl _⟩
  else if found.marker = Marker.sos then
    Outcome.trace (.startOfScan (position - 2))
    return none
  else if found.marker = Marker.eoi then return none
  else takeSegment strict found.marker position found.rest

/-- Searches the rest of a stream of `size` bytes. -/
def search (strict : Bool) (size : Nat) (rest : Bytes) : Action Scan Unit :=
  match _h : next? false 0 rest with
  | none => do
    moveTo size
    Outcome.trace .endBeforeMarker
    finish
  | some found => do
    match ← step strict size found with
    | none => finish
    | some left => search strict size left.val
termination_by rest.length
decreasing_by
  have shorter := next?_length _h
  have := left.property
  omega

theorem search_of_none {strict : Bool} {size : Nat} {rest : Bytes}
    (h : next? false 0 rest = none) :
    search strict size rest = (do moveTo size; Outcome.trace .endBeforeMarker; finish) := by
  rw [search]
  split <;> simp_all

theorem search_of_some {strict : Bool} {size : Nat} {rest : Bytes} {found : Found}
    (h : next? false 0 rest = some found) :
    search strict size rest = (do
      match ← step strict size found with
      | none => finish
      | some left => search strict size left.val) := by
  rw [search]
  split
  · simp_all
  · next other h' =>
    obtain rfl : found = other := by simpa [h] using h'
    rfl

end Scan

/-- Searches a JPEG stream. -/
def scan (bytes : Bytes) (strict : Bool) : Action Scan Unit := do
  if bytes.take 2 = [0xFF, 0xD8] then Scan.search strict bytes.length bytes
  else Action.fail .noStartOfImage

end ImageMetadata.Jpeg
