import ImageMetadata.Format
import ImageMetadata.Problem

/-!
# Events

While it works, a reader reports two sorts of events: notices, which warn the caller about the
content, and traces, which tell what the reader does. Both are values; their texts are made from
them.
-/

namespace ImageMetadata

open Tiff (DirectoryId)

/-- A warning about the content of a file or of the settings. -/
inductive Notice where
  /-- A problem after which the reader goes on. -/
  | integrity (problem : Problem)
  | undecodableText (chunkType : Bytes) (offset : Nat) (cause : Problem)
  | malformedXmp
  | ignoredSettings (path : String) (cause : Problem)

/-- The text of a warning. -/
def Notice.message : Notice → String
  | integrity problem => problem.message
  | undecodableText chunkType offset cause =>
    s!"Unable to decode the {Text.Latin1.text chunkType} chunk at offset {offset}:  {cause.message}"
  | malformedXmp => "Unable to parse the XMP packet:  <xml error>"
  | ignoredSettings path cause => s!"Ignoring the [parse] section of {path}:  {cause.message}"

/-- A step of a reader. -/
inductive Trace where
  | detected (format : Format)
  | directoryRead (id : DirectoryId) (position entries : Nat)
  | nextIgnored (id : DirectoryId)
  | nextOutside (id : DirectoryId)
  | endBeforeMarker
  | startOfScan (offset : Nat)
  | segmentOutside (marker : Jpeg.Marker) (offset : Nat)
  | resynchronized (skipped offset : Nat)
  | segmentSkipped (marker : Jpeg.Marker) (offset length : Nat)
  | exifSegment (number offset size : Nat)
  | extraXmpSegment (offset : Nat)
  | unrecognizedApp1 (offset : Nat)
  | noExif
  | unknownChunk (type : Bytes)
  | trailingBytes (count : Nat)
  | duplicateRiffChunk (fourcc : Bytes) (offset : Nat)
  | riffChunkRetained (fourcc : Bytes) (offset : Nat)
  | riffChunkSkipped (fourcc : Bytes) (offset : Nat)
  | exifIdentifierStripped
  | mediaDataSkipped (offset : Nat)
  | unrecognizedBox (id : Bytes) (offset : Nat)
  | noExifItem

namespace Trace

/-- The part of the library that reports a step. -/
def source : Trace → String
  | detected _ => "picmeta.reader"
  | directoryRead .. | nextIgnored _ | nextOutside _ => "picmeta.tiff"
  | endBeforeMarker | startOfScan _ | segmentOutside .. | resynchronized .. | segmentSkipped ..
  | exifSegment .. | extraXmpSegment _ | unrecognizedApp1 _ | noExif => "picmeta.jpeg"
  | unknownChunk _ | trailingBytes _ => "picmeta.png"
  | duplicateRiffChunk .. | riffChunkRetained .. | riffChunkSkipped .. | exifIdentifierStripped =>
    "picmeta.webp"
  | mediaDataSkipped _ | unrecognizedBox .. | noExifItem => "picmeta.heif"

/-- The importance of a step. -/
def level : Trace → String
  | unrecognizedApp1 _ | noExif | noExifItem => "INFO"
  | duplicateRiffChunk .. => "WARNING"
  | _ => "DEBUG"

/-- The text of a step. -/
def message : Trace → String
  | detected format => s!"Detected {format.name} format"
  | directoryRead id position entries =>
    s!"{id.name} directory @ {position}:  {entries} entries"
  | nextIgnored id => s!"Ignoring the next pointer of the {id.name} directory."
  | nextOutside id =>
    s!"No next pointer after the {id.name} directory, the buffer ends first."
  | endBeforeMarker => "The stream ended before an EOI marker."
  | startOfScan offset => s!"SOS marker at offset {offset}"
  | segmentOutside marker offset =>
    s!"The segment for marker {marker.hex} runs past the end of the stream at offset {offset}."
  | resynchronized skipped offset =>
    s!"Skipped {skipped} bytes before the marker at offset {offset}."
  | segmentSkipped marker offset length =>
    s!"Skipping {marker.label} segment at offset {offset}, {length} bytes"
  | exifSegment number offset size =>
    s!"APP1 Exif segment #{number} at offset {offset}, {size} bytes"
  | extraXmpSegment offset => s!"Ignoring extra XMP segment at offset {offset}"
  | unrecognizedApp1 offset => s!"Unrecognized APP1 segment at offset {offset}"
  | noExif => "No Exif metadata found."
  | unknownChunk type => s!"Skipping unknown chunk type {Text.Quoted.bytes type}"
  | trailingBytes count => s!"{count} bytes after the IEND chunk ignored."
  | duplicateRiffChunk fourcc offset =>
    s!"Duplicate {Text.Quoted.bytes fourcc} chunk at offset {offset}"
  | riffChunkRetained fourcc offset =>
    s!"{Text.Quoted.bytes fourcc} chunk at offset {offset} retained"
  | riffChunkSkipped fourcc offset =>
    s!"{Text.Quoted.bytes fourcc} chunk at offset {offset} skipped"
  | exifIdentifierStripped => "Stripping Exif identifier from EXIF chunk"
  | mediaDataSkipped offset => s!"Skipping mdat box at offset {offset}"
  | unrecognizedBox id offset => s!"Unrecognized box ({Text.Quoted.bytes id}) at offset {offset}."
  | noExifItem => "No Exif item found."

end Trace

/-- A notice or a trace. -/
inductive Event where
  | notice (n : Notice)
  | trace (t : Trace)

end ImageMetadata
