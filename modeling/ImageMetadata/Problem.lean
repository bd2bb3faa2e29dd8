import ImageMetadata.Jpeg.Marker
import ImageMetadata.Literal
import ImageMetadata.Text.Latin1
import ImageMetadata.Text.IntegerLiteral
import ImageMetadata.Tiff.DirectoryId
import ImageMetadata.Tiff.FieldType

/-!
# Problems

Whatever can be wrong with a file, an argument or the settings is one cause. A cause has a kind,
which decides who handles it, and a message. Causes of a structural kind are about the file; a
reader that goes on after one reports it as an integrity warning.
-/

namespace ImageMetadata

open Tiff (DirectoryId FieldType)

/-- What is wrong. -/
inductive Problem where
  -- reading bytes
  | seekOutside (position : Int) (size : Nat)
  | readOutside (count position : Int) (size : Nat)
  | negativeSkip (count : Int)
  | fieldSize (count : Int)
  | byteOrderSign (given : Literal)
  | alreadyMarked (position : Nat)
  | notMarked
  -- recognizing the container
  | signature (head : Bytes)
  | unreadableFile (path : String)
  -- TIFF streams
  | tiffHeaderOutside (base : Int)
  | byteOrderMark (found : Bytes)
  | bigHeader (offsetSize reserved : Nat)
  | tiffVersion (version : Nat)
  | firstDirectoryOutside (offset size : Nat)
  | revisited (offset : Nat)
  | directoryTooDeep (offset : Nat) (limit : Int)
  | tooManySubIfds (offset : Nat)
  | secondDirectory (id : DirectoryId) (offset : Nat)
  | unreadableDirectory (id : DirectoryId) (offset : Nat) (cause : Problem)
  | chainTooLong (offset : Nat)
  | unknownTag (tag : Nat) (id : DirectoryId)
  | fieldTypeCode (code tag : Nat) (name : String)
  | valueOutside (size tag : Nat) (name : String) (offset : Nat)
  | pointerType (name : String) (type : FieldType)
  | unknownFieldType (code : Int)
  | valueSize
  -- JPEG
  | noStartOfImage
  | segmentLength (marker : Jpeg.Marker) (offset length : Nat)
  -- PNG
  | noPngSignature
  | chunksEnd (size : Nat)
  | chunkType (type : Bytes) (offset : Nat)
  | chunkLength (type : Bytes) (offset length : Nat)
  | firstChunk (type : Bytes)
  | repeatedChunk (type : Bytes) (offset : Nat)
  | crcMismatch (type : Bytes) (offset stored computed : Nat)
  -- PNG texts
  | noKeywordEnd
  | keywordLength (length : Nat)
  | noCompressionMethod
  | compressionMethod (method : Nat)
  | noCompressionFlag
  | compressionFlag (flag : Nat)
  | noLanguageEnd
  | noTranslatedKeywordEnd
  | undecodableText
  | undecompressable
  -- WebP
  | noRiffHeader
  | riffForm
  | declaredFileSize (declared actual : Nat)
  | riffChunkHeader (left offset : Nat)
  | riffChunkSize (fourcc : Bytes) (offset size : Nat)
  | firstRiffChunk (fourcc : Bytes)
  -- HEIF
  | noFileTypeBox
  | foreignBrands (major : Bytes) (compatible : List Bytes)
  | extraBytes (count offset : Nat)
  | boxHeader (id : Bytes) (offset : Nat)
  | boxSmallerThanHeader (id : Bytes) (offset length : Nat)
  | boxOutside (id : Bytes) (offset length limit : Nat)
  | unreadableBox (id : Bytes) (offset : Nat) (cause : Problem)
  | boxTooDeep (id : Bytes) (offset : Nat) (limit : Int)
  | locationVersion (version : Nat)
  | locationFieldSizes (offset length base index : Nat)
  | referenceSize (type : Bytes) (size : Nat)
  | noFirstBox
  | boxWithout (id : Bytes) (field : String)
  | uuidSize (length : Nat)
  | noItemInformation
  | noItemLocation
  | unlocatedItem (item : Int)
  | noItemData (item : Int)
  | noExtents (item : Int)
  | constructionMethod (item : Int) (method : Nat)
  | extentOutside (index : Nat) (item : Int) (length position : Nat)
  | extentTooShort (item : Int) (length : Nat)
  | exifHeaderOffset (offset : Nat) (item : Int)
  | unreadableXmp (cause : Problem)
  -- the collected metadata
  | frozen
  | duplicateDirectory (id : DirectoryId) (offset : Nat)
  | noDirectoryName (name : String)
  | noEntry (key : String)
  -- options and settings
  | invalidOption (key : String)
  | missingOption (key : String)
  | depthOption (given : Literal)
  | notBoolean (value : String)
  | integerText (fault : Text.IntegerLiteral.Fault)
  | depthSetting (value : Int)
  | noSection
  | settingsSyntax
  | duplicateSection
  | duplicateSetting
  | interpolationSyntax
  | interpolationMissing
  | interpolationDepth

namespace Problem

/-- What a problem is about. -/
inductive Kind where
  /-- The bytes of a file break the rules of its format. -/
  | structural
  /-- A read would pass the end of the bytes. -/
  | truncated
  /-- The bytes do not start with the signature of the format. -/
  | notThisFormat
  | unreadableFile
  | value
  | runtime
  | key
  | unicode
  | decompression
  | packing
  | missingSectionHeader
  | parsing
  | duplicateSection
  | duplicateOption
  | interpolationSyntax
  | interpolationMissing
  | interpolationDepth
  deriving DecidableEq, Repr

/-- Whether the kind is about the bytes of a file. -/
def Kind.isStructural : Kind → Bool
  | structural | truncated | notThisFormat => true
  | _ => false

/-- What a problem is about. -/
def kind : Problem → Kind
  | seekOutside .. | readOutside .. | chunksEnd _ | chunkLength .. | riffChunkHeader .. =>
    .truncated
  | signature _ | noStartOfImage | noPngSignature | noRiffHeader | riffForm | noFileTypeBox =>
    .notThisFormat
  | unreadableFile _ => .unreadableFile
  | negativeSkip _ | fieldSize _ | byteOrderSign _ | uuidSize _ | noKeywordEnd | keywordLength _
  | noCompressionMethod | compressionMethod _ | noCompressionFlag | compressionFlag _
  | noLanguageEnd | noTranslatedKeywordEnd | depthOption _ | notBoolean _ | integerText _
  | depthSetting _ => .value
  | alreadyMarked _ | notMarked | noFirstBox | boxWithout .. | frozen => .runtime
  | unknownFieldType _ | noDirectoryName _ | noEntry _ | invalidOption _ | missingOption _ => .key
  | undecodableText => .unicode
  | undecompressable => .decompression
  | valueSize => .packing
  | noSection => .missingSectionHeader
  | settingsSyntax => .parsing
  | duplicateSection => .duplicateSection
  | duplicateSetting => .duplicateOption
  | interpolationSyntax => .interpolationSyntax
  | interpolationMissing => .interpolationMissing
  | interpolationDepth => .interpolationDepth
  | _ => .structural

/-- Whether a problem is about the bytes of a file. -/
def isStructural (p : Problem) : Bool := p.kind.isStructural

/-- Whether the kind says that bytes hold no text. -/
def Kind.isTextual : Kind → Bool
  | value | unicode | decompression => true
  | kind => kind.isStructural

/-- Whether a problem says that bytes hold no text. -/
def isTextual (p : Problem) : Bool := p.kind.isTextual

open Text (hexDigits)

/-- A 32-bit word after the sign of hexadecimal numbers. -/
private def hexWord (n : Nat) : String := String.ofList ('0' :: 'x' :: hexDigits 8 n)

/-- What is said about a problem. -/
def message : Problem → String
  | seekOutside position size =>
    s!"Cannot seek to offset {position}, the buffer is only {size} bytes long."
  | readOutside count position size =>
    s!"Attempted to read {count} bytes at offset {position}, but the buffer is only {size} " ++
      "bytes long."
  | negativeSkip count => s!"Cannot skip a negative number of bytes ({count})."
  | fieldSize count => s!"Unsupported integer field size ({count} bytes)."
  | byteOrderSign given => s!"Byte order must be '<' or '>', not {given.render}."
  | alreadyMarked position =>
    s!"The cursor is already marked at offset {position}; only one outstanding mark is allowed."
  | notMarked => "The cursor has not been marked."
  | signature head => s!"Unrecognized file signature {Text.Quoted.bytes head}."
  | unreadableFile path => s!"Unable to read {path}"
  | tiffHeaderOutside base => s!"No room for a TIFF header at offset {base}."
  | byteOrderMark found =>
    s!"The byte order indication in the TIFF header ({Text.Quoted.bytes found}) is invalid.  " ++
      "It should be either b'II' or b'MM'."
  | bigHeader offsetSize reserved =>
    s!"Invalid BigTIFF header:  the offset byte size is {offsetSize} and the reserved field is " ++
      s!"{reserved}."
  | tiffVersion version =>
    s!"Unrecognized TIFF version {version}, treating the stream as classic TIFF."
  | firstDirectoryOutside offset size =>
    s!"The offset to the first directory ({offset}) lies outside of the {size} byte TIFF stream."
  | revisited offset =>
    s!"A directory pointer refers back to offset {offset}, which has already been read.  It " ++
      "will not be followed."
  | directoryTooDeep offset limit =>
    s!"The directory at offset {offset} is nested more than {limit} levels deep and will not be " ++
      "read."
  | tooManySubIfds offset =>
    s!"Too many SubIFDs, the directory at offset {offset} will not be read."
  | secondDirectory id offset =>
    s!"A second {id.name} directory was found at offset {offset}.  It will not be read."
  | unreadableDirectory id offset cause =>
    s!"Unable to read the {id.name} directory at offset {offset}:  {cause.message}"
  | chainTooLong offset =>
    s!"Too many directories in the IFD chain, the directory at offset {offset} will not be read."
  | unknownTag tag id => s!"Unrecognized tag {tag} in the {id.name} directory, skipping it."
  | fieldTypeCode code tag name =>
    s!"Invalid TIFF field type {code} for tag {name} ({tag}), skipping it."
  | valueOutside size tag name offset =>
    s!"The {size} byte value of tag {name} ({tag}) at offset {offset} lies outside of the " ++
      "buffer, skipping it."
  | pointerType name type =>
    s!"The {name} pointer has field type {type.name}, which cannot hold an offset.  It will not " ++
      "be followed."
  | unknownFieldType code => toString code
  | valueSize => ""
  | noStartOfImage => "The stream does not start with a JPEG SOI marker."
  | segmentLength marker offset length =>
    s!"The segment for marker {Jpeg.Marker.hex marker} at offset {offset} has an invalid length " ++
      s!"({length})."
  | noPngSignature => "The stream lacks the PNG signature."
  | chunksEnd size => s!"The PNG stream ends at offset {size} before the IEND chunk."
  | chunkType type offset => s!"Invalid PNG chunk type {Text.Quoted.bytes type} at offset {offset}."
  | chunkLength type offset length =>
    s!"The {Text.Latin1.text type} chunk at offset {offset} declares a length of {length} " ++
      "bytes, which runs past the end of the stream."
  | firstChunk type => s!"The first chunk must be IHDR, but found {Text.Latin1.text type}."
  | repeatedChunk type offset =>
    s!"Multiple {Text.Latin1.text type} chunks are not allowed, the second one is at offset " ++
      s!"{offset}."
  | crcMismatch type offset stored computed =>
    s!"CRC mismatch in the {Text.Latin1.text type} chunk at offset {offset}:  stored " ++
      s!"{hexWord stored}, computed {hexWord computed}."
  | noKeywordEnd => "no null separator after the keyword"
  | keywordLength length => s!"invalid keyword length ({length})"
  | noCompressionMethod => "missing compression method"
  | compressionMethod method => s!"unsupported compression method ({method})"
  | noCompressionFlag => "missing compression flag or method"
  | compressionFlag flag => s!"invalid compression flag ({flag})"
  | noLanguageEnd => "no null separator after the language tag"
  | noTranslatedKeywordEnd => "no null separator after the translated keyword"
  | undecodableText => "<unicode error>"
  | undecompressable => "<zlib error>"
  | noRiffHeader => "The RIFF header was not found."
  | riffForm => "The RIFF form type is not WEBP."
  | declaredFileSize declared actual =>
    s!"The declared file size ({declared} bytes) exceeds the actual file length ({actual} bytes)."
  | riffChunkHeader left offset =>
    s!"Only {left} bytes left at offset {offset}, not enough for a chunk header."
  | riffChunkSize fourcc offset size =>
    s!"The {Text.Quoted.bytes fourcc} chunk at offset {offset} declares a size of {size} bytes, " ++
      "more than the rest of the file."
  | firstRiffChunk fourcc =>
    "The first chunk must be either VP8, VP8L, or VP8X, but found " ++
      s!"{Text.Quoted.bytes fourcc}."
  | noFileTypeBox => "The first box of a HEIF file must be a file type box."
  | foreignBrands major compatible =>
    s!"The major brand {Text.Quoted.bytes major} and compatible brands " ++
      s!"{Text.Quoted.byteList compatible} are not HEIF brands."
  | extraBytes count offset => s!"{count} extra bytes at offset {offset} ignored."
  | boxHeader id offset => s!"Truncated {Text.Quoted.bytes id} box header at offset {offset}."
  | boxSmallerThanHeader id offset length =>
    s!"The {Text.Quoted.bytes id} box at offset {offset} has a length ({length}) smaller than " ++
      "its header."
  | boxOutside id offset length limit =>
    s!"The {Text.Quoted.bytes id} box at offset {offset} has a length ({length}) reaching past " ++
      s!"the end of its enclosing box at offset {limit}."
  | unreadableBox id offset cause =>
    s!"Unable to parse the {Text.Quoted.bytes id} box at offset {offset}:  {cause.message}"
  | boxTooDeep id offset limit =>
    s!"The contents of the {Text.Quoted.bytes id} box at offset {offset} are nested more than " ++
      s!"{limit} levels deep and are ignored."
  | locationVersion version => s!"Unsupported iloc box version ({version})."
  | locationFieldSizes offset length base index =>
    s!"Invalid iloc field sizes ({offset}, {length}, {base}, {index}), must be 0, 4, or 8."
  | referenceSize type size => s!"Invalid {Text.Quoted.bytes type} reference box size ({size})."
  | noFirstBox => "There is no first box."
  | boxWithout id field => s!"The {Text.Quoted.bytes id} box has no {field}."
  | uuidSize length => s!"A UUID has 16 bytes, not {length}."
  | noItemInformation => "The file has no item information box."
  | noItemLocation => "The file has no item location box."
  | unlocatedItem item => s!"The item location box has no entry for item {item}."
  | noItemData item => s!"Item {item} refers to an item data box, but there is none."
  | noExtents item => s!"Item {item} has no extents."
  | constructionMethod item method =>
    s!"Item {item} uses construction method {method}, which is not supported."
  | extentOutside index item length position =>
    s!"Extent {index} of item {item} ({length} bytes at offset {position}) reaches past the end " ++
      "of its data."
  | extentTooShort item length =>
    s!"The first extent of item {item} is only {length} bytes long, too short to hold a TIFF " ++
      "header offset."
  | exifHeaderOffset offset item =>
    s!"The TIFF header offset ({offset}) of item {item} lies outside of its first extent."
  | unreadableXmp cause => s!"The XMP item could not be read:  {cause.message}"
  | frozen => "Metadata cannot be changed after parsing."
  | duplicateDirectory id offset =>
    s!"A {id.name} directory has already been read; the one at offset {offset} is ignored."
  | noDirectoryName name => name
  | noEntry key => key
  | invalidOption key => s!"{key} not valid."
  | missingOption key => key
  | depthOption given => s!"parse.max_depth must be a positive integer, not {given.render}."
  | notBoolean value => s!"Not a boolean: {value}"
  | integerText fault => fault.message
  | depthSetting value => s!"max_depth must be positive, not {value}"
  | noSection | settingsSyntax | duplicateSection | duplicateSetting | interpolationSyntax
  | interpolationMissing | interpolationDepth => ""

end Problem

/-- The place with exactly the given name, which has to exist. -/
def Tiff.DirectoryId.ofName (name : String) : Except Problem DirectoryId :=
  match DirectoryId.ofName? name with
  | some id => .ok id
  | none => .error (.noDirectoryName name)

end ImageMetadata
