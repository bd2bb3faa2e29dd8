import ImageMetadata.Reader
import ImageMetadata.Settings
import ImageMetadata.Proofs.Strictness.Formats
import ImageMetadata.Proofs.Yields
import ImageMetadata.Proofs.Tiff.Recursion
import ImageMetadata.Proofs.Safety.Formats
import ImageMetadata.Proofs.Embedding.Formats
import ImageMetadata.Proofs.Tiff.Entries
import ImageMetadata.Proofs.Tiff.Arena
import ImageMetadata.Proofs.Tiff.Termination
import ImageMetadata.Proofs.Tiff.Depth
import ImageMetadata.Proofs.Tiff.Failure
import ImageMetadata.Proofs.Heif.Tiling
import ImageMetadata.Proofs.Tiff.Layout
import ImageMetadata.Proofs.Tiff.RoundTrip
import ImageMetadata.Proofs.Png.Acceptance
import ImageMetadata.Proofs.Png.TextRoundTrip
import ImageMetadata.Proofs.Png.Insertion
import ImageMetadata.Proofs.Heif.Reads
import ImageMetadata.Proofs.Heif.Pruning
import ImageMetadata.Proofs.Reports
import ImageMetadata.Proofs.Tiff.Reports
import ImageMetadata.Proofs.Takes
import ImageMetadata.Proofs.Heif.Contents
import ImageMetadata.Proofs.Heif.Independence
import ImageMetadata.Proofs.Heif.Layout
import ImageMetadata.Proofs.Heif.RoundTrip
import ImageMetadata.Proofs.Jpeg.Parsing
import ImageMetadata.Proofs.Jpeg.Recovery
import ImageMetadata.Proofs.Jpeg.Segments
import ImageMetadata.Proofs.Jpeg.Truncation
import ImageMetadata.Proofs.Webp.Acceptance
import ImageMetadata.Proofs.Selection.Chunks
import ImageMetadata.Proofs.Metadata.History
import ImageMetadata.Proofs.Cursor.Operations
import ImageMetadata.Proofs.Heif.Queries
import ImageMetadata.Proofs.Heif.Detection
import ImageMetadata.Proofs.Heif.Extents
import ImageMetadata.Proofs.Heif.ItemBoxes
import ImageMetadata.Proofs.Heif.ItemLocations
import ImageMetadata.Proofs.Heif.References
import ImageMetadata.Proofs.Heif.Packet
import ImageMetadata.Proofs.Tiff.Relocation
import ImageMetadata.Proofs.Png.Damage
import ImageMetadata.Proofs.Tiff.Values
import ImageMetadata.Proofs.Cursor.Integers
import ImageMetadata.Proofs.Recognition.Formats
import ImageMetadata.Proofs.Heif.DocumentOrder
import ImageMetadata.Proofs.Settings.Reading
import ImageMetadata.Proofs.Options.History
