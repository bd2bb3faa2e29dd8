import ImageMetadata.Metadata
import ImageMetadata.Options

/-!
# TIFF files

A TIFF file is a stream and nothing else.
-/

namespace ImageMetadata.Tiff

/-- Reads a TIFF stream by a policy into the metadata that is being collected. -/
def collect (bytes : Bytes) (policy : Policy) : Action Metadata Unit := do
  let stream ← (Stream.read bytes 0 policy.strict policy.limit : Outcome Stream)
  Metadata.addStream stream policy.strict

/-- Reads a TIFF stream, if there is one. -/
def collect? (stream : Option Bytes) (policy : Policy) : Action Metadata Unit :=
  match stream with
  | some bytes => collect bytes policy
  | none => return

/-- The metadata of a TIFF file. -/
def metadata (bytes : Bytes) (policy : Policy) : Outcome Metadata :=
  Metadata.collect .tiff (collect bytes policy)

end ImageMetadata.Tiff
