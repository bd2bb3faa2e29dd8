import ImageMetadata.Bytes

/-!
# Wanted types

The payload of a chunk is only kept if its type is wanted. A choice of types is either a list or all
of them.
-/

namespace ImageMetadata

/-- A choice of chunk types. -/
inductive Wanted where
  | all
  | only (types : List Bytes)
  deriving DecidableEq, Repr

/-- Whether a type is chosen. -/
def Wanted.includes : Wanted → Bytes → Bool
  | all, _ => true
  | only types, type => types.contains type

end ImageMetadata
