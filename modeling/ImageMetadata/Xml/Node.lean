/-!
# XML trees

The content of a well-formed document: elements with attributes and children, text, comments,
processing instructions, and references to entities that are left as they are. A name with a
namespace carries the identifier of the namespace in front.
-/

namespace ImageMetadata.Xml

/-- A name with the namespace that it belongs to, if any. -/
structure ExpandedName where
  space : Option String
  part : String
  deriving DecidableEq, Repr

/-- The text of a name, with the namespace in braces. -/
def ExpandedName.text (name : ExpandedName) : String :=
  match name.space with
  | some space => "\x7b" ++ space ++ "\x7d" ++ name.part
  | none => name.part

/-- A node of a document. -/
inductive Node where
  | element (name : ExpandedName) (attributes : List (ExpandedName × String)) (children : List Node)
  | text (chars : String)
  | comment (chars : String)
  | instruction (target chars : String)
  | entity (name : String)

/-- A document: its root element, and the comments and instructions before and after it. -/
structure Document where
  before : List Node
  root : Node
  after : List Node

end ImageMetadata.Xml
