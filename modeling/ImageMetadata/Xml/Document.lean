import ImageMetadata.Xml.Declarations
import ImageMetadata.Xml.Encoding
import ImageMetadata.Xml.Namespaces
import ImageMetadata.Xml.Token

/-!
# Documents

The tokens of a document are put together to a tree with a stack of open elements. An end tag closes
the innermost one. Values that identify elements are distinct. A reference to an entity stays in the
tree, but what it stands for has to be well formed where it first occurs. Anything that breaks a
rule makes the whole document malformed.
-/

namespace ImageMetadata.Xml

/-- An open element, or the outside of all elements, with the nodes found in it so far. -/
structure Frame where
  /-- The name in the start tag; the outside has none. -/
  tag : Option String
  name : ExpandedName
  attributes : List (ExpandedName × String)
  scope : Scope
  /-- The nodes found so far, the last one first. -/
  found : List Node

namespace Frame

/-- The outside of all elements, where some namespaces are declared. -/
def outside (scope : Scope) : Frame := ⟨none, ⟨none, ""⟩, [], scope, []⟩

/-- The frame of an element that starts in another frame. -/
def enter? (outer : Frame) (tag : String) (given implied : List (String × List Char)) :
    Option Frame := do
  let scope ← outer.scope.enter? given implied
  let name ← scope.element? tag
  return ⟨some tag, name, ← scope.attributes? given implied, scope, []⟩

/-- Adds a node; a text joins the text before it, and an empty one vanishes. -/
def add (frame : Frame) (node : Node) : Frame :=
  match node, frame.found with
  | .text "", _ => frame
  | .text text, .text before :: rest => { frame with found := .text (before ++ text) :: rest }
  | node, found => { frame with found := node :: found }

/-- The nodes in order. -/
def nodes (frame : Frame) : List Node := frame.found.reverse

/-- The element of a frame that is complete. -/
def close (frame : Frame) : Node := .element frame.name frame.attributes frame.nodes

end Frame

namespace Document

/-- The greatest number of elements that an element may be in. -/
def depthLimit : Nat := 256

/-- Whether an element may start inside some frames; a document has one root. -/
def mayStart (isDocument : Bool) : List Frame → Bool
  | [bottom] =>
    !isDocument || !bottom.found.any fun
      | .element .. => true
      | _ => false
  | stack => stack.length ≤ depthLimit + 1

/-- Builds the nodes of tokens inside a stack of frames; the result also has the entities whose text
was found to be well formed. The texts of entities are looked into up to a depth. -/
def build (dtd : Dtd) (depth : Nat) (isDocument : Bool) (checked : List String) :
    List Frame → List Token → Option (List Node × List String)
  | [bottom], [] => some (bottom.nodes, checked)
  | _, [] => none
  | [], _ => none
  | frame :: below, token :: rest =>
    let outermost := isDocument && below.isEmpty
    match token with
    | .start tag given implied closed =>
      if mayStart isDocument (frame :: below) then
        match frame.enter? tag given implied with
        | none => none
        | some inner =>
          build dtd depth isDocument checked
            (if closed then frame.add inner.close :: below else inner :: frame :: below) rest
      else none
    | .stop tag =>
      match below with
      | [] => none
      | outer :: below =>
        if frame.tag = some tag then
          build dtd depth isDocument checked (outer.add frame.close :: below) rest
        else none
    | .chars text =>
      if outermost then
        if text.all isSpace then build dtd depth isDocument checked (frame :: below) rest else none
      else
        build dtd depth isDocument checked (frame.add (.text (String.ofList text)) :: below) rest
    | .data text =>
      if outermost then none
      else
        build dtd depth isDocument checked (frame.add (.text (String.ofList text)) :: below) rest
    | .comment text =>
      build dtd depth isDocument checked (frame.add (.comment text) :: below) rest
    | .instruction target text =>
      build dtd depth isDocument checked (frame.add (.instruction target text) :: below) rest
    | .entity name =>
      if outermost then none
      else
        let stack := frame.add (.entity name) :: below
        match dtd.entities.lookup name with
        | some .unparsed => none
        | some .external => build dtd depth isDocument checked stack rest
        | none =>
          if dtd.allowsUndeclared then build dtd depth isDocument checked stack rest else none
        | some (.internal content) =>
          if checked.contains name then build dtd depth isDocument checked stack rest
          else
            match depth with
            | 0 => none
            | depth + 1 =>
              match Token.scanAll dtd content with
              | none => none
              | some tokens =>
                match build dtd depth false checked [Frame.outside frame.scope] tokens with
                | none => none
                | some (_, checked) =>
                  build dtd (depth + 1) isDocument (name :: checked) stack rest
termination_by _ tokens => (depth, tokens.length)

/-- Takes what stands before the root element: comments, instructions, and at most one document
type. The fuel bounds their number. -/
def prolog (standalone : Bool) : Nat → Option Dtd → List Node → Scanner (Dtd × List Node)
  | 0, _, _ => failure
  | fuel + 1, dtd, found => do
    discard Scanner.space
    if ← Scanner.accept "<!--" then
      prolog standalone fuel dtd (.comment (← Scanner.comment) :: found)
    else if ← Scanner.accept "<?" then
      let (target, text) ← Scanner.instruction
      prolog standalone fuel dtd (.instruction target text :: found)
    else if dtd.isNone && (← Scanner.accept "<!DOCTYPE") then
      prolog standalone fuel (some (← Dtd.scan standalone)) found
    else return (dtd.getD (Dtd.empty standalone), found.reverse)

/-- The document with some nodes outside all elements, of which one is the root. -/
def ofNodes? : List Node → Option Document
  | [] => none
  | .element name attributes children :: after =>
    some ⟨[], .element name attributes children, after⟩
  | node :: rest => (ofNodes? rest).map fun d => { d with before := node :: d.before }

/-- The document that a text holds, if it is well formed. -/
def ofText? (text : List Char) : Option Document := do
  let (declaration, rest) ← Declaration.scan?.run text
  let ((dtd, before), rest) ← (prolog declaration.standalone (rest.length + 1) none []).run rest
  let tokens ← Token.scanAll dtd rest
  guard (tokens.flatMap (Token.identifiers dtd)).Nodup
  let (nodes, _) ←
    build dtd Dtd.nestingLimit true [] [Frame.outside Scope.outermost] tokens
  let d ← ofNodes? nodes
  return { d with before := before ++ d.before }

/-- The document that bytes hold, if it is well formed. -/
def ofBytes? (bytes : Bytes) : Option Document := (Encoding.decode? bytes).bind ofText?

end Document

end ImageMetadata.Xml
