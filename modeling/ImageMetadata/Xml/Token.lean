import ImageMetadata.Xml.Dtd

/-!
# Tokens

The content of a document is cut into tags, characters, comments, instructions and references. The
values of attributes are complete, and a start tag also has the attributes that the document type
gives by default. Whether tags match is not looked at.
-/

namespace ImageMetadata.Xml

/-- A token of a document. -/
inductive Token where
  /-- A start tag with the attributes in it and further ones by default. -/
  | start (name : String) (given implied : List (String × List Char)) (closed : Bool)
  | stop (name : String)
  /-- Characters that stand for themselves. -/
  | chars (text : List Char)
  /-- Characters that are marked as data or come from a reference. -/
  | data (text : List Char)
  | comment (text : String)
  | instruction (target text : String)
  | entity (name : String)

namespace Token

/-- Takes the attributes of a tag and its end; the fuel bounds their number. -/
def attributes (dtd : Dtd) (element : String) :
    Nat → List (String × List Char) → Scanner (List (String × List Char) × Bool)
  | 0, _ => failure
  | fuel + 1, found => do
    let spaced ← Scanner.space
    if ← Scanner.accept ">" then return (found.reverse, false)
    else if ← Scanner.accept "/>" then return (found.reverse, true)
    else
      guard spaced
      let name ← Scanner.name
      Scanner.equals
      let value ← (dtd.attributeValue? (← Scanner.quoted) : Option _)
      attributes dtd element fuel ((name, dtd.normalize element name value) :: found)

/-- The attributes that an element has by default beside given ones. -/
def implied (dtd : Dtd) (element : String) (given : List (String × List Char)) :
    List (String × List Char) :=
  (dtd.defaults element).filter fun d => !given.any fun a => a.1 == d.1

/-- Takes a token. -/
def scan (dtd : Dtd) : Scanner Token := do
  if ← Scanner.accept "<!--" then return comment (← Scanner.comment)
  else if ← Scanner.accept "<![CDATA[" then return data (← Scanner.upTo "]]>")
  else if ← Scanner.accept "<?" then
    let (target, text) ← Scanner.instruction
    return instruction target text
  else if ← Scanner.accept "</" then
    let name ← Scanner.name
    discard Scanner.space
    Scanner.expect ">"
    return stop name
  else if ← Scanner.accept "<" then
    let name ← Scanner.name
    let (given, closed) ← attributes dtd name ((← get).length + 1) []
    return start name given (implied dtd name given) closed
  else if ← Scanner.accept "&" then
    match ← Reference.scan with
    | .char c => return data [c]
    | .entity name => return entity name
  else
    let text ← Scanner.span fun c => c != '<' && c != '&'
    guard (Scanner.cut "]]>".toList text).isNone
    return chars text

/-- The values in a tag that identify its element. -/
def identifiers (dtd : Dtd) : Token → List (List Char)
  | start element given _ _ =>
    (given.filter fun a => dtd.identifies element a.1).map Prod.snd
  | _ => []

/-- The tokens of a text; the fuel is its length. -/
def scanFrom (dtd : Dtd) : Nat → List Char → Option (List Token)
  | _, [] => some []
  | 0, _ => none
  | fuel + 1, text =>
    match (scan dtd).run text with
    | some (token, rest) => (scanFrom dtd fuel rest).map (token :: ·)
    | none => none

/-- The tokens of a text. -/
def scanAll (dtd : Dtd) (text : List Char) : Option (List Token) := scanFrom dtd text.length text

end Token

end ImageMetadata.Xml
