import ImageMetadata.Xml.Scanner

/-!
# Document types

The internal part of a document type declares entities, which stand for a text or for something
outside the document, and attributes with their types and default values. The first declaration of a
name counts. If parts of the document type are outside the document, other entities may exist too.
-/

namespace ImageMetadata.Xml

/-- What an entity stands for. -/
inductive Entity where
  | internal (content : List Char)
  | external
  | unparsed

/-- The types of attributes. -/
inductive AttributeType where
  | characters
  /-- A name that no other element of the document has. -/
  | identifier
  | name
  | names
  | token
  | tokens
  deriving DecidableEq, Repr

/-- The declaration of an attribute of the elements with a name. -/
structure AttributeRule where
  element : String
  name : String
  type : AttributeType
  default : Option (List Char)

/-- The declarations of a document type. -/
structure Dtd where
  /-- The names of the declared elements. -/
  elements : List String
  entities : List (String × Entity)
  /-- The entities that stand for declarations. -/
  parameters : List (String × Entity)
  attributes : List AttributeRule
  /-- Whether the document says that it stands alone. -/
  standalone : Bool
  /-- Whether further declarations may be outside the document. -/
  incomplete : Bool

namespace Dtd

/-- No declarations. -/
def empty (standalone : Bool) : Dtd := ⟨[], [], [], [], standalone, false⟩

/-- Whether an entity may exist that is not declared here. -/
def allowsUndeclared (dtd : Dtd) : Bool := dtd.incomplete && !dtd.standalone

/-- A piece of a text with references. -/
inductive Piece where
  | char (c : Char)
  | entity (name : String)

/-- The pieces of a text; the fuel is its length. -/
def piecesFrom : Nat → List Char → Option (List Piece)
  | _, [] => some []
  | 0, _ => none
  | fuel + 1, '&' :: rest =>
    match Reference.scan.run rest with
    | some (.char c, rest) => (piecesFrom fuel rest).map (.char c :: ·)
    | some (.entity name, rest) => (piecesFrom fuel rest).map (.entity name :: ·)
    | none => none
  | fuel + 1, c :: rest => (piecesFrom fuel rest).map (.char c :: ·)

/-- Whether a piece is a character. -/
def Piece.isChar : Piece → Bool
  | .char _ => true
  | .entity _ => false

/-- The pieces of a text. -/
def pieces? (text : List Char) : Option (List Piece) := piecesFrom text.length text

/-- The cost of an entity beside its length. -/
def referenceCost : Nat := 20

/-- The greatest cost of the entities in one value. -/
def costLimit : Nat := 1000000

/-- The greatest number of entities inside each other. -/
def nestingLimit : Nat := 40

/-- The text of pieces with every entity replaced, and what is left of a budget for the
replacements. A replacement holds no start of markup. -/
def expand (dtd : Dtd) : Nat → Nat → List Piece → Option (List Char × Nat)
  | _, budget, [] => some ([], budget)
  | depth, budget, .char c :: rest => do
    let (text, budget) ← expand dtd depth budget rest
    return (c :: text, budget)
  | 0, _, .entity _ :: _ => none
  | depth + 1, budget, .entity name :: rest =>
    match dtd.entities.lookup name with
    | some (.internal content) =>
      let cost := content.length + referenceCost
      if !content.contains '<' && cost ≤ budget then do
        let (inner, budget) ← expand dtd depth (budget - cost) (← pieces? content)
        let (outer, budget) ← expand dtd (depth + 1) budget rest
        return (inner ++ outer, budget)
      else none
    | some _ => none
    | none => if dtd.allowsUndeclared then expand dtd (depth + 1) budget rest else none
termination_by depth _ pieces => (depth, pieces.length)

/-- The value of an attribute that is written as a text between quotes: white space counts as
spaces, and references are replaced. -/
def attributeValue? (dtd : Dtd) (text : List Char) : Option (List Char) := do
  guard (!text.contains '<')
  let spaced := text.map fun c => if isSpace c then ' ' else c
  return (← dtd.expand nestingLimit costLimit (← pieces? spaced)).1

/-- The words of a text, without the spaces between them. -/
def words : List Char → List (List Char)
  | [] => []
  | c :: rest =>
    if c = ' ' then [] :: words rest
    else
      match words rest with
      | word :: others => (c :: word) :: others
      | [] => [[c]]

/-- The text with single spaces between words and none at its ends. -/
def collapse (text : List Char) : List Char :=
  List.intercalate [' '] ((words text).filter fun word => !word.isEmpty)

/-- Whether a text is a list of words that satisfy a condition. -/
def isListOf (condition : List Char → Bool) (text : List Char) : Bool :=
  let found := (words text).filter fun word => !word.isEmpty
  !found.isEmpty && found.all condition

/-- Whether an attribute of some type may have a value. -/
def allows : AttributeType → List Char → Bool
  | .characters, _ => true
  | .identifier, value => isName value
  | .name, value => isName value
  | .names, value => isListOf isName value
  | .token, value => isToken value
  | .tokens, value => isListOf isToken value

/-- The declaration of an attribute. -/
def rule? (dtd : Dtd) (element name : String) : Option AttributeRule :=
  dtd.attributes.find? fun r => r.element == element && r.name == name

/-- The value of an attribute of some type; only one of characters keeps all white space. -/
def normalizeAs (type : AttributeType) (value : List Char) : List Char :=
  if type = .characters then value else collapse value

/-- The value of an attribute, as its declaration asks for. -/
def normalize (dtd : Dtd) (element name : String) (value : List Char) : List Char :=
  match dtd.rule? element name with
  | some rule => normalizeAs rule.type value
  | none => value

/-- Whether an attribute identifies its element. -/
def identifies (dtd : Dtd) (element name : String) : Bool :=
  name == "xml:id" || (dtd.rule? element name).any fun rule => rule.type = .identifier

/-- Whether an element has an attribute that identifies it. -/
def hasIdentifier (dtd : Dtd) (element : String) : Bool :=
  dtd.attributes.any fun r => r.element == element && r.type = .identifier

/-- The attributes with a default value that an element has. -/
def defaults (dtd : Dtd) (element : String) : List (String × List Char) :=
  dtd.attributes.filterMap fun r =>
    if r.element == element then r.default.map fun value => (r.name, value) else none

end Dtd

end ImageMetadata.Xml
