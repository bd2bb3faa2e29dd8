import ImageMetadata.Xml.Address
import ImageMetadata.Xml.ContentModel
import ImageMetadata.Xml.Dtd

/-!
# Declarations

The grammar of a document type: declarations of entities, attributes, elements and notations, and
references to further declarations. What a reference to the outside stands for stays unknown.
-/

namespace ImageMetadata.Xml

namespace Dtd

/-- Takes a reference to a parameter entity behind its percent sign; the result is the text that it
stands for, if known. Only a document that stands alone has to declare the entity. -/
def parameterReference (dtd : Dtd) : Scanner (List Char) := do
  let name ← Scanner.name
  Scanner.expect ";"
  match dtd.parameters.lookup name with
  | some (.internal content) => return content
  | some _ => return []
  | none =>
    guard !dtd.standalone
    return []

/-- The value of an entity that is written as a text between quotes, and what is left of a budget
for replacements: character references are replaced, references to entities stay. Parameter entities
are replaced too, but only inside the text of another one. The fuel is the length of the text. -/
def entityValueFrom (dtd : Dtd) (inside : Bool) :
    Nat → Nat → Nat → List Char → Option (List Char × Nat)
  | _, _, budget, [] => some ([], budget)
  | _, 0, _, _ :: _ => none
  | depth, fuel + 1, budget, '&' :: '#' :: rest =>
    match Reference.scan.run ('#' :: rest) with
    | some (.char c, rest) => do
      let (value, budget) ← entityValueFrom dtd inside depth fuel budget rest
      return (c :: value, budget)
    | _ => none
  | depth, fuel + 1, budget, '&' :: rest => do
    discard (Reference.scan.run rest)
    let (value, budget) ← entityValueFrom dtd inside depth fuel budget rest
    return ('&' :: value, budget)
  | 0, _ + 1, _, '%' :: _ => none
  | depth + 1, fuel + 1, budget, '%' :: rest => do
    if inside then
      let (content, rest) ← (parameterReference dtd).run rest
      let cost := content.length + referenceCost
      if cost ≤ budget then
        let (inner, budget) ←
          entityValueFrom dtd inside depth content.length (budget - cost) content
        let (outer, budget) ← entityValueFrom dtd inside (depth + 1) fuel budget rest
        return (inner ++ outer, budget)
      else none
    else none
  | depth, fuel + 1, budget, c :: rest => do
    let (value, budget) ← entityValueFrom dtd inside depth fuel budget rest
    return (c :: value, budget)
  termination_by depth fuel => (depth, fuel)

/-- The value of an entity that is written as a text between quotes. -/
def entityValue? (dtd : Dtd) (inside : Bool) (text : List Char) : Option (List Char) :=
  (entityValueFrom dtd inside nestingLimit text.length costLimit text).map Prod.fst

/-- Takes an external identifier, of which the result is the address; only a notation may do without
the address. -/
def externalId (notated : Bool) : Scanner (Option (List Char)) := do
  if ← Scanner.accept "SYSTEM" then
    Scanner.someSpace
    return some (← Scanner.quoted)
  else if ← Scanner.accept "PUBLIC" then
    Scanner.someSpace
    let id ← Scanner.quoted
    guard (id.all fun c => c.isAlphanum || " \n-'()+,./:=?;!*#@$_%".toList.contains c)
    let spaced ← Scanner.space
    if notated && (← Scanner.ahead ">") then return some []
    else
      guard spaced
      return some (← Scanner.quoted)
  else return none

/-- Takes the end of a declaration. -/
def close : Scanner Unit := do
  discard Scanner.space
  Scanner.expect ">"

/-- Takes what an entity stands for. Outside the document it has an address without a fragment. -/
def entityDefinition (dtd : Dtd) (inside parameter : Bool) : Scanner Entity := do
  if let some address ← externalId false then
    guard (Address.isValid address && !address.contains '#')
    let spaced ← Scanner.space
    if !parameter && (← Scanner.accept "NDATA") then
      guard spaced
      Scanner.someSpace
      discard Scanner.name
      return .unparsed
    else return .external
  else
    let text ← Scanner.quoted
    return .internal (← (dtd.entityValue? inside text : Option _))

/-- Takes the rest of an entity declaration. -/
def entityDeclaration (inside : Bool) (dtd : Dtd) : Scanner Dtd := do
  Scanner.someSpace
  let parameter ← Scanner.accept "%"
  if parameter then Scanner.someSpace
  let name ← Scanner.name
  guard (!name.toList.contains ':')
  Scanner.someSpace
  let entity ← entityDefinition dtd inside parameter
  close
  return if parameter then { dtd with parameters := dtd.parameters ++ [(name, entity)] }
    else { dtd with entities := dtd.entities ++ [(name, entity)] }

/-- Takes alternatives up to a closing parenthesis; the fuel bounds their number. -/
def alternatives (one : Scanner String) : Nat → Scanner (List String)
  | 0 => failure
  | fuel + 1 => do
    discard Scanner.space
    let first ← one
    discard Scanner.space
    if ← Scanner.accept ")" then return [first]
    else
      Scanner.expect "|"
      return first :: (← alternatives one fuel)

/-- Takes alternatives between parentheses, all of which are different. -/
def enumeration (one : Scanner String) : Scanner Unit := do
  Scanner.expect "("
  guard (← alternatives one (← get).length).Nodup

/-- Takes a token. -/
def nameToken : Scanner String := do
  let chars ← Scanner.span isNameChar
  guard (isToken chars)
  return String.ofList chars

/-- The types of attributes that are told by a word. -/
def typeWords : List (String × AttributeType) :=
  [("ID", .identifier), ("IDREF", .name), ("IDREFS", .names), ("ENTITY", .name),
    ("ENTITIES", .names), ("NMTOKEN", .token), ("NMTOKENS", .tokens)]

/-- Takes the type of an attribute. -/
def attributeType : Scanner AttributeType := do
  if ← Scanner.accept "CDATA" then return .characters
  else if ← Scanner.accept "NOTATION" then
    Scanner.someSpace
    enumeration Scanner.name
    return .name
  else if ← Scanner.ahead "(" then
    enumeration nameToken
    return .tokens
  else
    let word ← Scanner.name
    (typeWords.lookup word : Option _)

/-- The default value of an attribute that is written as a text between quotes. Its type has to
allow the value, and only one of characters may refer to entities. -/
def defaultValue? (dtd : Dtd) (type : AttributeType) (text : List Char) : Option (List Char) := do
  let value := normalizeAs type (← dtd.attributeValue? text)
  guard (type = .characters || (← pieces? text).all Piece.isChar)
  guard (allows type value)
  return value

/-- Takes the default of an attribute. -/
def attributeDefault (dtd : Dtd) (type : AttributeType) : Scanner (Option (List Char)) := do
  if ← Scanner.accept "#REQUIRED" then return none
  else if ← Scanner.accept "#IMPLIED" then return none
  else
    if ← Scanner.accept "#FIXED" then Scanner.someSpace
    let text ← Scanner.quoted
    return some (← (dtd.defaultValue? type text : Option _))

/-- Adds the declaration of an attribute, unless there is one. An element has one attribute at most
that identifies it. -/
def addRule? (dtd : Dtd) (rule : AttributeRule) : Option Dtd := do
  guard (rule.name != "xml:id" || rule.type = .identifier)
  if (dtd.rule? rule.element rule.name).isSome then return dtd
  else
    guard (rule.type ≠ .identifier || !dtd.hasIdentifier rule.element)
    return { dtd with attributes := dtd.attributes ++ [rule] }

/-- Takes the declarations of the attributes of an element; the fuel bounds their number. -/
def attributeRules (element : String) : Nat → Dtd → Scanner Dtd
  | 0, _ => failure
  | fuel + 1, dtd => do
    let spaced ← Scanner.space
    if ← Scanner.accept ">" then return dtd
    else
      guard spaced
      let name ← Scanner.name
      Scanner.someSpace
      let type ← attributeType
      Scanner.someSpace
      let default ← attributeDefault dtd type
      attributeRules element fuel (← (dtd.addRule? ⟨element, name, type, default⟩ : Option _))

/-- Takes the rest of an element declaration; an element is declared once. -/
def elementDeclaration (dtd : Dtd) : Scanner Dtd := do
  Scanner.someSpace
  let name ← Scanner.name
  guard (!dtd.elements.contains name)
  Scanner.someSpace
  ContentModel.scan
  close
  return { dtd with elements := name :: dtd.elements }

/-- Takes the rest of a notation declaration. -/
def notationDeclaration : Scanner Unit := do
  Scanner.someSpace
  let name ← Scanner.name
  guard (!name.toList.contains ':')
  Scanner.someSpace
  guard (← externalId true).isSome
  close

/-- Takes one declaration, comment or instruction, which may be inside the text of an entity. -/
def declaration (inside : Bool) (dtd : Dtd) : Scanner Dtd := do
  if ← Scanner.accept "<!--" then
    discard Scanner.comment
    return dtd
  else if ← Scanner.accept "<?" then
    discard Scanner.instruction
    return dtd
  else if ← Scanner.accept "<!ENTITY" then entityDeclaration inside dtd
  else if ← Scanner.accept "<!ATTLIST" then
    Scanner.someSpace
    let element ← Scanner.name
    attributeRules element (← get).length dtd
  else if ← Scanner.accept "<!ELEMENT" then elementDeclaration dtd
  else
    Scanner.expect "<!NOTATION"
    notationDeclaration
    return dtd

/-- Takes the declarations that an entity stands for, up to the end of its text, which may refer to
further ones. The result also has what is left of a budget for these; the fuel bounds the number of
declarations. -/
def included : Nat → Nat → Nat → Dtd → Scanner (Dtd × Nat)
  | _, 0, _, _ => failure
  | depth, fuel + 1, budget, dtd => do
    discard Scanner.space
    if (← get).isEmpty then return (dtd, budget)
    else if ← Scanner.accept "%" then
      match depth with
      | 0 => failure
      | depth + 1 =>
        let content ← parameterReference dtd
        let cost := content.length + referenceCost
        if cost ≤ budget then
          let ((dtd, budget), _) ←
            ((included depth (content.length + 1) (budget - cost) dtd).run content : Option _)
          included (depth + 1) fuel budget dtd
        else failure
    else included depth fuel budget (← declaration true dtd)
  termination_by depth fuel => (depth, fuel)

/-- Takes the declarations up to the closing bracket; the fuel bounds their number. -/
def subset : Nat → Dtd → Scanner Dtd
  | 0, _ => failure
  | fuel + 1, dtd => do
    discard Scanner.space
    if ← Scanner.accept "]" then return dtd
    else if ← Scanner.accept "%" then
      let content ← parameterReference dtd
      let ((dtd, _), _) ←
        ((included nestingLimit (content.length + 1) costLimit
          { dtd with incomplete := true }).run content : Option _)
      subset fuel dtd
    else subset fuel (← declaration false dtd)

/-- Takes the rest of a document type behind its start. -/
def scan (standalone : Bool) : Scanner Dtd := do
  Scanner.someSpace
  discard Scanner.name
  let spaced ← Scanner.space
  let outside := (← externalId false).isSome
  guard (spaced || !outside)
  discard Scanner.space
  let dtd := { empty standalone with incomplete := outside }
  let dtd ← if ← Scanner.accept "[" then subset ((← get).length + 1) dtd else pure dtd
  close
  return dtd

end Dtd

end ImageMetadata.Xml
