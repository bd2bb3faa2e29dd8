import ImageMetadata.Xml.Address
import ImageMetadata.Xml.Characters
import ImageMetadata.Xml.Node

/-!
# Namespaces

Some attributes of an element declare namespaces: one for names without a qualifier, or one for a
qualifier. They hold for the element and everything inside. Every qualifier has to be declared, and
no two attributes of an element may have the same expanded name. Attributes that an element only has
by default follow these rules and may declare namespaces, but are not kept.
-/

namespace ImageMetadata.Xml

/-- The namespaces that are declared at some place, by qualifier; the innermost one comes first. -/
abbrev Scope := List (String × String)

namespace Scope

/-- The namespace that the qualifier `xml` always has. -/
def xmlSpace : String := "http://www.w3.org/XML/1998/namespace"

/-- The namespace of namespace declarations, which no qualifier may have. -/
def declarationSpace : String := "http://www.w3.org/2000/xmlns/"

/-- What is declared outside the root element. -/
def outermost : Scope := [("xml", xmlSpace)]

/-- The qualifier and the rest of a name, if both parts are plain names. -/
def split? (name : String) : Option (String × String) :=
  match name.splitOn ":" with
  | [part] => if isPlainName part.toList then some ("", part) else none
  | [qualifier, part] =>
    if isPlainName qualifier.toList && isPlainName part.toList then some (qualifier, part) else none
  | _ => none

/-- The namespace that a declaration binds to a qualifier, if it may. -/
def declare? (qualifier space : String) : Option (String × String) := do
  guard (space == "" || Address.isValid space.toList)
  guard (space != declarationSpace && qualifier != "xmlns")
  guard ((qualifier == "xml") == (space == xmlSpace))
  guard (qualifier == "" || space != "")
  return (qualifier, space)

/-- What an attribute declares, if it is a declaration. -/
def declaration? (given : String × List Char) : Option (String × String) :=
  let space := String.ofList given.2
  if given.1 == "xmlns" then some ("", space)
  else
    match split? given.1 with
    | some ("xmlns", part) => some (part, space)
    | _ => none

/-- The scope inside an element with given attributes and further ones by default. What is declared
by default is not looked at closer, except that the qualifier `xml` keeps its namespace. -/
def enter? (scope : Scope) (given implied : List (String × List Char)) : Option Scope := do
  let declared ← (given.filterMap declaration?).mapM fun d => declare? d.1 d.2
  let further := (implied.filterMap declaration?).filter fun d => d.1 != "xml"
  return declared ++ further ++ scope

/-- The namespace that is declared for a qualifier or, with an empty one, for names without a
qualifier. -/
def space? (scope : Scope) (qualifier : String) : Option String :=
  (scope.lookup qualifier).filter fun space => space != ""

/-- The expanded name of an element. -/
def element? (scope : Scope) (name : String) : Option ExpandedName := do
  let (qualifier, part) ← split? name
  if qualifier == "" then return ⟨scope.space? "", part⟩
  else return ⟨some (← scope.space? qualifier), part⟩

/-- The expanded name of an attribute; without a qualifier it has no namespace. -/
def attribute? (scope : Scope) (name : String) : Option ExpandedName := do
  let (qualifier, part) ← split? name
  if qualifier == "" then return ⟨none, part⟩ else return ⟨some (← scope.space? qualifier), part⟩

/-- Whether an attribute has a value that it may have: an identifier has to be a plain name, around
which white space may stand. -/
def validValue (name : ExpandedName) (value : List Char) : Bool :=
  name != ⟨some xmlSpace, "id"⟩ || isPlainName (trimSpace value)

/-- The attributes without the declarations, by their expanded names. -/
def named? (scope : Scope) (attributes : List (String × List Char)) :
    Option (List (ExpandedName × List Char)) :=
  (attributes.filter fun a => (declaration? a).isNone).mapM fun a => do
    return (← attribute? scope a.1, a.2)

/-- The given attributes of an element by their expanded names, without the declarations. -/
def attributes? (scope : Scope) (given implied : List (String × List Char)) :
    Option (List (ExpandedName × String)) := do
  guard (given.map Prod.fst).Nodup
  let named ← scope.named? given
  guard ((named ++ (← scope.named? implied)).map Prod.fst).Nodup
  guard (named.all fun a => validValue a.1 a.2)
  return named.map fun a => (a.1, String.ofList a.2)

end Scope

end ImageMetadata.Xml
