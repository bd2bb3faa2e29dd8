import ImageMetadata.Xml.Scanner

/-!
# Content models

An element declaration says what the element may hold: nothing, anything, text mixed with elements
of some names, or a group of elements. The members of a group are either all separated by commas or
all by bars, and a sign behind a member tells how often it may occur. Only the form is checked.
-/

namespace ImageMetadata.Xml.ContentModel

/-- Takes a sign that tells how often something may occur, if there is one. -/
def occurrence : Scanner Unit := do
  if ← Scanner.accept "?" then return
  else if ← Scanner.accept "*" then return
  else discard (Scanner.accept "+")

/-- Takes a separator of a group, which is the one used before if there is one. -/
def separator (used : Option String) : Scanner String := do
  match used with
  | some mark =>
    Scanner.expect mark
    return mark
  | none =>
    if ← Scanner.accept "," then return ","
    else
      Scanner.expect "|"
      return "|"

mutual

/-- Takes an element name or a group; the fuel bounds the number of members. -/
def member : Nat → Scanner Unit
  | 0 => failure
  | fuel + 1 => do
    if ← Scanner.accept "(" then
      discard Scanner.space
      member fuel
      further fuel none
    else discard Scanner.name
    occurrence

/-- Takes the members of a group behind the first one, and the closing parenthesis. -/
def further : Nat → Option String → Scanner Unit
  | 0, _ => failure
  | fuel + 1, used => do
    discard Scanner.space
    if ← Scanner.accept ")" then return
    else
      let mark ← separator used
      discard Scanner.space
      member fuel
      further fuel (some mark)

end

/-- Takes the names of a mixed content, and its end; the fuel bounds their number. -/
def mixed : Nat → Scanner Unit
  | 0 => failure
  | fuel + 1 => do
    discard Scanner.space
    if ← Scanner.accept ")*" then return
    else
      Scanner.expect "|"
      discard Scanner.space
      discard Scanner.name
      mixed fuel

/-- Takes a content model. -/
def scan : Scanner Unit := do
  let size := (← get).length
  if ← Scanner.accept "EMPTY" then return
  else if ← Scanner.accept "ANY" then return
  else
    Scanner.expect "("
    discard Scanner.space
    if ← Scanner.accept "#PCDATA" then
      discard Scanner.space
      if ← Scanner.accept ")" then discard (Scanner.accept "*") else mixed size
    else
      member size
      further size none
      occurrence

end ImageMetadata.Xml.ContentModel
