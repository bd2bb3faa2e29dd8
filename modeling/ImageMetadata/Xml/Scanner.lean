import ImageMetadata.Xml.Characters

/-!
# Scanners

A scanner takes something from the front of a text, or fails. These are the parts from which the
grammar of documents is made.
-/

namespace ImageMetadata.Xml

/-- Takes something from the front of a text. -/
abbrev Scanner := StateT (List Char) Option

namespace Scanner

/-- Whether the text starts with some characters. -/
def ahead (mark : String) : Scanner Bool := do return mark.toList.isPrefixOf (← get)

/-- Takes some characters if the text starts with them. -/
def accept (mark : String) : Scanner Bool := do
  if ← ahead mark then
    modify fun text => text.drop mark.length
    return true
  else return false

/-- Takes some characters, with which the text has to start. -/
def expect (mark : String) : Scanner Unit := do guard (← accept mark)

/-- Takes the longest run of characters that satisfy a condition. -/
def span (condition : Char → Bool) : Scanner (List Char) := do
  let text ← get
  set (text.dropWhile condition)
  return text.takeWhile condition

/-- Takes white space and tells whether there was any. -/
def space : Scanner Bool := do return !(← span isSpace).isEmpty

/-- Takes white space, of which there has to be some. -/
def someSpace : Scanner Unit := do guard (← space)

/-- Takes a name. -/
def name : Scanner String := do
  let chars ← span isNameChar
  guard ((chars.head?.map isNameStart).getD false)
  return String.ofList chars

/-- The characters before and after the first occurrence of a mark. -/
def cut (mark : List Char) : List Char → Option (List Char × List Char)
  | [] => none
  | c :: rest =>
    if mark.isPrefixOf (c :: rest) then some ([], (c :: rest).drop mark.length)
    else (cut mark rest).map fun parts => (c :: parts.1, parts.2)

/-- Takes all characters up to a mark, and the mark. -/
def upTo (mark : String) : Scanner (List Char) := do
  let (before, after) ← (cut mark.toList (← get) : Option _)
  set after
  return before

/-- Takes a text between quotes. -/
def quoted : Scanner (List Char) := do
  if ← accept "\"" then upTo "\"" else
    expect "'"
    upTo "'"

/-- Takes an equals sign, with or without white space around it. -/
def equals : Scanner Unit := do
  discard space
  expect "="
  discard space

/-- Takes the rest of a comment behind its start. -/
def comment : Scanner String := do
  let text ← upTo "--"
  expect ">"
  return String.ofList text

/-- Whether an instruction may have a target. -/
def validTarget (target : String) : Bool :=
  target.toList.map Char.toLower != "xml".toList && !target.toList.contains ':'

/-- Takes the rest of a processing instruction behind its start: the target and the text. -/
def instruction : Scanner (String × String) := do
  let target ← name
  guard (validTarget target)
  if ← accept "?>" then return (target, "")
  else
    someSpace
    return (target, String.ofList (← upTo "?>"))

end Scanner

/-- What an ampersand introduces. -/
inductive Reference where
  | char (c : Char)
  | entity (name : String)

namespace Reference

/-- The characters of the entities that need no declaration. -/
def predefined : List (String × Char) :=
  [("lt", '<'), ("gt", '>'), ("amp", '&'), ("quot", '"'), ("apos", Char.ofNat 39)]

/-- The value of a digit up to some base. -/
def digit? (base : Nat) (c : Char) : Option Nat :=
  let n := c.toNat
  let value :=
    if '0' ≤ c ∧ c ≤ '9' then n - 48
    else if 'a' ≤ c ∧ c ≤ 'f' then n - 87
    else if 'A' ≤ c ∧ c ≤ 'F' then n - 55
    else base
  if value < base then some value else none

/-- The character with a code in digits, if a document may hold it. -/
def charOf? (base : Nat) (digits : List Char) : Option Char := do
  guard (!digits.isEmpty)
  let code := (← digits.mapM (digit? base)).foldl (fun n d => base * n + d) 0
  if h : code.isValidChar then
    let c := Char.ofNatAux code h
    guard (isChar c)
    return c
  else none

/-- Takes the rest of a reference behind its ampersand. -/
def scan : Scanner Reference := do
  if ← Scanner.accept "#" then
    let base := if ← Scanner.accept "x" then 16 else 10
    let digits ← Scanner.upTo ";"
    return char (← (charOf? base digits : Option Char))
  else
    let name ← Scanner.name
    Scanner.expect ";"
    match predefined.lookup name with
    | some c => return char c
    | none => return entity name

end Reference

end ImageMetadata.Xml
