import ImageMetadata.Problem
import ImageMetadata.Text.Blank
import ImageMetadata.Text.LowerCase

/-!
# Settings files

A settings file has sections of options, each with a value that may go on over several indented
lines. The section `DEFAULT` holds values for all others. A value may refer to others by their
names; the references are replaced when the value is asked for.
-/

namespace ImageMetadata

/-- An option of a section with the lines of its value. -/
structure IniEntry where
  part : List Char
  option : List Char
  lines : List (List Char)

/-- The content of a settings file. -/
structure Ini where
  /-- The sections in order, without the default one. -/
  parts : List (List Char)
  entries : List IniEntry

namespace Ini

/-- The section whose values hold for all sections. -/
def defaultPart : List Char := "DEFAULT".toList

/-- The lines of a text, which end at a line feed, a carriage return, or both. -/
def lines : List Char → List (List Char)
  | [] => [[]]
  | '\r' :: '\n' :: rest => [] :: lines rest
  | c :: rest =>
    if c = '\n' ∨ c = '\r' then [] :: lines rest
    else
      match lines rest with
      | line :: others => (c :: line) :: others
      | [] => [[c]]

/-- What has been read of a file. -/
structure Progress where
  content : Ini
  /-- The section that is being read. -/
  part : Option (List Char)
  /-- The option that further lines may belong to. -/
  option : Option (List Char)
  /-- The indentation of the last line that began something. -/
  indentation : Nat
  /-- Whether some line was neither a header nor an option. -/
  broken : Bool

namespace Progress

/-- Nothing read yet. -/
def start : Progress := ⟨⟨[], []⟩, none, none, 0, false⟩

/-- Adds a line to the value that is being read. -/
def extend (s : Progress) (part option line : List Char) : Progress :=
  let entries := s.content.entries.map fun e =>
    if e.part = part ∧ e.option = option then { e with lines := e.lines ++ [line] } else e
  { s with content := { s.content with entries := entries } }

/-- The name of a section in a line without margins: what stands between the first bracket and the
last closing one. -/
def header? (line : List Char) : Option (List Char) :=
  match line with
  | '[' :: rest =>
    match rest.reverse.dropWhile (· != ']') with
    | _ :: name => if name.isEmpty then none else some name.reverse
    | [] => none
  | _ => none

/-- The option and its value in a line without margins. -/
def option? (line : List Char) : Option (List Char × List Char) :=
  let isDelimiter := fun c => c = '=' || c = ':'
  match line.dropWhile fun c => !isDelimiter c with
  | [] => none
  | _ :: value =>
    some (Text.lower (Text.trim (line.takeWhile fun c => !isDelimiter c)), Text.trim value)

/-- Begins a section. -/
def enter (s : Progress) (name : List Char) : Except Problem Progress :=
  let s := { s with part := some name, option := none }
  if s.content.parts.contains name then .error .duplicateSection
  else if name = defaultPart then .ok s
  else .ok { s with content := { s.content with parts := s.content.parts ++ [name] } }

/-- Begins an option of a section; one without a name is a broken line. -/
def begin (s : Progress) (part name value : List Char) : Except Problem Progress :=
  if s.content.entries.any fun e => e.part = part ∧ e.option = name then .error .duplicateSetting
  else
    .ok { s with
      content := { s.content with entries := s.content.entries ++ [⟨part, name, [value]⟩] }
      option := if name.isEmpty then none else some name
      broken := s.broken || name.isEmpty }

/-- Reads a line. -/
def line (s : Progress) (line : List Char) : Except Problem Progress :=
  let body := Text.trim line
  let indentation := (line.takeWhile Text.isBlank).length
  if body.head? = some '#' ∨ body.head? = some ';' then .ok s
  else
    match s.part, s.option, body with
    | some part, some option, [] => .ok (s.extend part option [])
    | _, _, [] => .ok s
    | part, option, body =>
      match part, option, decide (s.indentation < indentation) with
      | some part, some option, true => .ok (s.extend part option body)
      | part, _, _ =>
        let s := { s with indentation := indentation }
        match header? body, part with
        | some name, _ => s.enter name
        | none, none => .error .noSection
        | none, some part =>
          match option? body with
          | some (name, value) => s.begin part name value
          | none => .ok { s with broken := true }

end Progress

/-- Reads a settings file. -/
def read (text : List Char) : Except Problem Ini := do
  let s ← (lines text).foldlM Progress.line Progress.start
  if s.broken then .error .settingsSyntax
  return s.content

/-- The value of an option as it is written, in its section or else in the default one. -/
def written? (ini : Ini) (part option : List Char) : Option (List Char) :=
  let find (part : List Char) := ini.entries.find? fun e => e.part = part ∧ e.option = option
  ((find part).or (find defaultPart)).map fun e =>
    let joined := List.intercalate ['\n'] e.lines
    (joined.reverse.dropWhile Text.isBlank).reverse

/-- A piece of a value that may refer to others. -/
inductive Piece where
  | char (c : Char)
  | reference (option : List Char)
  /-- A percent sign that begins nothing. -/
  | malformed

/-- The pieces of a value, up to the first malformed one; the fuel is its length. -/
def piecesFrom : Nat → List Char → List Piece
  | 0, _ => []
  | _, [] => []
  | fuel + 1, '%' :: '%' :: rest => .char '%' :: piecesFrom fuel rest
  | fuel + 1, '%' :: '(' :: rest =>
    let name := rest.takeWhile (· != ')')
    match name, rest.dropWhile (· != ')') with
    | _ :: _, ')' :: 's' :: rest => .reference (Text.lower name) :: piecesFrom fuel rest
    | _, _ => [.malformed]
  | _, '%' :: _ => [.malformed]
  | fuel + 1, c :: rest => .char c :: piecesFrom fuel rest

/-- The pieces of a value. -/
def pieces (value : List Char) : List Piece := piecesFrom value.length value

/-- The text of pieces, with references replaced up to a depth. -/
def replace (ini : Ini) (part : List Char) : Nat → List Piece → Except Problem (List Char)
  | _, [] => .ok []
  | depth, .char c :: rest => do return c :: (← replace ini part depth rest)
  | _, .malformed :: _ => .error .interpolationSyntax
  | depth, .reference option :: rest =>
    match ini.written? part option with
    | none => .error .interpolationMissing
    | some value => do
      let inner ←
        if value.contains '%' then
          match depth with
          | 0 => .error .interpolationDepth
          | depth + 1 => replace ini part depth (pieces value)
        else pure value
      return inner ++ (← replace ini part depth rest)
termination_by depth list => (depth, list.length)

/-- The greatest number of references inside each other. -/
def depthLimit : Nat := 9

/-- The value of an option with its references replaced, if the option exists. -/
def value? (ini : Ini) (part option : List Char) : Except Problem (Option (List Char)) :=
  match ini.written? part option with
  | none => .ok none
  | some value => some <$> ini.replace part depthLimit (pieces value)

end Ini

end ImageMetadata
