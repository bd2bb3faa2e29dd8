import ImageMetadata.Decimal
import ImageMetadata.Text.Quoted

/-!
# Dynamic values

An option is set to a value of any shape. The shape decides whether the value counts as true, and
every value has a text that names it in messages.
-/

namespace ImageMetadata

/-- A value of any shape. -/
inductive Literal where
  | null
  | bool (b : Bool)
  | integer (n : Int)
  | real (x : Float)
  | text (s : String)
  | list (items : List Literal)
  | object (fields : List (String × Literal))
  deriving Inhabited

namespace Literal

/-- Whether a value counts as true: all do but the empty ones, zero, and the absent value. -/
def truth : Literal → Bool
  | null => false
  | bool b => b
  | integer n => n != 0
  | real x => x != 0
  | text s => !s.isEmpty
  | list items => !items.isEmpty
  | object fields => !fields.isEmpty

mutual

/-- The text that names a value. -/
def render : Literal → String
  | null => "None"
  | bool true => "True"
  | bool false => "False"
  | integer n => toString n
  | real x => Decimal.shortest x
  | text s => Text.Quoted.text s.toList
  | list items => "[" ++ String.intercalate ", " (renderItems items) ++ "]"
  | object fields => "\x7b" ++ String.intercalate ", " (renderFields fields) ++ "\x7d"

/-- The texts that name the values of a list. -/
def renderItems : List Literal → List String
  | [] => []
  | item :: rest => item.render :: renderItems rest

/-- The texts that name the fields of an object. -/
def renderFields : List (String × Literal) → List String
  | [] => []
  | (key, value) :: rest =>
    (Text.Quoted.text key.toList ++ ": " ++ value.render) :: renderFields rest

end

end Literal

end ImageMetadata
