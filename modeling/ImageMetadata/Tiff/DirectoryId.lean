/-!
# Directory identifiers

A directory of a TIFF stream is known by its place in the stream. There are ten places in the main
chain, ten for subordinate image directories, and one for each of the three private directories.
-/

namespace ImageMetadata.Tiff

/-- The place of a directory in its stream. -/
inductive DirectoryId where
  | ifd (n : Fin 10)
  | subIfd (n : Fin 10)
  | exif
  | gps
  | interop
  deriving DecidableEq, Repr

namespace DirectoryId

/-- The name of a place. -/
def name : DirectoryId → String
  | ifd n => "IFD" ++ toString n.val
  | subIfd n => "SUBIFD" ++ toString n.val
  | exif => "EXIF"
  | gps => "GPS"
  | interop => "INTEROP"

/-- Every place, in the order in which names are searched. -/
def all : List DirectoryId :=
  (List.finRange 10).map ifd ++ (List.finRange 10).map subIfd ++ [exif, gps, interop]

/-- The place of a number in the main chain. -/
def ifd? (n : Int) : Option DirectoryId :=
  if h : 0 ≤ n ∧ n < 10 then some (ifd ⟨n.toNat, by omega⟩) else none

/-- The place of a number among the subordinate image directories. -/
def subIfd? (n : Int) : Option DirectoryId :=
  if h : 0 ≤ n ∧ n < 10 then some (subIfd ⟨n.toNat, by omega⟩) else none

/-- Whether the place is in the main chain. -/
def isIfd : DirectoryId → Bool
  | ifd _ => true
  | _ => false

/-- Whether the place is that of a subordinate image directory. -/
def isSubIfd : DirectoryId → Bool
  | subIfd _ => true
  | _ => false

/-- The place that the next pointer of a directory leads to, where the place alone decides it. -/
def next : DirectoryId → Option DirectoryId
  | ifd n => ifd? (n.val + 1)
  | _ => none

/-- The place with exactly the given name. -/
def ofName? (text : String) : Option DirectoryId := all.find? fun id => id.name == text

/-- The capital form of a character, as far as it can occur in a name. -/
def capital (c : Char) : Char :=
  if c = 'ı' then 'I' else if c = 'ſ' then 'S' else c.toUpper

/-- The place with the given name in any mixture of capital and small letters. -/
def lookup? (text : String) : Option DirectoryId :=
  ofName? (String.ofList (text.toList.map capital))

theorem mem_all (id : DirectoryId) : id ∈ all := by
  cases id <;> simp [all]

theorem all_length : all.length = 23 := rfl

@[simp] theorem ofName?_name (id : DirectoryId) : ofName? id.name = some id := by
  cases id with
  | ifd n => revert n; decide
  | subIfd n => revert n; decide
  | exif => decide
  | gps => decide
  | interop => decide

end DirectoryId

end ImageMetadata.Tiff
