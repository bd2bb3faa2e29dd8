import ImageMetadata.Ini
import ImageMetadata.Options
import ImageMetadata.Outcome

/-!
# Settings

A settings file may give the reading options other values to start from. If one of its values makes
no sense, the whole section is ignored with a notice. The file is looked for in the working
directory first and then in a directory that the environment names.
-/

namespace ImageMetadata

/-- The values that a settings file provides. -/
structure Settings where
  strict : Option Bool
  maxDepth : Option Int
  deriving DecidableEq, Repr

namespace Settings

/-- The section of the reading options. -/
def part : List Char := "parse".toList

/-- The texts that stand for a truth value. -/
def booleans : List (String × Bool) :=
  [("1", true), ("yes", true), ("true", true), ("on", true), ("0", false), ("no", false),
    ("false", false), ("off", false)]

/-- The truth value that a text stands for, in capital or small letters. -/
def boolean (text : List Char) : Except Problem Bool :=
  match booleans.lookup (String.ofList (Text.lower text)) with
  | some b => .ok b
  | none => .error (.notBoolean (String.ofList text))

/-- The depth limit that a text stands for. -/
def depth (text : List Char) : Except Problem Int :=
  match Text.IntegerLiteral.read text with
  | .error fault => .error (.integerText fault)
  | .ok n => if n < 1 then .error (.depthSetting n) else .ok n

/-- The values that the section of the reading options provides. -/
def ofIni (ini : Ini) : Except Problem Settings := do
  let strict ← (← ini.value? part "strict".toList).mapM boolean
  let maxDepth ← (← ini.value? part "max_depth".toList).mapM depth
  return ⟨strict, maxDepth⟩

/-- Reads the settings file at a path. -/
def read (path : String) (text : List Char) : Outcome Settings := do
  let ini ← Outcome.ofExcept (Ini.read text)
  if !ini.parts.contains part then return ⟨none, none⟩
  else
    match ofIni ini with
    | .ok settings => return settings
    | .error p =>
      if p.kind = .value then
        Outcome.notify (.ignoredSettings path p)
        return ⟨none, none⟩
      else Outcome.fail p

/-- The options that start from the settings. -/
def options (s : Settings) : Options :=
  { Options.standard with
    strict := (s.strict.map Literal.bool).getD Options.standard.strict
    maxDepth := s.maxDepth.getD Options.standard.maxDepth }

end Settings

/-- What the environment says about the place of settings files. -/
structure Environment where
  /-- The directory for the settings of all programs, if one is set. -/
  configHome : Option String
  /-- The home directory that a variable names, if it is set. -/
  home : Option String
  platform : String

namespace Environment

/-- The path of a file in a directory; the empty path is that of the directory at hand. -/
def inside (directory name : String) : String :=
  if directory.isEmpty then name else directory ++ "/" ++ name

/-- The name of a settings file. -/
def fileName : String := "picmetarc"

/-- The directory of the settings. It is in the user's own directory, as the system knows it, if no
variable counts; on Windows the variable for the home directory does not. A system that knows no
other directory takes the one that the variable names. -/
def settingsDirectory (e : Environment) (own : String := e.home.getD "~") : String :=
  match e.configHome, e.home with
  | some directory, _ => inside directory "picmeta"
  | none, some home =>
    if e.platform = "Windows" then inside own "picmeta"
    else inside (inside home ".config") "picmeta"
  | none, none => inside own "picmeta"

/-- The paths at which a settings file may be, the first one that exists counts. -/
def candidates (e : Environment) (working : String) (own : String := e.home.getD "~") :
    List String :=
  [inside working fileName, inside (e.settingsDirectory own) fileName]

/-- The settings file that counts, among files that exist. -/
def settingsFile? (e : Environment) (working : String) (files : List (String × List Char))
    (own : String := e.home.getD "~") : Option (String × List Char) :=
  (e.candidates working own).findSome? fun path => (files.lookup path).map fun text => (path, text)

/-- The settings of the file that counts; there are none without a file. -/
def settings (e : Environment) (working : String) (files : List (String × List Char))
    (own : String := e.home.getD "~") : Outcome Settings :=
  match e.settingsFile? working files own with
  | some (path, text) => Settings.read path text
  | none => return ⟨none, none⟩

end Environment

end ImageMetadata
