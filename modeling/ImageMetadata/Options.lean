import ImageMetadata.Literal
import ImageMetadata.Problem

/-!
# Options

There are three options. Each has an initial value, to which it can be reset, and a current one. The
depth limit is always a positive integer. A reader works by a policy, which the options fill in
where the caller does not decide.
-/

namespace ImageMetadata

/-- The values of the options. -/
structure Options where
  strict : Literal
  maxDepth : Int
  short : Literal

/-- How a reader works. -/
structure Policy where
  /-- Whether integrity problems are failures. -/
  strict : Bool
  /-- The greatest depth that is read. -/
  limit : Int
  deriving DecidableEq, Repr

namespace Options

/-- The values without any settings. -/
def standard : Options := ⟨.bool false, 32, .bool false⟩

/-- The names of the options. -/
inductive Name where
  | strict
  | maxDepth
  | short
  deriving DecidableEq, Repr

/-- The text of a name. -/
def Name.text : Name → String
  | strict => "parse.strict"
  | maxDepth => "parse.max_depth"
  | short => "print.short"

/-- The name with a given text. -/
def Name.ofText? (text : String) : Option Name :=
  [Name.strict, .maxDepth, .short].find? fun name => name.text == text

/-- The value of an option. -/
def value (o : Options) : Name → Literal
  | .strict => o.strict
  | .maxDepth => .integer o.maxDepth
  | .short => o.short

/-- The options with one value taken over from others. -/
def restore (o initial : Options) : Name → Options
  | .strict => { o with strict := initial.strict }
  | .maxDepth => { o with maxDepth := initial.maxDepth }
  | .short => { o with short := initial.short }

/-- Changes the value of an option; only the depth limit is checked. -/
def change (o : Options) (name : Name) (value : Literal) : Except Problem Options :=
  match name with
  | .strict => .ok { o with strict := value }
  | .short => .ok { o with short := value }
  | .maxDepth =>
    match value with
    | .integer n => if n < 1 then .error (.depthOption value) else .ok { o with maxDepth := n }
    | _ => .error (.depthOption value)

/-- Fills in what the caller leaves open. -/
def resolve (o : Options) (strict maxDepth : Literal) : Bool × Literal :=
  let strict := match strict with
    | .null => o.strict
    | given => given
  let maxDepth := match maxDepth with
    | .null => .integer o.maxDepth
    | given => given
  (strict.truth, maxDepth)

/-- The policy of a reader. -/
def policy (o : Options) (strict : Literal) (limit : Option Int) : Policy :=
  ⟨(o.resolve strict .null).1, limit.getD o.maxDepth⟩

end Options

/-- The options with the values that they can be reset to. -/
structure OptionStore where
  initial : Options
  current : Options

namespace OptionStore

/-- A store in which every option has its initial value. -/
def ofOptions (o : Options) : OptionStore := ⟨o, o⟩

/-- Sets an option. -/
def set (s : OptionStore) (key : String) (value : Literal) : Except Problem OptionStore :=
  match Options.Name.ofText? key with
  | none => .error (.invalidOption key)
  | some name => (s.current.change name value).map fun o => { s with current := o }

/-- The value of an option. -/
def get (s : OptionStore) (key : String) : Except Problem Literal :=
  match Options.Name.ofText? key with
  | none => .error (.missingOption key)
  | some name => .ok (s.current.value name)

/-- Resets an option, or all of them. -/
def reset (s : OptionStore) (key : String) : Except Problem OptionStore :=
  if key = "all" then .ok { s with current := s.initial }
  else
    match Options.Name.ofText? key with
    | none => .error (.invalidOption key)
    | some name => .ok { s with current := s.current.restore s.initial name }

end OptionStore

end ImageMetadata
