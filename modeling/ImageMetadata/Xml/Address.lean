/-!
# Namespace addresses

A namespace is identified by a reference to a resource: an address with or without a scheme, an
authority, a path, a query and a fragment. Only its form is checked.
-/

namespace ImageMetadata.Xml.Address

/-- Whether a character stands for itself in every part of an address. -/
def isPlain (c : Char) : Bool := c.isAlphanum || "-._~!$&'()*+,;=".toList.contains c

/-- Whether a character is a hexadecimal digit. -/
def isHexDigit (c : Char) : Bool :=
  c.isDigit || ('a' ≤ c && c ≤ 'f') || ('A' ≤ c && c ≤ 'F')

/-- Whether a part consists of plain characters, of some others, and of escapes by a percent sign.
-/
def isPart (others : List Char) : List Char → Bool
  | [] => true
  | '%' :: a :: b :: rest => isHexDigit a && isHexDigit b && isPart others rest
  | c :: rest => (isPlain c || others.contains c) && isPart others rest

/-- The text before the first occurrence of a character, and the text after it if there is one. -/
def splitAt (mark : Char) (text : List Char) : List Char × Option (List Char) :=
  (text.takeWhile (· != mark),
    match text.dropWhile (· != mark) with
    | [] => none
    | _ :: rest => some rest)

/-- Whether a text is a host, behind which a colon and digits may stand. -/
def isHost (text : List Char) : Bool :=
  match text with
  | '[' :: rest =>
    match splitAt ']' rest with
    | (_, some []) => true
    | (_, some (':' :: digits)) => digits.all Char.isDigit
    | _ => false
  | _ =>
    match splitAt ':' text with
    | (host, digits) => isPart [] host && (digits.getD []).all Char.isDigit

/-- Whether a text is an authority: a host that a user may stand before. -/
def isAuthority (text : List Char) : Bool :=
  match splitAt '@' text with
  | (user, some host) => isPart [':'] user && isHost host
  | (host, none) => isHost host

/-- Whether a text is an authority and a path, or only a path. -/
def isHierarchy (text : List Char) : Bool :=
  match text with
  | '/' :: '/' :: rest =>
    isAuthority (rest.takeWhile (· != '/')) && isPart ['@', ':', '/'] (rest.dropWhile (· != '/'))
  | _ => isPart ['@', ':', '/'] text

/-- Whether a text is a scheme. -/
def isScheme (text : List Char) : Bool :=
  (text.head?.map Char.isAlpha).getD false &&
    text.all fun c => c.isAlphanum || c = '+' || c = '-' || c = '.'

/-- Whether a text is an address without query and fragment: with a scheme, or relative and then
without a colon in its first segment. -/
def isBody (text : List Char) : Bool :=
  let (first, rest) := splitAt ':' text
  match rest with
  | some rest => (isScheme first && isHierarchy rest) || (first.contains '/' && isHierarchy text)
  | none => isHierarchy text

/-- Whether a text has the form of an address. -/
def isValid (text : List Char) : Bool :=
  let (beforeFragment, fragment) := splitAt '#' text
  let (body, query) := splitAt '?' beforeFragment
  isBody body && isPart [':', '@', '/', '?'] (query.getD []) &&
    isPart [':', '@', '/', '?', '[', ']'] (fragment.getD [])

end ImageMetadata.Xml.Address
