import Gatehouse.Encoding.Percent
import Gatehouse.Net.IpAddress
/-!
Addresses of resources, taken apart into scheme, user, password, host, port, path and query. Blanks
and controls around an address do not count, nor do tabs and line breaks inside. A few schemes are
special: for them a backslash is as good as a slash, and there has to be a host, which names a
machine; for all others the host may be any text without delimiters, or none.
-/

namespace Gatehouse.Net

open Text Encoding

/-- An address, with its parts as they are written. -/
structure Url where
  scheme : String
  user : List Char := []
  password : Option (List Char) := none
  host : Option (List Char) := none
  port : Option Nat := none
  path : List Char := []
  query : Option (List Char) := none
deriving DecidableEq, Repr

namespace Url

/-- The schemes whose addresses always have a host. -/
def hosted : List String := ["http", "https", "ws", "wss", "ftp"]

def isSpecial (scheme : String) : Bool := scheme == "file" || hosted.contains scheme

/-- The text without what does not count. -/
def clean (cs : List Char) : List Char :=
  let isEdge (c : Char) : Bool := c ≤ ' '
  let core := ((cs.dropWhile isEdge).reverse.dropWhile isEdge).reverse
  core.filter fun c => c != '\t' && c != '\n' && c != '\r'

/-- Whether a character may stand in a scheme after its first letter. -/
def isSchemeCharacter (c : Char) : Bool :=
  isLetter c || isDigit c || c == '+' || c == '-' || c == '.'

/-- The scheme of an address, in lower case, and what follows its colon. -/
def splitScheme? (cs : List Char) : Option (String × List Char) :=
  let name := cs.takeWhile isSchemeCharacter
  match name, cs.drop name.length with
  | c :: _, ':' :: rest =>
    if isLetter c then some (String.ofList (name.map lowerAscii), rest) else none
  | _, _ => none

/-- The part of a text before the first character with a property, and the rest of it. -/
def breakAt (p : Char → Bool) (cs : List Char) : List Char × List Char :=
  (cs.takeWhile fun c => !p c, cs.dropWhile fun c => !p c)

/-- The path of an address, and its query if it has one. What follows a number sign is neither. -/
def pathAndQuery (cs : List Char) : List Char × Option (List Char) :=
  let (upToFragment, _) := breakAt (· == '#') cs
  match breakAt (· == '?') upToFragment with
  | (path, _ :: query) => (path, some query)
  | (path, []) => (path, none)

/-- The user and the password before the last at sign of an authority, and what follows the sign. -/
def splitUser (authority : List Char) : List Char × Option (List Char) × List Char :=
  match breakAt (· == '@') authority.reverse with
  | (host, _ :: userinfo) =>
    match breakAt (· == ':') userinfo.reverse with
    | (user, _ :: password) =>
      (user, if password.isEmpty then none else some password, host.reverse)
    | (user, []) => (user, none, host.reverse)
  | (_, []) => ([], none, authority)

/-- The host at the start of what follows the user: up to a colon that is not in brackets. -/
def splitHost : (inBrackets : Bool) → List Char → List Char × List Char
  | _, [] => ([], [])
  | inBrackets, c :: rest =>
    if c == ':' && !inBrackets then ([], c :: rest)
    else
      let (host, after) := splitHost (c == '[' || (inBrackets && c != ']')) rest
      (c :: host, after)

/-- Reads a port. An empty one is no port. -/
def port? (cs : List Char) : Option (Option Nat) :=
  if cs.isEmpty then some none
  else match natOfDigits? cs with
    | some n => if n < 65536 then some (some n) else none
    | none => none

/-- Whether a host between brackets is an address of the newer kind; none if it has no brackets. -/
def isBracketed? : List Char → Option Bool
  | '[' :: rest => some (match rest.reverse with
    | ']' :: inner => (IpAddress.parseV6? inner.reverse).isSome
    | _ => false)
  | _ => none

/-- The characters that no host of any scheme may contain. -/
def hostDelimiters : List Char :=
  ['\x00', '\t', '\n', '\r', ' ', '#', '/', ':', '<', '>', '?', '@', '[', '\\', ']', '^', '|']

/-- Whether a text may be the host of an address with a scheme that is not special. -/
def isOpaqueHost (cs : List Char) : Bool :=
  (isBracketed? cs).getD (cs.all fun c => !hostDelimiters.contains c)

/-- Whether a text is a number of an address of the older kind in its loose form: decimal, or with a
zero or `0x` in front. -/
def looseNumber? (cs : List Char) : Option Nat :=
  match cs with
  | '0' :: 'x' :: digits => hexNumber? digits
  | '0' :: digits =>
    if digits.all fun c => '0' ≤ c && c ≤ '7' then
      some (digits.foldl (fun n c => 8 * n + digitValue c) 0)
    else none
  | digits => natOfDigits? digits

/-- Whether parts between dots make an address of the older kind in its loose form. -/
def isLooseAddress (parts : List (List Char)) : Bool :=
  match parts.mapM looseNumber? with
  | none => false
  | some numbers => match numbers.reverse with
    | [] => false
    | last :: others =>
      numbers.length ≤ 4 && others.all (· ≤ 255) && last < Nat.pow 256 (5 - numbers.length)

/-- Whether a text names a machine. A name whose last part is a number has to be an address. -/
def isMachine (cs : List Char) : Bool :=
  match isBracketed? cs, percentDecodeText? cs with
  | some ok, _ => ok
  | none, none => false
  | none, some name =>
    let name := name.toList.map lowerAscii
    let isForbidden (c : Char) : Bool :=
      hostDelimiters.contains c || c == '%' || c < ' ' || c == '\x7f'
    let parts := splitOn (· == '.') name
    let parts := if parts.getLast? == some [] && 1 < parts.length then parts.dropLast else parts
    let last := parts.getLast?.getD []
    let endsInNumber := !last.isEmpty && (last.all isDigit ||
      ((afterStart? ['0', 'x'] last).any fun d => (hexNumber? d).isSome))
    !name.isEmpty && !name.any isForbidden && (!endsInNumber || isLooseAddress parts)

/-- Whether a text may be the host of an address. -/
def isHost (scheme : String) (cs : List Char) : Bool :=
  if hosted.contains scheme then isMachine cs
  else if scheme == "file" then cs.isEmpty || isMachine cs
  else isOpaqueHost cs

/-- Reads what follows the slashes in front of an authority. -/
def withAuthority? (scheme : String) (cs : List Char) : Option Url := do
  let isEnd (c : Char) : Bool :=
    c == '/' || c == '?' || c == '#' || (c == '\\' && isSpecial scheme)
  let (authority, rest) := breakAt isEnd cs
  let (user, password, host) := splitUser authority
  let (host, afterHost) := splitHost false host
  let port ← port? (afterHost.drop 1)
  if !isHost scheme host then none
  else if host.isEmpty && (!user.isEmpty || password.isSome || !afterHost.isEmpty ||
    (authority == ['@'] && !rest.isEmpty)) then none
  else
    let (path, query) := pathAndQuery rest
    return { scheme, user, password, host := if host.isEmpty then none else some host, port, path,
             query }

/-- Reads an address that stands on its own. -/
def parse? (s : String) : Option Url := do
  let (scheme, rest) ← splitScheme? (clean s.toList)
  match rest with
  | '/' :: '/' :: rest =>
    if hosted.contains scheme then
      withAuthority? scheme (rest.dropWhile fun c => c == '/' || c == '\\')
    else withAuthority? scheme rest
  | rest =>
    if hosted.contains scheme then
      withAuthority? scheme (rest.dropWhile fun c => c == '/' || c == '\\')
    else
      let (path, query) := pathAndQuery rest
      return { scheme, path, query }

/-! ## Queries -/

/-- A name or value in a query, in which a plus sign stands for a space. Bytes that make no text
leave a mark. -/
def queryText (cs : List Char) : String :=
  (percentDecodeText? (cs.map fun c => if c == '+' then ' ' else c)).getD "\ufffd"

/-- The names in a query with their values. -/
def queryPairs (query : List Char) : List (String × String) :=
  (splitOn (· == '&') query).filter (!·.isEmpty) |>.map fun pair =>
    let (name, value) := breakAt (· == '=') pair
    (queryText name, queryText (value.drop 1))

end Url

end Gatehouse.Net
