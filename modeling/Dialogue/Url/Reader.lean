import Dialogue.Url.Host

/-!
# Reading addresses

An address needs a scheme. After one of the known schemes an authority follows, however many slashes
stand before it; after another scheme only two slashes begin one.
-/

namespace Dialogue.Url

open Text

/-- How the rest of an address is read after its scheme. -/
inductive SchemeKind where
  | known
  | file
  | other
  deriving DecidableEq

/-- The kind of a scheme. -/
def schemeKind (scheme : List Char) : SchemeKind :=
  match String.ofList scheme with
  | "http" | "https" | "ws" | "wss" | "ftp" => .known
  | "file" => .file
  | _ => .other

/-- The port that a scheme has where none is given. -/
def usualPort? (scheme : List Char) : Option Nat :=
  match String.ofList scheme with
  | "http" | "ws" => some 80
  | "https" | "wss" => some 443
  | "ftp" => some 21
  | _ => none

/-- The scheme of an address in lower case, and what follows its colon. -/
def scheme? (cs : List Char) : Option (List Char × List Char) :=
  match cut? [':'] cs with
  | some (c :: more, rest) =>
    if isAsciiLetter c && more.all fun d =>
        isAsciiLetter d || isDigit d || d == '+' || d == '-' || d == '.' then
      some (lowerAscii (c :: more), rest)
    else none
  | _ => none

/-- Whether a character ends an authority. -/
def endsAuthority (kind : SchemeKind) (c : Char) : Bool :=
  c == '/' || c == '?' || c == '#' || (kind != .other && c == '\\')

/-- Whether a character stands for itself in the name of a user. -/
def isUserChar (c : Char) : Bool :=
  isPlain c && !(" \"<>\x60#?\x7b\x7d/:;=@[\\]^|".toList.contains c)

/-- Whether a character stands for itself in a path. -/
def isPathChar (c : Char) : Bool := isPlain c && !(" \"<>\x60#?\x7b\x7d".toList.contains c)

/-- Whether a character stands for itself in a query. -/
def isQueryChar (kind : SchemeKind) (c : Char) : Bool :=
  isPlain c && !(" \"#<>".toList.contains c) && (kind == .other || c != '\'')

/-- Whether a character stands for itself in a fragment. -/
def isFragmentChar (c : Char) : Bool := isPlain c && !(" \"<>\x60".toList.contains c)

/-- The part of an authority up to its last at sign, and what follows it. -/
def userPart (authority : List Char) : Option (List Char × List Char) :=
  if authority.contains '@' then
    let host := (authority.reverse.takeWhile (· ≠ '@')).reverse
    some (authority.take (authority.length - host.length - 1), host)
  else none

/-- The host in an authority, up to a colon outside of brackets, and what follows it. -/
def hostPart : (inside : Bool) → List Char → List Char × List Char
  | _, [] => ([], [])
  | inside, c :: cs =>
    if c = ':' ∧ !inside then ([], c :: cs)
    else
      let (host, rest) := hostPart (if c = '[' then true else if c = ']' then false else inside) cs
      (c :: host, rest)

/-- A port after its colon. -/
def readPort (scheme : List Char) : List Char → Except UrlFault (Option Nat)
  | [] => .ok none
  | ':' :: digits =>
    if !digits.all isDigit then .error .badPort
    else if digits = [] then .ok none
    else
      let n := natOfDigits digits
      if 65535 < n then .error .badPort
      else .ok (if usualPort? scheme = some n then none else some n)
  | _ => .error .badPort

/-- Whether a segment of a path means the directory itself. -/
def isSingleDot (segment : List Char) : Bool :=
  ["." , "%2e"].contains (String.ofList (lowerAscii segment))

/-- Whether a segment of a path means the directory above. -/
def isDoubleDot (segment : List Char) : Bool :=
  ["..", ".%2e", "%2e.", "%2e%2e"].contains (String.ofList (lowerAscii segment))

/-- The segments of a path after dots are resolved; `done` holds the segments before, nearest
first. -/
def resolveDots (done : List (List Char)) : List (List Char) → List (List Char)
  | [] => done.reverse
  | [last] =>
    if isDoubleDot last then ([] :: done.tail).reverse
    else if isSingleDot last then ([] :: done).reverse
    else (last :: done).reverse
  | segment :: more =>
    if isDoubleDot segment then resolveDots done.tail more
    else if isSingleDot segment then resolveDots done more
    else resolveDots (segment :: done) more

/-- A path with dots resolved and its characters encoded, from what stands after the authority. -/
def readPath (kind : SchemeKind) (cs : List Char) : List Char :=
  let isSlash (c : Char) : Bool := c == '/' || (kind != .other && c == '\\')
  let body := match cs with
    | [] => []
    | c :: rest => if isSlash c then rest else c :: rest
  if cs = [] ∧ kind = .other then []
  else
    let segments := resolveDots [] (pieces isSlash body)
    segments.flatMap fun segment => '/' :: Percent.encode isPathChar segment

/-- The query and the fragment at the end of an address, and what stands before them. -/
def readTail (kind : SchemeKind) (cs : List Char) :
    List Char × Option (List Char) × Option (List Char) :=
  let front := cs.takeWhile (· ≠ '#')
  let fragment := match cs.dropWhile (· ≠ '#') with
    | [] => none
    | _ :: rest => some (Percent.encode isFragmentChar rest)
  let query := match front.dropWhile (· ≠ '?') with
    | [] => none
    | _ :: rest => some (Percent.encode (isQueryChar kind) rest)
  (front.takeWhile (· ≠ '?'), query, fragment)

/-- The user and the password of an authority. -/
def readUser (cs : List Char) : List Char × Option (List Char) :=
  let name := Percent.encode isUserChar (cs.takeWhile (· ≠ ':'))
  match cs.dropWhile (· ≠ ':') with
  | [] => (name, none)
  | [_] => (name, none)
  | _ :: password => (name, some (Percent.encode isUserChar password))

/-- What follows the slashes of an address with an authority. -/
def readAuthority (kind : SchemeKind) (scheme cs : List Char) : Except UrlFault Url := do
  let authority := cs.takeWhile fun c => !endsAuthority kind c
  let rest := cs.dropWhile fun c => !endsAuthority kind c
  let (user, afterUser) := match userPart authority with
    | none => (none, authority)
    | some (user, host) => (some user, host)
  if user = some [] ∧ afterUser = [] ∧ rest ≠ [] then throw .emptyHost
  let (hostText, portText) := hostPart false afterUser
  if kind = .known ∧ hostText = [] then throw .emptyHost
  let host ← if kind = .other then readOpaqueHost hostText else readHost hostText
  if host = [] ∧ portText ≠ [] then throw .emptyHost
  let port ← readPort scheme portText
  let (name, password) := readUser (user.getD [])
  if host = [] ∧ (name ≠ [] ∨ password.isSome) then throw .emptyHost
  let (path, query, fragment) := readTail kind rest
  return {
    scheme := String.ofList scheme
    username := String.ofList name
    password := password.map String.ofList
    host := some (String.ofList host)
    port
    path := String.ofList (readPath kind path)
    query := query.map String.ofList
    fragment := fragment.map String.ofList }

/-- Whether a host is the letter of a drive. -/
def isDrive : List Char → Bool
  | [c, d] => isAsciiLetter c && (d == ':' || d == '|')
  | _ => false

/-- What follows the scheme of a file. -/
def readFile (cs : List Char) : Except UrlFault Url := do
  let isSlash (c : Char) : Bool := c == '/' || c == '\\'
  let plain (host : List Char) (rest : List Char) : Url :=
    let (path, query, fragment) := readTail .file rest
    { scheme := "file", username := "", password := none, host := some (String.ofList host)
      port := none, path := String.ofList (readPath .file path)
      query := query.map String.ofList, fragment := fragment.map String.ofList }
  match cs with
  | a :: b :: rest =>
    if isSlash a ∧ isSlash b then
      let host := rest.takeWhile fun c => !endsAuthority .file c
      let after := rest.dropWhile fun c => !endsAuthority .file c
      if isDrive host then return plain [] ('/' :: rest)
      else if host = [] then return plain [] after
      else
        let host ← readHost host
        return plain (if host = "localhost".toList then [] else host) after
    else return plain [] cs
  | cs => return plain [] cs

/-- An address without an authority. -/
def readPlain (scheme cs : List Char) : Url :=
  let (path, query, fragment) := readTail .other cs
  let path := match path with
    | '/' :: _ => readPath .other path
    | path => Percent.encode isPlain path
  { scheme := String.ofList scheme, username := "", password := none, host := none, port := none
    path := String.ofList path, query := query.map String.ofList
    fragment := fragment.map String.ofList }

/-- The address that characters write. -/
def readChars (cs : List Char) : Except UrlFault Url :=
  let outer (c : Char) : Bool := c.toNat ≤ 32
  let cs := dropEndWhile outer (cs.dropWhile outer)
  let cs := cs.filter fun c => c != '\t' && c != '\n' && c != '\r'
  match scheme? cs with
  | none => .error .relative
  | some (scheme, rest) =>
    match schemeKind scheme with
    | .known => readAuthority .known scheme (rest.dropWhile fun c => c == '/' || c == '\\')
    | .file => readFile rest
    | .other =>
      match after? ['/', '/'] rest with
      | some rest => readAuthority .other scheme rest
      | none => .ok (readPlain scheme rest)

/-- The address that a text writes. -/
def read (text : String) : Except UrlFault Url := readChars text.toList

end Dialogue.Url
