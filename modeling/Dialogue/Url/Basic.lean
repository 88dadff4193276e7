import Dialogue.Url.Percent

/-!
# Addresses

An address is a scheme, an authority, a path, a query and a fragment. Its parts are kept as they are
written out, and `Url.toText` puts them together.
-/

namespace Dialogue

/-- What is wrong with the text of an address. -/
inductive UrlFault where
  | emptyHost
  | badDomain
  | badPort
  | badAddress4
  | badAddress6
  | badHostCharacter
  | relative
  deriving DecidableEq, Repr

namespace UrlFault

/-- The wording of a mistake. -/
def message : UrlFault → String
  | emptyHost => "empty host"
  | badDomain => "invalid international domain name"
  | badPort => "invalid port number"
  | badAddress4 => "invalid IPv4 address"
  | badAddress6 => "invalid IPv6 address"
  | badHostCharacter => "invalid domain character"
  | relative => "relative URL without a base"

end UrlFault

/-- An address; the host is missing where the address has no authority, and empty where the authority
names none. -/
structure Url where
  scheme : String
  username : String
  password : Option String
  host : Option String
  port : Option Nat
  path : String
  query : Option String
  fragment : Option String
  deriving DecidableEq, Repr, Inhabited

namespace Url

/-- The user and the password in front of a host. -/
def credentialsText (u : Url) : String :=
  match u.username, u.password with
  | "", none => ""
  | name, none => name ++ "@"
  | name, some password => name ++ ":" ++ password ++ "@"

/-- An address as text. -/
def toText (u : Url) : String :=
  u.scheme ++ ":" ++
    (match u.host with
      | none => ""
      | some host =>
        "//" ++ u.credentialsText ++ host ++
          (match u.port with
            | none => ""
            | some port => ":" ++ toString port)) ++
    u.path ++
    (match u.query with
      | none => ""
      | some query => "?" ++ query) ++
    (match u.fragment with
      | none => ""
      | some fragment => "#" ++ fragment)

/-- Adds pairs to the query of an address; a query that stays empty is dropped. -/
def withPairs (u : Url) (pairs : List (String × String)) : Url :=
  let added := Percent.form (pairs.map fun (k, v) => (k.toList, v.toList))
  let before := (u.query.getD "").toList
  let query := if before = [] ∨ added = [] then before ++ added else before ++ '&' :: added
  { u with query := if query = [] then none else some (String.ofList query) }

/-- An address without the user and the password. -/
def withoutCredentials (u : Url) : Url := { u with username := "", password := none }

/-- What is sent of an address: its path and its query. -/
def target (u : Url) : String :=
  u.path ++ match u.query with
    | none => ""
    | some query => "?" ++ query

end Url

end Dialogue
