import Dialogue.Flow.Basic
import Dialogue.Text.Base64
import Dialogue.Url.Reader
import Dialogue.Value.Written

/-!
# Requests over a network

A request is built in steps, from its address to its body, and the first step that cannot be made
settles that the request cannot be built. A user and a password in the address are taken out of it and
are sent in a header.
-/

namespace Dialogue

open Text

/-- Why nothing comes back for a request: it cannot be built, its address is no address of the web, or
it could not be delivered. -/
inductive SendFault where
  | unbuildable
  | notWeb (address : Url)
  | undelivered (address : Url)
  deriving DecidableEq, Repr

/-- The wording of a fault. -/
def SendFault.message : SendFault → String
  | unbuildable => "builder error"
  | notWeb address => "builder error for url (" ++ address.toText ++ ")"
  | undelivered address => "error sending request for url (" ++ address.toText ++ ")"

/-- A request over a network. -/
structure HttpRequest where
  method : Method
  address : Url
  headers : List (String × String)
  body : Option String
  deriving DecidableEq, Repr

namespace HttpRequest

/-- The characters in the names of headers. -/
def isNameChar (c : Char) : Bool :=
  isDigit c || isAsciiLetter c || "!#$%&'*+-.^_\x60|~".toList.contains c

/-- The characters in the values of headers. -/
def isValueChar (c : Char) : Bool := c == '\t' || (' ' ≤ c && c != '\x7f')

/-- The characters in the authority of an address that is sent. -/
def isHostChar (c : Char) : Bool :=
  isDigit c || isAsciiLetter c || "!#$&'()*+,-./:;=?@[]_~%".toList.contains c

/-- Adds a header. -/
def withHeader (name value : String) (r : HttpRequest) : Except SendFault HttpRequest :=
  if name.toList ≠ [] ∧ name.toList.all isNameChar = true ∧ value.toList.all isValueChar = true then
    .ok { r with headers := r.headers ++ [(name.map Char.toLower, value)] }
  else .error .unbuildable

/-- Adds headers, one after the other. -/
def withHeaders (headers : List (String × String)) (r : HttpRequest) :
    Except SendFault HttpRequest :=
  headers.foldlM (fun r header => r.withHeader header.1 header.2) r

/-- Adds pairs to the query of the address. -/
def withQuery (pairs : List (String × String)) (r : HttpRequest) : HttpRequest :=
  { r with address := r.address.withPairs pairs }

/-- The header of a user with a password. -/
def basic (username : List UInt8) (password : Option (List UInt8)) : String :=
  "Basic " ++ String.ofList (Base64.encode (username ++ 58 :: password.getD []))

/-- The header of a bearer of a token. -/
def bearer (token : String) : String := "Bearer " ++ token

/-- A request without headers and body to an address, which has to name a host. -/
def addressed (method : Method) (address : String) : Except SendFault HttpRequest :=
  match Url.read address with
  | .error _ => .error .unbuildable
  | .ok url =>
    if url.host.getD "" = "" then .error (.notWeb url)
    else
      let r : HttpRequest := ⟨method, url.withoutCredentials, [], none⟩
      if url.username = "" ∧ url.password = none then .ok r
      else
        r.withHeader "authorization" (basic (Percent.decode url.username.toList)
          (url.password.map fun p => Percent.decode p.toList))

/-- Adds a document as the body, and the type of the body unless a header declares it. -/
def withBody (body : Value) (r : HttpRequest) : HttpRequest :=
  let declared := r.headers.any (·.1 == "content-type")
  { r with
    headers := if declared then r.headers else r.headers ++ [("content-type", "application/json")]
    body := some body.compact }

/-- A request that can be sent: the address is one of the web. -/
def ready (r : HttpRequest) : Except SendFault HttpRequest :=
  if ["http", "https"].contains r.address.scheme ∧ (r.address.host.getD "").toList.all isHostChar then
    .ok r
  else .error (.notWeb r.address)

end HttpRequest

end Dialogue
