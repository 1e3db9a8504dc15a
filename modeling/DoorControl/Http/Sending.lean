/- What becomes of requests on their way: where they go, and whose authorization they carry. -/
import DoorControl.Http.Url

namespace DoorControl.Http

/-- Whether a text can be the value of a header. -/
def isHeaderValue (s : String) : Bool :=
  s.toList.all (fun c => (32 ≤ c.toNat && c.toNat ≠ 127) || c = '\t')

/-- Header values arrive without blanks around them. -/
def arrivedValue (v : String) : String :=
  let outer := fun c : Char => c = ' ' || c = '\t'
  String.ofList ((v.toList.dropWhile outer).reverse.dropWhile outer).reverse

/-- A request that can be sent. -/
structure Sending where
  url : Url
  authorization : Option String

namespace Sending

/-- The longest address that a request can carry. -/
def maxLength : Nat := 65534

/-- Whether a request can carry an address: its scheme is one of the web, and it is neither too long nor
has it a host with marks that no request names. -/
def isSendable (u : Url) : Bool :=
  let stray := "\"\x60\x7b\x7d".toList
  ["http".toList, "https".toList].contains u.scheme && u.render.length ≤ maxLength &&
    !((u.authority.map (·.host.any stray.contains)).getD false)

/-- What is sent for a request. An address without a host fails first, then a value that no header can
have, then an address that cannot be carried. The account in an address counts as authorization unless the
request has one of its own, and is no part of the address that is sent to. -/
def ofRequest (r : Request) : Except Failure Sending :=
  match Url.parse? r.url with
  | none => .error (.unusable none)
  | some url =>
      if !url.hasHost then .error (.unusable (some url.render))
      else if !(r.authorization.map isHeaderValue).getD true then .error (.unusable none)
      else
        let account := url.authority.bind Authority.credentials?
        let url := if account.isSome then url.anonymous else url
        let own := account.map (fun (user, password) => basicAuthorization user (password.getD ""))
        if isSendable url then .ok { url, authorization := r.authorization.or own }
        else .error (.unusable (some url.render))

end Sending

end DoorControl.Http
