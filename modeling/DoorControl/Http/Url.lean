/- Web addresses in their usual form. -/
import DoorControl.Http.Host
import DoorControl.Http.Message
import DoorControl.Http.Path

namespace DoorControl.Http

/-- Who is to be reached where. -/
structure Authority where
  /-- The name of a user, with its escapes. -/
  user : List Char := []
  /-- The password with its escapes, which is not empty. -/
  password : Option (List Char) := none
  /-- The host, empty if none is named. -/
  host : List Char
  port : Option Nat := none
  deriving DecidableEq, Repr

structure Url where
  scheme : List Char
  authority : Option Authority := none
  path : List Char
  query : Option (List Char) := none
  fragment : Option (List Char) := none
  deriving DecidableEq, Repr

namespace Authority

def renderCredentials (a : Authority) : List Char :=
  match a.password with
  | some password => a.user ++ ':' :: password ++ ['@']
  | none => if a.user.isEmpty then [] else a.user ++ ['@']

/-- Host and port. -/
def renderPlace (a : Authority) : List Char :=
  a.host ++ (match a.port with
    | some port => ':' :: Nat.toDigits 10 port
    | none => [])

def render (a : Authority) : List Char := a.renderCredentials ++ a.renderPlace

/-- The text with some escapes, if it is one. -/
def unescaped? (cs : List Char) : Option String := Text.Utf8.decode? (unescape cs)

/-- User and password as they are meant, if any are given. The name has to be a text; a password that is
none counts as not given. -/
def credentials? (a : Authority) : Option (String × Option String) :=
  let password := a.password.bind unescaped?
  match unescaped? a.user with
  | some user => if user.isEmpty && password.isNone then none else some (user, password)
  | none => none

end Authority

namespace Url

/-- The ports of the schemes that are known to have hosts. -/
def defaultPorts : List (String × Nat) :=
  [("http", 80), ("https", 443), ("ws", 80), ("wss", 443), ("ftp", 21)]

def defaultPort? (scheme : List Char) : Option Nat := defaultPorts.lookup (String.ofList scheme)

/-- Files are named by addresses too, but need no host. -/
def isFile (scheme : List Char) : Bool := scheme = "file".toList

def isSchemeChar (c : Char) : Bool :=
  c.isAlphanum || c = '+' || c = '-' || c = '.'

/-- The scheme in lower case, and what follows its colon. -/
def scheme? (cs : List Char) : Option (List Char × List Char) :=
  match cs with
  | c :: _ =>
      if c.isAlpha then
        match cs.dropWhile isSchemeChar with
        | ':' :: rest => some ((cs.takeWhile isSchemeChar).map Char.toLower, rest)
        | _ => none
      else none
  | [] => none

/-- The part of a text before a mark, and the part behind it if there is one. -/
def cut (mark : Char) (cs : List Char) : List Char × Option (List Char) :=
  match cs.dropWhile (· ≠ mark) with
  | [] => (cs, none)
  | _ :: rest => (cs.takeWhile (· ≠ mark), some rest)

def isSlash (c : Char) : Bool := c = '/' || c = '\\'

/-- What stands before the last sign of an account, if there is one, and what follows it. -/
def splitAccount (cs : List Char) : Option (List Char) × List Char :=
  let place := (cs.reverse.takeWhile (· ≠ '@')).reverse
  if place.length = cs.length then (none, cs)
  else (some (cs.take (cs.length - place.length - 1)), place)

/-- User and password with escapes. An empty password is none. -/
def account (cs : List Char) : List Char × Option (List Char) :=
  let (user, password) := cut ':' cs
  (Part.credentials.escape user, (password.filter (!·.isEmpty)).map Part.credentials.escape)

/-- A host up to a colon outside brackets, and the rest. -/
def splitHost (inside : Bool) : List Char → List Char × List Char
  | [] => ([], [])
  | c :: cs =>
      if c = ':' && !inside then ([], c :: cs)
      else
        let inside := if c = '[' then true else if c = ']' then false else inside
        let (host, rest) := splitHost inside cs
        (c :: host, rest)

/-- A port behind its colon. The one that the scheme has anyway is left out. -/
def port? (standard : Option Nat) (digits : List Char) : Option (Option Nat) :=
  if digits.isEmpty then some none
  else match Text.Numeral.digits? 10 digits with
    | none => none
    | some n => if 65535 < n then none else some (if some n = standard then none else some n)

/-- The authority that a text spells. A host may be missing only where the scheme is not known to have one,
and neither an account nor a port is given. -/
def authority? (standard : Option Nat) (cs : List Char) : Option Authority :=
  let (before, place) := splitAccount cs
  let (user, password) := account (before.getD [])
  let (name, rest) := splitHost false place
  let host := if standard.isSome then Host.parse? name else Host.parseOther? name
  match host, port? standard (rest.drop 1) with
  | some host, some port =>
      let alone := user.isEmpty && password.isNone && rest.isEmpty
      if host.isEmpty && (standard.isSome || !alone) then none
      else some { user, password, host, port }
  | _, _ => none

/-- The address behind a scheme that is known to have a host. Any number of slashes leads to it. -/
def known? (scheme : List Char) (port : Nat) (cs : List Char) : Option Url :=
  let cs := cs.dropWhile isSlash
  let authority := authority? (some port) (cs.takeWhile (!isSlash ·))
  let path := Path.normal isSlash ((cs.dropWhile (!isSlash ·)).drop 1)
  authority.map (fun a => { scheme, authority := some a, path })

/-- The path of any other scheme. Two slashes at its beginning are told from those of a host. -/
def otherPath (hosted : Bool) (cs : List Char) : List Char :=
  match cs with
  | [] => []
  | c :: rest =>
      if c = '/' then
        let path := Path.normal (· = '/') rest
        if !hosted && (Text.after? ['/', '/'] path).isSome then '/' :: '.' :: path else path
      else if hosted then Path.normal (· = '/') cs
      else Part.plain.escape cs

/-- The address behind any other scheme. Two slashes lead to a host. -/
def other? (scheme : List Char) (cs : List Char) : Option Url :=
  match Text.after? ['/', '/'] cs with
  | none => some { scheme, path := otherPath false cs }
  | some rest =>
      let text := rest.takeWhile (· ≠ '/')
      let (name, port) := splitHost false (splitAccount text).2
      let stray := if name.isEmpty then [] else port.dropWhile (· ≠ '\\')
      let named := text.take (text.length - stray.length)
      let path := stray ++ rest.dropWhile (· ≠ '/')
      if path.isEmpty = false && named.getLast? = some '@' then none
      else (authority? none named).map
        (fun a => { scheme, authority := some a, path := otherPath true path })

/-- The address of a file. The host of this place is not named. -/
def file? (scheme : List Char) (cs : List Char) : Option Url :=
  let isTwo := (cs.take 2).length = 2 && (cs.take 2).all isSlash
  let rest := if isTwo then cs.drop 2 else cs
  let name := if isTwo then rest.takeWhile (!isSlash ·) else []
  let name := if Path.isDrive name then [] else name
  let host := if name.isEmpty then some [] else Host.parse? name
  let segments := (Text.splitWhere isSlash ((rest.drop name.length).dropWhile isSlash)).map Part.path.escape
  let segments := match segments with
    | s :: more => (if Path.isDrive s then s.take 1 ++ [':'] else s) :: more
    | [] => []
  let path := '/' :: (Path.render (Path.resolve [] segments)).dropWhile (· = '/')
  host.map (fun host =>
    let host := if host = "localhost".toList then [] else host
    { scheme, authority := some { host }, path })

/-- The characters of an address that count. -/
def clean (s : String) : List Char :=
  let outer := fun c : Char => c.toNat ≤ 0x20
  let cs := ((s.toList.dropWhile outer).reverse.dropWhile outer).reverse
  cs.filter (fun c => c ≠ '\t' && c ≠ '\n' && c ≠ '\r')

/-- The usual form of an address. -/
def parse? (s : String) : Option Url :=
  match scheme? (clean s) with
  | none => none
  | some (scheme, rest) =>
      let (rest, fragment) := cut '#' rest
      let (rest, query) := cut '?' rest
      let found := match defaultPort? scheme with
        | some port => known? scheme port rest
        | none => if isFile scheme then file? scheme rest else other? scheme rest
      let isKnown := (defaultPort? scheme).isSome || isFile scheme
      found.map (fun url => { url with
        query := query.map (if isKnown then Part.webQuery else Part.query).escape
        fragment := fragment.map Part.fragment.escape })

/-- Scheme, host and port. -/
def origin (u : Url) : String :=
  String.ofList (u.scheme ++ "://".toList ++ ((u.authority.map Authority.renderPlace).getD []))

/-- A mark and what stands behind it. -/
def marked (mark : Char) (part : Option (List Char)) : List Char :=
  match part with
  | some cs => mark :: cs
  | none => []

/-- What the request line names. -/
def target (u : Url) : String := String.ofList (u.path ++ marked '?' u.query)

def render (u : Url) : String :=
  String.ofList (u.scheme ++ ':' ::
    ((u.authority.map (fun a => '/' :: '/' :: a.render)).getD [] ++
      (u.path ++ (marked '?' u.query ++ marked '#' u.fragment))))

def hasHost (u : Url) : Bool := (u.authority.map (!·.host.isEmpty)).getD false

/-- The address without an account. -/
def anonymous (u : Url) : Url :=
  { u with authority := u.authority.map (fun a => { a with user := [], password := none }) }

end Url

end DoorControl.Http
