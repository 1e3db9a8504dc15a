/- The hosts of web addresses: names, and numbers in their usual form. -/
import DoorControl.Http.Escape
import DoorControl.Http.Host.Folding
import DoorControl.Http.Host.Ipv4
import DoorControl.Http.Host.Ipv6
import DoorControl.Text.Blank
import DoorControl.Text.Punycode

namespace DoorControl.Http.Host

/-- The characters that no host holds. -/
def forbidden : String := "\x00\t\n\r #/:<>?@[\\]^|"

/-- The characters that no name of a host holds once its escapes are read. -/
def isForbidden (c : Char) : Bool :=
  c.toNat < 32 || c.toNat = 127 || c = '%' || forbidden.toList.contains c

/-- Whether a label begins with an accent, which nothing stands before. -/
def beginsWithAccent (label : List Char) : Bool :=
  (label.head?.map (fun c => 0x300 ≤ c.toNat && c.toNat ≤ 0x36F)).getD false

/-- What a label in seven bits begins with that stands for one with more. -/
def codedLead : List Char := "xn--".toList

/-- Whether a label with characters beyond seven bits is in its folded form. -/
def isFolded (label : List Char) : Bool :=
  label.any (128 ≤ ·.toNat) && label.all (fun c => fold c = [c] && !inRanges refused c) &&
    joinAccents label = label && !beginsWithAccent label

/-- A label of a name in seven bits. -/
def label? (label : List Char) : Option (List Char) :=
  match Text.after? codedLead label with
  | some coded =>
      if label.all (·.toNat < 128) && ((Text.Punycode.decode? coded).map isFolded).getD false then
        some label
      else none
  | none =>
      if label.all (·.toNat < 128) then some label
      else if beginsWithAccent label then none
      else some (codedLead ++ Text.Punycode.encode label)

/-- The name of a host in seven bits: escapes are read, and characters folded. -/
def name? (host : List Char) : Option (List Char) :=
  match Text.Utf8.decode? (unescape host) with
  | none => none
  | some text =>
      let cs := text.toList
      let folded := joinAccents (cs.flatMap fold)
      if cs.any (inRanges refused) then none
      else match (Text.splitWhere (· = '.') folded).mapM label? with
        | some labels =>
            let name := Text.joinWith '.' labels
            if name.isEmpty || name.any isForbidden then none else some name
        | none => none

/-- An address between brackets. -/
def bracketed? (host : List Char) : Option (List Char) :=
  match host with
  | '[' :: rest =>
      if rest.getLast? = some ']' then (Ipv6.parse? rest.dropLast).map Ipv6.render else none
  | _ => none

/-- The usual form of a host whose scheme is known to have one. -/
def parse? (host : List Char) : Option (List Char) :=
  if host.head? = some '[' then bracketed? host
  else (name? host).bind (fun name => if Ipv4.isNumeric name then Ipv4.normal? name else some name)

/-- The host of any other scheme, which is a name of no known form and may be empty. -/
def parseOther? (host : List Char) : Option (List Char) :=
  if host.head? = some '[' then bracketed? host
  else if host.any forbidden.toList.contains then none
  else some (Part.plain.escape host)

end DoorControl.Http.Host
