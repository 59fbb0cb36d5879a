import GeoDrafts.Remote.Host

/-!
Web addresses, as far as they decide whether a file can be loaded: the scheme, and whether the
host and the port after it are well formed. Schemes of the web have a host; other schemes have
one only after two slashes.
-/

namespace GeoDrafts.Address

/-- Schemes of the web, whose addresses cannot do without a host. -/
def webSchemes : List String := ["http", "https", "ws", "wss", "ftp"]

/-- Drops control characters and spaces at both ends, and tabs and line ends anywhere. -/
def clean (cs : List Char) : List Char :=
  (Text.trimBy (fun c => c.toNat ≤ 0x20) cs).filter fun c => c != '\t' && c != '\n' && c != '\r'

/-- The scheme in lower case, and what follows its colon. -/
def splitScheme? (cs : List Char) : Option (String × List Char) :=
  let isPart (c : Char) := c.isAlphanum || c == '+' || c == '-' || c == '.'
  match cs.dropWhile isPart with
  | ':' :: rest =>
    if (cs.head?.map Char.isAlpha).getD false then
      some ((String.ofList (cs.takeWhile isPart)).toLower, rest)
    else none
  | _ => none

/-- Whether a port is well formed: digits, perhaps none, of a number below `2 ^ 16`. A backslash
ends the port of any address. -/
def isPort (cs : List Char) : Bool :=
  let digits := cs.takeWhile (· != '\\')
  digits.all Char.isDigit && Decimal.digitsValue digits < Nat.pow 2 16

/-- Splits a host off at the first colon outside brackets; `read` holds it so far in reverse. -/
def splitHost (bracketed : Bool) (read : List Char) : List Char → List Char × List Char
  | [] => (read.reverse, [])
  | c :: cs =>
    if c = ':' ∧ !bracketed then (read.reverse, c :: cs)
    else splitHost (c == '[' || bracketed && c != ']') (c :: read) cs

/-- Splits what follows the slashes where the user, the host and the port end: at a slash, a
question mark or a hash sign. -/
def splitAuthority (web : Bool) (cs : List Char) : List Char × List Char :=
  cs.span fun c => c != '/' && c != '?' && c != '#' && !(web && c == '\\')

/-- Whether an address may do without a host: nothing stands in its place, or the mark of a user
without a name and a password, which needs its colon unless the address ends there. -/
def isHostless (place rest : List Char) : Bool :=
  place == [] || place == [':', '@'] || (place == ['@'] && rest.isEmpty)

def isAuthority (web : Bool) (cs : List Char) : Bool :=
  let (place, rest) := splitAuthority web cs
  let afterUser := (place.reverse.takeWhile (· != '@')).reverse
  let (host, port) := splitHost false [] afterUser
  let hostText := String.ofList host
  if host.isEmpty then !web && isHostless place rest
  else
    (if web then Host.isWeb hostText else Host.isOther hostText) &&
      match port with
      | [] => true
      | _ :: digits => isPort digits

/-- Whether a file address is well formed: a host after two slashes may be missing or be the
letter of a drive. -/
def isFilePlace (cs : List Char) : Bool :=
  let isSlash (c : Char) := c == '/' || c == '\\'
  match cs with
  | a :: b :: rest =>
    if isSlash a && isSlash b then
      let host := (splitAuthority true rest).1
      match host with
      | [] => true
      | [drive, mark] =>
        (drive.isAlpha && (mark == ':' || mark == '|')) || Host.isWeb (String.ofList host)
      | _ => Host.isWeb (String.ofList host)
    else true
  | _ => true

def scheme? (text : String) : Option String :=
  match splitScheme? (clean text.toList) with
  | none => none
  | some (scheme, rest) =>
    let valid :=
      if scheme ∈ webSchemes then
        isAuthority true (rest.dropWhile fun c => c == '/' || c == '\\')
      else if scheme = "file" then isFilePlace rest
      else
        match rest with
        | '/' :: '/' :: rest => isAuthority false rest
        | _ => true
    if valid then some scheme else none

end GeoDrafts.Address
