import UplinkFlow.Text.Blank
import UplinkFlow.Url.Address
import UplinkFlow.Url.Domain.Basic
import UplinkFlow.Url.Path

/-!
# URLs of the web

* `Url` — an address of the scheme `http` or `https`, in normal form.
* `Url.parse` — reads a URL of any scheme; of other schemes only the name is kept.
* `Url.text` — the text of a URL.
* `Url.withPath`, `Url.asFolder`, `Url.endpoint` — other paths on the same host.
-/

set_option autoImplicit false

namespace UplinkFlow

/-- A URL of the web. -/
structure Url where
  secure : Bool
  credentials : String
  host : String
  port : Option Nat
  path : Url.Path
  query : Option String
  fragment : Option String
deriving DecidableEq, Repr

namespace Url

/-- Why a text is no URL. -/
inductive Fault where
  | noScheme
  | emptyHost
  | invalidName
  | invalidPort
  | invalidIPv4
  | invalidIPv6
  | invalidHostCharacter
deriving DecidableEq, Repr

def Fault.message : Fault → String
  | .noScheme => "relative URL without a base"
  | .emptyHost => "empty host"
  | .invalidName => "invalid international domain name"
  | .invalidPort => "invalid port number"
  | .invalidIPv4 => "invalid IPv4 address"
  | .invalidIPv6 => "invalid IPv6 address"
  | .invalidHostCharacter => "invalid domain character"

def scheme (u : Url) : String := if u.secure then "https" else "http"

/-- The host with the port, if that is not the one that the scheme uses. -/
def authorityText (u : Url) : String :=
  u.host ++ ((u.port.map fun n => ":" ++ Text.decimal n).getD "")

/-- The text of a URL without path, query and fragment. -/
def originText (u : Url) : String := u.scheme ++ "://" ++ u.credentials ++ u.authorityText

/-- The path with the query, as a request names it. -/
def target (u : Url) : String := u.path.text ++ ((u.query.map ("?" ++ ·)).getD "")

def text (u : Url) : String :=
  u.originText ++ u.target ++ ((u.fragment.map ("#" ++ ·)).getD "")

/-- What a text can be the URL of. -/
inductive Reference where
  | web (url : Url)
  | other (scheme : String)

/-- How a scheme divides what follows it. -/
inductive SchemeKind where
  | special
  | file
  | plain
deriving DecidableEq, Repr

def SchemeKind.ofName (name : String) : SchemeKind :=
  if ["http", "https", "ws", "wss", "ftp"].contains name then .special
  else if name = "file" then .file
  else .plain

/-- The port that a scheme uses when none is given. -/
def defaultPort? (scheme : String) : Option Nat :=
  if scheme = "http" ∨ scheme = "ws" then some 80
  else if scheme = "https" ∨ scheme = "wss" then some 443
  else if scheme = "ftp" then some 21
  else none

/-- The name of the scheme at the front of a text, and what follows its colon. -/
def splitScheme? (cs : List Char) : Option (String × List Char) :=
  let name := cs.takeWhile fun c => c.isAlphanum || c == '+' || c == '-' || c == '.'
  match name, cs.drop name.length with
  | first :: _, ':' :: rest =>
    if first.isAlpha then some (String.ofList (name.map Char.toLower), rest) else none
  | _, _ => none

/-- Whether a character ends the part with user, host and port. -/
def endsAuthority (kind : SchemeKind) (c : Char) : Bool :=
  c == '/' || c == '?' || c == '#' || (kind != .plain && c == '\\')

/-- The characters behind the last sign `@`, and those before it if there is one. -/
def splitCredentials (cs : List Char) : Option (List Char) × List Char :=
  let host := (cs.reverse.takeWhile (· != '@')).reverse
  if host.length = cs.length then (none, cs)
  else (some (cs.take (cs.length - host.length - 1)), host)

/-- The text of user name and password. -/
def credentialsText (cs : List Char) : String :=
  let user := Text.percentEncode keepsInCredentials (cs.takeWhile (· != ':'))
  let password :=
    Text.percentEncode keepsInCredentials ((cs.dropWhile (· != ':')).drop 1)
  let shown := if password.isEmpty then user else user ++ ':' :: password
  if shown.isEmpty then "" else String.ofList (shown ++ ['@'])

/-- Divides a text behind the host.  The host ends at the colon of a port, which does not stand
between brackets. -/
def splitHost (kind : SchemeKind) (inside : Bool) : List Char → List Char × List Char
  | [] => ([], [])
  | c :: cs =>
    if endsAuthority kind c || (c == ':' && !inside) then ([], c :: cs)
    else
      let inside := if c = '[' then true else if c = ']' then false else inside
      let (host, rest) := splitHost kind inside cs
      (c :: host, rest)

/-- Reads the number of a port and what follows it. -/
def readPort (cs : List Char) : Except Fault (Option Nat × List Char) :=
  let digits := cs.takeWhile Char.isDigit
  let rest := cs.drop digits.length
  if !rest.head?.all ("/\\?#".toList.contains ·) then .error .invalidPort
  else if digits.isEmpty then .ok (none, rest)
  else
    match Text.readDigits 65535 digits with
    | .ok n => .ok (some n, rest)
    | .error _ => .error .invalidPort

/-- The host of a special scheme in normal form. -/
def readHost (cs : List Char) : Except Fault String :=
  if cs.head? = some '[' then
    if cs.getLast? = some ']' ∧ 1 < cs.length then
      match readIPv6? (cs.drop 1).dropLast with
      | some units => .ok (String.ofList ('[' :: showIPv6 units ++ [']']))
      | none => .error .invalidIPv6
    else .error .invalidIPv6
  else
    match readDomain? cs with
    | none => .error .invalidName
    | some [] => .error .emptyHost
    | some name =>
      if endsInNumber name then
        match readIPv4? name with
        | some n => .ok (String.ofList (showIPv4 n))
        | none => .error .invalidIPv4
      else .ok (String.ofList name)

/-- Checks the host of a scheme that is not special. -/
def checkPlainHost (cs : List Char) : Except Fault Unit :=
  if cs.head? = some '[' then (readHost cs).map fun _ => ()
  else if cs.any fun c => "\x00\t\n\r #/:<>?@[\\]^|".toList.contains c then
    .error .invalidHostCharacter
  else .ok ()

/-- User, host and port, and what follows them. -/
structure Authority where
  credentials : String
  host : String
  port : Option Nat
  rest : List Char

/-- Reads what follows the slashes behind a scheme.  The host of a scheme that is not special stays
as it is written, and can be empty when it stands alone. -/
def readAuthority (kind : SchemeKind) (cs : List Char) : Except Fault Authority := do
  let user := (splitCredentials (cs.takeWhile (!endsAuthority kind ·))).1
  let cs := (user.map fun u => cs.drop (u.length + 1)).getD cs
  if user == some [] && cs.head?.any (endsAuthority kind) then .error .emptyHost
  let (host, after) := splitHost kind false cs
  let name ←
    if kind = .plain then (checkPlainHost host).map fun _ => String.ofList host else readHost host
  let credentials := (user.map credentialsText).getD ""
  let (port, rest) ←
    match after with
    | ':' :: digits => if name.isEmpty then .error .emptyHost else readPort digits
    | _ => .ok (none, after)
  if name.isEmpty && !credentials.isEmpty then .error .emptyHost
  else .ok ⟨credentials, name, port, rest⟩

/-- Divides path, query and fragment. -/
def splitTail (cs : List Char) : List Char × Option (List Char) × Option (List Char) :=
  let before := cs.takeWhile (· != '#')
  let fragment := (cs.drop before.length).tail?
  let path := before.takeWhile (· != '?')
  (path, (before.drop path.length).tail?, fragment)

/-- Reads what follows the scheme of a web address. -/
def readWeb (secure : Bool) (cs : List Char) : Except Fault Url := do
  let a ← readAuthority .special (cs.dropWhile isSlash)
  let (path, query, fragment) := splitTail a.rest
  let standard := if secure then 443 else 80
  .ok { secure := secure, credentials := a.credentials, host := a.host,
        port := if a.port = some standard then none else a.port,
        path := Path.parse path,
        query := query.map fun q => String.ofList (Text.percentEncode keepsInQuery q),
        fragment := fragment.map fun f => String.ofList (Text.percentEncode keepsInFragment f) }

/-- Checks what follows the scheme of another address. -/
def checkOther (kind : SchemeKind) (cs : List Char) : Except Fault Unit :=
  match kind with
  | .special => (readAuthority .special (cs.dropWhile isSlash)).map fun _ => ()
  | .file =>
    match cs with
    | a :: b :: rest =>
      let host := rest.takeWhile (!endsAuthority .file ·)
      if isSlash a && isSlash b && !host.isEmpty && !Path.isDrive host then
        (readHost host).map fun _ => ()
      else .ok ()
    | _ => .ok ()
  | .plain =>
    match cs with
    | '/' :: '/' :: rest => (readAuthority .plain rest).map fun _ => ()
    | _ => .ok ()

/-- Reads a URL.  Control characters and spaces at the ends and ignored characters anywhere do not
count. -/
def parse (s : String) : Except Fault Reference := do
  let isEdge (c : Char) : Bool := c.toNat ≤ 0x20
  let cs := ((s.toList.dropWhile isEdge).reverse.dropWhile isEdge).reverse
  match splitScheme? (cs.filter (!isIgnored ·)) with
  | none => .error .noScheme
  | some (scheme, rest) =>
    if scheme = "http" ∨ scheme = "https" then
      .ok (.web (← readWeb (scheme == "https") rest))
    else do
      checkOther (SchemeKind.ofName scheme) rest
      .ok (.other scheme)

/-- The URL with another path, in which the marks of query and fragment do not count. -/
def withPath (u : Url) (path : String) : Url := { u with path := Path.parse path.toList }

def withQuery (u : Url) (query : String) : Url :=
  { u with query := some (String.ofList (Text.percentEncode keepsInQuery
      (query.toList.filter (!isIgnored ·)))) }

/-- The URL whose path ends with a slash. -/
def asFolder (u : Url) : Url := { u with path := u.path.asFolder }

/-- The URL with segments behind its path. -/
def endpoint (u : Url) (segments : List String) : Url := { u with path := u.path.addAll segments }

end Url

end UplinkFlow
