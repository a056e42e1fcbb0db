import ActivityFlow.Url.Basic

/-!
# Reading addresses

Only addresses of the web are read. Of others it is said what is wrong with them first: a
fault in their host or port, or the scheme itself.
-/
namespace ActivityFlow.Url

/-- Drops what may stand around an address, and what is passed over in it. -/
def cleaned (s : String) : List Char :=
  let isOuter (c : Char) : Bool := c.toNat ≤ 0x20
  let cs := ((s.toList.dropWhile isOuter).reverse.dropWhile isOuter).reverse
  cs.filter fun c => !isPassedOver c

/-- Whether a character may stand in a scheme. -/
def isSchemeChar (c : Char) : Bool := c.isAlphanum || c == '+' || c == '-' || c == '.'

/-- The scheme in lower case and what follows its colon. -/
def splitScheme? (cs : List Char) : Option (String × List Char) :=
  let scheme := cs.takeWhile isSchemeChar
  match cs.drop scheme.length with
  | ':' :: rest =>
    if scheme.head?.any Char.isAlpha then some (String.ofList (scheme.map Char.toLower), rest)
    else none
  | _ => none

/-- Whether a character ends the part with credentials, host and port. -/
def endsAuthority (backslash : Bool) (c : Char) : Bool :=
  c == '/' || c == '?' || c == '#' || (backslash && c == '\\')

/-- Splits at the last at sign, if there is one. -/
def splitCredentials (cs : List Char) : Option (List Char) × List Char :=
  let host := (cs.reverse.takeWhile (· != '@')).reverse
  if host.length = cs.length then (none, cs)
  else (some (cs.take (cs.length - host.length - 1)), host)

/-- User name and password, in percent form. -/
def readCredentials (cs : List Char) : String × String :=
  let name := cs.takeWhile (· != ':')
  let encode (part : List Char) : String := String.ofList (percentEncode inCredentials part)
  (encode name, encode (cs.drop (name.length + 1)))

/-- Splits at the first colon outside brackets, if there is one. -/
def splitPort (inBrackets : Bool) : List Char → List Char × Option (List Char)
  | [] => ([], none)
  | c :: rest =>
    if c == ':' && !inBrackets then ([], some rest)
    else
      let (host, port) := splitPort (c == '[' || (inBrackets && c != ']')) rest
      (c :: host, port)

/-- Reads a port. An empty one stands for the usual port of the scheme. -/
def readPort (backslash : Bool) (cs : List Char) : Except Fault (Option Nat) :=
  let digits := cs.takeWhile Char.isDigit
  let rest := cs.drop digits.length
  let n := digitsValue 10 digits
  if 65535 < n || !(rest.isEmpty || (!backslash && rest.head? == some '\\')) then
    .error .invalidPort
  else .ok (if digits.isEmpty then none else some n)

/-- Credentials, host and port of an address. -/
structure Authority where
  username : String
  password : String
  host : Host
  port : Option Nat

/-- Reads credentials, host and port. -/
def readAuthority (cs : List Char) : Except Fault Authority := do
  let (credentials, place) := splitCredentials cs
  let (username, password) := readCredentials (credentials.getD [])
  let (hostPart, portPart) := splitPort false place
  if hostPart.isEmpty then throw .emptyHost
  let host ← Host.read hostPart
  let port ← (portPart.map (readPort true)).getD (.ok none)
  return { username, password, host, port }

/-- Checks credentials, host and port of an address of an unknown scheme. -/
def checkOpaqueAuthority (cs after : List Char) : Except Fault Unit := do
  let (credentials, place) := splitCredentials cs
  if credentials == some [] && place.isEmpty && !after.isEmpty then throw .emptyHost
  let (username, password) := readCredentials (credentials.getD [])
  let (hostPart, portPart) := splitPort false place
  Host.checkOpaque hostPart
  if hostPart.isEmpty && portPart.isSome then throw .emptyHost
  let _ ← (portPart.map (readPort false)).getD (.ok none)
  if hostPart.isEmpty && !(username.isEmpty && password.isEmpty) then throw .emptyHost

/-! ## Paths -/

/-- Whether a segment stands for the path so far. -/
def isSingleDot (segment : String) : Bool :=
  segment == "." || segment == "%2e" || segment == "%2E"

/-- Whether a segment stands for the path without its last segment. -/
def isDoubleDot (segment : String) : Bool :=
  [".", "%2e", "%2E"].any fun a => [".", "%2e", "%2E"].any fun b => segment == a ++ b

/-- Puts the segments of a written path together. -/
def resolveSegments (path : List String) : List String → List String
  | [] => path
  | [last] =>
    if isDoubleDot last then path.dropLast ++ [""]
    else if isSingleDot last then path ++ [""]
    else path ++ [last]
  | segment :: rest =>
    if isDoubleDot segment then resolveSegments path.dropLast rest
    else if isSingleDot segment then resolveSegments path rest
    else resolveSegments (path ++ [segment]) rest

/-- Reads a path, which begins with a slash unless it is empty. -/
def readPath (cs : List Char) : List String :=
  let slashed := cs.map fun c => if c == '\\' then '/' else c
  let body :=
    match slashed with
    | '/' :: rest => rest
    | other => other
  resolveSegments [] ((splitAt '/' body).map fun segment =>
    String.ofList (percentEncode inPath segment))

def splitMark (mark : Char) (cs : List Char) : List Char × Option (List Char) :=
  let before := cs.takeWhile (· != mark)
  match cs.drop before.length with
  | [] => (before, none)
  | _ :: after => (before, some after)

/-- Reads an address of the web from what follows its scheme. -/
def readWeb (secure : Bool) (cs : List Char) : Except Fault Url := do
  let body := cs.dropWhile fun c => c == '/' || c == '\\'
  let place := body.takeWhile fun c => !endsAuthority true c
  let authority ← readAuthority place
  let (before, fragment) := splitMark '#' (body.drop place.length)
  let (path, query) := splitMark '?' before
  let usual := if secure then 443 else 80
  return {
    secure
    username := authority.username
    password := authority.password
    host := authority.host
    port := if authority.port = some usual then none else authority.port
    path := readPath path
    query := query.map fun q => String.ofList (percentEncode inQuery q)
    fragment := fragment.map fun f => String.ofList (percentEncode inFragment f) }

/-- The schemes other than those of the web that have a host in the same form. -/
def hostSchemes : List String := ["ws", "wss", "ftp"]

def isDriveLetter : List Char → Bool
  | [letter, mark] => letter.isAlpha && (mark == ':' || mark == '|')
  | _ => false

/-- Checks the host of a file address from what follows its scheme. -/
def checkFile : List Char → Except Fault Unit
  | a :: b :: rest =>
    if (a == '/' || a == '\\') && (b == '/' || b == '\\') then
      let host := rest.takeWhile fun c => !endsAuthority true c
      if host.isEmpty || isDriveLetter host then .ok () else (Host.read host).map fun _ => ()
    else .ok ()
  | _ => .ok ()

def checkOther (scheme : String) (cs : List Char) : Except Fault Unit :=
  if scheme == "file" then checkFile cs
  else if hostSchemes.contains scheme then
    let body := cs.dropWhile fun c => c == '/' || c == '\\'
    (readAuthority (body.takeWhile fun c => !endsAuthority true c)).map fun _ => ()
  else
    match cs with
    | '/' :: '/' :: body =>
      let place := body.takeWhile fun c => !endsAuthority false c
      checkOpaqueAuthority place (body.drop place.length)
    | _ => .ok ()

/-- Reads an address of the web. -/
def parse (s : String) : Except Fault Url :=
  match splitScheme? (cleaned s) with
  | none => .error .relative
  | some (scheme, rest) =>
    if scheme == "https" then readWeb true rest
    else if scheme == "http" then readWeb false rest
    else do
      checkOther scheme rest
      throw (.unsupportedScheme scheme)

end ActivityFlow.Url
