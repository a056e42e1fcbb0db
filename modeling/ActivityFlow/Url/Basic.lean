import ActivityFlow.Url.Host

/-!
# Web addresses

An address of the web has a scheme, perhaps credentials, a host, perhaps a port, a path of
segments, and perhaps a query and a fragment. All parts are kept as they are written:
normalized and in percent form.
-/
namespace ActivityFlow

/-- An address of the web. -/
structure Url where
  /-- Whether the scheme is the secure one. -/
  secure : Bool
  username : String
  password : String
  host : Url.Host
  /-- The port, unless it is the usual one of the scheme. -/
  port : Option Nat
  /-- The segments of the path; there is at least one, which may be empty. -/
  path : List String
  query : Option String
  fragment : Option String
deriving DecidableEq

namespace Url

def scheme (u : Url) : String := if u.secure then "https" else "http"

/-- The credentials with the sign that ends them. -/
def credentialsText (u : Url) : String :=
  let password := if u.password.isEmpty then "" else ":" ++ u.password
  if u.username.isEmpty && u.password.isEmpty then "" else u.username ++ password ++ "@"

def pathText (u : Url) : String := "/" ++ String.intercalate "/" u.path

/-- A mark and a part of an address that may be missing. -/
def markedText (mark : String) : Option String → String
  | none => ""
  | some s => mark ++ s

def text (u : Url) : String :=
  u.scheme ++ "://" ++ u.credentialsText ++ u.host.text ++ markedText ":" (u.port.map toString) ++
    u.pathText ++ markedText "?" u.query ++ markedText "#" u.fragment

/-! ## Paths -/

def dropEmptySegment (path : List String) : List String :=
  if 1 < path.length && path.getLast? == some "" then path.dropLast else path

def isPassedOver (c : Char) : Bool := c == '\t' || c == '\n' || c == '\r'

/-- The path without its only segment, if that is empty. -/
def openPath (path : List String) : List String := if path = [""] then [] else path

/-- Puts a segment at the end of a path. Single and double points are left out, unless
characters that are passed over hide them until now. -/
def pushSegment (path : List String) (segment : String) : List String :=
  if segment == "." || segment == ".." then path
  else
    let encoded :=
      String.ofList (percentEncode inSegment (segment.toList.filter fun c => !isPassedOver c))
    if encoded == "." then openPath path ++ [""]
    else if encoded == ".." then (openPath path).dropLast ++ [""]
    else openPath path ++ [encoded]

/-- The address with segments put at the end of its path. -/
def extend (u : Url) (segments : List String) : Url :=
  { u with path := segments.foldl pushSegment (dropEmptySegment u.path) }

/-! ## Queries -/

/-- The address with a named value put at the end of its query. -/
def withQueryValue (u : Url) (name value : String) : Url :=
  let entry := String.ofList (formEncode name.toList ++ '=' :: formEncode value.toList)
  let query :=
    match u.query with
    | none | some "" => entry
    | some q => q ++ "&" ++ entry
  { u with query := some query }

end Url

end ActivityFlow
