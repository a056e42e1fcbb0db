import ActivityFlow.Json.Reader
import ActivityFlow.Sources
import ActivityFlow.StoreError
import ActivityFlow.StoreSettings
import ActivityFlow.Url.Reader

/-!
# The content store over the web

A client sends requests to the addresses below the store's base address and reads the
replies as documents. What carries a request to the store and back is left open, and so are
its words for what goes wrong on the way: they come with the reply.
-/
namespace ActivityFlow

/-- What a request does to the thing at its address. -/
inductive Method where
  | get
  | post
  | put
deriving DecidableEq

def Method.name : Method → String
  | get => "GET"
  | post => "POST"
  | put => "PUT"

/-- Who sends a request. -/
inductive Credential where
  | bearer (token : String)
  /-- The user name and password of the address, in percent form. -/
  | basic (username password : String)
deriving DecidableEq

structure Request where
  method : Method
  url : Url
  credential : Credential
  body : Option Json
  /-- How many milliseconds the reply may take, its body included. -/
  millis : Nat

/-- The usual words for a request to an address that gets no reply. -/
def sendingError (url : Url) : String := "error sending request for url (" ++ url.text ++ ")"

/-- What comes back for a request. -/
inductive Reply where
  /-- No reply, or none in time, and what is said about that. -/
  | unanswered (said : Url → String := sendingError)
  /-- A reply with the text of its body, unless the body breaks off, comes too late or is no text,
  and what is said about a body that is no document. -/
  | answered (status : Nat) (body : Option String) (said : String)

/-- What carries requests to the store and replies back, within the time that a request
allows. -/
abbrev Exchange (ω : Type) := Request → Routine ω Reply

structure StoreClient where
  serverUrl : Url
  storeUrl : Url
  token : String
deriving DecidableEq

namespace StoreClient

/-- How long a request may take, in milliseconds. -/
def requestMillis : Nat := 30000

def readUrl (setting text : String) : Except StoreError Url :=
  (Url.parse text).mapError fun fault => .invalidUrl setting text fault.message

/-- Whether a character may not stand in a header: a control character other than a tab. -/
def isHeaderForbidden (c : Char) : Bool := (c.toNat < 0x20 && c != '\t') || c.toNat = 0x7F

/-- A client with the given settings, if they are usable. -/
def ofSettings (s : StoreSettings) : Except StoreError StoreClient := do
  let serverUrl ← readUrl "config.studio_url" s.serverUrl
  let storeUrl ← readUrl "config.store_url" s.storeUrl
  if s.apiKey.toList.any isHeaderForbidden then
    throw (.invalidToken "contains characters not allowed in a header")
  return { serverUrl, storeUrl, token := s.apiKey }

/-- The address with the given segments below the store's base address. -/
def endpoint (c : StoreClient) (segments : List String) : Url :=
  c.storeUrl.extend ("api" :: "v1" :: segments)

/-- The credential of a request: that of the address, or the client's token. -/
def credential (c : StoreClient) (url : Url) : Credential :=
  if url.username.isEmpty && url.password.isEmpty then .bearer c.token
  else .basic url.username url.password

/-- The request for an address. Credentials are taken out of the address. -/
def request (c : StoreClient) (method : Method) (url : Url) (body : Option Json)
    (select : Option String) : Request where
  method := method
  url :=
    let bare := { url with username := "", password := "" }
    match select with
    | some parts => bare.withQueryValue "select" parts
    | none => bare
  credential := c.credential url
  body := body
  millis := requestMillis

def readReply (url : Url) (r : Request) : Reply → Except StoreError Json
  | .unanswered said => .error (.transport url.text (said r.url))
  | .answered status body said =>
    if 200 ≤ status && status < 300 then
      match body.bind Json.parse? with
      | some value => .ok value
      | none => .error (.undecodable url.text said)
    else .error (.status r.method.name url.text status (body.getD ""))

variable {ω : Type}

/-- Sends a request and reads the reply. -/
def send (c : StoreClient) (exchange : Exchange ω) (method : Method) (url : Url)
    (body : Option Json) (select : Option String) : Routine ω (Except StoreError Json) :=
  let r := c.request method url body select
  (exchange r).map (readReply url r)

/-- The records of an answer: an array, or an object with the array under `results`. -/
def recordsOf? : Json → Option (List Json)
  | .array records => some records
  | .object fields =>
    match Fields.get? fields "results" with
    | some (.array records) => some records
    | _ => none
  | _ => none

def readRecords (url : Url) (answer : Json) : Except StoreError (List Json) :=
  match recordsOf? answer with
  | some records => .ok records
  | none => .error (.undecodable url.text "expected an array of records")

def find (c : StoreClient) (exchange : Exchange ω) (collection : String) (query : CollectionQuery) :
    Routine ω (Except StoreError (List Json)) :=
  let url := c.endpoint [collection, "find"]
  (c.send exchange .post url (some query.encode) none).map fun answer =>
    answer.bind (readRecords url)

/-- Retrieves a record, or the wanted parts of it. -/
def retrieve (c : StoreClient) (exchange : Exchange ω) (collection id : String)
    (select : Option String) : Routine ω (Except StoreError Json) :=
  c.send exchange .get (c.endpoint [collection, id]) none select

/-- Updates parts of a record and returns the whole. -/
def update (c : StoreClient) (exchange : Exchange ω) (collection id : String) (patch : Json) :
    Routine ω (Except StoreError Json) :=
  c.send exchange .put (c.endpoint [collection, id]) (some patch) none

/-- The store behind a client, as activities see it. -/
def store (c : StoreClient) (exchange : Exchange ω) : Store ω where
  find := fun collection query =>
    (c.find exchange collection query).map fun result => result.mapError StoreError.toFailure
  retrieve := fun collection id select =>
    (c.retrieve exchange collection id select).map fun result =>
      result.mapError StoreError.toFailure

end StoreClient

namespace Payload

def storeClient (p : Payload) : Except Failure StoreClient := do
  let settings ← p.storeSettings.mapError Failure.diagnosed
  (StoreClient.ofSettings settings).mapError StoreError.toFailure

def store {ω : Type} (exchange : Exchange ω) (p : Payload) : Except Failure (Store ω) :=
  p.storeClient.map (·.store exchange)

/-- The content store that was supplied, or the one that a payload leads to. -/
def storeOr {ω : Type} (supplied : Option (Store ω)) (exchange : Exchange ω) (p : Payload) :
    Except Failure (Store ω) :=
  match supplied with
  | some store => .ok store
  | none => p.store exchange

end Payload

end ActivityFlow
