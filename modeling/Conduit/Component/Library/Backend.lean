import Conduit.Component.Library.Control
import Conduit.Http.Url
import Conduit.Json.Printer
import Conduit.Text.Capital

/-!
# Calling a backend

The component sends one request and stores what comes back: the body under the output key, as the
value that it writes if it is JSON text, and the status under the same key with `_status` behind it.
-/

namespace Conduit.Library

open Json Http

structure BackendParameters where
  url : Option String
  /-- The key that holds the address if none is fixed. -/
  urlKey : Option String
  method : String
  headers : Entries String
  bodyKey : Option String
  outputKey : String
  timeoutMs : Nat

def backendDecoder : Decoder BackendParameters :=
  Decoder.record "HttpParams" [
    Decoder.field ["url"] (Decoder.option Decoder.string) fun v p => { p with url := v },
    Decoder.field ["url_key"] (Decoder.option Decoder.string) fun v p => { p with urlKey := v },
    Decoder.field ["method"] Decoder.string fun v p => { p with method := v },
    Decoder.field ["headers"] (Decoder.entries Decoder.string) fun v p => { p with headers := v },
    Decoder.field ["body_key"] (Decoder.option Decoder.string) fun v p => { p with bodyKey := v },
    Decoder.field ["output_key"] Decoder.string fun v p => { p with outputKey := v },
    Decoder.field ["timeout_ms"] (Decoder.natural "u64") fun v p => { p with timeoutMs := v }]
    ⟨none, some "url", "GET", [], none, "response", 30000⟩

def backendUrl (p : BackendParameters) (values : Values) : Except ComponentError String :=
  match p.url with
  | some url => .ok url
  | none =>
    match p.urlKey with
    | none => .error (.configuration "Missing parameter: url")
    | some key =>
      match Entries.get? values key with
      | none => .error (.missingInput key)
      | some (.string s) => .ok s
      | some v => .error (.invalidInputType key "string" v.kind)

def longestHeaderName : Nat := 65535

/-- A header's name is not empty and made of letters, digits and some signs. -/
def isHeaderName (name : String) : Bool :=
  !name.isEmpty && decide (name.utf8ByteSize ≤ longestHeaderName) && name.toList.all fun c =>
    Text.isAsciiLetter c || Text.isDigit c || "!#$%&'*+-.^_`|~".toList.contains c

/-- A header's value has no controls but tabs. -/
def isHeaderValue (value : String) : Bool :=
  value.toList.all fun c => c == '\t' || (decide (32 ≤ c.toNat) && c.toNat != 127)

def requestFailed (text : String) : ComponentError :=
  .executionFailed ("HTTP request failed: " ++ text)

/-- The address to send to: a name and a password go into a header, unless the name is no text. -/
def addressed (u : Url) : Url :=
  match u.authority with
  | none => u
  | some a =>
    match unescape? a.user with
    | none => u
    | some user =>
      if user ≠ [] ∨ ((a.password.bind unescape?).isSome) then u.withoutUser else u

def longestAddress : Nat := 65534

def canBeCalled (u : Url) : Bool :=
  (u.scheme == "http" || u.scheme == "https") &&
    !(u.authority.any fun a => a.host.any "\"`\x7b\x7d".toList.contains) &&
    decide (u.text.utf8ByteSize ≤ longestAddress)

/-- The normal form of the address, if a request with such headers can go there. -/
def checkRequest (url : String) (headers : Entries String) : Except ComponentError String :=
  match Url.read url with
  | .error _ => .error (requestFailed "builder error")
  | .ok u =>
    let u := if u.hasHost then addressed u else u
    if !u.hasHost then .error (requestFailed ("builder error for url (" ++ u.text ++ ")"))
    else if !headers.all fun h => isHeaderName h.1 && isHeaderValue h.2 then
      .error (requestFailed "builder error")
    else if canBeCalled u then .ok u.text
    else .error (requestFailed ("builder error for url (" ++ u.text ++ ")"))

def backendBody (p : BackendParameters) (values : Values) : Except ComponentError (Option Json) :=
  match p.bodyKey with
  | none => .ok none
  | some key =>
    match Entries.get? values key with
    | some v => .ok (some v.toJson)
    | none => .error (.missingInput key)

def methods : List String := ["GET", "POST", "PUT", "DELETE"]

def backendRequest (p : BackendParameters) (values : Values) :
    Except ComponentError (Request × String) := do
  let url ← backendUrl p values
  let method := Text.capitals p.method
  if !methods.contains method then .error (.configuration ("Unsupported method: " ++ method))
  else
    let body ← backendBody p values
    let normal ← checkRequest url p.headers
    .ok (⟨method, url, p.headers, body, p.timeoutMs⟩, normal)

def bodyValue (body : String) : Value :=
  match Json.parse body with
  | .ok j => Value.ofJson j
  | .error _ => .string body

def storeReply (p : BackendParameters) (request : Request) (normal : String) : Reply → Activity
  | .lost => .fail (requestFailed ("error sending request for url (" ++ normal ++ ")"))
  | .broken text => .fail (.executionFailed ("Failed to read response: " ++ text))
  | .answered status body =>
    if isSuccess status then
      .write p.outputKey (bodyValue body)
        (.write (p.outputKey ++ "_status") (.number (.ofNat status)) .done)
    else
      .fail (.executionFailed
        (request.method ++ " " ++ request.url ++ " returned " ++ statusText status))

def callBackend (p : BackendParameters) : Activity :=
  .look fun values =>
    match backendRequest p values with
    | .error e => .fail e
    | .ok (request, normal) => .send request (storeReply p request normal) (.fail .cancelled)

/-- A fixed address must be one, and if none is fixed a key has to hold it. -/
def checkBackend (p : BackendParameters) (config : Config) : Except ComponentError Unit :=
  match p.url, p.urlKey with
  | some url, _ =>
    match Url.read url with
    | .ok _ => .ok ()
    | .error e =>
      .error (.initializationFailed
        (config.component ++ ": invalid url '" ++ url ++ "': " ++ e.message))
  | none, some _ => .ok ()
  | none, none =>
    .error (.initializationFailed (config.component ++ ": either 'url' or 'url_key' is required"))

def backendFactory : Factory where
  kind := "http.request"
  create parameters := do
    let p ← readParameters backendDecoder parameters
    .ok ⟨"http.request", callBackend p, fun config => (checkBackend p config).map fun _ =>
      callBackend p⟩
  defaults := .object []
  description := "Call an HTTP backend and store the response"
  category := "http"
  tallied := false

end Conduit.Library
