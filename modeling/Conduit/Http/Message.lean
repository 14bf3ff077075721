import Conduit.Json.Basic

/-!
# Requests and replies

A request is sent to a backend, which replies after some time or not at all. The status of a reply
is a number with a reason that is known for the common ones.
-/

namespace Conduit.Http

/-- What is sent to a backend. -/
structure Request where
  method : String
  url : String
  headers : Entries String
  body : Option Json
  /-- After how long no reply is waited for any more. -/
  timeoutMs : Nat

/-- What comes back. -/
inductive Reply where
  /-- Nothing: the backend was not reached, hung up or took too long. -/
  | lost
  /-- A status, but a body that could not be read. -/
  | broken (text : String)
  | answered (status : Nat) (body : String)

/-- How long a reply takes, and the reply. -/
abbrev Network := Request → Nat × Reply

def unreachable : Network := fun _ => (0, .lost)

/-- The reply within the time that a request allows. -/
def exchange (network : Network) (request : Request) : Nat × Reply :=
  let (ms, reply) := network request
  if request.timeoutMs ≤ ms ∧ 0 < ms then (request.timeoutMs, .lost) else (ms, reply)

def reasons : List (Nat × String) := [
  (100, "Continue"), (101, "Switching Protocols"), (102, "Processing"), (200, "OK"),
  (201, "Created"), (202, "Accepted"), (203, "Non Authoritative Information"),
  (204, "No Content"), (205, "Reset Content"), (206, "Partial Content"), (207, "Multi-Status"),
  (208, "Already Reported"), (226, "IM Used"), (300, "Multiple Choices"),
  (301, "Moved Permanently"), (302, "Found"), (303, "See Other"), (304, "Not Modified"),
  (305, "Use Proxy"), (307, "Temporary Redirect"), (308, "Permanent Redirect"),
  (400, "Bad Request"), (401, "Unauthorized"), (402, "Payment Required"), (403, "Forbidden"),
  (404, "Not Found"), (405, "Method Not Allowed"), (406, "Not Acceptable"),
  (407, "Proxy Authentication Required"), (408, "Request Timeout"), (409, "Conflict"),
  (410, "Gone"), (411, "Length Required"), (412, "Precondition Failed"),
  (413, "Payload Too Large"), (414, "URI Too Long"), (415, "Unsupported Media Type"),
  (416, "Range Not Satisfiable"), (417, "Expectation Failed"), (418, "I'm a teapot"),
  (421, "Misdirected Request"), (422, "Unprocessable Entity"), (423, "Locked"),
  (424, "Failed Dependency"), (425, "Too Early"), (426, "Upgrade Required"),
  (428, "Precondition Required"), (429, "Too Many Requests"),
  (431, "Request Header Fields Too Large"), (451, "Unavailable For Legal Reasons"),
  (500, "Internal Server Error"), (501, "Not Implemented"), (502, "Bad Gateway"),
  (503, "Service Unavailable"), (504, "Gateway Timeout"), (505, "HTTP Version Not Supported"),
  (506, "Variant Also Negotiates"), (507, "Insufficient Storage"), (508, "Loop Detected"),
  (510, "Not Extended"), (511, "Network Authentication Required")]

def statusText (status : Nat) : String :=
  let reason := match reasons.find? fun r => r.1 == status with
    | some r => r.2
    | none => "<unknown status code>"
  toString status ++ " " ++ reason

def isSuccess (status : Nat) : Bool := decide (200 ≤ status) && decide (status < 300)

end Conduit.Http
