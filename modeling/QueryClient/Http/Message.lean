import QueryClient.Config.Basic
import QueryClient.Json.Basic

/-!
# Requests and replies

What goes over the wire between a client and the service, as far as it matters to either, and how a
failing exchange is reported.
-/

namespace QueryClient

/-- A request. -/
structure HttpRequest where
  method : String
  /-- The path and the query. -/
  target : String
  accept : String
  authorization : Option String
  contentType : Option String
  body : Option Json

/-- A version of the protocol. -/
inductive HttpVersion where
  | http09
  | http10
  | http11
  | http2
  | http3
  deriving DecidableEq

/-- The name that a status line begins with. -/
def HttpVersion.text : HttpVersion → String
  | .http09 => "HTTP/0.9"
  | .http10 => "HTTP/1.0"
  | .http11 => "HTTP/1.1"
  | .http2 => "HTTP/2.0"
  | .http3 => "HTTP/3.0"

/-- A reply. -/
structure HttpReply where
  version : HttpVersion
  status : Nat
  /-- What the service calls itself. -/
  server : Option String
  /-- The part of the body that arrives. -/
  body : List UInt8
  /-- Whether bytes are missing at the end of the body. -/
  truncated : Bool

/-- Why there is no reply. -/
inductive HttpFault where
  /-- The service cannot be connected to. -/
  | unreachable
  /-- The reply does not come in time. -/
  | late
  /-- The exchange breaks off. -/
  | broken
  deriving DecidableEq

/-- What comes of sending a request. -/
abbrev Delivery := Except HttpFault HttpReply

/-- The error for a failing exchange. -/
def TransientPolicy.httpError (p : TransientPolicy) (fault : HttpFault) (context : String) :
    ClientError :=
  match fault with
  | .late => .timeout context
  | .unreachable => .connection context (p.isTransient true)
  | .broken => .connection context (p.isTransient false)

namespace HttpReply

/-- The customary word for a status. -/
def reason? : Nat → Option String
  | 100 => some "Continue"
  | 101 => some "Switching Protocols"
  | 102 => some "Processing"
  | 103 => some "Early Hints"
  | 200 => some "OK"
  | 201 => some "Created"
  | 202 => some "Accepted"
  | 203 => some "Non Authoritative Information"
  | 204 => some "No Content"
  | 205 => some "Reset Content"
  | 206 => some "Partial Content"
  | 207 => some "Multi-Status"
  | 208 => some "Already Reported"
  | 226 => some "IM Used"
  | 300 => some "Multiple Choices"
  | 301 => some "Moved Permanently"
  | 302 => some "Found"
  | 303 => some "See Other"
  | 304 => some "Not Modified"
  | 305 => some "Use Proxy"
  | 307 => some "Temporary Redirect"
  | 308 => some "Permanent Redirect"
  | 400 => some "Bad Request"
  | 401 => some "Unauthorized"
  | 402 => some "Payment Required"
  | 403 => some "Forbidden"
  | 404 => some "Not Found"
  | 405 => some "Method Not Allowed"
  | 406 => some "Not Acceptable"
  | 407 => some "Proxy Authentication Required"
  | 408 => some "Request Timeout"
  | 409 => some "Conflict"
  | 410 => some "Gone"
  | 411 => some "Length Required"
  | 412 => some "Precondition Failed"
  | 413 => some "Payload Too Large"
  | 414 => some "URI Too Long"
  | 415 => some "Unsupported Media Type"
  | 416 => some "Range Not Satisfiable"
  | 417 => some "Expectation Failed"
  | 418 => some "I'm a teapot"
  | 421 => some "Misdirected Request"
  | 422 => some "Unprocessable Entity"
  | 423 => some "Locked"
  | 424 => some "Failed Dependency"
  | 425 => some "Too Early"
  | 426 => some "Upgrade Required"
  | 428 => some "Precondition Required"
  | 429 => some "Too Many Requests"
  | 431 => some "Request Header Fields Too Large"
  | 451 => some "Unavailable For Legal Reasons"
  | 500 => some "Internal Server Error"
  | 501 => some "Not Implemented"
  | 502 => some "Bad Gateway"
  | 503 => some "Service Unavailable"
  | 504 => some "Gateway Timeout"
  | 505 => some "HTTP Version Not Supported"
  | 506 => some "Variant Also Negotiates"
  | 507 => some "Insufficient Storage"
  | 508 => some "Loop Detected"
  | 510 => some "Not Extended"
  | 511 => some "Network Authentication Required"
  | _ => none

/-- The first line of a reply. -/
def statusLine (r : HttpReply) : String :=
  r.version.text ++ " " ++ toString r.status ++ " " ++
    (reason? r.status).getD "<unknown status code>"

/-- Whether the status says that the request has been granted. -/
def isSuccess (r : HttpReply) : Bool := 200 ≤ r.status && r.status < 300

/-- Whether the service refuses the credentials. -/
def isRefusal (r : HttpReply) : Bool := r.status = 401 || r.status = 403

/-- A character that a header may show: a tab, or a printable one of ASCII. -/
def isVisible (c : Char) : Bool := c = '\t' || (0x20 ≤ c.toNat && c.toNat < 0x7f)

/-- What the service calls itself, unless it cannot be shown. Blanks around it do not count. -/
def serverName (r : HttpReply) : Option String :=
  r.server.bind fun s =>
    let isBlank (c : Char) : Bool := c = ' ' || c = '\t'
    let name := ((s.toList.dropWhile isBlank).reverse.dropWhile isBlank).reverse
    if name.all isVisible then some (String.ofList name) else none

end HttpReply

end QueryClient
