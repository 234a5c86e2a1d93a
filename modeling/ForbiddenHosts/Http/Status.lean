import ForbiddenHosts.Decimal.Layout

/-!
# Status codes of HTTP replies

A status is a number of three digits.  Those from 200 to 299 say that a request succeeded.
-/
namespace ForbiddenHosts.Http

/-- The status of a reply. -/
structure Status where
  code : Nat
  three_digits : 100 ≤ code ∧ code < 1000
  deriving DecidableEq, Repr

namespace Status

/-- The status with a code, if the code has three digits. -/
def ofNat? (code : Nat) : Option Status :=
  if h : 100 ≤ code ∧ code < 1000 then some ⟨code, h⟩ else none

/-- The status of a plain success. -/
def ok : Status := ⟨200, by decide⟩

/-- The status of a reply for an address that is not known. -/
def notFound : Status := ⟨404, by decide⟩

/-- The request succeeded. -/
def isSuccess (status : Status) : Bool := 200 ≤ status.code && status.code ≤ 299

/-- A reply with this status has no body. -/
def isBodiless (status : Status) : Bool := status.code == 204 || status.code == 304

/-- The registered reason for a code. -/
def reason? : Nat → Option String
  | 100 => "Continue"
  | 101 => "Switching Protocols"
  | 102 => "Processing"
  | 103 => "Early Hints"
  | 200 => "OK"
  | 201 => "Created"
  | 202 => "Accepted"
  | 203 => "Non Authoritative Information"
  | 204 => "No Content"
  | 205 => "Reset Content"
  | 206 => "Partial Content"
  | 207 => "Multi-Status"
  | 208 => "Already Reported"
  | 226 => "IM Used"
  | 300 => "Multiple Choices"
  | 301 => "Moved Permanently"
  | 302 => "Found"
  | 303 => "See Other"
  | 304 => "Not Modified"
  | 305 => "Use Proxy"
  | 307 => "Temporary Redirect"
  | 308 => "Permanent Redirect"
  | 400 => "Bad Request"
  | 401 => "Unauthorized"
  | 402 => "Payment Required"
  | 403 => "Forbidden"
  | 404 => "Not Found"
  | 405 => "Method Not Allowed"
  | 406 => "Not Acceptable"
  | 407 => "Proxy Authentication Required"
  | 408 => "Request Timeout"
  | 409 => "Conflict"
  | 410 => "Gone"
  | 411 => "Length Required"
  | 412 => "Precondition Failed"
  | 413 => "Payload Too Large"
  | 414 => "URI Too Long"
  | 415 => "Unsupported Media Type"
  | 416 => "Range Not Satisfiable"
  | 417 => "Expectation Failed"
  | 418 => "I'm a teapot"
  | 421 => "Misdirected Request"
  | 422 => "Unprocessable Entity"
  | 423 => "Locked"
  | 424 => "Failed Dependency"
  | 425 => "Too Early"
  | 426 => "Upgrade Required"
  | 428 => "Precondition Required"
  | 429 => "Too Many Requests"
  | 431 => "Request Header Fields Too Large"
  | 451 => "Unavailable For Legal Reasons"
  | 500 => "Internal Server Error"
  | 501 => "Not Implemented"
  | 502 => "Bad Gateway"
  | 503 => "Service Unavailable"
  | 504 => "Gateway Timeout"
  | 505 => "HTTP Version Not Supported"
  | 506 => "Variant Also Negotiates"
  | 507 => "Insufficient Storage"
  | 508 => "Loop Detected"
  | 510 => "Not Extended"
  | 511 => "Network Authentication Required"
  | _ => none

/-- A status as messages show it: the code and its reason. -/
def text (status : Status) : String :=
  Decimal.integer status.code ++ " " ++ (reason? status.code).getD "<unknown status code>"

theorem isSuccess_iff {status : Status} :
    status.isSuccess = true ↔ 200 ≤ status.code ∧ status.code ≤ 299 := by
  simp [isSuccess]

end Status

end ForbiddenHosts.Http
