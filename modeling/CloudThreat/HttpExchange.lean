import CloudThreat.Json

namespace CloudThreat

structure HttpRequest where
  method : String
  url : String
  headers : List (String × String)
  body : Json
deriving Repr

/-- An answer with its text, or none: the connection failed for some reason, or nothing came in
time. -/
inductive HttpOutcome where
  | reply (status : Nat) (body : String)
  | lost (reason : String)
  | late
deriving Repr

/-- Why an address cannot be used: it cannot be parsed or has no host, or it is of a scheme that is
not spoken. The first shows as soon as the address is given, the second only when the request is
complete. -/
inductive AddressRefusal where
  | unreadable (reason : String)
  | foreign (reason : String)
deriving Repr

/-- What carries requests. To an address that it refuses it sends nothing. All else it sends and,
where an answer redirects it, sends on; it may change with every request. -/
structure Transport (σ : Type) where
  refusal? : String → Option AddressRefusal
  send : HttpRequest → σ → HttpOutcome × σ

namespace Http

/-- The phrases of the standard codes. -/
def phrases : List (Nat × String) := [
  (100, "Continue"), (101, "Switching Protocols"), (102, "Processing"),
  (200, "OK"), (201, "Created"), (202, "Accepted"), (203, "Non Authoritative Information"),
  (204, "No Content"), (205, "Reset Content"), (206, "Partial Content"), (207, "Multi-Status"),
  (208, "Already Reported"), (226, "IM Used"),
  (300, "Multiple Choices"), (301, "Moved Permanently"), (302, "Found"), (303, "See Other"),
  (304, "Not Modified"), (305, "Use Proxy"), (307, "Temporary Redirect"),
  (308, "Permanent Redirect"),
  (400, "Bad Request"), (401, "Unauthorized"), (402, "Payment Required"), (403, "Forbidden"),
  (404, "Not Found"), (405, "Method Not Allowed"), (406, "Not Acceptable"),
  (407, "Proxy Authentication Required"), (408, "Request Timeout"), (409, "Conflict"),
  (410, "Gone"), (411, "Length Required"), (412, "Precondition Failed"),
  (413, "Payload Too Large"), (414, "URI Too Long"), (415, "Unsupported Media Type"),
  (416, "Range Not Satisfiable"), (417, "Expectation Failed"), (418, "I'm a teapot"),
  (421, "Misdirected Request"), (422, "Unprocessable Entity"), (423, "Locked"),
  (424, "Failed Dependency"), (426, "Upgrade Required"), (428, "Precondition Required"),
  (429, "Too Many Requests"), (431, "Request Header Fields Too Large"),
  (451, "Unavailable For Legal Reasons"),
  (500, "Internal Server Error"), (501, "Not Implemented"), (502, "Bad Gateway"),
  (503, "Service Unavailable"), (504, "Gateway Timeout"), (505, "HTTP Version Not Supported"),
  (506, "Variant Also Negotiates"), (507, "Insufficient Storage"), (508, "Loop Detected"),
  (510, "Not Extended"), (511, "Network Authentication Required")]

/-- A code with its phrase. -/
def statusText (status : Nat) : String :=
  toString status ++ " " ++ (phrases.lookup status).getD "<unknown status code>"

def isSuccess (status : Nat) : Bool :=
  200 ≤ status && status < 300

/-- Answers with these codes never have a body. -/
def isBodiless (status : Nat) : Bool :=
  status = 204 || status = 304

/-- Control characters other than the tab may not stand in a header. -/
def isHeaderChar (c : Char) : Bool :=
  (0x20 ≤ c.toNat && c.toNat ≠ 0x7F) || c = '\t'

def isHeaderSpace (c : Char) : Bool :=
  c = ' ' || c = '\t'

/-- The value that a header carries: blanks at its ends are not part of it. -/
def headerValue? (s : String) : Option String :=
  if s.toList.all isHeaderChar then
    let cs := s.toList.dropWhile isHeaderSpace
    some (String.ofList (cs.reverse.dropWhile isHeaderSpace).reverse)
  else none

end Http

end CloudThreat
