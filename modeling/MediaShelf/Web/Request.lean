import MediaShelf.Text.Words

/-!
# Requests

## Main definitions

* `percent` — a byte as an escape in an address
* `formEncode` — a text as a value in the query of an address
* `resolvePath` — the path of an address without detours
* `requestTarget` — path and query of a request
* `Response` — what a server answers, with `reasonPhrase` for its status
-/

namespace MediaShelf.Web

/-- A hexadecimal digit in upper case. -/
def hexDigit (n : Nat) : Char := (Nat.digitChar (n % 16)).toUpper

/-- A byte as a percent sign and two digits. -/
def percent (byte : UInt8) : List Char :=
  ['%', hexDigit (byte.toNat / 16), hexDigit byte.toNat]

/-- A character as the escapes of its bytes. -/
def percentChar (c : Char) : List Char := (String.singleton c).toUTF8.toList.flatMap percent

/-- Whether a character stands for itself in a query. -/
def isFormChar (c : Char) : Bool := c.isAlphanum || ['*', '-', '.', '_'].contains c

/-- A text as a value in a query: spaces become plus signs. -/
def formEncode (text : List Char) : List Char :=
  text.flatMap fun c =>
    if c == ' ' then ['+'] else if isFormChar c then [c] else percentChar c

/-- Whether a character stands for itself in a path. -/
def isPathChar (c : Char) : Bool :=
  0x20 < c.toNat && c.toNat < 0x7F && !(['\x22', '<', '>', '^', '\x60', '\x7b', '\x7d'].contains c)

/-- A text as part of a path. -/
def pathEncode (text : List Char) : List Char :=
  text.flatMap fun c => if isPathChar c then [c] else percentChar c

/-- Whether a character stands for itself in a query that an address was written with. -/
def isQueryChar (c : Char) : Bool :=
  0x20 < c.toNat && c.toNat < 0x7F && !(['\x22', '#', '<', '>', '\x27'].contains c)

/-- The query that an address was written with. -/
def queryEncode (text : List Char) : List Char :=
  text.flatMap fun c => if isQueryChar c then [c] else percentChar c

/-- How many full stops a segment consists of, where each may be written as an escape. -/
def fullStops? : List Char → Option Nat
  | [] => some 0
  | '.' :: rest => (fullStops? rest).map (· + 1)
  | '%' :: '2' :: 'e' :: rest | '%' :: '2' :: 'E' :: rest => (fullStops? rest).map (· + 1)
  | _ => none

/-- The segments of a path behind those that were taken up already, last first. One full stop stays
in a directory and two leave it. -/
def resolveSegments (done : List (List Char)) : List (List Char) → List (List Char)
  | [] => done.reverse
  | segment :: rest =>
    let goOn (kept : List (List Char)) :=
      resolveSegments (if rest.isEmpty then [] :: kept else kept) rest
    match fullStops? segment with
    | some 1 => goOn done
    | some 2 => goOn (done.drop 1)
    | _ => resolveSegments (pathEncode segment :: done) rest

/-- An absolute path in the form that is sent, where a backslash counts as a slash. -/
def resolvePath (text : List Char) : List Char :=
  let segments := Text.splitBy (fun c => c == '/' || c == '\\') (text.drop 1)
  (resolveSegments [] segments).flatMap ('/' :: ·)

/-- Control characters and spaces, which do not count at the end of an address. -/
def isEndJunk (c : Char) : Bool := c.toNat ≤ 0x20

/-- Tabs and line ends, which count nowhere in an address. -/
def isLayout (c : Char) : Bool := c == '\t' || c == '\n' || c == '\r'

/-- Path and query of a request, given the address behind the name of the server and further
pairs for the query. What follows a number sign is not sent. -/
def requestTarget (address : String) (pairs : List (String × String)) : String :=
  let text := (Text.trimEndBy isEndJunk address.toList).filter (! isLayout ·)
  let sent := text.takeWhile (· != '#')
  let path := resolvePath (sent.takeWhile (· != '?'))
  let written := queryEncode ((sent.dropWhile (· != '?')).drop 1)
  let added := pairs.map fun (key, value) =>
    formEncode key.toList ++ '=' :: formEncode value.toList
  let query := Text.joinWith ['&'] (if written.isEmpty then added else written :: added)
  String.ofList (if query.isEmpty then path else path ++ '?' :: query)

/-- What a server answers. -/
structure Response where
  status : Nat
  body : String
  deriving DecidableEq, Repr

/-- The content of a response. Some statuses tell that there is none, whatever follows them. -/
def Response.content (response : Response) : String :=
  if response.status == 204 || response.status == 304 then "" else response.body

/-- Whether the status tells of success. -/
def Response.isSuccess (response : Response) : Bool :=
  200 ≤ response.status && response.status < 300

/-- Statuses with their standard phrases. -/
def reasonPhrases : List (Nat × String) := [
  (100, "Continue"), (101, "Switching Protocols"), (102, "Processing"), (103, "Early Hints"),
  (200, "OK"), (201, "Created"), (202, "Accepted"), (203, "Non Authoritative Information"),
  (204, "No Content"), (205, "Reset Content"), (206, "Partial Content"), (207, "Multi-Status"),
  (208, "Already Reported"), (226, "IM Used"), (300, "Multiple Choices"),
  (301, "Moved Permanently"), (302, "Found"), (303, "See Other"), (304, "Not Modified"),
  (305, "Use Proxy"), (307, "Temporary Redirect"), (308, "Permanent Redirect"),
  (400, "Bad Request"), (401, "Unauthorized"), (402, "Payment Required"), (403, "Forbidden"),
  (404, "Not Found"), (405, "Method Not Allowed"), (406, "Not Acceptable"),
  (407, "Proxy Authentication Required"), (408, "Request Timeout"), (409, "Conflict"),
  (410, "Gone"), (411, "Length Required"), (412, "Precondition Failed"),
  (413, "Payload Too Large"), (414, "URI Too Long"), (415, "Unsupported Media Type"),
  (416, "Range Not Satisfiable"), (417, "Expectation Failed"), (418, "I'm a teapot"),
  (421, "Misdirected Request"), (422, "Unprocessable Entity"), (423, "Locked"),
  (424, "Failed Dependency"), (425, "Too Early"), (426, "Upgrade Required"),
  (428, "Precondition Required"), (429, "Too Many Requests"),
  (431, "Request Header Fields Too Large"), (451, "Unavailable For Legal Reasons"),
  (500, "Internal Server Error"), (501, "Not Implemented"), (502, "Bad Gateway"),
  (503, "Service Unavailable"), (504, "Gateway Timeout"), (505, "HTTP Version Not Supported"),
  (506, "Variant Also Negotiates"), (507, "Insufficient Storage"), (508, "Loop Detected"),
  (510, "Not Extended"), (511, "Network Authentication Required")]

/-- The standard phrase for a status. -/
def reasonPhrase (status : Nat) : String := (reasonPhrases.lookup status).getD "Unknown"

end MediaShelf.Web
