import MeshConsole.Decimal.Layout

/-!
# Status codes

An HTTP answer carries a status code of three digits. It is shown with its standard reason; a code
without one is shown as unknown.
-/

namespace MeshConsole

/-- A status code. -/
structure StatusCode where
  val : Nat
  inRange : 100 ≤ val ∧ val ≤ 999
deriving Repr, DecidableEq

namespace StatusCode

/-- The status code of a number, if it has three digits. -/
def ofNat? (n : Nat) : Option StatusCode :=
  if h : 100 ≤ n ∧ n ≤ 999 then some ⟨n, h⟩ else none

/-- The code of an answer that went well. -/
def ok : StatusCode := ⟨200, by decide⟩

/-- The code of an answer about something that is not there. -/
def notFound : StatusCode := ⟨404, by decide⟩

/-- Whether a code says that the request went well. -/
def isSuccess (code : StatusCode) : Bool := Nat.ble 200 code.val && Nat.ble code.val 299

/-- The standard reasons. -/
def reasons : List (Nat × String) :=
  [(100, "Continue"), (101, "Switching Protocols"), (102, "Processing"), (103, "Early Hints"),
   (200, "OK"), (201, "Created"), (202, "Accepted"), (203, "Non Authoritative Information"),
   (204, "No Content"), (205, "Reset Content"), (206, "Partial Content"), (207, "Multi-Status"),
   (208, "Already Reported"), (226, "IM Used"),
   (300, "Multiple Choices"), (301, "Moved Permanently"), (302, "Found"), (303, "See Other"),
   (304, "Not Modified"), (305, "Use Proxy"), (307, "Temporary Redirect"),
   (308, "Permanent Redirect"),
   (400, "Bad Request"), (401, "Unauthorized"), (402, "Payment Required"), (403, "Forbidden"),
   (404, "Not Found"), (405, "Method Not Allowed"), (406, "Not Acceptable"),
   (407, "Proxy Authentication Required"), (408, "Request Timeout"), (409, "Conflict"),
   (410, "Gone"), (411, "Length Required"), (412, "Precondition Failed"),
   (413, "Payload Too Large"), (414, "URI Too Long"), (415, "Unsupported Media Type"),
   (416, "Range Not Satisfiable"), (417, "Expectation Failed"), (418, "I'm a teapot"),
   (421, "Misdirected Request"), (422, "Unprocessable Entity"), (423, "Locked"),
   (424, "Failed Dependency"), (425, "Too Early"), (426, "Upgrade Required"),
   (428, "Precondition Required"), (429, "Too Many Requests"),
   (431, "Request Header Fields Too Large"), (451, "Unavailable For Legal Reasons"),
   (500, "Internal Server Error"), (501, "Not Implemented"), (502, "Bad Gateway"),
   (503, "Service Unavailable"), (504, "Gateway Timeout"), (505, "HTTP Version Not Supported"),
   (506, "Variant Also Negotiates"), (507, "Insufficient Storage"), (508, "Loop Detected"),
   (510, "Not Extended"), (511, "Network Authentication Required")]

/-- The reason of a code. -/
def reason (code : StatusCode) : String :=
  (reasons.lookup code.val).getD "<unknown status code>"

/-- The text of a code with its reason. -/
def text (code : StatusCode) : String :=
  String.ofList (Decimal.natural code.val) ++ " " ++ code.reason

end StatusCode

end MeshConsole
