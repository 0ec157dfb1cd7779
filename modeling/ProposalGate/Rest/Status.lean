/-!
# Statuses

The status of an answer is a number, and for the numbers in use there is a phrase.
-/

namespace ProposalGate.Rest.Status

/-- The phrases of the statuses in use. -/
def phrases : List (Nat × String) := [
  (100, "Continue"), (101, "Switching Protocols"), (102, "Processing"), (103, "Early Hints"),
  (200, "OK"), (201, "Created"), (202, "Accepted"), (203, "Non Authoritative Information"),
  (204, "No Content"), (205, "Reset Content"), (206, "Partial Content"), (207, "Multi-Status"),
  (208, "Already Reported"), (226, "IM Used"), (300, "Multiple Choices"),
  (301, "Moved Permanently"), (302, "Found"), (303, "See Other"), (304, "Not Modified"),
  (305, "Use Proxy"), (307, "Temporary Redirect"), (308, "Permanent Redirect"),
  (400, "Bad Request"), (401, "Unauthorized"), (402, "Payment Required"), (403, "Forbidden"),
  (404, "Not Found"), (405, "Method Not Allowed"), (406, "Not Acceptable"),
  (407, "Proxy Authentication Required"), (408, "Request Timeout"), (409, "Conflict"),
  (410, "Gone"), (411, "Length Required"), (412, "Precondition Failed"),
  (413, "Payload Too Large"), (414, "URI Too Long"), (415, "Unsupported Media Type"),
  (416, "Range Not Satisfiable"), (417, "Expectation Failed"), (418, "I'm a teapot"),
  (421, "Misdirected Request"), (422, "Unprocessable Entity"), (423, "Locked"),
  (424, "Failed Dependency"), (425, "Too Early"), (426, "Upgrade Required"),
  (428, "Precondition Required"), (429, "Too Many Requests"),
  (431, "Request Header Fields Too Large"), (451, "Unavailable For Legal Reasons"),
  (500, "Internal Server Error"), (501, "Not Implemented"), (502, "Bad Gateway"),
  (503, "Service Unavailable"), (504, "Gateway Timeout"), (505, "HTTP Version Not Supported"),
  (506, "Variant Also Negotiates"), (507, "Insufficient Storage"), (508, "Loop Detected"),
  (510, "Not Extended"), (511, "Network Authentication Required")]

/-- The phrase of a status. -/
def phrase (status : Nat) : String :=
  (phrases.lookup status).getD "<unknown status code>"

/-- A status with its phrase. -/
def text (status : Nat) : String :=
  s!"{status} {phrase status}"

/-- Whether a status means success. -/
def isSuccess (status : Nat) : Bool :=
  200 ≤ status && status < 300

/-- Whether a status means that the resource is somewhere else. -/
def isRedirect (status : Nat) : Bool :=
  status = 301 || status = 302 || status = 303 || status = 307 || status = 308

/-- There are five such statuses; the others between 300 and 399 are answers. -/
theorem isRedirect_iff {status : Nat} :
    isRedirect status = true ↔ status ∈ [301, 302, 303, 307, 308] := by
  simp [isRedirect, or_assoc]

/-- Whether a redirect asks for the same request once more, and not just for the resource. -/
def keepsMethod (status : Nat) : Bool :=
  status = 307 || status = 308

/-- The status of what is not there. -/
def notFound : Nat := 404

end ProposalGate.Rest.Status
