import ApiScaffold.Naming

/-!
# Status codes

The codes of responses and the phrases that name them.

* `reason?`: the phrase of a code.
* `label`: a code with its phrase.
* `variantName`: the phrase as a type name, or `Status` and the code where there is none.
-/

namespace ApiScaffold.Web.Status

/-- The codes that have a phrase. -/
def reasons : List (Nat × String) :=
  [(100, "Continue"), (101, "Switching Protocols"), (102, "Processing"), (103, "Early Hints"),
    (200, "OK"), (201, "Created"), (202, "Accepted"), (203, "Non Authoritative Information"),
    (204, "No Content"), (205, "Reset Content"), (206, "Partial Content"), (207, "Multi-Status"),
    (208, "Already Reported"), (226, "IM Used"), (300, "Multiple Choices"),
    (301, "Moved Permanently"), (302, "Found"), (303, "See Other"), (304, "Not Modified"),
    (305, "Use Proxy"), (307, "Temporary Redirect"), (308, "Permanent Redirect"),
    (400, "Bad Request"), (401, "Unauthorized"), (402, "Payment Required"), (403, "Forbidden"),
    (404, "Not Found"), (405, "Method Not Allowed"), (406, "Not Acceptable"),
    (407, "Proxy Authentication Required"), (408, "Request Timeout"), (409, "Conflict"),
    (410, "Gone"), (411, "Length Required"), (412, "Precondition Failed"),
    (413, "Payload Too Large"), (414, "URI Too Long"), (415, "Unsupported Media Type"),
    (416, "Range Not Satisfiable"), (417, "Expectation Failed"), (418, "I'm a teapot"),
    (421, "Misdirected Request"), (422, "Unprocessable Entity"), (423, "Locked"),
    (424, "Failed Dependency"), (425, "Too Early"), (426, "Upgrade Required"),
    (428, "Precondition Required"), (429, "Too Many Requests"),
    (431, "Request Header Fields Too Large"), (451, "Unavailable For Legal Reasons"),
    (500, "Internal Server Error"), (501, "Not Implemented"), (502, "Bad Gateway"),
    (503, "Service Unavailable"), (504, "Gateway Timeout"), (505, "HTTP Version Not Supported"),
    (506, "Variant Also Negotiates"), (507, "Insufficient Storage"), (508, "Loop Detected"),
    (510, "Not Extended"), (511, "Network Authentication Required")]

/-- The phrase of a code. -/
def reason? (code : Nat) : Option String := reasons.lookup code

/-- A code, with its phrase if it has one. -/
def label (code : Nat) : String :=
  match reason? code with
  | some reason => s!"{code} {reason}"
  | none => toString code

/-- The type name of a code. -/
def variantName (code : Nat) : String :=
  let phrase := ((reason? code).map Naming.proper).getD ""
  match phrase.toList with
  | c :: _ => if Text.isAsciiUpper c then phrase else s!"Status{code}"
  | [] => s!"Status{code}"

/-- Whether a code lies in the class of server errors. -/
def isServerError (code : Nat) : Bool := 500 ≤ code && code ≤ 599

end ApiScaffold.Web.Status
