/-
Module: ServerDriven.Http.Status
Purpose: What the status of an HTTP answer says.
Main exports:
  Status.reasons, Status.reason, Status.isSuccess, WorkflowError.ofStatus
-/
import ServerDriven.Text.Blank
import ServerDriven.Workflow.Error

namespace ServerDriven

namespace Status

/-- The registered status codes with their reason phrases. -/
def reasons : List (Nat × String) :=
  [(100, "Continue"), (101, "Switching Protocols"), (102, "Processing"), (103, "Early Hints"),
    (200, "OK"), (201, "Created"), (202, "Accepted"), (203, "Non Authoritative Information"),
    (204, "No Content"), (205, "Reset Content"), (206, "Partial Content"), (207, "Multi-Status"),
    (208, "Already Reported"), (226, "IM Used"),
    (300, "Multiple Choices"), (301, "Moved Permanently"), (302, "Found"), (303, "See Other"),
    (304, "Not Modified"), (305, "Use Proxy"), (307, "Temporary Redirect"),
    (308, "Permanent Redirect"),
    (400, "Bad Request"), (401, "Unauthorized"), (402, "Payment Required"), (403, "Forbidden"),
    (404, "Not Found"), (405, "Method Not Allowed"), (406, "Not Acceptable"),
    (407, "Proxy Authentication Required"), (408, "Request Timeout"), (409, "Conflict"),
    (410, "Gone"), (411, "Length Required"), (412, "Precondition Failed"),
    (413, "Payload Too Large"), (414, "URI Too Long"), (415, "Unsupported Media Type"),
    (416, "Range Not Satisfiable"), (417, "Expectation Failed"), (418, "I'm a teapot"),
    (421, "Misdirected Request"), (422, "Unprocessable Entity"), (423, "Locked"),
    (424, "Failed Dependency"), (425, "Too Early"), (426, "Upgrade Required"),
    (428, "Precondition Required"), (429, "Too Many Requests"),
    (431, "Request Header Fields Too Large"), (451, "Unavailable For Legal Reasons"),
    (500, "Internal Server Error"), (501, "Not Implemented"), (502, "Bad Gateway"),
    (503, "Service Unavailable"), (504, "Gateway Timeout"), (505, "HTTP Version Not Supported"),
    (506, "Variant Also Negotiates"), (507, "Insufficient Storage"), (508, "Loop Detected"),
    (510, "Not Extended"), (511, "Network Authentication Required")]

/-- The reason phrase of a status. -/
def reason (code : Nat) : String := (reasons.lookup code).getD "Unexpected status"

def isSuccess (code : Nat) : Bool := 200 ≤ code && code < 300

/-- How many characters of an answer's body an error carries. -/
def bodyLimit : Nat := 200

/-- What is told of a failing answer: the beginning of its body, or the reason phrase if the body is
blank. -/
def detail (code : Nat) (body : String) : String :=
  let trimmed := Text.trim body
  if trimmed.isEmpty then reason code else String.ofList (trimmed.toList.take bodyLimit)

end Status

/-- The failure that a status other than success stands for. -/
def WorkflowError.ofStatus (code : Nat) (body : String) : WorkflowError :=
  match code with
  | 400 | 422 => .validation (Status.detail code body)
  | 401 | 403 | 410 => .sessionExpired
  | _ => .server code (Status.detail code body)

end ServerDriven
