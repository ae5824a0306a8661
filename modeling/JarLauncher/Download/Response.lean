import JarLauncher.Text.Utf8

/-!
What a server answers to a request for a document, as far as a download depends on it.
-/

namespace JarLauncher.Download

inductive BodyEnd
  | complete
  /-- The connection failed before the body was complete. -/
  | broken (message : String)
  deriving DecidableEq, Repr

/-- The final response to a request. -/
structure Response where
  status : Nat
  /-- The words after the status, without them if there were none or if they were not readable. -/
  phrase : Bytes
  /-- The body, in the pieces it came in. -/
  chunks : List Bytes
  bodyEnd : BodyEnd
  deriving DecidableEq, Repr

/-- What came of asking a server for a document. -/
inductive Transfer
  | failed (message : String)
  | response (response : Response)
  deriving DecidableEq, Repr

/-- The words that the standard gives to a status. -/
def standardPhrases : List (Nat × String) :=
  [(100, "Continue"), (101, "Switching Protocols"), (102, "Processing"), (103, "Early Hints"),
   (200, "OK"), (201, "Created"), (202, "Accepted"), (203, "Non Authoritative Information"),
   (204, "No Content"), (205, "Reset Content"), (206, "Partial Content"), (207, "Multi-Status"),
   (208, "Already Reported"), (226, "IM Used"), (300, "Multiple Choices"),
   (301, "Moved Permanently"), (302, "Found"), (303, "See Other"), (304, "Not Modified"),
   (305, "Use Proxy"), (307, "Temporary Redirect"), (308, "Permanent Redirect"),
   (400, "Bad Request"), (401, "Unauthorized"), (402, "Payment Required"), (403, "Forbidden"),
   (404, "Not Found"), (405, "Method Not Allowed"), (406, "Not Acceptable"),
   (407, "Proxy Authentication Required"), (408, "Request Timeout"), (409, "Conflict"),
   (410, "Gone"), (411, "Length Required"), (412, "Precondition Failed"),
   (413, "Payload Too Large"), (414, "URI Too Long"), (415, "Unsupported Media Type"),
   (416, "Range Not Satisfiable"), (417, "Expectation Failed"), (418, "I'm a teapot"),
   (421, "Misdirected Request"), (422, "Unprocessable Entity"), (423, "Locked"),
   (424, "Failed Dependency"), (425, "Too Early"), (426, "Upgrade Required"),
   (428, "Precondition Required"), (429, "Too Many Requests"),
   (431, "Request Header Fields Too Large"), (451, "Unavailable For Legal Reasons"),
   (500, "Internal Server Error"), (501, "Not Implemented"), (502, "Bad Gateway"),
   (503, "Service Unavailable"), (504, "Gateway Timeout"), (505, "HTTP Version Not Supported"),
   (506, "Variant Also Negotiates"), (507, "Insufficient Storage"), (508, "Loop Detected"),
   (510, "Not Extended"), (511, "Network Authentication Required")]

def standardPhrase? (status : Nat) : Option String :=
  standardPhrases.lookup status

namespace Response

/-- Whether the status says that the document follows. -/
def isSuccess (response : Response) : Bool :=
  200 ≤ response.status && response.status < 300

/-- The words of the server, kept only where they are not the standard's. -/
def ownPhrase? (response : Response) : Option Bytes :=
  if (standardPhrase? response.status).map Utf8.encode = some response.phrase then none
  else some response.phrase

/-- The words to show for a status: the server's own if they are text, else the standard's. -/
def statusText (response : Response) : String :=
  ((response.ownPhrase?.bind Utf8.decode?) <|> standardPhrase? response.status).getD ""

def body (response : Response) : Bytes :=
  response.chunks.flatten

end Response
end JarLauncher.Download
