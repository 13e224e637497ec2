import HostVitals.Http.Target

/-!
# Requests and responses

The parts of an exchange that matter here: a request has a method and a target, a
response has a status, headers and a body.

* `Request.ofTexts?`: the request that a method, a target and headers make up.
-/

namespace HostVitals.Http

/-- A request method. Only the reading ones and the one that asks for options are told
apart. -/
inductive Method where
  | get
  | head
  | options
  | other
  deriving DecidableEq, Repr

def Method.ofName : String → Method
  | "GET" => .get
  | "HEAD" => .head
  | "OPTIONS" => .options
  | _ => .other

structure Request where
  method : Method
  target : Target
  deriving DecidableEq, Repr

/-- The name of a method or a header: letters, digits and some signs, and at least one. -/
def isToken (name : String) : Bool :=
  !name.isEmpty && name.toList.all fun c =>
    c.isAlphanum || "!#$%&'*+-.^_\x60|~".toList.contains c

/-- The size of the longest name of a header, in bytes. -/
def maxHeaderNameSize : Nat := 65535

def isHeaderName (name : String) : Bool :=
  isToken name && name.utf8ByteSize ≤ maxHeaderNameSize

/-- The text of a header holds no control but the tab. -/
def isHeaderText (text : String) : Bool :=
  text.toList.all fun c => c == '\t' || c == ' ' || isVisible c

/-- The request with a method, a target and headers, each of which has to be well formed.
Headers make no difference otherwise. -/
def Request.ofTexts? (method target : String) (headers : List (String × String)) :
    Option Request :=
  if isToken method && headers.all fun (name, text) => isHeaderName name && isHeaderText text then
    Target.ofText? target |>.map fun target => { method := .ofName method, target }
  else none

structure Response where
  status : Nat
  headers : List (String × String)
  body : String
  deriving DecidableEq, Repr

/-- What a route has to say: a text and its media type. -/
structure Content where
  status : Nat
  mediaType : String
  text : String
  deriving DecidableEq, Repr

/-- Headers of every response: any origin may read it. -/
def sharedHeaders : List (String × String) :=
  [("access-control-allow-origin", "*"),
   ("vary", "origin, access-control-request-method, access-control-request-headers")]

/-- The header of a response that tells it has no content. -/
def emptyHeaders : List (String × String) :=
  [("content-length", "0")]

/-- Headers of a response without content on a known path. -/
def allowHeaders : List (String × String) :=
  ("allow", "GET,HEAD") :: emptyHeaders

/-- A response with only the headers given. -/
def Response.bare (status : Nat) (headers : List (String × String)) : Response where
  status := status
  headers := sharedHeaders ++ headers
  body := ""

/-- The response with some content. Its length is in bytes. -/
def Response.ofContent (content : Content) : Response where
  status := content.status
  headers := sharedHeaders ++
    [("content-type", content.mediaType),
     ("content-length", toString content.text.utf8ByteSize)]
  body := content.text

def Response.headersOnly (response : Response) : Response :=
  { response with body := "" }

def Content.plain (status : Nat) (text : String) : Content where
  status := status
  mediaType := "text/plain; charset=utf-8"
  text := text

def Content.json (status : Nat) (text : String) : Content where
  status := status
  mediaType := "application/json"
  text := text

end HostVitals.Http
