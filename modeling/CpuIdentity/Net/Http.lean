import CpuIdentity.Text.Numeral

/-!
# Requests and responses

The part of the hypertext transfer protocol that the server takes notice of, as it is documented: what
path the target of a request asks for, and what a response is made of.

On the wire the first line of a request holds its method, its target and the version of the protocol
between blanks. A response is a status line, its headers, an empty line and its body, which lasts until
the connection is closed.
-/

namespace CpuIdentity

/-- A request: its method and its target. -/
structure Request where
  method : Text
  target : Text
  deriving DecidableEq, Repr

namespace Request

/-- Whether a character may stand in the scheme of a target. -/
def inScheme (c : Char) : Bool := c.isAlphanum || c ∈ ['+', '-', '.']

/-- Whether a character ends the part of a target that names a server. -/
def endsAuthority (c : Char) : Bool := c ∈ ['/', '?', '#']

/-- Whether a character ends the path of a target: what follows is a query or a fragment. -/
def endsPath (c : Char) : Bool := c ∈ ['?', '#']

/-- A target from its path on. A target in absolute form names a scheme and a server before it. -/
def fromPath (target : Text) : Text :=
  match Text.dropLead? "://" (target.dropWhile inScheme) with
  | some rest => rest.dropWhile fun c => !endsAuthority c
  | none => target

/-- The path that a request asks for. A target in absolute form without a path asks for the root. -/
def path (r : Request) : Text :=
  match (fromPath r.target).takeWhile fun c => !endsPath c with
  | [] => "/"
  | path => path

example : path ⟨"GET", "/metrics?q=/version#top"⟩ = ("/metrics" : Text) := by decide
example : path ⟨"GET", "http://node:9100/metrics?q"⟩ = ("/metrics" : Text) := by decide

end Request

/-- A response: its status, the headers that the server sets, and its body. -/
structure Response where
  status : Nat
  contentType : Option Text
  allow : Option Text
  body : Text
  deriving DecidableEq, Repr

namespace Response

def plainText : Text := "text/plain; charset=utf-8"

def ok (contentType body : Text) : Response := ⟨200, some contentType, none, body⟩

/-- The response to a request for a path that is not served. -/
def notFound : Response := ⟨404, none, none, []⟩

/-- The response to a method that a path does not allow, with those that it does. -/
def methodNotAllowed (allowed : Text) : Response := ⟨405, none, some allowed, []⟩

/-- The response to a request that the server failed to answer. -/
def serverError (body : Text) : Response := ⟨500, some plainText, none, body⟩

def withoutBody (r : Response) : Response := { r with body := [] }

end Response

def lineEnd : Text := "\r\n"

/-- The request that starts with a line, if the line has three parts. -/
def Request.ofLine? (line : Text) : Option Request :=
  match line.splitOn ' ' with
  | [method, target, _] => some ⟨method, target⟩
  | _ => none

namespace Response

def reason : Nat → Text
  | 200 => "OK"
  | 404 => "Not Found"
  | 405 => "Method Not Allowed"
  | _ => "Internal Server Error"

/-- A header line, if the header has a value. -/
def header (name : Text) : Option Text → Text
  | none => []
  | some value => name ++ ": " ++ value ++ lineEnd

def wire (r : Response) : Text :=
  "HTTP/1.1 " ++ Text.decimal r.status ++ " " ++ reason r.status ++ lineEnd ++
    header "content-type" r.contentType ++ header "allow" r.allow ++
    header "connection" (some "close") ++ lineEnd ++ r.body

end Response

end CpuIdentity
