import OrderDesk.Http.Gateway

/-!
# Requests and responses as lines

A request on one line: its method, its target and its JSON body, with one space between them. A
response on one line: its status and, behind a space, its body if there is one.
-/

namespace OrderDesk.Http

/-- The characters up to the first space, and those behind it. -/
def splitWord (chars : List Char) : List Char × List Char :=
  (chars.takeWhile (· != ' '), (chars.dropWhile (· != ' ')).drop 1)

/-- The request on a line. What a line lacks is empty. -/
def Request.ofLine (line : String) : Request :=
  let (method, rest) := splitWord line.toList
  let (target, body) := splitWord rest
  { method := String.ofList method
    target := String.ofList target
    contentType := some "application/json"
    body := Utf8.encode (String.ofList body) }

/-- The line of a response. -/
def Response.line (response : Response) : String :=
  match response.body with
  | .empty => toString response.status
  | .text explanation => s!"{response.status} {explanation}"
  | .document document => s!"{response.status} {document.render}"

end OrderDesk.Http
