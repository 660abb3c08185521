import EntityGraph.Http.Body

/-!
# HTTP service

A service with one route: asking for it answers a page for trying out queries, posting to it
answers a query. Requests from other sites are allowed everywhere.
-/

namespace EntityGraph

structure HttpRequest where
  method : String
  /-- The path and perhaps a query string. -/
  path : String
  contentType : Option String
  body : String

inductive HttpBody where
  | empty
  /-- The page for trying out queries. -/
  | playground
  | text (content : String)

structure HttpResponse where
  status : Nat
  contentType : Option String
  /-- Methods and headers which other sites may use, named on request. -/
  allowMethods : Option String
  allowHeaders : Option String
  body : HttpBody

namespace HttpService

/-- The path of the route. -/
def route : String := "/graphql"

/-- Any site may send requests. -/
def allowOrigin : String := "*"

def plain (status : Nat) : HttpResponse := ⟨status, none, none, none, .empty⟩

def htmlType : String := "text/html; charset=utf-8"

def jsonType : String := "application/json"

/-- What other sites may do. -/
def preflight : HttpResponse :=
  { plain 200 with allowMethods := some "GET,POST,OPTIONS", allowHeaders := some "content-type" }

def page (body : HttpBody) : HttpResponse := { plain 200 with contentType := some htmlType, body }

/-- The path without query string. -/
def pathOf (path : String) : String := String.ofList (path.toList.takeWhile (· ≠ '?'))

/-- The media type of the body of a request, none if the header is not well written. Without a
    header, or with one which holds other than visible characters, the body is JSON. -/
def bodyType? (contentType : Option String) : Option MediaType :=
  match contentType.filter fun t => t.toList.all isVisible with
  | none => some .json
  | some header => MediaType.read? header
where
  isVisible (c : Char) : Bool := c == '\t' || (0x20 ≤ c.toNat && c.toNat < 0x7f)

/-- Answers a posted query. -/
def answerQuery (respond : Request → Run Response) (r : HttpRequest) : Run HttpResponse :=
  match (bodyType? r.contentType).map fun type => Request.ofBody type r.body with
  | some (.ok request) => (respond request).map fun response =>
    { plain 200 with
      contentType := some jsonType
      body := .text response.text }
  | _ => Eventual.pure (plain 400)

/-- Answers a request. -/
def answer (respond : Request → Run Response) (r : HttpRequest) : Run HttpResponse :=
  if r.method = "OPTIONS" then Eventual.pure preflight
  else if pathOf r.path ≠ route then Eventual.pure (plain 404)
  else match r.method with
    | "GET" => Eventual.pure (page .playground)
    | "HEAD" => Eventual.pure (page .empty)
    | "POST" => answerQuery respond r
    | _ => Eventual.pure (plain 405)

/-! ### Running -/

/-- Why the service can not start. -/
inductive Fault where
  | socketTaken

def Fault.message : Fault → String
  | .socketTaken => "error creating server listener: Address already in use (os error 98)"

/-- The record of a service which listens on all addresses, at the socket of a number. -/
def listening (number : String) : LogRecord :=
  LogSource.http.record .info ("GraphQL API available at http://0.0.0.0:" ++ number ++ route)

def stopping : LogRecord := LogSource.http.record .debug "HTTP service is shutting down"

/-- Starts listening at the socket of a number, which may be taken; the records of the start. -/
def listen (taken : Bool) (number : String) : Except Fault (List LogRecord) :=
  if taken then .error .socketTaken else .ok [listening number]

end HttpService

end EntityGraph
