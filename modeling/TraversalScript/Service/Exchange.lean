import TraversalScript.Form.Reply
import TraversalScript.Form.Request
import TraversalScript.Json.Reader
import TraversalScript.Service.Target
import TraversalScript.Text.Blank
import TraversalScript.Text.Encoding
import TraversalScript.Text.Upper

/-!
# Requests and replies

* `Request`: method, path, headers and body, with `Request.header?` and `Request.id?`;
* `Request.ofParts`: a request of its parts as they are given, if they can be sent;
* `Endpoint`, `Endpoint.ofPath?`, `Endpoint.isPage`: what a path leads to;
* **`Request.form?`**: the request for scripts that a body holds;
* `Body`, `Body.toJson?`, `Body.text?`: what is sent back;
* `Reply`: status, headers and body.
-/

namespace TraversalScript

/-- A request as it arrives. -/
structure Request where
  method : String
  path : String
  headers : List (String × String)
  body : Option String

/-- A text in which letters of the first 128 characters are small. -/
def smallText (s : String) : String := String.ofList (s.toList.map Char.toLower)

/-- Why a request cannot be sent. -/
inductive RequestFault where
  /-- The target is no address. -/
  | target
  /-- A header holds a character beyond the first 128. -/
  | letters
  /-- A header is no text. -/
  | notText
deriving DecidableEq

namespace Request

/-- The first header of a name, in capital or small letters. -/
def header? (r : Request) (name : String) : Option String :=
  (r.headers.find? fun h => smallText h.1 == smallText name).map (·.2)

/-- The id that a request gives itself; an empty one is none. -/
def id? (r : Request) : Option String := (r.header? "x-request-id").filter fun id => !id.isEmpty

/-- A text of a header, which is of the first 128 characters. -/
def plainText (s : String) : Except RequestFault String :=
  if s.toList.all fun c => c.toNat < 128 then .ok s else .error .letters

/-- A header of a name and a value. -/
def plainHeader (h : String × Json) : Except RequestFault (String × String) := do
  let name ← plainText h.1
  match h.2 with
  | .text s => return (name, ← plainText s)
  | _ => throw .notText

/-- A request of its parts as they are given, if they can be sent. -/
def ofParts (method target : String) (headers : List (String × Json)) (body : Option String) :
    Except RequestFault Request := do
  match Target.path? target with
  | some path => return ⟨upperText method, path, ← headers.mapM plainHeader, body⟩
  | none => throw .target

end Request

/-! ## Endpoints -/

/-- What a path leads to. -/
inductive Endpoint where
  /-- Writing the scripts of a request. -/
  | find
  /-- The state of the service. -/
  | health
deriving DecidableEq

namespace Endpoint

/-- Every endpoint. -/
def all : List Endpoint := [find, health]

/-- The path of an endpoint. -/
def path : Endpoint → String
  | find => "/v1/scripts/find"
  | health => "/health"

/-- The one method of an endpoint. -/
def method : Endpoint → String
  | find => "POST"
  | health => "GET"

/-- Whether a path is one that is known; an end of line after it does not count. -/
def isAt (path known : String) : Bool := path == known || path == known ++ "\n"

/-- The endpoint of a path. -/
def ofPath? (s : String) : Option Endpoint := all.find? fun e => isAt s e.path

/-- The paths of the pages that describe the service. -/
def pages : List String := ["/openapi.json", "/docs", "/docs/oauth2-redirect", "/redoc"]

/-- The methods of these pages. -/
def pageMethods : List String := ["GET", "HEAD"]

/-- Whether a path is that of a page. -/
def isPage (s : String) : Bool := pages.any (isAt s)

/-- Whether a path leads to something once the slashes at its end are gone. -/
def isBeside (s : String) : Bool :=
  let cs := s.toList.reverse
  let plain := String.ofList (cs.dropWhile (· == '/')).reverse
  cs.head? == some '/' && (all.map path ++ pages).any (isAt plain)

end Endpoint

/-! ## Bodies of requests -/

namespace Request

/-- The kind of content that a header names, before its parameters. -/
def contentKind (header : String) : List Char :=
  let cs := (header.toList.takeWhile (· != ';')).dropWhile isSpace
  (cs.reverse.dropWhile isSpace).reverse.map Char.toLower

/-- Whether a kind of content is JSON. -/
def isJsonKind (kind : List Char) : Bool :=
  match kind.span (· != '/') with
  | (main, '/' :: sub) =>
    main == "application".toList && !sub.contains '/' &&
      (sub == "json".toList || "+json".toList.isSuffixOf sub)
  | _ => false

/-- Whether the body of a request counts as JSON: that is so unless a header says otherwise. -/
def hasJson (r : Request) : Bool :=
  match r.header? "content-type" with
  | some header => isJsonKind (contentKind header)
  | none => true

/-- **The request for scripts that a body holds**, or the issues with it; none if the bytes of the
body spell no text, or if an integer in it has too many digits to be read. -/
def form? (r : Request) : Option (Reading RequestForm) :=
  let whole : Step := .field "body"
  match r.body with
  | none => some ((Reading.fail .missing .null).under whole)
  | some s =>
    if s.isEmpty then some ((Reading.fail .missing .null).under whole)
    else if !r.hasJson then
      some ((Reading.fail (.notForm .body RequestForm.formName) (.text s)).under whole)
    else
      (Encoding.reread? s).bind fun t =>
        match Json.read t with
        | .error (complaint, position) =>
          some (.refused ⟨.notJson complaint, [whole, .item position], .object []⟩ [])
        | .ok j => if j.isShort then some ((RequestForm.parse .body j).under whole) else none

end Request

/-! ## Replies -/

/-- What is sent back. -/
inductive Body where
  | answer (form : AnswerForm)
  | health (form : HealthForm)
  | note (text : String)
  | fault (form : FaultForm)
  | issues (is : List Issue)
  /-- A text that is not JSON. -/
  | plain (text : String)
  /-- A page that describes the service. -/
  | page
  /-- Nothing, where JSON is announced. -/
  | nothing

/-- A step as JSON. -/
def Step.toJson : Step → Json
  | field name => .text name
  | item i => .int i

/-- An issue as it is sent, but for the part that it is about. -/
def Issue.toJson (i : Issue) : Json :=
  .object ([("type", .text i.cause.kind), ("loc", .array (i.place.map Step.toJson)),
    ("msg", .text i.cause.message)] ++
    (if i.cause.context.isEmpty then [] else [("ctx", .object i.cause.context)]))

/-- A fault as it is sent. -/
def FaultForm.toJson (f : FaultForm) : Json :=
  .object ([("error", .text f.error), ("message", .text f.message)] ++
    (f.detail.map fun fields => ("detail", Json.object fields)).toList)

namespace Body

/-- What is sent back, if it is JSON. -/
def toJson? : Body → Option Json
  | answer form => some
    (.object [("scripts", .array (form.scripts.map .text)), ("latency_ms", .real form.latency)])
  | health form => some
    (.object [("status", .text form.status),
      ("services", .object (form.services.map fun (name, state) => (name, .text state))),
      ("version", .text form.version)])
  | note text => some (.object [("detail", .text text)])
  | fault form => some (.object [("detail", form.toJson)])
  | issues is => some (.object [("detail", .array (is.map Issue.toJson))])
  | plain _ | page | nothing => none

/-- What is sent back, if it is a text that is not JSON. -/
def text? : Body → Option String
  | plain text => some text
  | _ => none

/-- What is sent back to those who ask for headers alone. -/
def bare : Body → Body
  | plain _ => plain ""
  | _ => nothing

/-- Whether a body can be sent: the parts that issues are about are sent with them, and there is no
text for a number that is not finite. -/
def isSendable : Body → Bool
  | issues is => is.all fun i => i.part.isFinite
  | _ => true

end Body

/-- What goes back. -/
structure Reply where
  status : Nat
  headers : List (String × String)
  body : Body

end TraversalScript
