import Bookkeeping.Json.Parser
import Bookkeeping.Settings
import Bookkeeping.Text.Encoding
import Bookkeeping.Web.Answer
import Bookkeeping.Web.Route

set_option autoImplicit false

/-! # The web service

From a request to an answer: the request is read as a call (`Incoming.call`), the call is run, and its
result or its failure is answered (`serve`). Only a call that was read reaches the store. How entries are
numbered is told by the settings of the deployment. -/

namespace Bookkeeping

/-- What the services are told by a clock and the settings of a deployment. -/
def Settings.toSetting (s : Settings) (clock : Clock) : Setting where
  clock
  numberWord := s.numberWord
  maxRetries := s.maxRetries

namespace Web

/-! ## Requests -/

/-- A request as it arrives: the path with percent signs, the query behind the question mark, and the
    bytes of the body. -/
structure Incoming where
  method : String
  path : String
  query : String := ""
  headers : List (String × String) := []
  body : List UInt8 := []
  deriving Repr

namespace Incoming

/-- The first header of a name, whatever the case of its letters. -/
def header? (r : Incoming) (name : String) : Option String :=
  (r.headers.find? fun h => Request.foldCase h.1 == name).map Prod.snd

/-- The user who makes the request. -/
def user (r : Incoming) : String :=
  let name := Text.trim ((r.header? "x-user-id").getD "")
  if name.isEmpty then "system" else name

/-- The word for the method, in upper case. -/
def verb (r : Incoming) : String := Text.upper r.method

/-! ## Bodies -/

/-- The type of a body that no header gives. -/
def usualType : String := "application/json"

/-- Does a type of content, possibly with parameters, stand for JSON documents? -/
def isJsonType (type : String) : Bool :=
  let word := Text.lower (Text.trim (String.ofList (cutAt ';' type.toList).1))
  match pieces '/' word.toList with
  | [main, sub] =>
      main == "application".toList && (sub == "json".toList || "+json".toList.isSuffixOf sub)
  | _ => false

/-- The document of the bytes of a JSON body. -/
def readBody (bytes : List UInt8) : Except Answer Json :=
  match Text.Encoding.read? bytes with
  | none => .error .unreadable
  | some cs =>
    match Json.readDocument cs with
    | .ok j => .ok j
    | .error .malformed => .error (.refused [⟨[.field "body"], .bodyUnreadable, .null⟩])
    | .error _ => .error .unreadable

/-- The document of the body. An empty body is none, and one of another type is a text. -/
def document (r : Incoming) : Except Answer (Option Json) :=
  if r.body.isEmpty then .ok none
  else if isJsonType ((r.header? "content-type").getD usualType) then some <$> readBody r.body
  else .ok (some (.text (String.ofList (Text.Utf8.decode r.body))))

/-! ## Reading calls -/

/-- Take a checked call. -/
def settle : Request.Checked Call → Except Answer Call
  | .accepted c => .ok c
  | .refused ps => .error (.refused ps)

/-- Read the call of a request for an endpoint. -/
def callAt (r : Incoming) : Endpoint → Except Answer Call
  | .ofQuery read => settle (read (queryFields r.query))
  | .ofBody read => do settle (read (← r.document))

/-- The resource that a request is for, together with the path under which it was found. -/
def resource? (r : Incoming) : Option (Resource × List Char) :=
  let path := readPath r.path.toList
  Resource.find? (path.length + 1) path

/-- A path as it is noted: without tabs and line ends. -/
def noted (path : List Char) : String :=
  String.ofList (path.filter fun c => c ≠ '\t' ∧ c ≠ '\r' ∧ c ≠ '\n')

/-- Read the call of a request, together with the path that is noted when it fails. -/
def call (r : Incoming) : Except Answer (Call × String) :=
  match r.resource? with
  | none => .error .notFound
  | some (resource, path) =>
    match (Method.ofText? r.verb).bind resource.endpoint? with
    | none => .error .methodNotAllowed
    | some endpoint => do return (← r.callAt endpoint, noted path)

end Incoming

/-! ## Answering -/

/-- Answer the call of a user; `what` is the method and the path that are noted when it fails. -/
def answer (setting : Setting) (user what : String) (c : Call) (w : World) : Answer × World :=
  match (c.procedure setting user).run setting.clock w with
  | (.ok shown, w') => (.success c.status shown, w')
  | (.error f, w') =>
      (.ofFailure f, match Answer.failureNote what f with | some r => w'.note r | none => w')

/-- Answer a request. The answer to a request for the head alone carries nothing. -/
def serve (clock : Clock) (r : Incoming) (w : World) (settings : Settings := .default) : Answer × World :=
  match r.call with
  | .error a => (if r.verb = "HEAD" then { a with content := .empty } else a, w)
  | .ok (c, path) => answer (settings.toSetting clock) r.user (r.verb ++ " " ++ path) c w

end Web

end Bookkeeping
