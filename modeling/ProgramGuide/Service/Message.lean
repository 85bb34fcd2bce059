import ProgramGuide.Address.Endpoint
import ProgramGuide.Json.Reader
import ProgramGuide.Json.Writer
import ProgramGuide.Service.Failure
import ProgramGuide.Text.Bytes
import ProgramGuide.Text.Quoted

/-!
# Requests and responses

A request names a path below the base address of the service.
-/

namespace ProgramGuide

inductive Method where
  | get | post | put
  deriving DecidableEq, Repr

structure Request where
  method : Method
  path : String
  body : Option String
  token : Option String
  deriving DecidableEq, Repr

structure Response where
  status : Nat
  body : String
  deriving DecidableEq, Repr

def Method.ofName? (name : String) : Option Method :=
  if name == "GET" then some .get
  else if name == "POST" then some .post
  else if name == "PUT" then some .put
  else none

def Method.verb : Method → String
  | .get => "GET"
  | .post => "POST"
  | .put => "PUT"

namespace Request

def get (path : String) : Request := ⟨.get, path, none, none⟩

def put (path : String) : Request := ⟨.put, path, none, none⟩

def post (path : String) (body : Json) : Request := ⟨.post, path, some body.write, none⟩

def withToken (r : Request) (token : String) : Request := { r with token := some token }

private def describeOption (f : α → String) : Option α → String
  | some a => "Some(" ++ f a ++ ")"
  | none => "None"

private def describeMethod : Method → String
  | .get => "Get"
  | .post => "Post"
  | .put => "Put"

def describe (r : Request) : String :=
  "ApiRequest \x7b method: " ++ describeMethod r.method ++ ", path: " ++
    Text.quoted r.path ++ ", body_len: " ++
    describeOption (fun body => Text.natural (Text.byteLength body.toList)) r.body ++
    ", token: " ++
    describeOption (fun token => Text.quoted (Address.maskToken token)) r.token ++ " \x7d"

end Request

namespace Response

def isSuccess (r : Response) : Bool := Status.isSuccess r.status

def failure (r : Response) : Failure := .status r.status

def decode (r : Response) (payload : String) (decode : Json → Option α) :
    Except Failure α :=
  match (Json.read? r.body).bind decode with
  | some a => .ok a
  | none => .error (.unreadable payload)

end Response

end ProgramGuide
