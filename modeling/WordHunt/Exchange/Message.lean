import WordHunt.Json.Reader
import WordHunt.Json.Writer

/-!
Requests to a service and the responses it gives.
-/

namespace WordHunt

inductive Method where
  | get
  | post
  deriving DecidableEq, Repr

def Method.name : Method → String
  | .get => "GET"
  | .post => "POST"

structure Request where
  method : Method
  url : String
  headers : List (String × String) := []
  body : Option String := none
  deriving DecidableEq, Repr

namespace Request

def get (url : String) : Request where
  method := .get
  url := url

def postJson (url : String) (body : Json) : Request where
  method := .post
  url := url
  headers := [("content-type", "application/json")]
  body := some body.toText

def withHeader (request : Request) (name value : String) : Request :=
  { request with headers := request.headers ++ [(name, value)] }

end Request

structure Response where
  status : Nat
  body : String
  deriving DecidableEq, Repr

namespace Response

def isSuccess (response : Response) : Bool :=
  200 ≤ response.status && response.status < 300

/--
The explanation in a JSON body: the member `message` of its `error`, else its `message`, else
its `error`.  The first of these that is there decides, and it has to be a string.
-/
def explanation? (response : Response) : Option String := do
  let json ← Json.ofText? response.body
  let field ←
    json.follow? ["error", "message"] <|> json.member? "message" <|> json.member? "error"
  field.text?

end Response

end WordHunt
