import SafeCameroon.Application.Webhook
import SafeCameroon.Library.Uuid

namespace SafeCameroon

open Text

structure ApiError where
  status : Nat
  code : String
  message : String
  requestId : Uuid
  deriving DecidableEq, Repr

/-- The text of a header value, which only visible ASCII has. -/
def headerText (value : Bytes) : Option String :=
  if value.all fun byte => (32 ≤ byte && byte < 127) || byte == 9 then
    some (String.ofList (value.map fun byte => Char.ofNat byte.toNat))
  else none

/-- The first header of the name; the names of a request's headers are in lower case. -/
def header (name : String) (headers : List (String × Bytes)) : Option Bytes :=
  (headers.find? fun header => header.1 = name).map (·.2)

/-- The identifier in the request's header, else a fresh one. -/
def requestIdFromHeaders (drawn : Uuid) (headers : List (String × Bytes)) : Uuid :=
  (((headers.find? fun header => header.1 = "x-request-id").bind fun header =>
    headerText header.2).bind fun value => Uuid.parseStr (trim value)).getD drawn

/-- Why a handler ends without a status of its own: an error response, or a panic, which leaves the
request unanswered. -/
inductive HandlerError where
  | api (error : ApiError)
  | panicked (message : String)
  deriving DecidableEq, Repr

end SafeCameroon
