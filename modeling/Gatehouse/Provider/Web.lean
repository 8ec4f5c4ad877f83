import Gatehouse.Dialogue
import Gatehouse.Http.Header
import Gatehouse.Json.Decode
import Gatehouse.Provider
/-!
Asking the identity provider over the web. A request either gets a response, is never answered, or
does not even reach anybody; a response of refusal or one that is not the JSON asked for is no
better than none.
-/

namespace Gatehouse.Provider

open Json

/-- A request for a document, with the token that it is made on behalf of. -/
structure Fetch where
  url : String
  bearer : Option String := none
deriving DecidableEq

namespace Fetch

/-- The value of the header with the token. -/
def authorization (f : Fetch) : Option String := f.bearer.map ("Bearer " ++ ·)

/-- Whether the request can be written down: a header cannot hold every character. -/
def isWritable (f : Fetch) : Bool :=
  f.authorization.all fun s => s.toUTF8.toList.all Http.isValueByte

end Fetch

/-- What becomes of a request. -/
inductive WebReply
  | response (status : Nat) (body : String)
  /-- There is no answer within the time that requests may take. -/
  | silence
  /-- There is nobody at the address. -/
  | unreachable
deriving DecidableEq

/-- A computation that fetches documents. -/
abbrev Web := Dialogue Fetch fun _ => WebReply

/-- The fault of a request that is given up because no response came. -/
def silenceFault : ProviderFault := .fetch { late := true }

/-- The document in a reply; `silence` is the fault when there is no response. -/
def WebReply.read {α : Type} (silence : ProviderFault) (dec : Decoder α) :
    WebReply → Except ProviderFault α
  | .unreachable => .error (.fetch {})
  | .silence => .error silence
  | .response status body =>
    if 400 ≤ status then .error (.fetch { status := some status })
    else match decode dec body with
      | .ok a => .ok a
      | .error _ => .error (.fetch { undecodable := true })

/-- Fetches a document; `silence` is the fault when there is no response. -/
def fetch {α : Type} (silence : ProviderFault) (f : Fetch) (dec : Decoder α) :
    Web (Except ProviderFault α) :=
  if f.isWritable then .ask f fun reply => .done (reply.read silence dec)
  else .done (.error (.fetch {}))

end Gatehouse.Provider
