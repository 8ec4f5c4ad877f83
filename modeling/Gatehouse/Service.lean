import Gatehouse.Provider.OpenId
import Gatehouse.Settings
import Gatehouse.Store.Relational
import Gatehouse.Surface
/-!
The service between its two parties: an identity provider that is asked over the web and a database
that is sent statements. A call that handling a request makes becomes messages to one of them; the
keys of the provider are kept from one request to the next, and nothing else is.
-/

namespace Gatehouse

open Provider Store

/-- A message to one of the parties behind the service. -/
inductive Message
  | fetch (f : Fetch)
  | statement (s : Statement)

def Message.Reply : Message → Type
  | .fetch _ => WebReply
  | .statement _ => Store.Reply

/-- A computation that sends messages and keeps keys. -/
abbrev Errand := StateT KeyCache (Dialogue Message Message.Reply)

/-- A service that is ready to answer. -/
structure Service where
  provider : OpenId
  /-- The bound of every call to the identity provider. -/
  providerBound : Duration
  policy : Policy
  publicPaths : List String

namespace Service

/-- The service that settings ask for, with a provider whose discovery document is known. -/
def ofSettings (s : Settings) (d : Discovery) : Service where
  provider := {
    discovery := d
    audiences := s.oidc.audiences
    leeway := s.oidc.leeway
    keysTtl := s.oidc.keysTtl
    patience := s.oidc.requestTimeout }
  providerBound := s.oidc.requestTimeout
  policy := ⟨s.auth.administrator, s.auth.trustDomain⟩
  publicPaths := s.auth.publicPaths

/-- Answers a call at a time in milliseconds. -/
def answer (s : Service) (now : Nat) : (c : Call) → Errand c.Answer
  | .provider c => fun cache =>
    (s.provider.answer s.providerBound now c cache).through fun f => .question (.fetch f)
  | .store c => fun cache =>
    ((Relational.answer c).through fun q => .question (.statement q)).bind fun a => .done (a, cache)

/-- Answers all calls of a computation. -/
def conduct {α : Type} (s : Service) (now : Nat) : Exchange α → Errand α
  | .done a => pure a
  | .ask c next => s.answer now c >>= fun x => conduct s now (next x)

/-- Handles a request; tells what is recorded about it, too. -/
def handle (s : Service) (now : Nat) (r : WebRequest) : Errand (Http.Response × List AuditEvent) :=
  match Surface.handle s.publicPaths r with
  | .immediate response => return (response, [])
  | .guarded request respond => do
    let verdict ← s.conduct now (Admission.run s.policy request)
    return (respond (.result verdict.result), verdict.audit)

end Service

end Gatehouse
