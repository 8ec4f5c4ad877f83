import Gatehouse.Dialogue
import Gatehouse.Identity
import Gatehouse.Provider
import Gatehouse.Record
import Gatehouse.Store.Fault
/-!
The calls that handling a request may make: two to the identity provider and four to storage. Every
call is answered, if only with the fault that kept it from succeeding.
-/

namespace Gatehouse

open Store

/-- A call to the identity provider. -/
inductive ProviderCall
  /-- Is this token good, and whose is it? -/
  | validate (token : String)
  /-- What is known about the subject of this token? -/
  | claims (token : ValidatedToken)
deriving DecidableEq

/-- What a call to the identity provider yields when it succeeds. -/
abbrev ProviderCall.Value : ProviderCall → Type
  | .validate _ => ValidatedToken
  | .claims _ => SubjectClaims

abbrev ProviderCall.Answer (c : ProviderCall) : Type := Except ProviderFault c.Value

/-- A call to storage. -/
inductive StoreCall
  /-- Which of these roles has the user been granted, and on which resource servers? -/
  | roles (user : Uuid) (requested : RoleSet)
  /-- Which credential has this client id? -/
  | client (id : Uuid)
  /-- Which active grant has this id and this delegate? -/
  | grant (id delegate : Uuid)
  /-- Which active grant lets the delegate act for the provider on the trust domain itself? -/
  | providerGrant (delegate provider : Uuid) (trustDomain : String)
deriving DecidableEq

abbrev StoreCall.Value : StoreCall → Type
  | .roles _ _ => RoleScope
  | .client _ => Option ClientCredential
  | .grant _ _ => Option DelegationGrant
  | .providerGrant _ _ _ => Option DelegationGrant

abbrev StoreCall.Answer (c : StoreCall) : Type := Except StoreFault c.Value

/-- A call. -/
inductive Call
  | provider (call : ProviderCall)
  | store (call : StoreCall)
deriving DecidableEq

abbrev Call.Answer : Call → Type
  | .provider c => c.Answer
  | .store c => c.Answer

/-- The answer to a call that takes longer than its bound allows. -/
def Call.late : (c : Call) → c.Answer
  | .provider _ => (.error .timedOut : Except ProviderFault _)
  | .store _ => (.error .timedOut : Except StoreFault _)

/-- A computation that makes calls. -/
abbrev Exchange := Dialogue Call Call.Answer

/-- Answers to all calls, from an identity provider and a store. -/
def Call.answerFrom (provider : (c : ProviderCall) → c.Answer)
    (store : (c : StoreCall) → c.Answer) :
    (c : Call) → c.Answer
  | .provider c => provider c
  | .store c => store c

end Gatehouse
