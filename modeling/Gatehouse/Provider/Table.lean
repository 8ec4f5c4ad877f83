import Gatehouse.Call
/-!
An identity provider that knows a fixed list of tokens. For every token it is laid down what the
two calls answer and how long they take; a token that is not listed is rejected at once.
-/

namespace Gatehouse.Provider

/-- What the provider does with one token. Times are in milliseconds. -/
structure TokenRow where
  token : String
  subject : String
  /-- The subject that the claims name. -/
  claimsSubject : String
  givenName : String := ""
  familyName : String := ""
  delay : Nat := 0
  claimsDelay : Nat := 0
  validateFault : Option ProviderFault := none
  claimsFault : Option ProviderFault := none
  /-- Whether the validation breaks down instead of answering. -/
  breaks : Bool := false

/-- The tokens that the provider knows. -/
structure Table where
  rows : List TokenRow

namespace Table

def row? (t : Table) (token : String) : Option TokenRow := t.rows.find? (·.token == token)

def tokenOf : ProviderCall → String
  | .validate token => token
  | .claims validated => validated.raw

/-- How long a call takes. -/
def delay (t : Table) (c : ProviderCall) : Nat :=
  match t.row? (tokenOf c), c with
  | none, _ => 0
  | some row, .validate _ => row.delay
  | some row, .claims _ => row.claimsDelay

def breaks (t : Table) : ProviderCall → Bool
  | .validate token => (t.row? token).any (·.breaks)
  | .claims _ => false

def answer (t : Table) : (c : ProviderCall) → c.Answer
  | .validate token => match t.row? token with
    | none => .error (.rejected .invalidToken)
    | some row => match row.validateFault with
      | some fault => .error fault
      | none => .ok (⟨row.subject, 0, token⟩ : ValidatedToken)
  | .claims validated => match t.row? validated.raw with
    | none => .error (.rejected .invalidToken)
    | some row => match row.claimsFault with
      | some fault => .error fault
      | none => .ok (⟨row.claimsSubject, row.givenName, row.familyName⟩ : SubjectClaims)

end Table

end Gatehouse.Provider
