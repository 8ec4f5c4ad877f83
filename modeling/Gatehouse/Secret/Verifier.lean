import Gatehouse.Digest.Argon2
import Gatehouse.Secret.Phc
/-!
Issuing and verifying client secrets. A secret is stored as an Argon2id hash in its text form. A
verification takes the salt and the cost from the stored text, computes the digest anew and compares
the two digests; what the verifier itself is configured with decides only how new hashes are made.
-/

namespace Gatehouse.Secret

open Digest Encoding

/-- The cost of new hashes, and how many verifications may run at once. -/
structure Settings where
  memoryKib : Nat
  iterations : Nat
  parallelism : Nat
  maxConcurrent : Nat
deriving DecidableEq

/-- Why a cost is not acceptable. -/
inductive CostFault
  | memoryTooSmall
  | timeTooSmall
  | tooFewThreads
  | tooManyThreads
deriving DecidableEq, Repr

def CostFault.message : CostFault → String
  | .memoryTooSmall => "memory cost is too small"
  | .timeTooSmall => "time cost is too small"
  | .tooFewThreads => "not enough threads"
  | .tooManyThreads => "too many threads"

/-- Accepts a cost, or says what is wrong with it. -/
def acceptCost (c : Argon2.Cost) : Except CostFault Argon2.Cost :=
  if c.memory < 8 ∨ c.memory < 8 * c.lanes then .error .memoryTooSmall
  else if c.passes < 1 then .error .timeTooSmall
  else if c.lanes < 1 then .error .tooFewThreads
  else if c.lanes > 0xffffff then .error .tooManyThreads
  else .ok c

/-- Why there is no verifier for some settings. -/
inductive SettingsFault
  | noSlots
  | cost (fault : CostFault)
deriving DecidableEq, Repr

def SettingsFault.message : SettingsFault → String
  | .noSlots => "max_concurrent must be at least 1"
  | .cost fault => "invalid Argon2 parameters: " ++ fault.message

/-- Issues and verifies hashes. -/
structure Verifier where
  cost : Argon2.Cost
  slots : Nat
deriving DecidableEq

/-- The length of a digest in bytes. -/
def digestSize : Nat := 32

/-- The length of a new salt in bytes. -/
def saltSize : Nat := 16

/-- Why a stored hash cannot be compared with anything. -/
inductive Unusable
  | notPhc
  | otherAlgorithm
  | missingDigest
  | digestSize
  | missingSalt
  | saltNotBase64
  | unsupportedVersion
  | invalidParameters
  | hashingFailed
deriving DecidableEq, Repr

/-- The wording of a reason. -/
def Unusable.message : Unusable → String
  | .notPhc => "not a PHC string"
  | .otherAlgorithm => "algorithm is not argon2id"
  | .missingDigest => "missing digest"
  | .digestSize => "digest is not 32 bytes"
  | .missingSalt => "missing salt"
  | .saltNotBase64 => "salt is not base64"
  | .unsupportedVersion => "unsupported version"
  | .invalidParameters => "invalid parameters"
  | .hashingFailed => "hashing failed"

/-- The parameters of a stored hash. -/
structure Parameters where
  memory : Nat := 19456
  passes : Nat := 2
  lanes : Nat := 1
  data : List UInt8 := []

/-- Reads bytes of limited length in base 64. -/
def shortBytes? (limit : Nat) (s : String) : Option (List UInt8) :=
  (Base64.standard.decode? s.toList).filter (·.length ≤ limit)

/-- Takes one parameter into account; the last one of a name counts. A key id is checked and not
used. -/
def Parameters.take? (p : Parameters) (name value : String) : Option Parameters :=
  if name = "m" then (Phc.number? value.toList).map fun n => { p with memory := n }
  else if name = "t" then (Phc.number? value.toList).map fun n => { p with passes := n }
  else if name = "p" then (Phc.number? value.toList).map fun n => { p with lanes := n }
  else if name = "keyid" then (shortBytes? 8 value).map fun _ => p
  else if name = "data" then (shortBytes? 32 value).map fun bytes => { p with data := bytes }
  else none

def parametersOf? (l : List (String × String)) : Option (Argon2.Cost × List UInt8) := do
  let p ← l.foldlM (fun (p : Parameters) (name, value) => p.take? name value) {}
  let cost ← (acceptCost ⟨p.memory, p.passes, p.lanes⟩).toOption
  return (cost, p.data)

/-- The revision of the function that a version number stands for; no version stands for the newer
one. -/
def versionOf? : Option Nat → Option Argon2.Version
  | none | some 19 => some .v19
  | some 16 => some .v16
  | some _ => none

/-- The evaluation of Argon2id that a stored hash asks for, and the digest it is compared with. -/
structure Recipe where
  version : Argon2.Version
  cost : Argon2.Cost
  salt : List UInt8
  data : List UInt8
  expected : List UInt8
deriving DecidableEq

/-- Reads a stored hash. -/
def recipe (stored : String) : Except Unusable Recipe := do
  let some h := Phc.parse? stored | throw .notPhc
  if h.algorithm != "argon2id" then throw .otherAlgorithm
  let some expected := h.digest | throw .missingDigest
  if expected.length != digestSize then throw .digestSize
  let some salt := h.salt | throw .missingSalt
  let some salt := Base64.standard.decode? salt.toList | throw .saltNotBase64
  let some version := versionOf? h.version | throw .unsupportedVersion
  let some (cost, data) := parametersOf? h.parameters | throw .invalidParameters
  if salt.length < 8 then throw .hashingFailed
  return ⟨version, cost, salt, data, expected⟩

def Recipe.digest (r : Recipe) (secret : String) : List UInt8 :=
  argon2id r.version r.cost digestSize secret.toUTF8.toList r.salt r.data

/-- The digest of a submitted secret and the stored one that it has to equal. -/
def recompute (submitted stored : String) : Except Unusable (List UInt8 × List UInt8) :=
  (recipe stored).map fun r => (r.digest submitted, r.expected)

/-- Whether a submitted secret matches a stored hash, and why the hash is unusable if it is. -/
def verify (submitted stored : String) : Bool × Option Unusable :=
  match recompute submitted stored with
  | .ok (computed, expected) => (computed == expected, none)
  | .error reason => (false, some reason)

/-- Compares a secret with a hash that nothing matches, which stands in for a missing one. -/
def verifyDecoy (_submitted : String) : Bool × Option Unusable := (false, none)

/-- Verifies a secret against a hash that may be missing. -/
def verifyStored (submitted : String) : Option String → Bool × Option Unusable
  | some stored => verify submitted stored
  | none => verifyDecoy submitted

namespace Verifier

def ofSettings (s : Settings) : Except SettingsFault Verifier :=
  if s.maxConcurrent = 0 then .error .noSlots
  else match acceptCost ⟨s.memoryKib, s.iterations, s.parallelism⟩ with
    | .error fault => .error (.cost fault)
    | .ok cost => .ok ⟨cost, s.maxConcurrent⟩

/-- The form of a verifier that may be shown. -/
def shown (v : Verifier) : String :=
  "SecretVerifier \x7b m_cost: " ++ toString v.cost.memory ++ ", t_cost: " ++
    toString v.cost.passes ++ ", p_cost: " ++ toString v.cost.lanes ++ ", free_slots: " ++
    toString v.slots ++ ", .. \x7d"

/-- The hash of a secret with a salt, taken apart. -/
def hash (v : Verifier) (salt : List UInt8) (secret : String) : Phc where
  algorithm := "argon2id"
  version := some Argon2.Version.v19.number
  parameters := [("m", toString v.cost.memory), ("t", toString v.cost.passes),
    ("p", toString v.cost.lanes)]
  salt := some (String.ofList (Base64.standard.encode salt))
  digest := some (argon2id .v19 v.cost digestSize secret.toUTF8.toList salt [])

def issue (v : Verifier) (salt : List UInt8) (secret : String) : String :=
  (v.hash salt secret).toText

end Verifier

end Gatehouse.Secret
