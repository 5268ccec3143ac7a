import BuildFleet.Merge.Basic

/-!
# Why an operation fails

Everything that can stop the operator, as its cause. The wording is in `Failure.message`.
-/

namespace BuildFleet

/-- A cause that stops an operation. -/
inductive Failure where
  /-- The API server answered with the given error status. -/
  | api (code : Nat)
  /-- A request could not be made, or its answer could not be read. -/
  | client
  /-- The template that an instance names does not exist. -/
  | templateNotFound (ns name : String)
  /-- Layers of a pod cannot be merged. -/
  | merge (mismatch : Mismatch)
  /-- A pod does not fit the format of the API. -/
  | serialization
  /-- An object breaks the admission rules. -/
  | validation (summary : String)
  /-- An object that lives in a namespace came without one. -/
  | missingNamespace
  /-- Shutdown was requested before a modifying call. -/
  | cancelled
  /-- An assumption of the operator does not hold. -/
  | internal (what : String)
  deriving DecidableEq, Repr

namespace Failure

/-- Whether trying again can succeed although no specification changes. -/
def isRetryable : Failure → Bool
  | api _ => true
  | client => true
  | templateNotFound _ _ => true
  | _ => false

/-- What a failure is reported as. -/
def message : Failure → String
  | api code => "kubernetes error: " ++ toString code
  | client => "kubernetes error: no usable exchange with the API server"
  | templateNotFound ns name => "buildkit template " ++ ns ++ "/" ++ name ++ " not found"
  | merge mismatch => "merge error: " ++ mismatch.message
  | serialization => "serialization error: pod does not fit the API format"
  | validation summary => "validation error: " ++ summary
  | missingNamespace => "object has no namespace"
  | cancelled => "reconciliation cancelled"
  | internal what => "internal error: " ++ what

end Failure

end BuildFleet
