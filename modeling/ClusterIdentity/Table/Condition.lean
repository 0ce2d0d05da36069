import ClusterIdentity.Table.Row

/-!
# Conditions on a single row

A write or a delete may depend on the row that it meets. A condition that does not hold is not
an error; the request reports that it was not carried out.

## Main definitions

* `Condition`, `Condition.holds`, `Condition.allows`
-/

namespace ClusterIdentity

/-- What the row that a request meets must satisfy for the request to be carried out. -/
inductive Condition where
  | equals (name value : String)
  | present (name : String)
  | absent (name : String)
  deriving DecidableEq

/-- Whether the condition holds for a row, or for there being none. A missing row has no
attribute. -/
def Condition.holds (row? : Option Attributes) : Condition → Bool
  | equals name value => (row?.bind (·.get? name)) == some value
  | present name => (row?.bind (·.get? name)).isSome
  | absent name => (row?.bind (·.get? name)).isNone

/-- Whether a request with this condition, if any, is carried out. -/
def Condition.allows (condition : Option Condition) (row? : Option Attributes) : Bool :=
  match condition with
  | some c => c.holds row?
  | none => true

end ClusterIdentity
