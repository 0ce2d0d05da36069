import ClusterIdentity.Json.Written

/-!
# How deep answers may be nested

The parts of an answer that have a meaning are read, all others are skipped. Either way there is a
bound on how many arrays and objects stand one within the other: for the parts that are read it
counts from the answer's own object on, for a part that is skipped from its own start.

## Main definitions

* `nestingLimit`: the bound for the parts that are read
* `isSkippable`: whether a part keeps to the bound for the parts that are skipped
-/

namespace ClusterIdentity.Dynamo

/-- How many arrays and objects that are read may stand one within the other, the answer's own
object among them. -/
def nestingLimit : Nat := 128

/-- How many arrays and objects may stand one within the other in a part that is skipped. -/
def skippedLimit : Nat := 512

/-- Whether a part is shallow enough to be skipped. -/
def isSkippable (w : Json.Written) : Bool := w.depth ≤ skippedLimit

/-- Whether the values of all members are shallow enough to be skipped. -/
def areSkippable (members : List (List Char × Json.Written)) : Bool :=
  members.all fun m => isSkippable m.2

end ClusterIdentity.Dynamo
