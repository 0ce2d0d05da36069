import ClusterIdentity.Dynamo.Request
import ClusterIdentity.Table.Condition

/-!
# Expressions

Updates and conditions are sent as expressions over placeholders. The placeholders of an
assignment, a removal and a condition start with different letters, so the parts of one request
never share one.

## Main definitions

* `assignments`, `removals`: update expressions
* `condition`: condition expressions
-/

namespace ClusterIdentity.Dynamo.Expression

/-- An expression with its placeholders. -/
structure Rendered where
  text : String
  placeholders : Placeholders
  deriving DecidableEq

def noPlaceholders : Placeholders := ⟨∅, ∅⟩

/-- The placeholders of two parts of a request. -/
def both (p q : Placeholders) : Placeholders :=
  ⟨p.names.overlay q.names, p.values.overlay q.values⟩

/-- A placeholder made of a mark, a letter and an index. -/
def numbered (stem : String) (index : Nat) : String := stem ++ Numeral.write index

/-- The assignment at an index in written form. -/
def assignment (index : Nat) : String := numbered "#a" index ++ " = " ++ numbered ":a" index

/-- Sets attributes to values, in the order given. -/
def assignments (entries : List (String × String)) : Rendered where
  text := "SET " ++ ", ".intercalate ((List.range entries.length).map assignment)
  placeholders :=
    { names := Dict.ofList (entries.mapIdx fun i e => (numbered "#a" i, e.1))
      values := Dict.ofList (entries.mapIdx fun i e => (numbered ":a" i, e.2)) }

/-- Removes attributes, in the order given. -/
def removals (names : List String) : Rendered where
  text := "REMOVE " ++ ", ".intercalate ((List.range names.length).map (numbered "#r"))
  placeholders :=
    { names := Dict.ofList (names.mapIdx fun i name => (numbered "#r" i, name))
      values := ∅ }

/-- The placeholder of the attribute that a condition is about. -/
def conditionName : String := "#c"

/-- The placeholder of the value that a condition compares with. -/
def conditionValue : String := ":c"

def condition : Condition → Rendered
  | .equals name value =>
    { text := conditionName ++ " = " ++ conditionValue
      placeholders :=
        { names := Dict.singleton conditionName name
          values := Dict.singleton conditionValue value } }
  | .present name =>
    { text := "attribute_exists(" ++ conditionName ++ ")"
      placeholders := { names := Dict.singleton conditionName name, values := ∅ } }
  | .absent name =>
    { text := "attribute_not_exists(" ++ conditionName ++ ")"
      placeholders := { names := Dict.singleton conditionName name, values := ∅ } }

/-- The text of an expression that may be left out. -/
def text? (e : Option Rendered) : Option String := e.map Rendered.text

/-- The placeholders of an expression that may be left out. -/
def placeholders (e : Option Rendered) : Placeholders :=
  (e.map Rendered.placeholders).getD noPlaceholders

end ClusterIdentity.Dynamo.Expression
