import ClusterIdentity.Numeral
import ClusterIdentity.Table.Row

/-!
# Filters

A scan returns the rows that have certain attribute values. A filter can be evaluated on a row
and can be written as an expression over placeholders, which is how a remote store receives it.

## Main definitions

* `Filter`, `Filter.accepts`, `Filter.selects`
* `Filter.Rendered`, `Filter.render`: the expression and what its placeholders stand for
-/

namespace ClusterIdentity

/-- A conjunction of equations between attribute names and values. -/
structure Filter where
  equalities : List (String × String)
  deriving DecidableEq

namespace Filter

def all : Filter := ⟨[]⟩

def and (filter : Filter) (name value : String) : Filter :=
  ⟨filter.equalities ++ [(name, value)]⟩

/-- Whether attributes satisfy every equation. -/
def accepts (filter : Filter) (attributes : Attributes) : Bool :=
  filter.equalities.all fun e => attributes.get? e.1 == some e.2

/-- Whether a row satisfies every equation. -/
def selects (filter : Filter) (row : Row) : Bool := filter.accepts row.attributes

structure Rendered where
  /-- The equations between placeholders, joined by ` AND `; empty if there are none. -/
  expression : String
  /-- The attribute name behind each name placeholder. -/
  names : Dict String String
  /-- The text behind each value placeholder. -/
  values : Dict String String
  deriving DecidableEq

/-- The name placeholder of the equation at an index. -/
def namePlaceholder (index : Nat) : String := "#n" ++ Numeral.write index

/-- The value placeholder of the equation at an index. -/
def valuePlaceholder (index : Nat) : String := ":v" ++ Numeral.write index

/-- The equation at an index in written form. -/
def clause (index : Nat) : String := namePlaceholder index ++ " = " ++ valuePlaceholder index

/-- The filter in written form. Names and values appear only behind placeholders, so none of
their characters is ever taken for a part of the expression. -/
def render (filter : Filter) : Rendered where
  expression := " AND ".intercalate ((List.range filter.equalities.length).map clause)
  names := Dict.ofList (filter.equalities.mapIdx fun i e => (namePlaceholder i, e.1))
  values := Dict.ofList (filter.equalities.mapIdx fun i e => (valuePlaceholder i, e.2))

end Filter

end ClusterIdentity
