import ClusterIdentity.Dict

/-!
# Rows

A table of the store holds rows. A row has a key, unique within its table, and any number of
attributes, which are named strings.

## Main definitions

* `Attributes`: the attributes of a row by name
* `Row`: a row as the store returns it
* `Rows`: the attributes of some rows of one table by key
-/

namespace ClusterIdentity

/-- The attributes of a row, all of them strings. -/
abbrev Attributes := Dict String String

structure Row where
  key : String
  attributes : Attributes
  deriving DecidableEq, Inhabited

/-- Some rows of one table, by key. -/
abbrev Rows := Dict String Attributes

/-- The value of an attribute of the row. -/
def Row.get? (row : Row) (name : String) : Option String := row.attributes.get? name

end ClusterIdentity
