import ClusterIdentity.Duration
import ClusterIdentity.Json

/-!
# Settings

Where identities and locks are kept, and how long a contender waits before it verifies a lock.

## Main definitions

* `Tables`, `Settings` with their defaults
* `Settings.toJson`, `Settings.ofJson?`
* `Settings.Change`, `Settings.build`: settings made by a series of changes to the defaults

## Design notes

As JSON the delay is a whole number of milliseconds in 64 bits, so a longer or finer delay does
not survive being written. Every member may be left out; an array holds the members in order and
may end early.
-/

namespace ClusterIdentity

/-- The names of the two tables. -/
structure Tables where
  /-- Holds a row per claimed identity. -/
  tokens : String
  /-- Holds the rows that guard identities. -/
  locks : String
  deriving DecidableEq

/-- The table names used unless others are given. -/
def Tables.default : Tables := ⟨"tokens", "locks"⟩

/-- How identities are claimed. -/
structure Settings where
  tables : Tables
  /-- The pause between writing a lock and verifying it. -/
  settleDelay : Duration
  deriving DecidableEq

namespace Settings

/-- The settings used unless others are given. -/
def default : Settings := ⟨Tables.default, Duration.ofMillis 100⟩

instance : Inhabited Settings := ⟨default⟩

end Settings

/-! ### JSON -/

def Tables.toJson (t : Tables) : Json :=
  .object [("tokens", .string t.tokens), ("locks", .string t.locks)]

def Settings.toJson (s : Settings) : Json :=
  .object [("tables", s.tables.toJson), ("settle_delay", .ofNat s.settleDelay.wordMillis.toNat)]

/-- A field that may be left out, in which case it has its default. -/
def optionalField {α : Type} (read : Json → Option α) (default : α) : Option Json → Option α
  | some j => read j
  | none => some default

/-- The table names whose fields are found by name and by index. -/
def Tables.ofFields? (field : String → Nat → Option Json) : Option Tables := do
  let tokens ← optionalField Json.string? Tables.default.tokens (field "tokens" 0)
  let locks ← optionalField Json.string? Tables.default.locks (field "locks" 1)
  return ⟨tokens, locks⟩

/-- The table names that an object or an array denotes. -/
def Tables.ofJson? : Json → Option Tables
  | .object members => Tables.ofFields? fun name _ => Json.lastMember? name members
  | .array values =>
    if values.length ≤ 2 then Tables.ofFields? fun _ index => values[index]? else none
  | _ => none

/-- The settings whose fields are found by name and by index. -/
def Settings.ofFields? (field : String → Nat → Option Json) : Option Settings := do
  let tables ← optionalField Tables.ofJson? Tables.default (field "tables" 0)
  let settleDelay ← optionalField (fun j => j.uint64?.map Duration.ofMillis)
    Settings.default.settleDelay (field "settle_delay" 1)
  return ⟨tables, settleDelay⟩

/-- The settings that an object or an array denotes. -/
def Settings.ofJson? : Json → Option Settings
  | .object members => Settings.ofFields? fun name _ => Json.lastMember? name members
  | .array values =>
    if values.length ≤ 2 then Settings.ofFields? fun _ index => values[index]? else none
  | _ => none

/-! ### Changes -/

inductive Settings.Change where
  | tokensTable (name : String)
  | locksTable (name : String)
  | settleDelay (delay : Duration)
  /-- Takes the given settings in place of all. -/
  | all (settings : Settings)
  deriving DecidableEq

def Settings.apply (s : Settings) : Settings.Change → Settings
  | .tokensTable name => { s with tables := { s.tables with tokens := name } }
  | .locksTable name => { s with tables := { s.tables with locks := name } }
  | .settleDelay delay => { s with settleDelay := delay }
  | .all settings => settings

/-- The default settings after some changes, in order. -/
def Settings.build (changes : List Settings.Change) : Settings :=
  changes.foldl Settings.apply Settings.default

end ClusterIdentity
