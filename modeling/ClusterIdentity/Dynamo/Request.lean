import ClusterIdentity.Dynamo.Item
import ClusterIdentity.Program
import ClusterIdentity.Table.Filter
import ClusterIdentity.Text.Blank

/-!
# Requests to DynamoDB

A request that is about one table names that table, and the name is not blank. All values in a
request are of known types. What is not so is not sent at all.

## Main definitions

* `Request`, `Request.Output`: the operations in use and what each returns
* `Request.isSendable`: whether a request is fit to be sent
* `Failure`: what may come back instead
* `Exchange`, `send`: programs that send requests
-/

namespace ClusterIdentity.Dynamo

/-- What the placeholders in the expressions of a request stand for. -/
structure Placeholders where
  names : Dict String String
  values : Dict String String
  deriving DecidableEq

/-- Keys to be read from one table. -/
structure KeyBatch where
  keys : List Item
  /-- The attributes asked for; left out, all. -/
  attributes : Option (List String)
  /-- Whether the read is to see all earlier writes; left out, the service decides. -/
  consistent : Option Bool
  /-- The attributes asked for, as an expression. -/
  projection : Option String
  /-- What the placeholders in that expression stand for. -/
  names : Option (Dict String String)

/-- The batch of keys of which everything is asked for, as of the latest write. -/
def KeyBatch.ofKeys (keys : List String) : KeyBatch where
  keys := keys.map Item.ofKey
  attributes := none
  consistent := some true
  projection := none
  names := none

inductive Request where
  /-- Changes attributes of an item, creating it if necessary. -/
  | updateItem (table key : String) (update condition : Option String)
      (placeholders : Placeholders) (returnOld : Bool)
  /-- Deletes an item and returns it as it was. -/
  | deleteItem (table key : String) (condition : Option String) (placeholders : Placeholders)
  /-- Reads a page of items, from the start or after the given key. -/
  | scan (table : String) (filter : Option Filter.Rendered) (start : Option Item)
  /-- Reads items by key, from each of some tables. -/
  | batchGetItem (batches : Dict String KeyBatch)
  | describeTable (table : String)
  /-- Creates a table that is keyed on a text and billed by request. -/
  | createTable (table : String)

/-- Whether the request is fit to be sent. -/
def Request.isSendable : Request → Bool
  | updateItem table .. => !isBlankText table
  | deleteItem table .. => !isBlankText table
  | scan table _ start => !isBlankText table && start.all Item.isKnown
  | batchGetItem batches => batches.toList.all fun e => e.2.keys.all Item.isKnown
  | describeTable table => !isBlankText table
  | createTable table => !isBlankText table

structure Page where
  items : List Item
  /-- Where the next page starts, if there is one. -/
  lastKey : Option Item

/-- Where the next page starts. An empty key counts as none. -/
def Page.next? (page : Page) : Option Item := page.lastKey.filter fun key => !key.isEmpty

structure BatchPage where
  found : Dict String (List Item)
  /-- The keys that were not looked up yet. -/
  unprocessed : Dict String KeyBatch

/-- What a request returns if it succeeds. -/
def Request.Output : Request → Type
  | updateItem .. => Option Item
  | deleteItem .. => Option Item
  | scan .. => Page
  | batchGetItem .. => BatchPage
  | describeTable .. => Unit
  | createTable .. => Unit

/-- The exceptions that make a difference. -/
inductive ServiceException where
  | conditionalCheckFailed
  | resourceNotFound
  | resourceInUse
  /-- Any other, or none that could be made out. -/
  | other
  deriving DecidableEq

/-- Why a request did not succeed. -/
inductive Failure where
  /-- The service answered, but not with success. -/
  | service (kind : ServiceException)
  | connection
  /-- The request was not fit to be sent. -/
  | unsendable
  deriving DecidableEq

/-- A program that sends requests to the service. -/
abbrev Exchange (α : Type) :=
  Program Request (fun request => Except Failure request.Output) α

/-- Sends a request, if it is fit to be sent. -/
def send (request : Request) : Exchange (Except Failure request.Output) :=
  if request.isSendable then Program.ask request else return .error .unsendable

end ClusterIdentity.Dynamo
