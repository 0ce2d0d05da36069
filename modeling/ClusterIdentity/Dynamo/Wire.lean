import ClusterIdentity.Dynamo.Request

/-!
# Requests on the wire

Requests are sent as a target and a JSON body.

## Main definitions

* `Request.target`, `Request.body`
-/

namespace ClusterIdentity.Dynamo

def textsJson (texts : Dict String String) : Json :=
  .object (texts.toList.map fun e => (e.1, .string e.2))

/-- A member, if there is a value for it. -/
def optionalMember {α : Type} (name : String) (encode : α → Json) (value : Option α) :
    List (String × Json) :=
  value.toList.map fun a => (name, encode a)

def KeyBatch.toJson (batch : KeyBatch) : Json :=
  .object <|
    [("Keys", .array (batch.keys.map Item.toJson))] ++
    optionalMember "AttributesToGet" AttributeValue.strings batch.attributes ++
    optionalMember "ConsistentRead" .bool batch.consistent ++
    optionalMember "ProjectionExpression" .string batch.projection ++
    optionalMember "ExpressionAttributeNames" textsJson batch.names

namespace Request

def target : Request → String
  | updateItem .. => "UpdateItem"
  | deleteItem .. => "DeleteItem"
  | scan .. => "Scan"
  | batchGetItem .. => "BatchGetItem"
  | describeTable .. => "DescribeTable"
  | createTable .. => "CreateTable"

def textMember (name text : String) : String × Json := (name, .string text)

/-- The members for names and values behind placeholders; an empty map has none. -/
def placeholderMembers (names values : Dict String String) : List (String × Json) :=
  (if names.isEmpty then []
    else [("ExpressionAttributeNames", textsJson names)]) ++
  (if values.isEmpty then []
    else [("ExpressionAttributeValues",
      .object (values.toList.map fun e => (e.1, (AttributeValue.text e.2).toJson)))])

def body : Request → Json
  | updateItem table key update condition placeholders returnOld =>
    .object <|
      [textMember "TableName" table, ("Key", (Item.ofKey key).toJson)] ++
      optionalMember "UpdateExpression" .string update ++
      optionalMember "ConditionExpression" .string condition ++
      placeholderMembers placeholders.names placeholders.values ++
      (if returnOld then [textMember "ReturnValues" "ALL_OLD"] else [])
  | deleteItem table key condition placeholders =>
    .object <|
      [textMember "TableName" table, ("Key", (Item.ofKey key).toJson)] ++
      optionalMember "ConditionExpression" .string condition ++
      placeholderMembers placeholders.names placeholders.values ++
      [textMember "ReturnValues" "ALL_OLD"]
  | scan table filter start =>
    .object <|
      [textMember "TableName" table, ("ConsistentRead", .bool true)] ++
      optionalMember "ExclusiveStartKey" Item.toJson start ++
      optionalMember "FilterExpression" .string (filter.map Filter.Rendered.expression) ++
      (match filter with
        | some f => placeholderMembers f.names f.values
        | none => [])
  | batchGetItem batches =>
    .object [("RequestItems", .object (batches.toList.map fun e => (e.1, e.2.toJson)))]
  | describeTable table => .object [textMember "TableName" table]
  | createTable table =>
    .object
      [textMember "TableName" table,
       ("AttributeDefinitions", .array [.object
         [textMember "AttributeName" keyAttribute, textMember "AttributeType" "S"]]),
       ("KeySchema", .array [.object
         [textMember "AttributeName" keyAttribute, textMember "KeyType" "HASH"]]),
       textMember "BillingMode" "PAY_PER_REQUEST"]

end Request

end ClusterIdentity.Dynamo
