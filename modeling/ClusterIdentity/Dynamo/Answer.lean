import ClusterIdentity.Dynamo.Description
import ClusterIdentity.Dynamo.Request
import ClusterIdentity.Json.Writer

/-!
# Answers on the wire

An answer is a status and a text. It counts as success if the status is 2xx and the text has the
shape that belongs to the request. Otherwise it may tell of an exception, in a text that has the
shape of that exception.

## Main definitions

* `HttpReply`: a status and a text
* `Request.shape`, `Request.output`: the shape of an answer and what it says
* `HttpReply.exception`: the exception that an answer tells of
* `Request.decode`: what an answer means for a request
-/

namespace ClusterIdentity.Dynamo

structure HttpReply where
  status : Nat
  text : String

namespace HttpReply

def ofJson (status : Nat) (body : Json) : HttpReply := ⟨status, body.write⟩

def ofException (status : Nat) (name : String) : HttpReply :=
  .ofJson status (.object [("__type", .string ("#" ++ name))])

def isSuccess (reply : HttpReply) : Bool := 200 ≤ reply.status && reply.status < 300

/-- The members of the object that the text is. No text counts as an object without members. -/
def members? (reply : HttpReply) : Option (List (List Char × Json.Written)) :=
  if reply.text.isEmpty then some []
  else
    match Json.Written.read? reply.text with
    | some (.object members) => some members
    | _ => none

end HttpReply

/-! ### Success -/

namespace Shape

/-- The units of capacity that something consumed. -/
def capacityMembers : List (String × Shape) :=
  [("CapacityUnits", real), ("ReadCapacityUnits", real), ("WriteCapacityUnits", real)]

/-- The bytes of vectors that a request went through. -/
def vectorCapacity : Shape :=
  record [("VectorSearchRequestBytes", real), ("VectorWriteRequestBytes", real)]

/-- The capacity that a request consumed. -/
def consumedCapacity : Shape :=
  record <|
    capacityMembers ++
    [("TableName", text), ("Table", record capacityMembers),
     ("LocalSecondaryIndexes", map (record capacityMembers)),
     ("GlobalSecondaryIndexes", map (record capacityMembers)),
     ("VectorIndexes", map vectorCapacity)]

/-- The size of the items that share a partition. -/
def collectionMetrics : Shape :=
  record [("ItemCollectionKey", item), ("SizeEstimateRangeGB", list real)]

/-- Keys to be read from one table. -/
def keyBatch : Shape :=
  record
    [("Keys", list item), ("AttributesToGet", list text), ("ConsistentRead", flag),
     ("ProjectionExpression", text), ("ExpressionAttributeNames", map text)]

/-- The answer to a change of an item. -/
def changed : Shape :=
  record
    [("Attributes", item), ("ConsumedCapacity", consumedCapacity),
     ("ItemCollectionMetrics", collectionMetrics)]

def page : Shape :=
  record
    [("Items", list item), ("Count", integer 32), ("ScannedCount", integer 32),
     ("LastEvaluatedKey", item), ("ConsumedCapacity", consumedCapacity)]

def batchPage : Shape :=
  record
    [("Responses", map (list item)), ("UnprocessedKeys", map keyBatch),
     ("ConsumedCapacity", list consumedCapacity)]

end Shape

/-- The elements of an array, read one by one; none if one of them cannot be read. -/
def elements? {α : Type} (read : Json.Written → Option α) : Json.Written → Option (List α)
  | .array elements => elements.mapM read
  | _ => none

/-- A member of an object with its value read. -/
def namedValue? {α : Type} (read : Json.Written → Option α) (member : List Char × Json.Written) :
    Option (String × α) := do
  return (← Json.unescape? member.1, ← read member.2)

/-- The values of an object, read one by one; none if one of them cannot be read. -/
def entries? {α : Type} (read : Json.Written → Option α) :
    Json.Written → Option (Dict String α)
  | .object members => (members.mapM (namedValue? read)).map Dict.ofList
  | _ => none

def flag? : Json.Written → Option Bool
  | .bool b => some b
  | _ => none

/-- A member of an answer, if it is there and can be read. -/
def readMember? {α : Type} (members : List (List Char × Json.Written)) (name : String)
    (read : Json.Written → Option α) : Option α :=
  (lastMember? name members).bind read

def KeyBatch.ofWritten? : Json.Written → Option KeyBatch
  | .object members => some
    { keys := (readMember? members "Keys" (elements? Item.ofWritten?)).getD []
      attributes := readMember? members "AttributesToGet" (elements? AttributeValue.writtenText?)
      consistent := readMember? members "ConsistentRead" flag?
      projection := readMember? members "ProjectionExpression" AttributeValue.writtenText?
      names := readMember? members "ExpressionAttributeNames"
        (entries? AttributeValue.writtenText?) }
  | _ => none

namespace Request

/-- The shape of an answer that tells of success. -/
def shape : Request → Shape
  | updateItem .. => .changed
  | deleteItem .. => .changed
  | scan .. => .page
  | batchGetItem .. => .batchPage
  | describeTable .. => .record [("Table", .tableDescription)]
  | createTable .. => .record [("TableDescription", .tableDescription)]

/-- What an answer of the right shape says. -/
def output (members : List (List Char × Json.Written)) : (request : Request) → request.Output
  | updateItem .. => readMember? members "Attributes" Item.ofWritten?
  | deleteItem .. => readMember? members "Attributes" Item.ofWritten?
  | scan .. =>
    ({ items := (readMember? members "Items" (elements? Item.ofWritten?)).getD []
       lastKey := readMember? members "LastEvaluatedKey" Item.ofWritten? } : Page)
  | batchGetItem .. =>
    ({ found := (readMember? members "Responses"
         (entries? (elements? Item.ofWritten?))).getD ∅
       unprocessed := (readMember? members "UnprocessedKeys"
         (entries? KeyBatch.ofWritten?)).getD ∅ } : BatchPage)
  | describeTable .. => ()
  | createTable .. => ()

end Request

/-! ### Exceptions -/

namespace ServiceException

/-- The name in an exception's code: what stands before the first colon and, if there is a number
sign in it, after the first one. -/
def nameOfCode (code : String) : String :=
  let beforeColon := code.toList.takeWhile (· ≠ ':')
  match beforeColon.dropWhile (· ≠ '#') with
  | _ :: name => String.ofList name
  | [] => String.ofList beforeColon

def ofName (name : String) : ServiceException :=
  if name = "ConditionalCheckFailedException" then .conditionalCheckFailed
  else if name = "ResourceNotFoundException" then .resourceNotFound
  else if name = "ResourceInUseException" then .resourceInUse
  else .other

/-- The shape of a text that tells of the exception. -/
def shape : ServiceException → Shape
  | conditionalCheckFailed => .record [("message", .text), ("Item", .item)]
  | resourceNotFound | resourceInUse | other => .record [("message", .text)]

/-- The members that may hold the code of an exception, the weightiest first. -/
def codeMembers : List String := ["code", "__type"]

/-- The members that may hold words about an exception. -/
def messageMembers : List String := ["message", "Message", "errorMessage"]

/-- The last string among the members of the name, which has to be written without escapes. All
strings among them have to be in order. -/
def lastText? (members : List (List Char × Json.Written)) (name : String) :
    Option (Option String) :=
  let strings := members.filterMap fun m =>
    match m.2 with
    | .string inside => if m.1 = name.toList then some inside else none
    | _ => none
  (strings.mapM Json.unescape?).map List.getLast?

/-- The exception that the members of an answer tell of. All members are skipped once, in search
of the code, before the shape of the exception is looked for. -/
def ofMembers? (members : List (List Char × Json.Written)) : Option ServiceException := do
  guard (areSkippable members)
  let _ ← messageMembers.mapM (lastText? members)
  let codes ← codeMembers.mapM (lastText? members)
  let code ← codes.findSome? id
  let exception := ofName (nameOfCode code)
  guard (exception.shape.accepts nestingLimit (.object members))
  return exception

end ServiceException

/-- The exception that an unsuccessful answer tells of. -/
def HttpReply.exception (reply : HttpReply) : ServiceException :=
  (reply.members?.bind ServiceException.ofMembers?).getD .other

/-- What an answer means for the request that it answers. -/
def Request.decode (request : Request) (reply : HttpReply) : Except Failure request.Output :=
  if reply.isSuccess then
    match reply.members? with
    | some members =>
      if request.shape.accepts nestingLimit (.object members) then .ok (request.output members)
      else .error (.service .other)
    | none => .error (.service .other)
  else .error (.service reply.exception)

end ClusterIdentity.Dynamo
