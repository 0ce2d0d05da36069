import ClusterIdentity.Dynamo.Shape

/-!
# Descriptions of tables

What the service tells of a table that exists or was just created. Nothing of it is used but that
it came; it has to be in order all the same.

## Main definitions

* `Shape.tableDescription`
-/

namespace ClusterIdentity.Dynamo.Shape

def count : Shape := integer 64

/-- The attributes that make up a key, and their roles. -/
def keySchema : Shape := list (record [("AttributeName", text), ("KeyType", text)])

/-- Which attributes an index holds. -/
def projection : Shape := record [("ProjectionType", text), ("NonKeyAttributes", list text)]

/-- The throughput that is kept ready. -/
def provisionedThroughput : Shape :=
  record
    [("LastIncreaseDateTime", time), ("LastDecreaseDateTime", time),
     ("NumberOfDecreasesToday", count), ("ReadCapacityUnits", count),
     ("WriteCapacityUnits", count)]

/-- The throughput that is not exceeded. -/
def onDemandThroughput : Shape :=
  record [("MaxReadRequestUnits", count), ("MaxWriteRequestUnits", count)]

/-- The throughput that is available at once. -/
def warmThroughput : Shape :=
  record [("ReadUnitsPerSecond", count), ("WriteUnitsPerSecond", count), ("Status", text)]

def localIndex : Shape :=
  record
    [("IndexName", text), ("KeySchema", keySchema), ("Projection", projection),
     ("IndexSizeBytes", count), ("ItemCount", count), ("IndexArn", text)]

def globalIndex : Shape :=
  record
    [("IndexName", text), ("KeySchema", keySchema), ("Projection", projection),
     ("IndexStatus", text), ("Backfilling", flag),
     ("ProvisionedThroughput", provisionedThroughput), ("IndexSizeBytes", count),
     ("ItemCount", count), ("IndexArn", text), ("OnDemandThroughput", onDemandThroughput),
     ("WarmThroughput", warmThroughput)]

/-- The attributes that a search for vectors goes by, and their roles. -/
def searchSchema : Shape :=
  list (record [("AttributeName", text), ("SearchSchemaElementType", text)])

/-- An index by nearness of vectors. -/
def vectorIndex : Shape :=
  record
    [("IndexName", text), ("IndexArn", text), ("IndexStatus", text), ("Backfilling", flag),
     ("VectorAttribute", record [("AttributeName", text)]), ("SearchSchema", searchSchema),
     ("Dimensions", count), ("DistanceFunction", text), ("Projection", projection),
     ("IndexSizeBytes", count), ("ItemCount", count)]

/-- A throughput of a replica that differs from the table's. -/
def provisionedOverride : Shape := record [("ReadCapacityUnits", count)]

/-- A bound on the throughput of a replica that differs from the table's. -/
def onDemandOverride : Shape := record [("MaxReadRequestUnits", count)]

def replicaIndex : Shape :=
  record
    [("IndexName", text), ("ProvisionedThroughputOverride", provisionedOverride),
     ("OnDemandThroughputOverride", onDemandOverride), ("WarmThroughput", warmThroughput)]

def tableClass : Shape := record [("TableClass", text), ("LastUpdateDateTime", time)]

/-- A copy of the table in another region. -/
def replica : Shape :=
  record
    [("RegionName", text), ("ReplicaStatus", text), ("ReplicaArn", text),
     ("ReplicaStatusDescription", text), ("ReplicaStatusPercentProgress", text),
     ("KMSMasterKeyId", text), ("ProvisionedThroughputOverride", provisionedOverride),
     ("OnDemandThroughputOverride", onDemandOverride), ("WarmThroughput", warmThroughput),
     ("GlobalSecondaryIndexes", list replicaIndex), ("ReplicaInaccessibleDateTime", time),
     ("ReplicaTableClassSummary", tableClass), ("GlobalTableSettingsReplicationMode", text)]

/-- A region that takes part in a table's agreement without a copy. -/
def witness : Shape := record [("RegionName", text), ("WitnessStatus", text)]

def tableDescription : Shape :=
  record
    [("AttributeDefinitions",
        list (record [("AttributeName", text), ("AttributeType", text)])),
     ("TableName", text), ("KeySchema", keySchema), ("TableStatus", text),
     ("CreationDateTime", time), ("ProvisionedThroughput", provisionedThroughput),
     ("TableSizeBytes", count), ("ItemCount", count), ("TableArn", text), ("TableId", text),
     ("BillingModeSummary",
        record [("BillingMode", text), ("LastUpdateToPayPerRequestDateTime", time)]),
     ("LocalSecondaryIndexes", list localIndex), ("GlobalSecondaryIndexes", list globalIndex),
     ("VectorIndexes", list vectorIndex),
     ("StreamSpecification", record [("StreamEnabled", flag), ("StreamViewType", text)]),
     ("LatestStreamLabel", text), ("LatestStreamArn", text), ("GlobalTableVersion", text),
     ("Replicas", list replica), ("GlobalTableWitnesses", list witness),
     ("GlobalTableSettingsReplicationMode", text),
     ("RestoreSummary",
        record
          [("SourceBackupArn", text), ("SourceTableArn", text), ("RestoreDateTime", time),
           ("RestoreInProgress", flag)]),
     ("SSEDescription",
        record
          [("Status", text), ("SSEType", text), ("KMSMasterKeyArn", text),
           ("InaccessibleEncryptionDateTime", time)]),
     ("ArchivalSummary",
        record
          [("ArchivalDateTime", time), ("ArchivalReason", text), ("ArchivalBackupArn", text)]),
     ("TableClassSummary", tableClass), ("DeletionProtectionEnabled", flag),
     ("DisassociationProtectionEnabled", flag), ("OnDemandThroughput", onDemandThroughput),
     ("WarmThroughput", warmThroughput), ("MultiRegionConsistency", text)]

end ClusterIdentity.Dynamo.Shape
