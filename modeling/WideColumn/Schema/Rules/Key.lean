/-
# Rules about keys

A table has a partition key; the orders of its partition columns and those of its clustering
columns each count up from zero.  Only a table that clusters has static columns.
-/
import WideColumn.Schema.ErrorTree

namespace WideColumn.Schema

/-- Whether numbers are those from zero up to their count, in any order. -/
def isContiguous (orders : List Nat) : Bool :=
  (orders.mergeSort (· ≤ ·)) == List.range orders.length

/-- Orders that do not count up from zero. -/
def orderFaults (part : KeyPart) (orders : List Nat) : List Violation :=
  if isContiguous orders then []
  else [.keyOrderGap part orders.length (orders.mergeSort (· ≤ ·))]

/-- What is wrong with the key of an entity. -/
def keyFindings (e : Entity) : List Finding :=
  let partition := e.fields.filterMap (·.role.partitionOrder?)
  let clustering := e.fields.filterMap (·.role.clusteringOrder?)
  ((if partition.isEmpty then [Violation.missingPartitionKey] else [])
      ++ orderFaults .partition partition ++ orderFaults .clustering clustering).map .here
    ++ if clustering.isEmpty then
        e.staticFields.map fun f => (Finding.here .staticWithoutClustering).under f.name
      else []

end WideColumn.Schema
