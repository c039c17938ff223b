import SearchClient.Query.Basic
import SearchClient.Spec.Error
import SearchClient.Spec.GroupColumn

/-!
# Aggregations

One terms aggregation for each column, under the column's name; of two requests
for one column the later counts.
-/

namespace SearchClient

def defaultGroupSize : UInt64 := 10

def GroupColumn.aggregation (c : GroupColumn) (size : UInt64) : Aggregation where
  field := c.column
  order := .singleton (c.orderField.getD "_count") (c.direction.getD "desc")
  size := size

def Aggregation.ofColumns (columns : List GroupColumn) (size : Option UInt64) :
    Except SpecError (SortedMap Aggregation) :=
  if columns.isEmpty then .error .groupColumnsRequired
  else
    .ok (.ofList (columns.map fun c =>
      (c.column, c.aggregation (size.getD defaultGroupSize))))

end SearchClient
