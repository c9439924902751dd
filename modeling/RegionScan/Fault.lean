import RegionScan.Filter
import RegionScan.Region

/-!
# Store Errors

What a store answers when it cannot do what it is asked.

An error is named for its cause. Two of them say that a later try may
succeed: a connection that could not be made, and a request that failed on its
way.

## Main definitions

* `RequestFault`: Why a request failed.
* `StoreError`: Why a store refuses.
* `StoreError.message`: The wording.
* `StoreError.isTransient`: Whether a later try may succeed.
-/

namespace RegionScan

/-- Why a request failed. -/
inductive RequestFault where
  | listingColumns
  | planningSplits
  | openingCursor
  | advancing (region : RegionId) (rows : Nat)
  | closingCursor (region : RegionId)
  | closingConnection
  | tableExists (table : TableRef)
  | rowWidth (values columns : Nat)
  /-- A fault that a store reports in its own words. -/
  | reported (message : String)
  deriving DecidableEq

/-- The wording of the fault. -/
def RequestFault.message : RequestFault → String
  | .listingColumns => "injected fault listing columns"
  | .planningSplits => "injected fault planning splits"
  | .openingCursor => "injected fault opening cursor"
  | .advancing region rows =>
    "injected fault in region " ++ region.display ++ " after " ++ toString rows ++ " rows"
  | .closingCursor region => "injected fault closing cursor on region " ++ region.display
  | .closingConnection => "injected fault closing connection"
  | .tableExists table => "table " ++ table.display ++ " already exists"
  | .rowWidth values columns => s!"row has {values} values, table has {columns} columns"
  | .reported message => message

/-- Why a store refuses. -/
inductive StoreError where
  | connectionFailed (message : String)
  | connectionClosed
  | cursorClosed
  | tableNotFound (table : TableRef)
  | regionNotFound (region : RegionId)
  | columnOutOfRange (index width : Nat)
  | notPositioned
  | invalidFilter (fault : FilterFault)
  | requestFailed (fault : RequestFault)
  | internal (message : String)
  deriving DecidableEq

namespace StoreError

/-- The wording of the error. -/
def message : StoreError → String
  | .connectionFailed reason => "connection failed: " ++ reason
  | .connectionClosed => "connection closed"
  | .cursorClosed => "cursor closed"
  | .tableNotFound table => "table " ++ table.display ++ " does not exist"
  | .regionNotFound region => "region " ++ region.display ++ " not found"
  | .columnOutOfRange index width => s!"column index {index} out of range for {width} columns"
  | .notPositioned => "cursor is not positioned on a row"
  | .invalidFilter fault => "invalid filter: " ++ fault.message
  | .requestFailed fault => "request failed: " ++ fault.message
  | .internal reason => "internal store error: " ++ reason

/-- Whether a later try may succeed. -/
def isTransient : StoreError → Bool
  | .connectionFailed _ | .requestFailed _ => true
  | _ => false

end StoreError

end RegionScan
