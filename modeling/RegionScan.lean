import RegionScan.Main
import RegionScan.Proofs.Filter.ThreeValued
import RegionScan.Proofs.Number.Coercion
import RegionScan.Proofs.Number.Comparison
import RegionScan.Proofs.Pattern.Compilation
import RegionScan.Proofs.Pattern.RoundTrip
import RegionScan.Proofs.Scan.Projection
import RegionScan.Proofs.Scan.ReadPoint
import RegionScan.Proofs.Scan.RowBudget
import RegionScan.Proofs.Store.CommitOrder
import RegionScan.Proofs.Store.RefusedWrite
import RegionScan.Proofs.Store.RegionBounds
import RegionScan.Proofs.Temporal.TextRoundTrip
import RegionScan.Proofs.Filter.Laws
import RegionScan.Proofs.Number.DecimalText
import RegionScan.Proofs.Store.CursorRows
import RegionScan.Proofs.Output.CsvRecords
import RegionScan.Proofs.Output.JsonRows
import RegionScan.Proofs.Scan.FilterColumns
import RegionScan.Proofs.TypeText
