import ColumnFormula.Text.Alphabetic
import ColumnFormula.Text.Numeric
import ColumnFormula.Text.UpperCase
import ColumnFormula.Text.Blank
import ColumnFormula.Number.Style
import ColumnFormula.Function
import ColumnFormula.Identifier.Picker
import ColumnFormula.Token.Lexer
import ColumnFormula.Report
import ColumnFormula.Converter
import ColumnFormula.Json.Parser
import ColumnFormula.Sheet.Grid
import ColumnFormula.Sheet.Json
import ColumnFormula.Workbook.Basic
import ColumnFormula.Plan.Render
import ColumnFormula.Options.Yaml
import ColumnFormula.Main
import ColumnFormula.Proofs.OperatorSpacing
import ColumnFormula.Proofs.PlanReferences
import ColumnFormula.Proofs.CellAddresses
import ColumnFormula.Proofs.FillDown
import ColumnFormula.Proofs.ConvertedStrings
import ColumnFormula.Proofs.QuotedSheets
import ColumnFormula.Proofs.ReferenceNeighbours
import ColumnFormula.Proofs.BlankFormulas
import ColumnFormula.Proofs.TableNames
import ColumnFormula.Proofs.SheetOrder
import ColumnFormula.Proofs.ConfinedSheets
import ColumnFormula.Proofs.SettledSpacing
import ColumnFormula.Proofs.MovedSheets
import ColumnFormula.Proofs.ConvertedSpacing
import ColumnFormula.Proofs.OpenQuotes
import ColumnFormula.Proofs.RebuiltSheets
import ColumnFormula.Proofs.ParsedReferences
import ColumnFormula.Proofs.SheetNames
import ColumnFormula.Proofs.LongestTokens
import ColumnFormula.Proofs.ReferenceRoundTrip
import ColumnFormula.Proofs.RowIndependence
import ColumnFormula.Proofs.ColumnIndices
import ColumnFormula.Proofs.ColumnOrder
import ColumnFormula.Proofs.IdentifierWords
import ColumnFormula.Proofs.StableMappings
import ColumnFormula.Proofs.LeastNumbers
import ColumnFormula.Proofs.IndexedSheets
import ColumnFormula.Proofs.MergedReports
import ColumnFormula.Proofs.SpaceBoundaries
import ColumnFormula.Proofs.ImportedNames
import ColumnFormula.Proofs.FarColumns
