import TableGraph.Text.LowerCase
import TableGraph.Text.Unprintable
import TableGraph.Text.Combining
import TableGraph.Text.Blank
import TableGraph.Number.Whole
import TableGraph.Number.Binary64
import TableGraph.Number.Binary64.Text
import TableGraph.Number.Decimal.Binary64
import TableGraph.Calendar.Reading
import TableGraph.Uuid
import TableGraph.Json.Printer
import TableGraph.Json.Reader
import TableGraph.Schema.Description
import TableGraph.Source.Memory
import TableGraph.Source.Faults
import TableGraph.Value.Conversion
import TableGraph.Value.Bag
import TableGraph.Catalog.Introspection
import TableGraph.Retrieval.Load
import TableGraph.Graph.Document
import TableGraph.Conversion
import TableGraph.Yaml.Basic
import TableGraph.Yaml.Token.Lexer
import TableGraph.Yaml.Node
import TableGraph.Yaml.Decoder
import TableGraph.Yaml.Printer
import TableGraph.Source.Fixture
import TableGraph.Environment.Basic
import TableGraph.Source.Connection
import TableGraph.Settings.Basic
import TableGraph.Settings.Layers
import TableGraph.Environment.Assignments
import TableGraph.CommandLine.Arguments
import TableGraph.CommandLine.Run
import TableGraph.Main
import TableGraph.CommandLine.Directory
import TableGraph.Proofs.Introspection
import TableGraph.Proofs.KeyIndexLookup
import TableGraph.Proofs.Loading
import TableGraph.Proofs.Assembly
import TableGraph.Proofs.Bags
import TableGraph.Proofs.Classification
import TableGraph.Proofs.MemoryRuns
import TableGraph.Proofs.PartitionInvariance
import TableGraph.Proofs.FailureIsolation
import TableGraph.Proofs.Headers
import TableGraph.Proofs.StoredRows
import TableGraph.Proofs.StoredTables
import TableGraph.Proofs.VertexExactness
import TableGraph.Proofs.EdgeExactness
import TableGraph.Proofs.NestedLoops
import TableGraph.Proofs.Renaming
import TableGraph.Proofs.GraphIntegrity
import TableGraph.Proofs.RenamedRuns
import TableGraph.Proofs.Reordering
import TableGraph.Proofs.OrderIndependence
import TableGraph.Proofs.FetchedColumns
import TableGraph.Proofs.ReportAccounting
import TableGraph.Proofs.NaiveJoin
import TableGraph.Proofs.DistinctTables
import TableGraph.Proofs.WholeConversion
import TableGraph.Proofs.Numerals
import TableGraph.Proofs.FloatTexts
import TableGraph.Proofs.CalendarTexts
import TableGraph.Proofs.CanonicalKeys
import TableGraph.Proofs.OrderedRanges
import TableGraph.Proofs.QueryTexts
import TableGraph.Proofs.JunctionSymmetry
import TableGraph.Proofs.CalendarReading
import TableGraph.Proofs.DecimalReading
import TableGraph.Proofs.UuidReading
import TableGraph.Proofs.TextRoundTrip
import TableGraph.Proofs.ColumnSplit
import TableGraph.Proofs.IntrospectionFailures
import TableGraph.Proofs.RowFields
import TableGraph.Proofs.AlignedRows
import TableGraph.Proofs.NamedOrders
import TableGraph.Proofs.HiddenPasswords
import TableGraph.Proofs.TableSorting
import TableGraph.Proofs.TypeNames
import TableGraph.Proofs.SettingsFiles
import TableGraph.Proofs.SettingsLayers
import TableGraph.Proofs.RepeatedColumns
import TableGraph.Proofs.CompositeKeys
import TableGraph.Proofs.NearestNumbers
import TableGraph.Proofs.JsonNumbers
import TableGraph.Proofs.ValueTexts
import TableGraph.Proofs.JsonReading
import TableGraph.Proofs.GraphDocuments
