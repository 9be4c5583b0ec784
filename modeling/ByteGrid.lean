import ByteGrid.Catalog
import ByteGrid.CommandLine.Reader
import ByteGrid.Decimal.Reading
import ByteGrid.Decimal.Written
import ByteGrid.Declaration.Parser
import ByteGrid.Exchange.Json
import ByteGrid.Files.Folder
import ByteGrid.Grid.Json
import ByteGrid.Grid.Text
import ByteGrid.Json.Decode
import ByteGrid.Json.Reader
import ByteGrid.Json.Writer
import ByteGrid.Layout.Validity
import ByteGrid.Main
import ByteGrid.Outcome
import ByteGrid.Run
import ByteGrid.Search.Completion
import ByteGrid.Settings.Json
import ByteGrid.Source.Span
import ByteGrid.Text.Basic
import ByteGrid.Text.Character
import ByteGrid.Text.Lowercase
import ByteGrid.Text.Printable
import ByteGrid.TypeTable
import ByteGrid.TypeTable.Json
import ByteGrid.Proofs.Rounding
import ByteGrid.Proofs.Placement
import ByteGrid.Proofs.Leads
import ByteGrid.Proofs.Nesting
import ByteGrid.Proofs.Packing
import ByteGrid.Proofs.Grid.Rows
import ByteGrid.Proofs.Grid.Segments
import ByteGrid.Proofs.Grid.Bytes
import ByteGrid.Proofs.Grid.Tiling
import ByteGrid.Proofs.Ideal
import ByteGrid.Proofs.Containment
import ByteGrid.Proofs.Growth
import ByteGrid.Proofs.Text.Blank
import ByteGrid.Proofs.Source.Braces
import ByteGrid.Proofs.Source.Bodies
import ByteGrid.Proofs.Source.Order
import ByteGrid.Proofs.Source.Starts
import ByteGrid.Proofs.Source.TopLevel
import ByteGrid.Proofs.Source.Plain
import ByteGrid.Proofs.Declaration.Comments
import ByteGrid.Proofs.Declaration.Forms
import ByteGrid.Proofs.Declaration.Members
import ByteGrid.Proofs.Declaration.Search
import ByteGrid.Proofs.Declaration.Leading
import ByteGrid.Proofs.Declaration.PrintedMembers
import ByteGrid.Proofs.Declaration.Printing
import ByteGrid.Proofs.Search.First
import ByteGrid.Proofs.Completion
import ByteGrid.Proofs.Lookups
import ByteGrid.Proofs.Machine
import ByteGrid.Proofs.Exact
import ByteGrid.Proofs.Json.Numerals
import ByteGrid.Proofs.Json.Reading
import ByteGrid.Proofs.Json.Records
import ByteGrid.Proofs.Exchange.Json
import ByteGrid.Proofs.Exchange.Layouts
import ByteGrid.Proofs.Fields
import ByteGrid.Proofs.Parser
import ByteGrid.Proofs.Session
import ByteGrid.Proofs.SearchLists
import ByteGrid.Proofs.Exchange.Documents
import ByteGrid.Proofs.Exchange.Refusals
import ByteGrid.Proofs.Grid.Filling
import ByteGrid.Proofs.Grid.Words
import ByteGrid.Proofs.Members
import ByteGrid.Proofs.Elements
import ByteGrid.Proofs.Embedded
import ByteGrid.Proofs.PackValues
import ByteGrid.Proofs.Sharing
import ByteGrid.Proofs.Validation
import ByteGrid.Proofs.Building
import ByteGrid.Proofs.Declaration.First
import ByteGrid.Proofs.Declaration.Shapes
import ByteGrid.Proofs.Source.Joined
import ByteGrid.Proofs.Search.Patterns
import ByteGrid.Proofs.Declaration.Pragmas
import ByteGrid.Proofs.Grid.Boxes
import ByteGrid.Proofs.Source.Matching
import ByteGrid.Proofs.Declaration.Dimensions
import ByteGrid.Proofs.Grid.Metrics
import ByteGrid.Proofs.Grid.BitLabels
import ByteGrid.Proofs.Attributes
