import ShapeCatalog.Entries
import ShapeCatalog.Unicode.Blank
import ShapeCatalog.Unicode.Numeric
import ShapeCatalog.Unicode.Alphabetic
import ShapeCatalog.Unicode.LetterCase
import ShapeCatalog.Unicode.Concealed
import ShapeCatalog.Json.Number
import ShapeCatalog.Json.Value
import ShapeCatalog.Json.Tree
import ShapeCatalog.Text.Visible
import ShapeCatalog.Json.ReadError
import ShapeCatalog.Json.Reader
import ShapeCatalog.Json.Record
import ShapeCatalog.Json.Tagged
import ShapeCatalog.Shape.Basic
import ShapeCatalog.Shape.Reader
import ShapeCatalog.Shape.Writer
import ShapeCatalog.Error
import ShapeCatalog.Shape.Prelude
import ShapeCatalog.Shape.Resolution
import ShapeCatalog.Example
import ShapeCatalog.Collation
import ShapeCatalog.Catalog.Basic
import ShapeCatalog.Catalog.Lookup
import ShapeCatalog.Catalog.Reader
import ShapeCatalog.Catalog.Writer
import ShapeCatalog.Catalog.OfModels
import ShapeCatalog.Files.Path
import ShapeCatalog.Files.Discovery
import ShapeCatalog.Files.Access
import ShapeCatalog.Files.Memory
import ShapeCatalog.CommandLine.Options
import ShapeCatalog.CommandLine.Request
import ShapeCatalog.CommandLine.Run
import ShapeCatalog.Main
import ShapeCatalog.Proofs.NameOrder
import ShapeCatalog.Proofs.Outcome
import ShapeCatalog.Proofs.References
import ShapeCatalog.Proofs.PathExample
import ShapeCatalog.Proofs.ActiveIds
import ShapeCatalog.Proofs.Extraction
import ShapeCatalog.Proofs.TreeInvariant
import ShapeCatalog.Proofs.Unfolding
import ShapeCatalog.Proofs.Census
import ShapeCatalog.Proofs.FirstFault
import ShapeCatalog.Proofs.FirstMatch
import ShapeCatalog.Proofs.Rearrangement
import ShapeCatalog.Proofs.OrderIndependence
import ShapeCatalog.Proofs.ExactValues
import ShapeCatalog.Proofs.Scanning
import ShapeCatalog.Proofs.SpelledText
import ShapeCatalog.Proofs.ScannedText
import ShapeCatalog.Proofs.WrittenText
import ShapeCatalog.Proofs.ReadBack
import ShapeCatalog.Proofs.RecordReadBack
import ShapeCatalog.Proofs.CatalogRoundTrip
import ShapeCatalog.Proofs.DocumentRoundTrip
import ShapeCatalog.Proofs.NodeIds
import ShapeCatalog.Proofs.Correspondence
import ShapeCatalog.Proofs.OpenFrames
import ShapeCatalog.Proofs.PairedExamples
import ShapeCatalog.Proofs.FrameBound
import ShapeCatalog.Proofs.PairedModels
import ShapeCatalog.Proofs.Renaming
import ShapeCatalog.Proofs.Locality
import ShapeCatalog.Proofs.ValueReferences
import ShapeCatalog.Proofs.ReferenceFaults
import ShapeCatalog.Proofs.Expansion
import ShapeCatalog.Proofs.NestingBound
import ShapeCatalog.Proofs.CanonicalSort
import ShapeCatalog.Proofs.IdOrder
import ShapeCatalog.Proofs.PathOrder
import ShapeCatalog.Proofs.DiscoveredFiles
import ShapeCatalog.Proofs.FieldEdits
import ShapeCatalog.Proofs.UnnoticedEdits
import ShapeCatalog.Proofs.DocumentEdits
