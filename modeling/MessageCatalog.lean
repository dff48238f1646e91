import MessageCatalog.Disk.Memory
import MessageCatalog.Disk.Tree
import MessageCatalog.Main
import MessageCatalog.Proofs.SortedMap
import MessageCatalog.Proofs.Disk.Memory
import MessageCatalog.Proofs.Session.Beginning
import MessageCatalog.Proofs.Session.Freshness
import MessageCatalog.Proofs.Session.Incremental
import MessageCatalog.Proofs.Session.Write
import MessageCatalog.Proofs.Source.Call
import MessageCatalog.Proofs.Source.Nesting
import MessageCatalog.Proofs.Source.Recovery
import MessageCatalog.Proofs.Source.Position
import MessageCatalog.Proofs.Source.Outcome
import MessageCatalog.Proofs.Source.Span
import MessageCatalog.Proofs.Source.Amid
import MessageCatalog.Proofs.Source.Boundary
import MessageCatalog.Proofs.Source.Extension
import MessageCatalog.Proofs.Source.Statement
import MessageCatalog.Proofs.Source.Literal
import MessageCatalog.Proofs.Source.WrittenCall
import MessageCatalog.Proofs.Text.Normal
import MessageCatalog.Proofs.Source.Parts
import MessageCatalog.Proofs.Message.Key
import MessageCatalog.Proofs.Po.Line
import MessageCatalog.Proofs.Po.Reading
import MessageCatalog.Proofs.Po.Block
import MessageCatalog.Proofs.Po.Catalog
import MessageCatalog.Proofs.Po.Parsed
import MessageCatalog.Proofs.Po.RoundTrip
import MessageCatalog.Proofs.Json.StringUnit
import MessageCatalog.Proofs.Json.Text
import MessageCatalog.Proofs.Entry.Document
import MessageCatalog.Proofs.Session.Index
import MessageCatalog.Proofs.Session.IndexedCalls
import MessageCatalog.Proofs.Entry.Merge
import MessageCatalog.Proofs.Format
import MessageCatalog.Proofs.Disk.View
import MessageCatalog.Proofs.Session.WriteCache
import MessageCatalog.Proofs.Session.Catalog
import MessageCatalog.Proofs.Session.Bundle
import MessageCatalog.Proofs.Session.Translations
import MessageCatalog.Proofs.Entry.MergeRules
import MessageCatalog.Proofs.Json5.Number
import MessageCatalog.Proofs.Json5.StringUnit
import MessageCatalog.Proofs.Json5.Text
import MessageCatalog.Proofs.Entry.SortedDocument
import MessageCatalog.Proofs.Format.RoundTrip
import MessageCatalog.Proofs.Po.Rewrite
import MessageCatalog.Proofs.Entry.MergeRuns
import MessageCatalog.Proofs.Entry.MergeDefects
import MessageCatalog.Proofs.Json.LineEnds
import MessageCatalog.Proofs.Format.Renewal
import MessageCatalog.Proofs.Session.UpToDate
import MessageCatalog.Proofs.Session.CatalogRuns
import MessageCatalog.Proofs.Session.EmptyTexts
import MessageCatalog.Proofs.Session.FirstRead
import MessageCatalog.Proofs.Session.Reached
import MessageCatalog.Proofs.Session.Writes
import MessageCatalog.Proofs.Session.History
import MessageCatalog.Proofs.Session.CatalogTexts
import MessageCatalog.Proofs.Path
import MessageCatalog.Proofs.Session.BundleTexts
import MessageCatalog.Proofs.Session.ShippedKeys
import MessageCatalog.Proofs.Session.BundleContents
import MessageCatalog.Proofs.Session.FullRead
import MessageCatalog.Proofs.Session.Uncached
import MessageCatalog.Proofs.Session.WritesAlike
import MessageCatalog.Proofs.Session.Retry
import MessageCatalog.Proofs.Session.MergedCatalogs
import MessageCatalog.Proofs.Session.CatalogFailure
import MessageCatalog.Proofs.Session.CatalogStability
import MessageCatalog.Proofs.Session.BundleRuns
import MessageCatalog.Proofs.Session.BundleFiles
import MessageCatalog.Proofs.Session.BundleStability
import MessageCatalog.Proofs.Disk.Directories
import MessageCatalog.Proofs.Source.CallSteps
import MessageCatalog.Proofs.Po.FileNames
import MessageCatalog.Proofs.Po.Joined
import MessageCatalog.Proofs.Source.Spelling
import MessageCatalog.Proofs.Session.ListedPaths
import MessageCatalog.Proofs.Session.Screen
import MessageCatalog.Proofs.Session.Batches
import MessageCatalog.Proofs.Session.CachedWrites
import MessageCatalog.Proofs.Json.Nesting
import MessageCatalog.Proofs.Format.Merged
import MessageCatalog.Proofs.Session.LineEnds
import MessageCatalog.Proofs.Session.Watching
import MessageCatalog.Proofs.Source.ContextStack
import MessageCatalog.Proofs.Disk.Patterns
import MessageCatalog.Proofs.Session.Patterns
import MessageCatalog.Proofs.Session.OutputPaths
import MessageCatalog.Proofs.Disk.Tree
import MessageCatalog.Proofs.Program.Scratch
