import NativeBindings.Signature.Packed
import NativeBindings.Json.Value
import NativeBindings.Json.Lexeme
import NativeBindings.Text.Uppercase
import NativeBindings.Json.Record
import NativeBindings.NativeStruct.Builder
import NativeBindings.Configuration.Document
import NativeBindings.Binding.StructSource
import NativeBindings.Cancellation
import NativeBindings.Main
import NativeBindings.Proofs.Signature.RoundTrip
import NativeBindings.Proofs.Batch.RegisteredRecords
import NativeBindings.Proofs.Binding.BlockComposition
import NativeBindings.Proofs.Source.LiteralReading
import NativeBindings.Proofs.Binding.RecordDecoding
import NativeBindings.Proofs.Binding.NullReports
import NativeBindings.Proofs.Binding.AddressLookup
import NativeBindings.Proofs.Binding.ArrayAccessors
import NativeBindings.Proofs.Batch.UniqueAddresses
import NativeBindings.Proofs.Json.ScalarReading
import NativeBindings.Proofs.Json.ValueReading
import NativeBindings.Proofs.Json.RecordRoundTrip
import NativeBindings.Proofs.NativeStruct.DocumentRoundTrip
import NativeBindings.Proofs.Files.Resolution
import NativeBindings.Proofs.Files.Writing
import NativeBindings.Proofs.CommandLine.Running
import NativeBindings.Proofs.CommandLine.FailedRuns
import NativeBindings.Proofs.CommandLine.WrittenFiles
import NativeBindings.Proofs.Binding.Assertions
import NativeBindings.Proofs.Binding.OverloadNames
import NativeBindings.Proofs.Cancellation.Checks
import NativeBindings.Proofs.Cancellation.Families
import NativeBindings.Proofs.Cancellation.Sessions
import NativeBindings.Proofs.Batch.Reordering
import NativeBindings.Proofs.Binding.SlotRanges
import NativeBindings.Proofs.CommandLine.PointerWidth
import NativeBindings.Proofs.Json.Grammar
import NativeBindings.Proofs.Json.GrammarReading
import NativeBindings.Proofs.Json.RecordSpelling
import NativeBindings.Proofs.NativeStruct.DocumentSpelling
import NativeBindings.Proofs.Signature.Grammar
import NativeBindings.Proofs.CommandLine.Reports
import NativeBindings.Proofs.Signature.Canonical
import NativeBindings.Proofs.Source.LaidOut
import NativeBindings.Proofs.Source.RegularLiterals
import NativeBindings.Proofs.Binding.PlainBlocks
import NativeBindings.Proofs.Batch.LaidOutSources
import NativeBindings.Proofs.CommandLine.Splitting
import NativeBindings.Proofs.CommandLine.EncodeArguments
import NativeBindings.Proofs.Json.RecordFields
import NativeBindings.Proofs.CommandLine.GenerateArguments
import NativeBindings.Proofs.Binding.OverloadForms
import NativeBindings.Proofs.Text.CommaLists
import NativeBindings.Proofs.Binding.CallShapes
import NativeBindings.Proofs.Batch.ArrayTypes
import NativeBindings.Proofs.Batch.LengthTables
import NativeBindings.Proofs.Binding.Commands
import NativeBindings.Proofs.NativeStruct.BuildOrder
