import AlertConsole.Main
import AlertConsole.Proofs.Utf8.Cut
import AlertConsole.Proofs.Json.Grammar
import AlertConsole.Proofs.Json.Strings
import AlertConsole.Proofs.Json.Numbers
import AlertConsole.Proofs.Binary64.Nearest
import AlertConsole.Proofs.Binary64.Bounds
import AlertConsole.Proofs.Json.Range
import AlertConsole.Proofs.Json.TreeValue
import AlertConsole.Proofs.Json.Containers
import AlertConsole.Proofs.Json.Documents
import AlertConsole.Proofs.Payload.Language
import AlertConsole.Proofs.Payload.Truncation
import AlertConsole.Proofs.Json.Settling
import AlertConsole.Proofs.Payload.Meaning
import AlertConsole.Proofs.Json.DistinctKeys
import AlertConsole.Proofs.Payload.Classification
import AlertConsole.Proofs.Json.Naturals
import AlertConsole.Proofs.Json.Composition
import AlertConsole.Proofs.Payload.Wrapping
import AlertConsole.Proofs.Report.Determined
import AlertConsole.Proofs.Receiver.DeclaredLength
import AlertConsole.Proofs.Receiver.Decision
import AlertConsole.Proofs.Calendar.Gregorian
import AlertConsole.Proofs.Calendar.Clock
import AlertConsole.Proofs.Receiver.Considered
import AlertConsole.Proofs.Alert.TimestampLine
import AlertConsole.Proofs.Binary64.Rounding
import AlertConsole.Proofs.Binary64.Shortest
import AlertConsole.Proofs.Binary64.Value
import AlertConsole.Proofs.Json.Integers
import AlertConsole.Proofs.Alert.TimeCount
import AlertConsole.Proofs.Json.Unambiguous
import AlertConsole.Proofs.Json.Equality
import AlertConsole.Proofs.Json.Reordering
import AlertConsole.Proofs.Alert.Agreement
import AlertConsole.Proofs.Payload.Reordering
import AlertConsole.Proofs.Utf8.Faults
import AlertConsole.Proofs.Utf8.Layouts
import AlertConsole.Proofs.Payload.TextFaults
import AlertConsole.Proofs.Utf8.Lossy
import AlertConsole.Proofs.Receiver.RawData
import AlertConsole.Proofs.Json.ExactIntegers
import AlertConsole.Proofs.Json.CompactText
import AlertConsole.Proofs.Json.Printing
import AlertConsole.Proofs.Report.ReadBack
import AlertConsole.Proofs.Payload.Sources
import AlertConsole.Proofs.Payload.IntegerLiterals
import AlertConsole.Proofs.CommandLine.Arguments
import AlertConsole.Proofs.Report.MetadataSection
import AlertConsole.Proofs.Payload.FaultPositions
import AlertConsole.Proofs.Receiver.LogTrace
