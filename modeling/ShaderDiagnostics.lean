import ShaderDiagnostics.Location.Stored
import ShaderDiagnostics.Swizzle.Check
import ShaderDiagnostics.Sink.Handle
import ShaderDiagnostics.Sink.Recorder
import ShaderDiagnostics.Sink.Write
import ShaderDiagnostics.Device.Scripted
import ShaderDiagnostics.Output.Opening
import ShaderDiagnostics.Registry.Operation
import ShaderDiagnostics.Stopwatch
import ShaderDiagnostics.Proofs.Decimal.Fractions
import ShaderDiagnostics.Proofs.Decimal.Reading
import ShaderDiagnostics.Proofs.Decimal.Rounding
import ShaderDiagnostics.Proofs.Decimal.General
import ShaderDiagnostics.Proofs.Binary.Spacing
import ShaderDiagnostics.Proofs.Decimal.RoundTrip
import ShaderDiagnostics.Proofs.Device.Attempts
import ShaderDiagnostics.Proofs.Device.Steady
import ShaderDiagnostics.Proofs.Sink.Calls
import ShaderDiagnostics.Proofs.Sink.Handles
import ShaderDiagnostics.Proofs.Sink.OverWriter
import ShaderDiagnostics.Proofs.Event.Report
import ShaderDiagnostics.Proofs.Sink.Failures
import ShaderDiagnostics.Proofs.Twine.Leaves
import ShaderDiagnostics.Proofs.Twine.Recipes
import ShaderDiagnostics.Proofs.Primitive.Equality
import ShaderDiagnostics.Proofs.Twine.Equality
import ShaderDiagnostics.Proofs.Word.Limits
import ShaderDiagnostics.Proofs.Swizzle.SlotReading
import ShaderDiagnostics.Proofs.Swizzle.Cells
import ShaderDiagnostics.Proofs.Swizzle.MatrixGrammar
import ShaderDiagnostics.Proofs.Diagnostic.Line
import ShaderDiagnostics.Proofs.Registry.Runs
import ShaderDiagnostics.Proofs.Diagnostic.ReadBack
import ShaderDiagnostics.Proofs.Registry.Sources
import ShaderDiagnostics.Proofs.Registry.Verdict
import ShaderDiagnostics.Proofs.Registry.Output
import ShaderDiagnostics.Proofs.Registry.Trace
import ShaderDiagnostics.Proofs.Registry.Backends
import ShaderDiagnostics.Proofs.Swizzle.Assignable
import ShaderDiagnostics.Proofs.Swizzle.Scan
import ShaderDiagnostics.Proofs.Swizzle.Rejected
import ShaderDiagnostics.Proofs.Registry.Checks
import ShaderDiagnostics.Proofs.Decimal.Canonical
import ShaderDiagnostics.Proofs.Binary.Nearest
import ShaderDiagnostics.Proofs.Decimal.ShortDecimal
import ShaderDiagnostics.Proofs.Swizzle.Obtained
import ShaderDiagnostics.Proofs.Swizzle.NormalText
import ShaderDiagnostics.Proofs.Swizzle.VectorGrammar
import ShaderDiagnostics.Proofs.Swizzle.Spellings
import ShaderDiagnostics.Proofs.Sink.BufferText
import ShaderDiagnostics.Proofs.Numeral.Positional
import ShaderDiagnostics.Proofs.Primitive.Texts
import ShaderDiagnostics.Proofs.Text.Trimming
import ShaderDiagnostics.Proofs.Output.Setting
import ShaderDiagnostics.Proofs.Location.ReadBack
