import ThaiScript.Encoding.Declared
import ThaiScript.Encoding.Script
import ThaiScript.ErrorCategory
import ThaiScript.Machine.Host
import ThaiScript.Main
import ThaiScript.StandardStreams
import ThaiScript.Program.Build
import ThaiScript.Program.Scope
import ThaiScript.Proofs.Capture
import ThaiScript.Proofs.Comments
import ThaiScript.Proofs.Completeness
import ThaiScript.Proofs.Decoding
import ThaiScript.Proofs.Escapes
import ThaiScript.Proofs.Formats
import ThaiScript.Proofs.Independence
import ThaiScript.Proofs.Lines
import ThaiScript.Proofs.OperatorWords
import ThaiScript.Proofs.Places
import ThaiScript.Proofs.ReportLine
import ThaiScript.Proofs.Settings
import ThaiScript.Proofs.Sinks
