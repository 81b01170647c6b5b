import ScriptFront.Editor
import ScriptFront.Main
import ScriptFront.Proofs.Analysis.Sequence
import ScriptFront.Proofs.Command.Composition
import ScriptFront.Proofs.CommandLine.Ending
import ScriptFront.Proofs.Diagnostic.Shown
import ScriptFront.Proofs.Editor.Range
import ScriptFront.Proofs.Lexing.Excerpt
import ScriptFront.Proofs.Lexing.Extension
import ScriptFront.Proofs.Lexing.Literal
import ScriptFront.Proofs.Lexing.Pointing
import ScriptFront.Proofs.Lexing.Spacing
import ScriptFront.Proofs.Lexing.Truncation
import ScriptFront.Proofs.Manifest.Validity
import ScriptFront.Proofs.Pipeline.Calls
import ScriptFront.Proofs.Report.Dump
import ScriptFront.Proofs.Report.Table
