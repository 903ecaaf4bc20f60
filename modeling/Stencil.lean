import Stencil.Main
import Stencil.Proofs.Template.Grammar
import Stencil.Proofs.Template.Readers
import Stencil.Proofs.Template.ItemRuns
import Stencil.Proofs.Template.RoundTrip
import Stencil.Proofs.Program.Literals
import Stencil.Proofs.Template.BrokenScan
import Stencil.Proofs.Template.BrokenReaders
import Stencil.Proofs.Text.Offset
import Stencil.Proofs.Template.FaultPlace
import Stencil.Proofs.Files.Atomic
import Stencil.Proofs.Encoding.Chunks
import Stencil.Proofs.CommandLine.Stages
import Stencil.Proofs.Files.TemplateFile
import Stencil.Proofs.Template.FlawedSource
import Stencil.Proofs.Files.FlawedFile
import Stencil.Proofs.Template.DirectiveValues
import Stencil.Proofs.Template.Truncation
import Stencil.Proofs.Template.Composition
import Stencil.Proofs.Program.TextRuns
import Stencil.Proofs.Template.Influence
import Stencil.Proofs.Template.Transparency
import Stencil.Proofs.CommandLine.Exits
import Stencil.Proofs.Template.Growth
import Stencil.Proofs.Encoding.Repertoire
import Stencil.Proofs.Files.ProgramFile
import Stencil.Proofs.Template.ScanSteps
import Stencil.Proofs.Template.Shape
import Stencil.Proofs.Text.Unescaping
import Stencil.Proofs.Template.Dispatch
import Stencil.Proofs.Template.Loops
import Stencil.Proofs.Template.HandDriven
