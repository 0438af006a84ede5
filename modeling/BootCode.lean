import BootCode.Text.Blank
import BootCode.Text.Lines
import BootCode.Text.Printable
import BootCode.Text.Combining
import BootCode.Text.Quoted
import BootCode.Numeral
import BootCode.Fault
import BootCode.Instruction
import BootCode.Program
import BootCode.Machine.History
import BootCode.Machine
import BootCode.Repair
import BootCode.Lint
import BootCode.Settings
import BootCode.Json.Write
import BootCode.Report
import BootCode.Console
import BootCode.Json.Number
import BootCode.Json.Read
import BootCode.Settings.Json
import BootCode.Main
import BootCode.Proofs.VisitedSet
import BootCode.Proofs.Run
import BootCode.Proofs.Trace
import BootCode.Proofs.Repair
import BootCode.Proofs.Numeral
import BootCode.Proofs.Grammar
import BootCode.Proofs.RoundTrip
import BootCode.Proofs.Bounds
import BootCode.Proofs.Locality
import BootCode.Proofs.Candidates
import BootCode.Proofs.Diagnostics
