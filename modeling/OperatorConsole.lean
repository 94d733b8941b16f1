import OperatorConsole.Main
import OperatorConsole.Proofs.Argument.Assignment
import OperatorConsole.Proofs.Command.Written
import OperatorConsole.Proofs.Session.Agreement
import OperatorConsole.Proofs.Argument.Interchange
import OperatorConsole.Proofs.Catalog.Offered
import OperatorConsole.Proofs.Session.ReadBack
import OperatorConsole.Proofs.Argument.Spelling
import OperatorConsole.Proofs.Argument.Faults
import OperatorConsole.Proofs.Session.Failure
import OperatorConsole.Proofs.Session.Normalization
import OperatorConsole.Proofs.Session.Resolution
import OperatorConsole.Proofs.Builtin.HeaderCalls
import OperatorConsole.Proofs.Settings.Sources
import OperatorConsole.Proofs.Session.Display
import OperatorConsole.Proofs.Catalog.Described
import OperatorConsole.Proofs.Session.Survival
import OperatorConsole.Proofs.Invocation.Exit
import OperatorConsole.Proofs.Argument.Source
import OperatorConsole.Proofs.Argument.Omission
import OperatorConsole.Proofs.Session.Reserved
import OperatorConsole.Proofs.Session.Storing
import OperatorConsole.Proofs.Command.Quote
import OperatorConsole.Proofs.Session.Framing
import OperatorConsole.Proofs.Disk.FileName
import OperatorConsole.Proofs.Json.Path
import OperatorConsole.Proofs.Builtin.Selection
import OperatorConsole.Proofs.Builtin.Transfer
import OperatorConsole.Proofs.Builtin.Decoding
import OperatorConsole.Proofs.Session.Naming
import OperatorConsole.Proofs.Session.LetterCase
import OperatorConsole.Proofs.Session.Referring
import OperatorConsole.Proofs.Catalog.Loading
import OperatorConsole.Proofs.Web.Copy
import OperatorConsole.Proofs.Argument.Integer
import OperatorConsole.Proofs.Command.Progress
import OperatorConsole.Proofs.Session.Shown
import OperatorConsole.Proofs.Argument.Float
