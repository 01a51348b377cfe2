import Visa.Exchange.Reading
import Visa.Exchange.Settings
import Visa.Main
import Visa.Proofs.Accounting
import Visa.Proofs.Decomposition
import Visa.Proofs.DecisionOutput
import Visa.Proofs.Interchange
import Visa.Proofs.Limits
import Visa.Proofs.Overrun
import Visa.Proofs.RemarkedRules
import Visa.Proofs.Truncation
import Visa.Proofs.Placeholders
import Visa.Proofs.Startup
import Visa.Proofs.Splicing
import Visa.Proofs.PrintedAnswer
import Visa.Proofs.OneLine
import Visa.Proofs.Occurrence
import Visa.Proofs.Bytewise.Report
