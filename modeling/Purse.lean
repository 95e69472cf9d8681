import Purse.Main
import Purse.Startup
import Purse.World.UnitCall
import Purse.Proofs.Correspondence
import Purse.Proofs.Atomicity
import Purse.Proofs.Replay
import Purse.Proofs.LifeCycle
import Purse.Proofs.AppendOnly
import Purse.Proofs.Refusal
import Purse.Proofs.Exchange
import Purse.Proofs.Numeral
import Purse.Proofs.Uuid
import Purse.Proofs.Timestamp
import Purse.Proofs.Json.Token
import Purse.Proofs.Json.Value
import Purse.Proofs.Json.Record
import Purse.Proofs.Json.Vocabulary
import Purse.Proofs.Json.Parser
import Purse.Proofs.Request
import Purse.Proofs.Client
import Purse.Proofs.Json.Faithful
import Purse.Proofs.References
import Purse.Proofs.Constraints
import Purse.Proofs.Isolation
import Purse.Proofs.Posting
import Purse.Proofs.Settling
import Purse.Proofs.NewPayment
import Purse.Proofs.Webhook
import Purse.Proofs.Paging
import Purse.Proofs.Rows
import Purse.Proofs.Json.Grammar
import Purse.Proofs.Json.Judgement
import Purse.Proofs.Json.Members
import Purse.Proofs.Json.Presentation
import Purse.Proofs.Spelling
import Purse.Proofs.Respelling
import Purse.Proofs.Json.Wide
import Purse.Proofs.Wallet
import Purse.Proofs.Links
import Purse.Proofs.Config
import Purse.Proofs.CommandLine
import Purse.Proofs.Attempts
import Purse.Proofs.Json.Accepted
import Purse.Proofs.Json.Composite
import Purse.Proofs.Json.Among
import Purse.Proofs.Json.Amount
