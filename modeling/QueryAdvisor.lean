import QueryAdvisor.Main
import QueryAdvisor.Proofs.Comparisons
import QueryAdvisor.Proofs.DefaultEngine
import QueryAdvisor.Proofs.NamedQueries
import QueryAdvisor.Proofs.PlanSource
import QueryAdvisor.Proofs.Recognised
import QueryAdvisor.Proofs.SameShape
import QueryAdvisor.Proofs.ServiceOutcome
import QueryAdvisor.Proofs.StatementUnion
import QueryAdvisor.Proofs.JsonGrammar
import QueryAdvisor.Proofs.ReaderOutcome
import QueryAdvisor.Proofs.JsonRead
import QueryAdvisor.Proofs.JsonSkip
import QueryAdvisor.Proofs.LetterCase
import QueryAdvisor.Proofs.RecordRead
import QueryAdvisor.Proofs.ResponseText
import QueryAdvisor.Proofs.RequestText
import QueryAdvisor.Proofs.CommandOutcome
import QueryAdvisor.Proofs.PatternFindings
import QueryAdvisor.Proofs.CallFindings
import QueryAdvisor.Proofs.FirstArgument
import QueryAdvisor.Proofs.BooleanChains
import QueryAdvisor.Proofs.FromPieces
import QueryAdvisor.Proofs.TrailingSeparators
import QueryAdvisor.Proofs.PlanListing
import QueryAdvisor.Proofs.PlanPayload
import QueryAdvisor.Proofs.QuotedLabel
import QueryAdvisor.Proofs.Notice
import QueryAdvisor.Proofs.EngineRun
import QueryAdvisor.Proofs.TextLines
import QueryAdvisor.Proofs.OutlineLines
import QueryAdvisor.Proofs.DepthLimit
import QueryAdvisor.Proofs.SuggestionLines
import QueryAdvisor.Proofs.AsciiLowering
import QueryAdvisor.Proofs.ModeName
import QueryAdvisor.Proofs.WalkOrder
