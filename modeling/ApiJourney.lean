import ApiJourney.Main
import ApiJourney.Proofs.Cli.Exits
import ApiJourney.Proofs.Csv.BlankLines
import ApiJourney.Proofs.Csv.Reader
import ApiJourney.Proofs.Extraction.Accounting
import ApiJourney.Proofs.Extraction.Bindings
import ApiJourney.Proofs.Extraction.Faults
import ApiJourney.Proofs.Flow.Commit
import ApiJourney.Proofs.Flow.Coverage
import ApiJourney.Proofs.Flow.Edges
import ApiJourney.Proofs.Flow.Enumeration
import ApiJourney.Proofs.Flow.Findings
import ApiJourney.Proofs.Flow.Operators
import ApiJourney.Proofs.Flow.Paths
import ApiJourney.Proofs.Flow.Resolution
import ApiJourney.Proofs.Flow.Run
import ApiJourney.Proofs.Flow.Subjects
import ApiJourney.Proofs.Flow.ThinkTime
import ApiJourney.Proofs.Flow.Verdict
import ApiJourney.Proofs.Journey.Acceptance
import ApiJourney.Proofs.Journey.Loading
import ApiJourney.Proofs.Journey.Verdict
import ApiJourney.Proofs.Json.Reader
import ApiJourney.Proofs.Json.Written
import ApiJourney.Proofs.Keys
import ApiJourney.Proofs.Number.Numeral
import ApiJourney.Proofs.Number.Rounding
import ApiJourney.Proofs.Number.Written
import ApiJourney.Proofs.Outcome
import ApiJourney.Proofs.Pattern.Parser
import ApiJourney.Proofs.Profile.Acceptance
import ApiJourney.Proofs.Profile.Assignment
import ApiJourney.Proofs.Profile.BlankLines
import ApiJourney.Proofs.Profile.Draws
import ApiJourney.Proofs.Profile.RandomValues
import ApiJourney.Proofs.Profile.Run
import ApiJourney.Proofs.Profile.Selection
import ApiJourney.Proofs.Profile.Stored
import ApiJourney.Proofs.Profile.WrittenRows
import ApiJourney.Proofs.Query.Brackets
import ApiJourney.Proofs.Query.Composition
import ApiJourney.Proofs.Query.Descent
import ApiJourney.Proofs.Query.Evaluation
import ApiJourney.Proofs.Query.Fronts
import ApiJourney.Proofs.Query.Literals
import ApiJourney.Proofs.Query.Matches
import ApiJourney.Proofs.Query.Parser
import ApiJourney.Proofs.Query.Pieces
import ApiJourney.Proofs.Query.Tokens
import ApiJourney.Proofs.Request.Rendering
import ApiJourney.Proofs.Request.Totality
import ApiJourney.Proofs.Response.Content
import ApiJourney.Proofs.Response.Textual
import ApiJourney.Proofs.Runner.Layers
import ApiJourney.Proofs.Runner.Places
import ApiJourney.Proofs.Runner.Survival
import ApiJourney.Proofs.Schema.Acceptance
import ApiJourney.Proofs.Service.Accounting
import ApiJourney.Proofs.Service.Failures
import ApiJourney.Proofs.Template.Fillable
import ApiJourney.Proofs.Template.Object
import ApiJourney.Proofs.Template.PathMarks
import ApiJourney.Proofs.Template.PathParts
import ApiJourney.Proofs.Template.Paths
import ApiJourney.Proofs.Template.Placeholder
import ApiJourney.Proofs.Template.Refilling
import ApiJourney.Proofs.Template.Segments
import ApiJourney.Proofs.Template.Texts
import ApiJourney.Proofs.Text.Parts
import ApiJourney.Proofs.Transform.Failures
import ApiJourney.Proofs.Transform.Filling
import ApiJourney.Proofs.Transform.Keys
import ApiJourney.Proofs.Transform.Replacement
import ApiJourney.Proofs.Transform.Sizes
import ApiJourney.Proofs.Url.Joining
import ApiJourney.Proofs.User.Bindings
import ApiJourney.Proofs.User.BuiltIns
import ApiJourney.Proofs.User.Interleaving
import ApiJourney.Proofs.User.Loading
import ApiJourney.Proofs.User.Rounds
import ApiJourney.Proofs.Value.Keys
import ApiJourney.Proofs.Value.Latest
import ApiJourney.Proofs.Variables.Merge
import ApiJourney.Proofs.Variables.Visibility
import ApiJourney.Proofs.Yaml.Document
import ApiJourney.Service.Handling
