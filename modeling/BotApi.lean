import BotApi.Client
import BotApi.Main
import BotApi.Number.Reading
import BotApi.Proofs.Bindings.Reachable
import BotApi.Proofs.Bindings.SnakeNames
import BotApi.Proofs.Bindings.Tracking
import BotApi.Proofs.Client.Calls
import BotApi.Proofs.Client.Routes
import BotApi.Proofs.Exchange
import BotApi.Proofs.Graph.Resolution
import BotApi.Proofs.Locality
import BotApi.Proofs.Package.Docstring
import BotApi.Proofs.Package.EntryPoint
import BotApi.Proofs.Package.Imports
import BotApi.Proofs.Package.Rerun
import BotApi.Proofs.Package.TypeModules
import BotApi.Proofs.Request.Acceptance
import BotApi.Proofs.Request.Contents
import BotApi.Proofs.Request.EntryOrder
import BotApi.Proofs.Request.FormText
import BotApi.Proofs.Request.Numbering
import BotApi.Proofs.Request.PartNames
import BotApi.Proofs.Response.Blame
import BotApi.Proofs.Response.Bodies
import BotApi.Proofs.Response.Extended
import BotApi.Proofs.Response.Levels
import BotApi.Proofs.Response.Outcomes
import BotApi.Proofs.Response.Reduced
import BotApi.Proofs.Response.RoundTrip
import BotApi.Proofs.Termination
import BotApi.Proofs.Text.Letters
import BotApi.Proofs.TypeExpr.NormalForm
import BotApi.Proofs.Value.NormalForm
import BotApi.Value.Same
