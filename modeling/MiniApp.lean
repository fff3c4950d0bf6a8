import MiniApp.Render.Element
import MiniApp.Render.Codec
import MiniApp.Template.Codec
import MiniApp.App.ConfigFile
import MiniApp.Page.Codec
import MiniApp.Simulation.Command
import MiniApp.Proofs.Session.Run
import MiniApp.Proofs.Session.OnePage
import MiniApp.Proofs.Script.Extent
import MiniApp.Proofs.Script.Reading
import MiniApp.Proofs.Script.Gap
import MiniApp.Proofs.Script.Inside
import MiniApp.Proofs.Script.Padding
import MiniApp.Proofs.Script.Grammar.Function
import MiniApp.Proofs.Script.Grammar.Expression
import MiniApp.Proofs.Script.Grammar.Statement
import MiniApp.Proofs.Script.Grammar.Inside
import MiniApp.Proofs.Script.Grammar.First
import MiniApp.Proofs.Handler.Padding
import MiniApp.Proofs.Handler.Uses
import MiniApp.Proofs.Handler.Scoping
import MiniApp.Proofs.Handler.OneByOne
import MiniApp.Proofs.Handler.EventFunction
import MiniApp.Proofs.Event.Marking
import MiniApp.Proofs.Event.Report
import MiniApp.Proofs.Event.Collision
import MiniApp.Proofs.Session.Teardown
import MiniApp.Proofs.Session.Lookup
import MiniApp.Proofs.Event.Unreadable
import MiniApp.Proofs.Session.Registration
import MiniApp.Proofs.Session.Stack
import MiniApp.Proofs.Event.Independence
import MiniApp.Proofs.Render.Element
import MiniApp.Proofs.Script.Place
import MiniApp.Proofs.Handler.Visiting
import MiniApp.Proofs.Handler.AtOnce
import MiniApp.Proofs.Session.Delivery
import MiniApp.Proofs.Session.Outcome
import MiniApp.Proofs.Session.Preloaded
import MiniApp.Proofs.Session.RenderedOnce
import MiniApp.Proofs.Session.OwnPage
import MiniApp.Proofs.Handler.Requalify
import MiniApp.Proofs.Session.History
import MiniApp.Proofs.Session.Handover
import MiniApp.Proofs.Session.Callbacks
import MiniApp.Proofs.Json.RoundTrip
import MiniApp.Proofs.Json.NormalForm
import MiniApp.Proofs.Json.Kept
import MiniApp.Proofs.Json.Extra
import MiniApp.Proofs.Handler.BlockBody
import MiniApp.Proofs.Handler.Collapsing
import MiniApp.Proofs.Handler.Squeezing
import MiniApp.Proofs.Handler.StringDefault
import MiniApp.Proofs.Handler.StatementTexts
import MiniApp.Proofs.Template.Position
import MiniApp.Proofs.Render.NameOrder
import MiniApp.Proofs.Session.Entry
import MiniApp.Proofs.Session.TabBar
