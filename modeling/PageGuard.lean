import PageGuard.Browser.ContentScript
import PageGuard.Command.Program
import PageGuard.Main
import PageGuard.Navigation.Engine
import PageGuard.Page.Memory
import PageGuard.Rules.Load
import PageGuard.Selector.Evaluation
import PageGuard.Threat.MemoryHost
import PageGuard.XPath.Writer
import PageGuard.Proofs.Json.SortedMembers
import PageGuard.Proofs.Json.Layout
import PageGuard.Proofs.Rules.Reload
import PageGuard.Proofs.Rules.Compiling
import PageGuard.Proofs.Rules.Decompile
import PageGuard.Proofs.Rules.Grouping
import PageGuard.Proofs.Selector.Reading
import PageGuard.Proofs.Page.Places
import PageGuard.Proofs.Page.Probes
import PageGuard.Proofs.Selector.Visits
import PageGuard.Proofs.Selector.Narrowing
import PageGuard.Proofs.Selector.Frames
import PageGuard.Proofs.Css.Appended
import PageGuard.Proofs.Selector.Negation
import PageGuard.Proofs.Text.Hosts
import PageGuard.Proofs.Navigation.Candidates
import PageGuard.Proofs.Threat.ForeignDomain
import PageGuard.Proofs.Navigation.OrdinaryRules
import PageGuard.Proofs.Navigation.Collecting
import PageGuard.Proofs.Threat.Watched
import PageGuard.Proofs.Threat.Traces
import PageGuard.Proofs.Navigation.Separation
import PageGuard.Proofs.Text.LetterCase
import PageGuard.Proofs.Threat.MemoryScan
import PageGuard.Proofs.Command.Whitelist
import PageGuard.Proofs.Browser.Scanning
import PageGuard.Proofs.Markup.Removal
import PageGuard.Proofs.XPath.Subnodes
import PageGuard.Proofs.Page.Lookups
import PageGuard.Proofs.Selector.Gaps
import PageGuard.Proofs.Selector.Tiling
import PageGuard.Proofs.Browser.Queue
import PageGuard.Proofs.Browser.Sessions
import PageGuard.Proofs.Navigation.Totals
import PageGuard.Proofs.Navigation.History
import PageGuard.Proofs.Selector.Rendering
import PageGuard.Proofs.Json.ReadValues
import PageGuard.Proofs.Rules.Persistence
import PageGuard.Proofs.Page.StyleFilters
import PageGuard.Proofs.XPath.Evaluation
import PageGuard.Proofs.XPath.Rendering
import PageGuard.Proofs.Navigation.Hiding
import PageGuard.Proofs.Page.PlainStages
import PageGuard.Proofs.Selector.Acting
import PageGuard.Proofs.Selector.Arguments
import PageGuard.Proofs.Selector.Shape
import PageGuard.Proofs.Text.Bytes
import PageGuard.Proofs.Selector.ByteReader
import PageGuard.Proofs.Selector.ByteSafety
import PageGuard.Proofs.Text.HostForms
import PageGuard.Proofs.Text.HostPosition
import PageGuard.Proofs.Threat.Independence
import PageGuard.Proofs.Threat.AggressiveMode
import PageGuard.Proofs.Rules.Separators
import PageGuard.Proofs.Rules.Counting
import PageGuard.Proofs.Text.CaseFolding
import PageGuard.Proofs.Pattern.Literals
import PageGuard.Proofs.Selector.TextFilters
import PageGuard.Proofs.Navigation.Queues
import PageGuard.Proofs.Navigation.Messages
import PageGuard.Proofs.Navigation.Skipping
import PageGuard.Proofs.Command.Validation
import PageGuard.Proofs.Browser.Pages
import PageGuard.Proofs.Browser.Releases
