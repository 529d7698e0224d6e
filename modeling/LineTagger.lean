import LineTagger.Main
import LineTagger.Proofs.RoundTrip
import LineTagger.Proofs.Framing
import LineTagger.Proofs.Annotation.Grammar
import LineTagger.Proofs.Annotation.LongestMatch
import LineTagger.Proofs.Annotation.OneLine
import LineTagger.Proofs.Annotation.Runs
import LineTagger.Proofs.Annotation.VisibleText
import LineTagger.Proofs.Annotation.Respacing
import LineTagger.Proofs.Application.Startup
import LineTagger.Proofs.Client.Containment
import LineTagger.Proofs.Session.Containment
import LineTagger.Proofs.Reception.Ownership
import LineTagger.Proofs.Reception.Perseverance
import LineTagger.Proofs.Reception.Lifecycle
import LineTagger.Proofs.Server.Isolation
import LineTagger.Proofs.Server.Places
import LineTagger.Proofs.Annotation.SlashTags
import LineTagger.Proofs.Annotation.Content
import LineTagger.Proofs.Annotation.WellFormed
import LineTagger.Proofs.Listener.Atomicity
import LineTagger.Proofs.Json.Grammar
import LineTagger.Proofs.Json.Strings
import LineTagger.Proofs.Json.Numbers
import LineTagger.Proofs.Json.Reading
import LineTagger.Proofs.Loading
import LineTagger.Proofs.Settings.Fields
import LineTagger.Proofs.Settings.Overrides
import LineTagger.Proofs.CommandLine.Given
import LineTagger.Proofs.Client.Conversation
import LineTagger.Proofs.Session.Alarms
import LineTagger.Proofs.Settings.Range
import LineTagger.Proofs.Annotation.Joining
import LineTagger.Proofs.Requests
import LineTagger.Proofs.Annotation.Folding
