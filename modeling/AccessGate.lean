import AccessGate.Gateway
import AccessGate.Host
import AccessGate.Json.Model
import AccessGate.Json.Printer
import AccessGate.Json.Reader
import AccessGate.Json.Settings
import AccessGate.Main
import AccessGate.Manager.Probe
import AccessGate.Manager.Static
import AccessGate.Proofs.ActionSpelling
import AccessGate.Proofs.Bulk
import AccessGate.Proofs.CheckCommand
import AccessGate.Proofs.Coverage
import AccessGate.Proofs.DagFilter
import AccessGate.Proofs.Dominance
import AccessGate.Proofs.FirstDenial
import AccessGate.Proofs.FirstLook
import AccessGate.Proofs.Forwarding
import AccessGate.Proofs.GrantLine
import AccessGate.Proofs.Growth
import AccessGate.Proofs.HookRuns
import AccessGate.Proofs.Isolation
import AccessGate.Proofs.Listing
import AccessGate.Proofs.MenuFilter
import AccessGate.Proofs.Nobody
import AccessGate.Proofs.Permission
import AccessGate.Proofs.PluginStart
import AccessGate.Proofs.Presentation
import AccessGate.Proofs.Rearrangement
import AccessGate.Proofs.Selection
import AccessGate.Proofs.Session
import AccessGate.Proofs.SignedIn
import AccessGate.Proofs.StartQueue
import AccessGate.Proofs.Wiring
import AccessGate.Settings.Load
import AccessGate.Settings.Reading
import AccessGate.StaticPlugin
import AccessGate.Yaml.Reader
