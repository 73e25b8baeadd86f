import ChainHost.Main
import ChainHost.Session
import ChainHost.Proofs.Text.ByteOrder
import ChainHost.Proofs.Declared.Calls
import ChainHost.Proofs.Declared.Validation
import ChainHost.Proofs.Json.Numeral
import ChainHost.Proofs.Json.Values
import ChainHost.Proofs.Json.RoundTrip
import ChainHost.Proofs.Payload
import ChainHost.Proofs.Catalog.Run
import ChainHost.Proofs.Registry.Run
import ChainHost.Proofs.Registry.Creation
import ChainHost.Proofs.Nucleus.Dispatch
import ChainHost.Proofs.Storage.Disk
import ChainHost.Proofs.System
import ChainHost.Proofs.Logging.Steps
import ChainHost.Proofs.CommandLine.Answers
import ChainHost.Proofs.CommandLine.Run
import ChainHost.Proofs.CommandLine.Logging
import ChainHost.Proofs.Declared.Constants
import ChainHost.Proofs.Declared.Steps
import ChainHost.Proofs.Session.Audit
import ChainHost.Proofs.Session.Lines
import ChainHost.Proofs.Declared.WellWritten
import ChainHost.Proofs.Declared.Mistyped
import ChainHost.Proofs.Declared.Enforced
import ChainHost.Proofs.Declared.Reordered
import ChainHost.Proofs.Json.Stable
import ChainHost.Proofs.Declared.Echo
import ChainHost.Proofs.Payload.Tagged
import ChainHost.Proofs.Manifest.RoundTrip
import ChainHost.Proofs.Manifest.Load
import ChainHost.Proofs.CommandLine.Listing
import ChainHost.Proofs.Json.Compact
import ChainHost.Proofs.CommandLine.Calls
import ChainHost.Proofs.Logging.Settings
import ChainHost.Proofs.Manifest.Source
