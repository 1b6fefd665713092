import DebugRelay.Dispatch.Rules
import DebugRelay.Json.Printer
import DebugRelay.Json.Reader
import DebugRelay.Logger
import DebugRelay.Proofs.Relay.Consumers
import DebugRelay.Proofs.Relay.Overtaking
import DebugRelay.Proofs.Relay.Suspension
import DebugRelay.Settings.Check
import DebugRelay.Settings.File
import DebugRelay.Version
import DebugRelay.Wire.Session
import DebugRelay.Proofs.Registry.Histories
import DebugRelay.Proofs.Registry.Walks
import DebugRelay.Proofs.Registry.Sharing
import DebugRelay.Proofs.Relay.Additions
import DebugRelay.Proofs.Tracer.Counting
import DebugRelay.Proofs.Relay.Tallies
import DebugRelay.Proofs.Relay.Effects
import DebugRelay.Proofs.Relay.Dispatching
import DebugRelay.Proofs.Relay.Installing
import DebugRelay.Proofs.Relay.Releasing
import DebugRelay.Proofs.Session.Histories
import DebugRelay.Proofs.Session.Stranding
import DebugRelay.Proofs.Session.Reinstalling
import DebugRelay.Proofs.Session.Watches
import DebugRelay.Proofs.Session.Requests
import DebugRelay.Proofs.Session.Ending
import DebugRelay.Proofs.Tracer.Quitting
import DebugRelay.Proofs.Wire.RoundTrip
import DebugRelay.Proofs.Settings
import DebugRelay.Proofs.Opacity.Runs
import DebugRelay.Proofs.Relay.Exactness
import DebugRelay.Proofs.Tracer.Ignoring
import DebugRelay.Proofs.Tracer.Stepping
import DebugRelay.Proofs.Tracer.Resuming
import DebugRelay.Proofs.Registry.Putting
import DebugRelay.Proofs.Target.Frames
import DebugRelay.Proofs.Relay.Notices
import DebugRelay.Proofs.Tracer.Loading
import DebugRelay.Proofs.Relay.Removals
import DebugRelay.Proofs.Relay.Setups
import DebugRelay.Proofs.Link.Turns
import DebugRelay.Proofs.Link.LifeCycle
import DebugRelay.Proofs.Link.Failing
import DebugRelay.Proofs.SourceFile.Relocating
import DebugRelay.Proofs.Link.Stops
import DebugRelay.Proofs.Link.Refusals
import DebugRelay.Proofs.Relay.Unlocated
import DebugRelay.Proofs.SourceFile.Spelling
import DebugRelay.Proofs.Relay.Filling
import DebugRelay.Proofs.Session.Launching
import DebugRelay.Proofs.Tracer.Overrunning
import DebugRelay.Proofs.Relay.Delivery
import DebugRelay.Proofs.Relay.Listening
