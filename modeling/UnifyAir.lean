import UnifyAir.Concurrency.System
import UnifyAir.Concurrency.Interleaving
import UnifyAir.Concurrency.Allocation
import UnifyAir.Concurrency.Admission
import UnifyAir.Concurrency.SerialQueue
import UnifyAir.Concurrency.Cell
import UnifyAir.Concurrency.Progress
import UnifyAir.Control.Raising
import UnifyAir.Control.Retry
import UnifyAir.Store.Index
import UnifyAir.Store.Keyed
import UnifyAir.Wire.Framing
import UnifyAir.Wire.Http2
import UnifyAir.Wire.Spelling
import UnifyAir.Text.Hex
import UnifyAir.Text.Json
import UnifyAir.Text.FormUrlEncoded
import UnifyAir.Counter
import UnifyAir.Convert
import UnifyAir.Denotation
import UnifyAir.Plmn
import UnifyAir.FiveGSTmsi
import UnifyAir.TokenStore.Spec
import UnifyAir.TokenStore.Steps
import UnifyAir.TokenStore.Provenance
import UnifyAir.TokenStore.Entries
import UnifyAir.TokenStore.Exclusion
import UnifyAir.TokenStore.Updates
import UnifyAir.TokenStore.Wakeups
import UnifyAir.TokenStore.Failures
import UnifyAir.TokenStore.Absence
import UnifyAir.TokenStore.Progress
import UnifyAir.Ngap.NgSetup
import UnifyAir.Ngap.Spec
import UnifyAir.Ngap.Registration
import UnifyAir.Ngap.SetupRace
import UnifyAir.Ngap.Criterion
import UnifyAir.Ngap.Response
import UnifyAir.Ngap.RoundTrips
import UnifyAir.Ngap.Retries
import UnifyAir.Manager.Spec
import UnifyAir.Manager.Steps
import UnifyAir.Manager.Calls
import UnifyAir.Manager.Serial
import UnifyAir.Manager.Delivery
import UnifyAir.Manager.Panics
import UnifyAir.Manager.Places
import UnifyAir.Manager.Rekeying
import UnifyAir.Manager.Adding
import UnifyAir.Manager.Completion
import UnifyAir.Manager.Progress
import UnifyAir.InitialUe.Spec
import UnifyAir.InitialUe.Increments
import UnifyAir.InitialUe.Winner
import UnifyAir.InitialUe.AmfIds
import UnifyAir.InitialUe.Progress
import UnifyAir.Ngap.Loop
import UnifyAir.Ngap.Answers
import UnifyAir.Ngap.Progress
import UnifyAir.Network.Spec
import UnifyAir.Network.Reconnection
import UnifyAir.Network.Tables
import UnifyAir.AppContext
import UnifyAir.Nrf.Client
import UnifyAir.Nrf.Tokens
import UnifyAir.Nrf.Audience
import UnifyAir.Nrf.Failures
import UnifyAir.OmniPath.Identity
import UnifyAir.OmniPath.Lifecycle
import UnifyAir.OmniPath.Deregistration
import UnifyAir.OmniPath.Shutdown
import UnifyAir.OmniPath.Startup
import UnifyAir.Client.Headers
import UnifyAir.Client.Requests
import UnifyAir.Nas.Registration
import UnifyAir.Nas.Acceptance
import UnifyAir.Sniffer.Spec
import UnifyAir.Sniffer.Segmentation
import UnifyAir.Sniffer.Coupling
import UnifyAir.Sniffer.Recording
import UnifyAir.Sniffer.Reassembly
import UnifyAir.Sniffer.Bodies
import UnifyAir.Sniffer.Insertion
import UnifyAir.Sniffer.Collector
import UnifyAir.Sniffer.Reports
import UnifyAir.Sniffer.Http1
import UnifyAir.Sniffer.Pairing
import UnifyAir.Sniffer.Capturer
import UnifyAir.Sniffer.Entries
import UnifyAir.Sniffer.Files
import UnifyAir.Sniffer.Watching
import UnifyAir.NgapContext.Conversation
