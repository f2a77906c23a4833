import StepEngine.Engine.Setup
import StepEngine.EnvFile
import StepEngine.Schema.Compatibility
import StepEngine.Proofs.Run
import StepEngine.Proofs.Dispatch
import StepEngine.Proofs.DispatchOrder
import StepEngine.Proofs.RequestView
import StepEngine.Proofs.Recorder
import StepEngine.Proofs.Setup
import StepEngine.Proofs.Gating
import StepEngine.Proofs.FunctionId
import StepEngine.Proofs.Registration
import StepEngine.Proofs.Schedule
import StepEngine.Proofs.Shadow
import StepEngine.Proofs.Routing
import StepEngine.Proofs.Baggage
import StepEngine.Proofs.Propagation
import StepEngine.Proofs.Calls
import StepEngine.Proofs.Members
import StepEngine.Proofs.Relay
import StepEngine.Proofs.StatusKeys
import StepEngine.Proofs.ConfigCodec
import StepEngine.Proofs.Metadata
import StepEngine.Proofs.Atomicity
import StepEngine.Proofs.Integrity
import StepEngine.Proofs.Sources
import StepEngine.Proofs.Usable
import StepEngine.Proofs.Routes
import StepEngine.Proofs.Onion
import StepEngine.Proofs.Validity
import StepEngine.Proofs.Spelling
import StepEngine.Proofs.OlderSpellings
import StepEngine.Proofs.Spans
import StepEngine.Proofs.Rounding
import StepEngine.Proofs.Multiples
import StepEngine.Proofs.Headers
import StepEngine.Proofs.Traceparent
import StepEngine.Proofs.InnerSchemas
import StepEngine.Proofs.SharedTopic
import StepEngine.Proofs.KindRouting
import StepEngine.Proofs.PayloadCodec
import StepEngine.Proofs.Redelivery
import StepEngine.Proofs.Envelope
import StepEngine.Proofs.RecorderLog
import StepEngine.Proofs.StepContent
import StepEngine.Proofs.Clearing
