import Gatehouse.Ambient.Machine
import Gatehouse.Content.Samples
import Gatehouse.Http.Schedule
import Gatehouse.Inbound.Readiness
import Gatehouse.Inbound.Stub
import Gatehouse.Log.Capture
import Gatehouse.Log.Setup
import Gatehouse.Log.Subscriber
import Gatehouse.Settings.Dotenv
import Gatehouse.Settings.Gateway
import Gatehouse.Wire.Transport
import Gatehouse.Proofs.Http.Attempts
import Gatehouse.Proofs.Http.Conclusion
import Gatehouse.Proofs.Http.Isolation
import Gatehouse.Proofs.Calendar.Civil
import Gatehouse.Proofs.Calendar.DateText
import Gatehouse.Proofs.Log.FileNames
import Gatehouse.Proofs.Log.Folder
import Gatehouse.Proofs.Ambient.Promise
import Gatehouse.Proofs.Ambient.Rounds
import Gatehouse.Proofs.Inbound.Chain
import Gatehouse.Proofs.Json.Values
import Gatehouse.Proofs.Log.LineStream
import Gatehouse.Proofs.Log.Noninterference
import Gatehouse.Proofs.Log.RollingRun
import Gatehouse.Proofs.Log.SinkFiles
import Gatehouse.Proofs.Log.Handles
import Gatehouse.Proofs.Settings.Loading
import Gatehouse.Proofs.Log.Separation
import Gatehouse.Proofs.Log.Streams
import Gatehouse.Proofs.Http.CallLog
import Gatehouse.Proofs.Http.Discretion
import Gatehouse.Proofs.Http.ErrorClasses
import Gatehouse.Proofs.Log.Places
import Gatehouse.Proofs.Log.Retention
import Gatehouse.Proofs.Log.RollForward
import Gatehouse.Proofs.Http.Backoff
import Gatehouse.Proofs.Http.RequestHeaders
import Gatehouse.Proofs.Http.ResponseHeaders
import Gatehouse.Proofs.Http.JsonBodies
import Gatehouse.Proofs.Log.PrettyStream
import Gatehouse.Proofs.Log.Restarts
import Gatehouse.Proofs.Http.Bodies
import Gatehouse.Proofs.Log.Marking
import Gatehouse.Proofs.Settings.BaseAddress
import Gatehouse.Proofs.Settings.Spelling
import Gatehouse.Proofs.Wire.Received
import Gatehouse.Proofs.Log.Sensitivity
import Gatehouse.Proofs.Log.FilePaths
import Gatehouse.Proofs.Inbound.Readiness
