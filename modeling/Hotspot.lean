import Hotspot.AccessPoint.Environment
import Hotspot.AccessPoint.Service
import Hotspot.Interchange.AccessPoint
import Hotspot.Interchange.Log
import Hotspot.Json.Reader
import Hotspot.Json.Writer
import Hotspot.Log.Retention
import Hotspot.Log.Router
import Hotspot.Proofs.AccessPoint.ClearedOnAir
import Hotspot.Proofs.AccessPoint.ClearedUnbarred
import Hotspot.Proofs.AccessPoint.NextTuning
import Hotspot.Proofs.AccessPoint.UnbarredOnAir
import Hotspot.Proofs.AccessPoint.OwnStep
import Hotspot.Proofs.AccessPoint.RadarProgress
import Hotspot.Proofs.AccessPoint.OperationProgress
import Hotspot.Proofs.AccessPoint.StopRequest
import Hotspot.Proofs.AccessPoint.Occupancy
import Hotspot.Proofs.AccessPoint.Activation
import Hotspot.Proofs.AccessPoint.SendCommand
import Hotspot.Proofs.AccessPoint.StartReplies
import Hotspot.Proofs.AccessPoint.Commission
import Hotspot.Proofs.AccessPoint.Shape
import Hotspot.Proofs.AccessPoint.Evacuation
import Hotspot.Proofs.AccessPoint.PermittedSending
import Hotspot.Proofs.AccessPoint.ListEvolution
import Hotspot.Proofs.AccessPoint.MoveTargets
import Hotspot.Proofs.AccessPoint.StartFailure
import Hotspot.Proofs.AccessPoint.AwaitedRun
import Hotspot.Proofs.AccessPoint.JournalWrites
import Hotspot.Proofs.AccessPoint.Expiry
import Hotspot.Proofs.AccessPoint.RadarOrder
import Hotspot.Proofs.AccessPoint.ControlSession
import Hotspot.Proofs.AccessPoint.Agreement
import Hotspot.Proofs.AccessPoint.QueueBound
import Hotspot.Proofs.AccessPoint.Frame
import Hotspot.Proofs.AccessPoint.ListeningCues
import Hotspot.Proofs.AccessPoint.ListeningNotices
import Hotspot.Proofs.AccessPoint.OperationCues
import Hotspot.Proofs.AccessPoint.Refusal
import Hotspot.Proofs.AccessPoint.ScannedChannels
import Hotspot.Proofs.AccessPoint.AcceptedSettings
import Hotspot.Proofs.AccessPoint.RadarPreference
import Hotspot.Proofs.AccessPoint.FixedChannel
import Hotspot.Proofs.AccessPoint.Exclusion
import Hotspot.Proofs.AccessPoint.Roster
import Hotspot.Proofs.HardwareAddress
import Hotspot.Proofs.Security.Protection
import Hotspot.Proofs.Spectrum.Absences
import Hotspot.Proofs.Spectrum.Handover
import Hotspot.Proofs.Spectrum.ChoiceMonotone
import Hotspot.Proofs.Security.Preference
import Hotspot.Proofs.Security.Agreement
import Hotspot.Proofs.Network.Loosening
import Hotspot.Proofs.Security.Advertisement
import Hotspot.Proofs.Network.Device
import Hotspot.Proofs.Element.Field
import Hotspot.Proofs.Element.Security
import Hotspot.Proofs.Element.Walk
import Hotspot.Proofs.Security.Gathering
import Hotspot.Proofs.Security.Nesting
import Hotspot.Proofs.Element.Truncation
import Hotspot.Proofs.Log.Retention
import Hotspot.Proofs.Json.Record
import Hotspot.Proofs.Log.Settings
import Hotspot.Proofs.Log.Layers
import Hotspot.Proofs.Log.Routing
