import EventPipeline.Click.SettingsFile
import EventPipeline.Desktop.Stage
import EventPipeline.Session
import EventPipeline.Proofs.Click.Reference
import EventPipeline.Proofs.Click.Succession
import EventPipeline.Proofs.Click.Displacement
import EventPipeline.Proofs.Click.SettingsText
import EventPipeline.Proofs.Click.WholeNumbers
import EventPipeline.Proofs.Queue.Ledger
import EventPipeline.Proofs.Queue.Stream
import EventPipeline.Proofs.Queue.Flush
import EventPipeline.Proofs.Queue.TwoCalls
import EventPipeline.Proofs.Android.Clock
import EventPipeline.Proofs.Android.Account
import EventPipeline.Proofs.Android.Timely
import EventPipeline.Proofs.Android.Stage
import EventPipeline.Proofs.Desktop.Reports
import EventPipeline.Proofs.Desktop.Gestures
import EventPipeline.Proofs.Keysym.RoundTrip
import EventPipeline.Proofs.Keysym.Scan
import EventPipeline.Proofs.Keysym.Survivors
import EventPipeline.Proofs.Keysym.Characters
import EventPipeline.Proofs.Keysym.Scalars
import EventPipeline.Proofs.Handler.Schedule
import EventPipeline.Proofs.Handler.Chronicle
import EventPipeline.Proofs.Device.Refinement
import EventPipeline.Proofs.Device.Core
import EventPipeline.Proofs.Event.Families
import EventPipeline.Proofs.Log.Truth
