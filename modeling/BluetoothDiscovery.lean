import BluetoothDiscovery.Automation
import BluetoothDiscovery.Main
import BluetoothDiscovery.Program.Run
import BluetoothDiscovery.Proofs.Address
import BluetoothDiscovery.Proofs.Address.Forms
import BluetoothDiscovery.Proofs.Advertisement.Framing
import BluetoothDiscovery.Proofs.Advertisement.Meaning
import BluetoothDiscovery.Proofs.Advertisement.Widths
import BluetoothDiscovery.Proofs.Announcements.Adverts
import BluetoothDiscovery.Proofs.Announcements.ChangeSets
import BluetoothDiscovery.Proofs.Announcements.Discoveries
import BluetoothDiscovery.Proofs.Announcements.News
import BluetoothDiscovery.Proofs.Codec.RoundTrip
import BluetoothDiscovery.Proofs.Coordinator.Isolation
import BluetoothDiscovery.Proofs.Observations.Frame
import BluetoothDiscovery.Proofs.Records.Absorbing
import BluetoothDiscovery.Proofs.Records.Exactness
import BluetoothDiscovery.Proofs.Records.Merging
import BluetoothDiscovery.Proofs.Records.OrderedMap
import BluetoothDiscovery.Proofs.Records.StoreHistory
import BluetoothDiscovery.Proofs.Schedule.Completion
import BluetoothDiscovery.Proofs.Schedule.Degraded
import BluetoothDiscovery.Proofs.Schedule.Outcomes
import BluetoothDiscovery.Proofs.Settings.Saving
import BluetoothDiscovery.Proofs.Simulation.ClassicReplay
import BluetoothDiscovery.Proofs.Simulation.Leftovers
import BluetoothDiscovery.Proofs.Simulation.Requests
import BluetoothDiscovery.Proofs.Simulation.TimedReplay
import BluetoothDiscovery.Proofs.Simulation.Watching
import BluetoothDiscovery.Simulation.Direct
