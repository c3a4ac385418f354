import RustyModbus.Codec.RoundTrip
import RustyModbus.Frame.Agreement
import RustyModbus.Frame.CrcStrength
import RustyModbus.Frame.StrictBounds
import RustyModbus.Rtu.Invariant
import RustyModbus.Server.BitArray
import RustyModbus.Server.Defaults
import RustyModbus.Server.Linearizable
import RustyModbus.Server.Loop
import RustyModbus.Server.Revalidation
import RustyModbus.EndToEnd.Broadcast
import RustyModbus.EndToEnd.Refinement
import RustyModbus.EndToEnd.Exact
import RustyModbus.EndToEnd.Identification
import RustyModbus.Gateway.Bridge
import RustyModbus.Client.Deadlines
import RustyModbus.Client.Typed
import RustyModbus.Client.FileRecord
import RustyModbus.Deadline
import RustyModbus.Pool.Borrowers
import RustyModbus.Pool.Wakeups
import RustyModbus.Sim.Layout
