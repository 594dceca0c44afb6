import FlyingSquirrel.Proof.AidingFloor
import FlyingSquirrel.Proof.BlendGain
import FlyingSquirrel.Proof.ClockSafety
import FlyingSquirrel.Proof.Coast
import FlyingSquirrel.Proof.Dashboard
import FlyingSquirrel.Proof.DumpFile
import FlyingSquirrel.Proof.EchoCount
import FlyingSquirrel.Proof.Freeze
import FlyingSquirrel.Proof.GateSize
import FlyingSquirrel.Proof.ImuDriver
import FlyingSquirrel.Proof.Interpolate
import FlyingSquirrel.Proof.LinkGrace
import FlyingSquirrel.Proof.LockClaim
import FlyingSquirrel.Proof.Longitude
import FlyingSquirrel.Proof.OneDump
import FlyingSquirrel.Proof.Parked
import FlyingSquirrel.Proof.Persistence
import FlyingSquirrel.Proof.PrintConfig
import FlyingSquirrel.Proof.Quality
import FlyingSquirrel.Proof.Ramp
import FlyingSquirrel.Proof.ReadLadder
import FlyingSquirrel.Proof.ResetTrace
import FlyingSquirrel.Proof.SuffixSums
import FlyingSquirrel.Proof.Supervision
import FlyingSquirrel.Proof.TaskMachine
import FlyingSquirrel.Proof.Freshness
