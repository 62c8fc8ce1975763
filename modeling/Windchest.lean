import Windchest.Main
import Windchest.Proofs.Arena.Sharing
import Windchest.Proofs.Codec.Framing
import Windchest.Proofs.Crew.Updates
import Windchest.Proofs.Load.CacheFile
import Windchest.Proofs.Load.Corruption
import Windchest.Proofs.Load.Distributor
import Windchest.Proofs.Load.Memory
import Windchest.Proofs.Load.Prefix
import Windchest.Proofs.Load.RoundTrip
import Windchest.Proofs.Load.Schedule
import Windchest.Proofs.Object.Definition
import Windchest.Proofs.Organ.Session
import Windchest.Proofs.Section.Geometry
import Windchest.Proofs.Section.RoundTrip
import Windchest.Proofs.Object.Atomicity
import Windchest.Proofs.Section.Outgrown
import Windchest.Proofs.Files.Writable
import Windchest.Proofs.Load.Writing
import Windchest.Proofs.Crew.Alone
import Windchest.Proofs.Load.Sequence
import Windchest.Proofs.Arena.Handles
import Windchest.Proofs.Arena.Forfeits
import Windchest.Proofs.Section.Contents
import Windchest.Proofs.Object.Waves
import Windchest.Proofs.Digest.Inputs
import Windchest.Proofs.Section.Alignment
import Windchest.Proofs.Object.Reloads
import Windchest.Proofs.Load.Probe
import Windchest.Proofs.Codec.Fields
import Windchest.Proofs.Object.Thrift
import Windchest.Proofs.Audio.WaveFiles
import Windchest.Proofs.Command.Refresh
