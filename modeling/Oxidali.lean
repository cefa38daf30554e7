import Oxidali.Api.Confirmations
import Oxidali.Banks.LuminaireWrite
import Oxidali.Codec.LostTick
import Oxidali.Executor.Assigned103
import Oxidali.Executor.CommissioningCalls
import Oxidali.Executor.RandomSearch
import Oxidali.Fanout.Coalescer
import Oxidali.Hcl.StandDown
import Oxidali.Lamps.RoundTrip
import Oxidali.Mqtt.Discovery
import Oxidali.Operations.Settled
import Oxidali.Operations.Verdicts
import Oxidali.Phy.Driver
import Oxidali.Phy.Listening
import Oxidali.Phy.SpscRing
import Oxidali.Phy.Window
import Oxidali.Redundancy.Liveness
import Oxidali.Redundancy.Replication
import Oxidali.Redundancy.RoleCommands
import Oxidali.Registry.ConfigWrites
import Oxidali.Registry.Convergence
import Oxidali.Registry.MemoryBanks
import Oxidali.Registry.StampedFacts
import Oxidali.Rules.Chains
import Oxidali.Rules.CutWrites
import Oxidali.Rules.Deadline
import Oxidali.Rules.Disabling
import Oxidali.Rules.DryRun
import Oxidali.Rules.EnableTable
import Oxidali.Rules.Interpret
import Oxidali.Rules.WallClock
import Oxidali.Storage.Overtaken
