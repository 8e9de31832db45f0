import OgEvm.AuthzLimiter
import OgEvm.BlockHash
import OgEvm.CallbackAtomic
import OgEvm.CodeRuns
import OgEvm.DirtyJournal
import OgEvm.Eip712Binding
import OgEvm.Erc20GenesisRoundTrip
import OgEvm.EscrowRuns
import OgEvm.FeesCharged
import OgEvm.GasAccounting
import OgEvm.GasEstimate
import OgEvm.MempoolRemoval
import OgEvm.MinGasPrice
import OgEvm.NestedCoherence
import OgEvm.OriginalSlots
import OgEvm.PrecisebankGenesis
import OgEvm.PrecompileEvents
import OgEvm.PrecompileGas
import OgEvm.PrecompileLimit
import OgEvm.SelfDestructRemoval
import OgEvm.SendReplay
import OgEvm.SnapshotBranch
import OgEvm.StreamFollowers
import OgEvm.SvipClock
import OgEvm.TeeAttestation
import OgEvm.TeeInference
import OgEvm.Werc20
import OgEvm.ZeroSlots
