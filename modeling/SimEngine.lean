import SimEngine.Python
import SimEngine.Asset.State
import SimEngine.Asset.Asset
import SimEngine.Asset.Voltage
import SimEngine.Asset.Accounting
import SimEngine.Asset.Events
import SimEngine.Storcli.Threshold
import SimEngine.Storcli.Table
import SimEngine.Storcli.Dispatch
import SimEngine.Storcli.Server
import SimEngine.Storcli.Drives
import SimEngine.Storcli.Emulator
import SimEngine.Storcli.Service
