import GoProvision.Net.IP
import GoProvision.Types
import GoProvision.AgentLog
import GoProvision.DeviceNetwork.AddrCache
import GoProvision.DeviceNetwork.Status
import GoProvision.DeviceNetwork.AddrChange
import GoProvision.Nim.Loop
import GoProvision.Subscribers
import GoProvision.WSTunnelClient
import GoProvision.Client
import GoProvision.IPTables
import GoProvision.Zedrouter.IfindexToName
import GoProvision.Zedrouter.PbrRoute
import GoProvision.Zedrouter.PbrRule
import GoProvision.LedBlink
import GoProvision.Diag
