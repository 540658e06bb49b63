import RdpPortscan.Core
import RdpPortscan.Tpkt
import RdpPortscan.TpktStream
import RdpPortscan.X224
import RdpPortscan.X224Session
import RdpPortscan.ConnectRace
import RdpPortscan.SecInfo
import RdpPortscan.SecLicence
import RdpPortscan.LengthFields
import RdpPortscan.Scan
