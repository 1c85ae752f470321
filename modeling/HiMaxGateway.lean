import HiMaxGateway.Lib.CText
import HiMaxGateway.Lib.Numeral
import HiMaxGateway.Lib.Truncate
import HiMaxGateway.Lib.Search
import HiMaxGateway.Lib.Fault
import HiMaxGateway.Lib.CBuffer
import HiMaxGateway.Lib.FirstHit
import HiMaxGateway.Lib.Registers
import HiMaxGateway.Lib.LittleEndian
import HiMaxGateway.Lib.Walk
import HiMaxGateway.Lib.Loop
import HiMaxGateway.Lib.Chain
import HiMaxGateway.Lib.Run
import HiMaxGateway.Lib.Sharing
import HiMaxGateway.Lib.Crc
import HiMaxGateway.Lib.Hysteresis
import HiMaxGateway.Device
import HiMaxGateway.Point
import HiMaxGateway.Config
import HiMaxGateway.ConfigProofs
import HiMaxGateway.Unbind
import HiMaxGateway.UnbindProofs
import HiMaxGateway.Knx.Address
import HiMaxGateway.Knx.Packet
import HiMaxGateway.Knx.BusMonitor
import HiMaxGateway.Knx.Debounce
import HiMaxGateway.Knx.DebounceProofs
import HiMaxGateway.Knx.PacketProofs
import HiMaxGateway.Knx.PacketSafety
import HiMaxGateway.Knx.PacketRoundTrip
import HiMaxGateway.Knx.Report
import HiMaxGateway.Knx.ReportProofs
import HiMaxGateway.Knx.Control
import HiMaxGateway.Knx.ControlProofs
import HiMaxGateway.Knx.ClimateControl
import HiMaxGateway.Knx.CurtainControl
import HiMaxGateway.Knx.DimmerProofs
import HiMaxGateway.Command
import HiMaxGateway.Plugin.Frame
import HiMaxGateway.Plugin.Checksum
import HiMaxGateway.Plugin.Locate
import HiMaxGateway.Plugin.Memmatch
import HiMaxGateway.Plugin.CurtainEcho
import HiMaxGateway.Plugin.BinThen
import HiMaxGateway.Plugin.VentBroan
import HiMaxGateway.Plugin.AcdDaikin
import HiMaxGateway.Plugin.DaikinEcho
import HiMaxGateway.Plugin.AcdTg
import HiMaxGateway.Plugin.TgRegister
import HiMaxGateway.Plugin.Isolation
import HiMaxGateway.Plugin.AcdZhongHong
import HiMaxGateway.Plugin.ZhongHongProofs
import HiMaxGateway.Plugin.Curtain
import HiMaxGateway.Plugin.Heat
import HiMaxGateway.Plugin.Room
import HiMaxGateway.Plugin.Vent
import HiMaxGateway.Plugin.ParseBounds
import HiMaxGateway.Plugin.PurifierFrames
import HiMaxGateway.Plugin.ErdhStatus
import HiMaxGateway.Plugin.HeatEcho
import HiMaxGateway.Plugin.DTouchRegisters
import HiMaxGateway.Plugin.KnxTemp
import HiMaxGateway.Plugin.KnxPanel
import HiMaxGateway.Modbus.Lookup
import HiMaxGateway.Associate
import HiMaxGateway.AssociateProofs
import HiMaxGateway.Modbus.Group
import HiMaxGateway.Modbus.GroupProofs
import HiMaxGateway.Modbus.Serial
import HiMaxGateway.Modbus.SerialState
import HiMaxGateway.Modbus.SerialProofs
import HiMaxGateway.Modbus.Write
import HiMaxGateway.Modbus.Ports
import HiMaxGateway.Modbus.Unsupported
import HiMaxGateway.Modbus.WriteProofs
import HiMaxGateway.Modbus.Confirm
import HiMaxGateway.Modbus.Receive
import HiMaxGateway.Modbus.Monitor
import HiMaxGateway.Modbus.MonitorProofs
import HiMaxGateway.Modbus.MonitorLoop
import HiMaxGateway.Modbus.Points
import HiMaxGateway.Knx.AddressProofs
import HiMaxGateway.UnbindAll
import HiMaxGateway.Modbus.Forward
import HiMaxGateway.Lib.Append
import HiMaxGateway.Modbus.GroupLinks
import HiMaxGateway.Knx.SmartPanel
import HiMaxGateway.Lib.Turns
import HiMaxGateway.Xml.Node
import HiMaxGateway.Xml.GroupCfg
import HiMaxGateway.Modbus.GroupSearch
import HiMaxGateway.Xml.Branch
import HiMaxGateway.Xml.Cells
import HiMaxGateway.Xml.Mbus
import HiMaxGateway.Xml.Progress
import HiMaxGateway.Xml.CellKeys
import HiMaxGateway.Xml.Template
import HiMaxGateway.Xml.PointCopies
import HiMaxGateway.Xml.PointOrder
import HiMaxGateway.Xml.Channels
import HiMaxGateway.Xml.Memory
import HiMaxGateway.DiScan
import HiMaxGateway.DiScanProofs
import HiMaxGateway.License
import HiMaxGateway.Lib.Cells
import HiMaxGateway.Lib.DoublyLinked
import HiMaxGateway.Adlist
import HiMaxGateway.AdlistProofs
import HiMaxGateway.AdlistWalks
import HiMaxGateway.AdlistRuns
import HiMaxGateway.Lib.SinglyLinked
import HiMaxGateway.Queue
import HiMaxGateway.QueueProofs
import HiMaxGateway.QueueRuns
import HiMaxGateway.Lib.Waiters
import HiMaxGateway.QueueThreads
import HiMaxGateway.QueueTurns
import HiMaxGateway.QueueOrder
import HiMaxGateway.QueueSleepers
import HiMaxGateway.Thpool
import HiMaxGateway.ThpoolJobs
import HiMaxGateway.ThpoolWaits
import HiMaxGateway.Lib.Passes
import HiMaxGateway.Knx.DevMonitor
import HiMaxGateway.GatewayJobs
import HiMaxGateway.Knx.Heartbeat
import HiMaxGateway.Knx.HeartbeatAnswers
import HiMaxGateway.Knx.Pipeline
import HiMaxGateway.Knx.PipelineOrder
