import HostVitals.BlockDevice.BlockSize
import HostVitals.BlockDevice.Devices
import HostVitals.BlockDevice.Row
import HostVitals.Collector
import HostVitals.Collector.Probe
import HostVitals.Collector.Schedule
import HostVitals.CollectorFault
import HostVitals.Counter
import HostVitals.Decimal.Layout
import HostVitals.Decimal.Reader
import HostVitals.Decimal.Shortest
import HostVitals.Event
import HostVitals.FileTree
import HostVitals.Filter
import HostVitals.Host
import HostVitals.Http.Answer
import HostVitals.Http.Message
import HostVitals.Http.Route
import HostVitals.Http.Target
import HostVitals.IoFault
import HostVitals.Json
import HostVitals.LoadAverage
import HostVitals.Logged
import HostVitals.Memory
import HostVitals.Meter.Average
import HostVitals.Meter.Basic
import HostVitals.Metric
import HostVitals.Monitor.Basic
import HostVitals.Monitor.Instruments
import HostVitals.NameMap
import HostVitals.Network.Devices
import HostVitals.Network.Interface
import HostVitals.Network.Row
import HostVitals.PollLoop
import HostVitals.Service
import HostVitals.Settings.Basic
import HostVitals.Settings.Decode
import HostVitals.Station
import HostVitals.Storage
import HostVitals.Text.Blank
import HostVitals.Text.CaseIgnorable
import HostVitals.Text.Cased
import HostVitals.Text.CodePointSet
import HostVitals.Text.GraphemeExtend
import HostVitals.Text.LowerCase
import HostVitals.Text.Numeral
import HostVitals.Text.Path
import HostVitals.Text.Percent
import HostVitals.Text.Quoted
import HostVitals.Text.Unprintable
import HostVitals.Toml.Document
import HostVitals.Toml.Token
import HostVitals.Toml.Value
import HostVitals.Proofs.Collector.Run
import HostVitals.Proofs.Counter.Gain
import HostVitals.Proofs.Network.Rows
import HostVitals.Proofs.Network.Accounting
import HostVitals.Proofs.BlockDevice.Accounting
import HostVitals.Proofs.Meter.Eager
import HostVitals.Proofs.Monitor.Merge
import HostVitals.Proofs.LoadAverage.Throttle
import HostVitals.Proofs.Meter.Idle
import HostVitals.Proofs.Collector.Failure
import HostVitals.Proofs.FileTree.Apart
import HostVitals.Proofs.Monitor.Frame
import HostVitals.Proofs.Monitor.Isolation
import HostVitals.Proofs.Memory.Latest
import HostVitals.Proofs.PollLoop.Grid
import HostVitals.Proofs.Station.Live
import HostVitals.Proofs.Monitor.Flatten
import HostVitals.Proofs.Meter.Clock
import HostVitals.Proofs.Monitor.Life
import HostVitals.Proofs.Text.Spread
import HostVitals.Proofs.Network.Printed
import HostVitals.Proofs.Station.Looks
import HostVitals.Proofs.Json.Quoting
import HostVitals.Proofs.Http.Endpoints
import HostVitals.Proofs.BlockDevice.Rows
import HostVitals.Proofs.Collector.Locality
import HostVitals.Proofs.Network.Exposure
import HostVitals.Proofs.Network.Tolerance
import HostVitals.Proofs.Network.Verdict
import HostVitals.Proofs.Memory.Table
import HostVitals.Proofs.BlockDevice.Parent
import HostVitals.Proofs.Meter.Window
import HostVitals.Proofs.LoadAverage.Fields
import HostVitals.Proofs.Settings.Checked
import HostVitals.Proofs.Http.Reads
