import MetricCollector.Analyzer.Degradation
import MetricCollector.Gpumetric
import MetricCollector.Gpumpsmetric.Mapping
import MetricCollector.Gpumpsmetric.PodPoint
import MetricCollector.Gpumpsmetric.Coverage
import MetricCollector.Gpumpsmetric.Retry
import MetricCollector.Gpumpsmetric.Extraction
import MetricCollector.Gpumpsmetric.Agreement
import MetricCollector.Gpumpsmetric.Table
import MetricCollector.Gpumpsmetric.Usage
import MetricCollector.GoLib.Schedule
import MetricCollector.Server
import MetricCollector.Decode
import MetricCollector.Decode.Sections
import MetricCollector.Decode.Totality
import MetricCollector.Decode.Points
import MetricCollector.Decode.ScrapeTime
import MetricCollector.Resource.Rounding
import MetricCollector.Decode.Readback
import MetricCollector.CustomMetrics
import MetricCollector.GoLib.Channel
import MetricCollector.KubeletClient
import MetricCollector.Scrap
import MetricCollector.Scrap.Delivery
import MetricCollector.Scrap.Failures
import MetricCollector.Nvlink
import MetricCollector.Nvlink.Pairs
import MetricCollector.GoLib.Enroll
import MetricCollector.Gpumpsmetric.Books
import MetricCollector.Gpumpsmetric.Balance
import MetricCollector.Gpumpsmetric.Liveness
import MetricCollector.GoLib.Cascade
import MetricCollector.Analyzer.Readings
import MetricCollector.Analyzer.Divisors
import MetricCollector.Analyzer.Masking
import MetricCollector.Analyzer.FalseAlarms
import MetricCollector.GoLib.Slope
import MetricCollector.Analyzer.Trend
import MetricCollector.Analyzer.Temperature
import MetricCollector.Analyzer.Columns
import MetricCollector.GoLib.FlipBit
import MetricCollector.Analyzer.Dispersion
import MetricCollector.Analyzer.Independence
import MetricCollector.Gpumpsmetric.Faults
import MetricCollector.Main
import MetricCollector.Main.Ranges
import MetricCollector.Server.InitData
import MetricCollector.Gpumpsmetric.Overlap
import MetricCollector.GoLib.Drain
import MetricCollector.Main.Pcie
import MetricCollector.Main.InitData
import MetricCollector.Main.Total
import MetricCollector.GoLib.Simulation
import MetricCollector.Main.Accounts
import MetricCollector.Main.Lookup
import MetricCollector.Main.Transparency
import MetricCollector.Main.Ledger
import MetricCollector.Scrap.Termination
import MetricCollector.Member
import MetricCollector.Main.Reports
import MetricCollector.GoLib.Returns
import MetricCollector.Analyzer.Silence
import MetricCollector.Main.Lifetime
import MetricCollector.GoLib.FirstSight
import MetricCollector.Nvlink.Listing
import MetricCollector.Resource.Canonical
import MetricCollector.CustomMetrics.Deploy
import MetricCollector.CustomMetrics.Figures
import MetricCollector.CustomMetrics.Network
import MetricCollector.GoLib.Escape
import MetricCollector.Influx.LineProtocol
import MetricCollector.Influx.Scanner
import MetricCollector.Influx.ParsePoints
import MetricCollector.Influx.KeyScan
import MetricCollector.Influx.FieldValues
import MetricCollector.Influx.FieldScan
import MetricCollector.Influx.RoundTrip
import MetricCollector.Influx.LineScan
import MetricCollector.Influx.Wire
import MetricCollector.GoLib.Overwrite
import MetricCollector.Gpumpsmetric.Sent
