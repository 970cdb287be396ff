import SmdebugProfiler.Pandas.Frame
import SmdebugProfiler.Pandas.GroupBy
import SmdebugProfiler.Analysis.Tables
import SmdebugProfiler.Analysis.PhaseMerge
import SmdebugProfiler.Analysis.PhaseIntervals
import SmdebugProfiler.Analysis.IntervalTable
import SmdebugProfiler.Analysis.IntervalCover
import SmdebugProfiler.Analysis.Utilization
import SmdebugProfiler.Analysis.Statistics
import SmdebugProfiler.Analysis.DeviceUsage
import SmdebugProfiler.Analysis.Session
