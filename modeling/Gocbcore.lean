import Gocbcore.Strconv
import Gocbcore.Blocks
import Gocbcore.AgentConfig
import Gocbcore.ConfigPatch
import Gocbcore.FromConnStr
import Gocbcore.Effect
import Gocbcore.Durations
import Gocbcore.Errors
import Gocbcore.Success
import Gocbcore.Redacted
import Gocbcore.LogCounts
import Gocbcore.Analytics
import Gocbcore.GoroutineLeak
