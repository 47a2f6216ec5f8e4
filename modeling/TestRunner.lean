import TestRunner.Window
import TestRunner.Recorder.Loops
import TestRunner.Recorder.Handle
import TestRunner.Recorder.StopRequest
import TestRunner.Recorder.StopTime
import TestRunner.Recorder.Progress
import TestRunner.Recorder.Release
import TestRunner.Recorder.Retention
import TestRunner.Recorder.Keysyms
import TestRunner.Recorder.Selection
import TestRunner.Recorder.Classify
import TestRunner.Recorder.Leftover
import TestRunner.Recorder.Descriptors
import TestRunner.Recorder.Touch
import TestRunner.Recorder.Poll
import TestRunner.Recorder.Limit
import TestRunner.Recorder.Program
import TestRunner.Recorder.Rounds
import TestRunner.Recorder.Times
import TestRunner.Recorder.Arguments
import TestRunner.Recorder.Trim
import TestRunner.Recorder.Xkb
import TestRunner.TimeStamp
import TestRunner.Client
import TestRunner.Client.Calls
import TestRunner.Client.Connection
import TestRunner.Client.Selection
import TestRunner.Server.Frames
import TestRunner.Server.Keysym
import TestRunner.Server.Capabilities
import TestRunner.Server.Release
import TestRunner.Server.Echo
import TestRunner.Server.MultiTouch
import TestRunner.Server.Coverage
import TestRunner.Server.Confinement
import TestRunner.Server.Length
import TestRunner.Server.Resolve
import TestRunner.Server.Service
import TestRunner.Server.Arguments
import TestRunner.Plugins.Metrics
import TestRunner.Plugins.Fetch
import TestRunner.Plugins.Screenshooter.Sizes
import TestRunner.Plugins.Screenshooter.Cleanup
