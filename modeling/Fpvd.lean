import Fpvd.Config.Merges
import Fpvd.Translate.WaybeamSync
import Fpvd.Translate.WfbControl
import Fpvd.Supervise.Startable
import Fpvd.DynLink.Roi
import Fpvd.DynLink.Converge
import Fpvd.DynLink.Flags
import Fpvd.Daemon.SoleWriter
import Fpvd.Daemon.Ingest
import Fpvd.Daemon.HotApply
import Fpvd.Daemon.EncFollow
import Fpvd.Daemon.EncSettings
import Fpvd.Supervise.Beamforming
import Fpvd.Supervise.Shutdown
import Fpvd.Gs.Stream
import Fpvd.Gs.Tap
import Fpvd.Gs.Connection
import Fpvd.Gs.RunnerSupervisor
import Fpvd.Gs.Explore
import Fpvd.Gs.Release
import Fpvd.Wfb.Statsd
import Fpvd.Wfb.Teardown
import Fpvd.Gs.Armer
import Fpvd.Gs.Snapback
import Fpvd.Gs.Guard
import Fpvd.Gs.Reset
import Fpvd.Gs.Race
import Fpvd.Wfb.Wiring
import Fpvd.Wfb.RxOnly
import Fpvd.Gs.KneeLaws
import Fpvd.Gs.PriorFile
import Fpvd.Gs.Reload
import Fpvd.Wfb.Tunnel
import Fpvd.Wfb.TunnelSockets
import Fpvd.Wfb.Framing
import Fpvd.Wfb.StatsRun
import Fpvd.Wfb.Merge
import Fpvd.Gs.TapWire
import Fpvd.Wfb.ChildWatch
import Fpvd.Wfb.Ports
import Fpvd.Gs.Probe
