import Fpvd.DynLink.RuntimeConfig

/-!
# Fpvd.Translate.Argv — command lines of the built-in processes

`drone/src/translate/wfb.cpp` and `telemetry.cpp`.  `std::to_string` is `toString`.
-/

namespace Fpvd

def kVideoControlPort : ℤ := 8000

inductive WfbRole where
  | videoTx
  | tunRx
  | tunTx
  | tlmRx
  | tlmTx
  deriving DecidableEq, Repr

def flag01 (b : Bool) : String := if b then "1" else "0"

/-- `-k`/`-n` of the video TX; the `swfec` mode repurposes them as overhead and deadline. -/
def fecArgs (f : Fec) : List String :=
  if f.mode = "swfec" then ["-z", "-k", toString f.overheadPct, "-n", toString f.deadlineMs]
  else ["-k", toString f.k, "-n", toString f.n]

def commonTx (c : Config) (mcs : ℤ) (key : String) : List String :=
  ["/usr/bin/wfb_tx"] ++ (if c.link.videoEncryption then ["-K", key] else []) ++
  ["-M", toString mcs, "-B", toString (modulationWidth c.link.width)] ++ fecArgs c.link.fec ++
  ["-S", flag01 c.link.stbc, "-L", flag01 c.link.ldpc, "-i", toString c.link.linkId]

def tunTlmTx (c : Config) (key : String) : List String :=
  ["/usr/bin/wfb_tx", "-K", key, "-M", "0", "-B", "20", "-k", "3", "-n", "5", "-S", "0", "-L", "0",
    "-i", toString c.link.linkId]

def wfbArgs (c : Config) (role : WfbRole) (iface key : String) : List String :=
  match role with
  | .videoTx => commonTx c c.link.mcs key ++
      ["-U", "venc_wfb", "-C", toString kVideoControlPort, "-J", "10", "-E", "5000", iface]
  | .tunRx => ["/usr/bin/wfb_rx", "-K", key, "-i", toString c.link.linkId, "-p", "160", "-u", "5800",
      iface]
  | .tunTx => tunTlmTx c key ++ ["-p", "32", "-u", "5801", iface]
  | .tlmRx => ["/usr/bin/wfb_rx", "-K", key, "-i", toString c.link.linkId, "-p", "144", "-u", "14550",
      iface]
  | .tlmTx => tunTlmTx c key ++ ["-p", "16", "-u", "14551", iface]

def wfbTunArgs : List String := ["/usr/bin/wfb_tun", "-a", "10.5.0.10/24"]

def telemetryArgs (c : Config) : List String :=
  if c.telemetry.router = "none" then []
  else if c.telemetry.router = "msposd" then
    ["/usr/bin/msposd", "-b", toString c.telemetry.baud, "-c", "8", "-r",
      toString c.telemetry.osdFps, "-m", "/dev/" ++ c.telemetry.serial, "-o", "127.0.0.1:14551", "-z",
      c.video.resolution]
  else
    ["/usr/bin/mavfwd", "-b", toString c.telemetry.baud, "-c", "8", "-p", "100", "-a", "15", "-t",
      "-m", "/dev/" ++ c.telemetry.serial, "-o", "127.0.0.1:14551", "-i", "127.0.0.1:14550"]

end Fpvd
