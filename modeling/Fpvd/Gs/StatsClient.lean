import Fpvd.Lib.PyJson
import Fpvd.Gs.Schema

/-!
# Fpvd.Gs.StatsClient — the events of the statistics feed (`gs/fpvdgs/dynlink/stats_client.py`)

The event types that the dynamic link and the connection monitor consume, and `parseRecord`, which
makes one of a JSON record of the `:8103` feed.  Where Python raises, the error is kept: a missing
key, a value that is not a number, a contract version that is not spoken.
-/

namespace Fpvd.Gs

def contractVersionsSupported : List ℤ := [1, 2, 3]

def idHas (word id : String) : Bool := word.toList <:+: id.toLower.toList

structure SettingsEvent where
  profile : String
  isCluster : Bool
  wlans : List Json
  settings : Dict
  timestamp : ℚ
  deriving DecidableEq

structure RxAnt where
  ant : ℤ
  freq : ℤ
  mcs : ℤ
  bw : ℤ
  pktRecv : ℤ
  rssiMin : ℤ
  rssiAvg : ℤ
  rssiMax : ℤ
  snrMin : ℤ
  snrAvg : ℤ
  snrMax : ℤ
  evmMin : ℤ := -1
  evmAvg : ℤ := -1
  evmMax : ℤ := -1
  deriving DecidableEq, Repr

structure SessionInfo where
  fecType : String
  fecK : ℤ
  fecN : ℤ
  epoch : ℤ
  interleaveDepth : ℤ
  contractVersion : ℤ
  deriving DecidableEq, Repr

structure RxEvent where
  timestamp : ℚ
  id : String
  packetsWindow : List (String × ℤ) := []
  rxAntStats : List RxAnt := []
  session : Option SessionInfo := none
  /-- as it stands in the record -/
  txWlan : Json := .null
  deriving DecidableEq

structure TxEvent where
  timestamp : ℚ
  id : String
  packetsWindow : List (String × ℤ) := []
  deriving DecidableEq, Repr

structure SessionEvent where
  timestamp : ℚ
  id : String
  session : SessionInfo
  deriving DecidableEq, Repr

inductive Event where
  | settings (ev : SettingsEvent)
  | rx (ev : RxEvent)
  | tx (ev : TxEvent)
  | session (ev : SessionEvent)
  deriving DecidableEq

inductive RecordError where
  | py (e : PyError)
  | keyError (key : String)
  | attributeError
  | contractVersion (version : ℤ)
  deriving DecidableEq, Repr

structure PyValues extends PyNumbers where
  /-- `str(v)`, of what is not a text -/
  repr : Json → String
  list : Json → Except PyError (List Json)
  dict : Json → Except PyError Dict
  list_arr : ∀ xs, list (.arr xs) = .ok xs

section Parse

variable (py : PyValues)

def liftRecord {α : Type} : Except PyError α → Except RecordError α
  | .ok a => .ok a
  | .error e => .error (.py e)

def PyValues.str : Json → String
  | .str s => s
  | v => py.repr v

def intItem (d : Dict) (key : String) : Except RecordError ℤ :=
  match AssocMap.find? key d with
  | none => .error (.keyError key)
  | some v => liftRecord (py.toInt v)

def intOr (d : Dict) (key : String) (default : ℤ) : Except RecordError ℤ :=
  liftRecord (Dict.int py.toPyNumbers d key default)

def packetWindow : Json → Except RecordError ℤ
  | .arr (w :: _) => liftRecord (py.toInt w)
  | v => liftRecord (py.toInt v)

def parsePackets : Json → Except RecordError (List (String × ℤ))
  | .obj d => d.mapM fun e => (e.1, ·) <$> packetWindow py e.2
  | _ => .error .attributeError

def parseSession : Json → Except RecordError SessionInfo
  | .obj d => do
    let fecType := py.str (Dict.getOr d "fec_type" (.str ""))
    let fecK ← intItem py d "fec_k"
    let fecN ← intItem py d "fec_n"
    let epoch ← intItem py d "epoch"
    let interleaveDepth ← intOr py d "interleave_depth" 1
    let contractVersion ← intItem py d "contract_version"
    return { fecType, fecK, fecN, epoch, interleaveDepth, contractVersion }
  | _ => .error .attributeError

def parseRxAnt : Json → Except RecordError RxAnt
  | .obj d => do
    let ant ← intItem py d "ant"
    let freq ← intItem py d "freq"
    let mcs ← intItem py d "mcs"
    let bw ← intItem py d "bw"
    let pktRecv ← intItem py d "pkt_recv"
    let rssiMin ← intItem py d "rssi_min"
    let rssiAvg ← intItem py d "rssi_avg"
    let rssiMax ← intItem py d "rssi_max"
    let snrMin ← intItem py d "snr_min"
    let snrAvg ← intItem py d "snr_avg"
    let snrMax ← intItem py d "snr_max"
    let evmMin ← intOr py d "evm_min" (-1)
    let evmAvg ← intOr py d "evm_avg" (-1)
    let evmMax ← intOr py d "evm_max" (-1)
    return { ant, freq, mcs, bw, pktRecv, rssiMin, rssiAvg, rssiMax, snrMin, snrAvg, snrMax,
             evmMin, evmAvg, evmMax }
  | _ => .error (.py .typeError)

def supported (s : SessionInfo) : Except RecordError SessionInfo :=
  if s.contractVersion ∈ contractVersionsSupported then .ok s
  else .error (.contractVersion s.contractVersion)

def recordSession (raw : Dict) : Except RecordError (Option SessionInfo) :=
  let v := raw.getOr "session" .null
  if v.truthy then do return some (← supported (← parseSession py v)) else .ok none

/-- `parse_record`; `none` for a type that is not known. -/
def parseRecord (raw : Dict) : Except RecordError (Option Event) := do
  let timestamp ← liftRecord (Dict.float py.toPyNumbers raw "timestamp" 0)
  match raw.getOr "type" .null with
  | .str "settings" => do
    let wlans ← liftRecord (py.list (raw.getOr "wlans" (.arr [])))
    let settings ← liftRecord (py.dict (raw.getOr "settings" (.obj [])))
    return some (.settings
      { profile := py.str (raw.getOr "profile" (.str ""))
        isCluster := (raw.getOr "is_cluster" (.bool false)).truthy
        wlans, settings, timestamp })
  | .str "rx" => do
    let session ← recordSession py raw
    let packetsWindow ← parsePackets py (raw.getOr "packets" (.obj []))
    let rows ← liftRecord (py.list (raw.getOr "rx_ant_stats" (.arr [])))
    let rxAntStats ← rows.mapM (parseRxAnt py)
    return some (.rx
      { timestamp, id := py.str (raw.getOr "id" (.str "")), packetsWindow, rxAntStats, session
        txWlan := raw.getOr "tx_wlan" .null })
  | .str "tx" => do
    let packetsWindow ← parsePackets py (raw.getOr "packets" (.obj []))
    return some (.tx { timestamp, id := py.str (raw.getOr "id" (.str "")), packetsWindow })
  | .str "new_session" => do
    let session ← supported (← parseSession py (.obj raw))
    return some (.session { timestamp, id := py.str (raw.getOr "id" (.str "")), session })
  | _ => return none

end Parse

end Fpvd.Gs
