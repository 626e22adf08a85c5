import Fpvd.Wfb.LineProto
import Fpvd.Gs.StatsClient

/-!
# Fpvd.Wfb.Statsd — the two feeds of the statistics hub

The hub (`gs/fpvdgs/wfb/aggregator.py`) hands each window and each new session of an rx child to its
subscribers as an event, and to the `:8103` server (`gs/fpvdgs/wfb/statsd.py`) as it is; the server
flattens it into a JSON record, which a client parses again (`Gs.parseRecord`).
-/

namespace Fpvd.Wfb

/-! ## The hub -/

def rxPktKeys : List String :=
  ["all", "all_bytes", "dec_err", "session", "data", "uniq", "fec_rec", "lost", "bad", "out",
    "out_bytes"]

def RxPackets.toList (p : RxPackets) : List ℤ :=
  [p.all, p.allBytes, p.decErr, p.session, p.data, p.uniq, p.fecRec, p.lost, p.bad, p.out, p.outBytes]

def RxWindow.pairs (w : RxWindow) : List (String × ℤ × ℤ) :=
  rxPktKeys.zip (w.packets.toList.zip w.cumulative.toList)

def toSessionInfo (s : Session) : Gs.SessionInfo :=
  { fecType := s.fecType, fecK := s.fecK, fecN := s.fecN, epoch := s.epoch, interleaveDepth := 1
    contractVersion := s.contractVersion }

def toRxAnt (row : AntKey × RxAnt) : Gs.RxAnt :=
  { ant := row.1.2, freq := row.1.1.1, mcs := row.1.1.2.1, bw := row.1.1.2.2, pktRecv := row.2.pktS
    rssiMin := row.2.rssiMin, rssiAvg := row.2.rssiAvg, rssiMax := row.2.rssiMax
    snrMin := row.2.snrMin, snrAvg := row.2.snrAvg, snrMax := row.2.snrMax
    evmMin := row.2.evmMin, evmAvg := row.2.evmAvg, evmMax := row.2.evmMax }

def optInt : Option ℤ → Json
  | none => .null
  | some i => .int i

def toRxEvent (ts : ℚ) (child : String) (w : RxWindow) (txWlan : Option ℤ) : Gs.RxEvent :=
  { timestamp := ts
    id := child
    packetsWindow := w.pairs.map fun e => (e.1, e.2.1)
    rxAntStats := w.ant.map toRxAnt
    session := w.session.map toSessionInfo
    txWlan := optInt txWlan }

def RxReport.event (ts : ℚ) (child : String) (txWlan : Option ℤ) : RxReport → Gs.Event
  | .window w => .rx (toRxEvent ts child w txWlan)
  | .newSession s => .session ⟨ts, child, toSessionInfo s⟩

/-! ## The server -/

def rxAntKeys : List String :=
  ["ant", "freq", "mcs", "bw", "pkt_recv", "rssi_min", "rssi_avg", "rssi_max", "snr_min", "snr_avg",
    "snr_max", "evm_min", "evm_avg", "evm_max"]

def RxAnt.toList (v : RxAnt) : List ℤ :=
  [v.pktS, v.rssiMin, v.rssiAvg, v.rssiMax, v.snrMin, v.snrAvg, v.snrMax, v.evmMin, v.evmAvg,
    v.evmMax]

def flattenRxAnt (row : AntKey × RxAnt) : Json :=
  .obj (rxAntKeys.zip
    (([row.1.2, row.1.1.1, row.1.1.2.1, row.1.1.2.2] ++ row.2.toList).map Json.int))

def Session.toDict (s : Session) : Gs.Dict :=
  [("fec_type", .str s.fecType), ("fec_k", .int s.fecK), ("fec_n", .int s.fecN),
    ("epoch", .int s.epoch), ("contract_version", .int s.contractVersion)]

def rxRecord (ts : ℚ) (child : String) (w : RxWindow) (txWlan : Option ℤ) : Gs.Dict :=
  [("type", .str "rx"), ("timestamp", .real ts), ("id", .str child), ("tx_wlan", optInt txWlan),
    ("packets", .obj (w.pairs.map fun e => (e.1, .arr [.int e.2.1, .int e.2.2]))),
    ("rx_ant_stats", .arr (w.ant.map flattenRxAnt)),
    ("session", (w.session.map fun s => Json.obj s.toDict).getD .null)]

def sessionRecord (ts : ℚ) (child : String) (s : Session) : Gs.Dict :=
  [("type", .str "new_session"), ("timestamp", .real ts), ("id", .str child)] ++ s.toDict

def RxReport.record (ts : ℚ) (child : String) (txWlan : Option ℤ) : RxReport → Gs.Dict
  | .window w => rxRecord ts child w txWlan
  | .newSession s => sessionRecord ts child s

/-! ## A record parses to the event -/

section Parse

variable {py : Gs.PyValues}

theorem mapM_map_ok {ε α β γ : Type} {f : β → Except ε γ} {g : α → β} {k : α → γ}
    (h : ∀ x, f (g x) = .ok (k x)) (xs : List α) : (xs.map g).mapM f = .ok (xs.map k) := by
  induction xs with
  | nil => rfl
  | cons x xs ih =>
    rw [List.map_cons, List.mapM_cons, h, ih]
    rfl

theorem parseRxAnt_flatten (py : Gs.PyValues) (row : AntKey × RxAnt) :
    Gs.parseRxAnt py (flattenRxAnt row) = .ok (toRxAnt row) := rfl

theorem parseSession_toDict (py : Gs.PyValues) (s : Session) :
    Gs.parseSession py (.obj s.toDict) = .ok (toSessionInfo s) := rfl

theorem supported_ok {s : Gs.SessionInfo} (h : s.contractVersion ∈ Gs.contractVersionsSupported) :
    Gs.supported s = .ok s := if_pos h

def RxReport.Spoken : RxReport → Prop
  | .window w => ∀ s ∈ w.session, s.contractVersion ∈ Gs.contractVersionsSupported
  | .newSession s => s.contractVersion ∈ Gs.contractVersionsSupported

theorem parsePackets_pairs (py : Gs.PyValues) (pairs : List (String × ℤ × ℤ)) :
    Gs.parsePackets py (.obj (pairs.map fun e => (e.1, .arr [.int e.2.1, .int e.2.2]))) =
      .ok (pairs.map fun e => (e.1, e.2.1)) := by
  show (pairs.map _).mapM (fun e : String × Json => (e.1, ·) <$> Gs.packetWindow py e.2) = _
  refine mapM_map_ok (fun e => ?_) pairs
  rfl

variable (ts : ℚ) (child : String)

theorem recordSession_rxRecord (w : RxWindow) (txWlan : Option ℤ) (h : (RxReport.window w).Spoken) :
    Gs.recordSession py (rxRecord ts child w txWlan) = .ok (w.session.map toSessionInfo) := by
  have hget : (rxRecord ts child w txWlan).getOr "session" .null =
      (w.session.map fun s => Json.obj s.toDict).getD .null := rfl
  unfold Gs.recordSession
  rw [hget]
  cases hs : w.session with
  | none => rfl
  | some s =>
    have hsupp := supported_ok (s := toSessionInfo s) (h s hs)
    show (do return some (← Gs.supported (← Gs.parseSession py (.obj s.toDict)))) = _
    rw [parseSession_toDict]
    show (do return some (← Gs.supported (toSessionInfo s))) = _
    rw [hsupp]
    rfl

theorem parse_rxRecord (w : RxWindow) (txWlan : Option ℤ) (h : (RxReport.window w).Spoken) :
    Gs.parseRecord py (rxRecord ts child w txWlan) =
      .ok (some (.rx (toRxEvent ts child w txWlan))) := by
  have hants := mapM_map_ok (parseRxAnt_flatten py) w.ant
  have hget : (rxRecord ts child w txWlan).getOr "packets" (.obj []) =
      .obj (w.pairs.map fun e => (e.1, .arr [.int e.2.1, .int e.2.2])) := rfl
  have hrows : py.list ((rxRecord ts child w txWlan).getOr "rx_ant_stats" (.arr [])) =
      .ok (w.ant.map flattenRxAnt) := py.list_arr _
  have hts : Gs.Dict.float py.toPyNumbers (rxRecord ts child w txWlan) "timestamp" 0 = .ok ts := rfl
  have htype : (rxRecord ts child w txWlan).getOr "type" .null = .str "rx" := rfl
  rw [Gs.parseRecord, hts]
  simp only [Gs.liftRecord, htype, recordSession_rxRecord ts child w txWlan h, hget,
    parsePackets_pairs, hrows, hants, bind, Except.bind]
  rfl

theorem parse_sessionRecord (s : Session) (h : (RxReport.newSession s).Spoken) :
    Gs.parseRecord py (sessionRecord ts child s) =
      .ok (some (.session ⟨ts, child, toSessionInfo s⟩)) := by
  have hts : Gs.Dict.float py.toPyNumbers (sessionRecord ts child s) "timestamp" 0 = .ok ts := rfl
  have htype : (sessionRecord ts child s).getOr "type" .null = .str "new_session" := rfl
  have hparse : Gs.parseSession py (.obj (sessionRecord ts child s)) = .ok (toSessionInfo s) := rfl
  rw [Gs.parseRecord, hts]
  simp only [Gs.liftRecord, htype, hparse, supported_ok (s := toSessionInfo s) h, bind, Except.bind]
  rfl

theorem parse_record (txWlan : Option ℤ) (r : RxReport) (h : r.Spoken) :
    Gs.parseRecord py (r.record ts child txWlan) = .ok (some (r.event ts child txWlan)) := by
  cases r with
  | window w => exact parse_rxRecord ts child w txWlan h
  | newSession s => exact parse_sessionRecord ts child s h

end Parse

/-! ## A subscriber -/

/-- The length of a subscriber's queue; beyond it the oldest event is dropped. -/
def queueLen : ℕ := 256

/-- What the engine's loop and the subscriber's loop do. -/
inductive FeedInput where
  /-- an rx child prints a line; the times of the event and of the record -/
  | line (child text : String) (now statsdNow : ℚ)
  /-- a window of a tx child -/
  | tx (ev : Gs.TxEvent)
  /-- the selector takes a card -/
  | select (wlan : Option ℤ)
  /-- the subscriber's loop runs `_drain` -/
  | drain
  deriving DecidableEq

/-- The parsers of the rx children, the selected card, and the queue of a subscriber. -/
structure Feed where
  parsers : List (String × RxLineParser) := []
  current : Option ℤ := none
  queue : List Gs.Event := []
  deriving DecidableEq

namespace Feed

variable (rd : LineReader)

def fed (st : Feed) (child text : String) : RxLineParser × Option RxReport :=
  ((AssocMap.find? child st.parsers).getD {}).feed (.ofText rd text)

def reported (st : Feed) : FeedInput → Option (RxReport × String × ℚ × ℚ)
  | .line child text now statsdNow => (st.fed rd child text).2.map (·, child, now, statsdNow)
  | _ => none

def pushed (st : Feed) : FeedInput → List Gs.Event
  | .tx ev => [.tx ev]
  | i => (st.reported rd i).toList.map fun (r, child, now, _) => r.event now child st.current

def broadcast (st : Feed) (i : FeedInput) : List Gs.Dict :=
  (st.reported rd i).toList.map fun (r, child, _, now) => r.record now child st.current

def delivered (st : Feed) : FeedInput → List Gs.Event
  | .drain => st.queue
  | _ => []

def step (st : Feed) (i : FeedInput) : Feed :=
  let queue := (st.queue ++ st.pushed rd i).rtake queueLen
  match i with
  | .line child text _ _ =>
    { st with parsers := AssocMap.put child (st.fed rd child text).1 st.parsers, queue }
  | .tx _ => { st with queue }
  | .select wlan => { st with current := wlan }
  | .drain => { st with queue := [] }

variable {rd} {st : Feed} {ev : Gs.Event}

def untimed : Gs.Event → Gs.Event
  | .settings ev => .settings { ev with timestamp := 0 }
  | .rx ev => .rx { ev with timestamp := 0 }
  | .tx ev => .tx { ev with timestamp := 0 }
  | .session ev => .session { ev with timestamp := 0 }

theorem untimed_event (ts ts' : ℚ) (child : String) (txWlan : Option ℤ) (r : RxReport) :
    untimed (r.event ts child txWlan) = untimed (r.event ts' child txWlan) := by
  cases r <;> rfl

theorem step_queue (rd : LineReader) (st : Feed) {i : FeedInput} (hi : i ≠ .drain)
    (hlen : st.queue.length ≤ queueLen) :
    (st.step rd i).queue = (st.queue ++ st.pushed rd i).rtake queueLen := by
  cases i with
  | line => simp only [step]
  | tx => simp only [step]
  | select wlan =>
    have hpushed : st.pushed rd (.select wlan) = [] := rfl
    rw [hpushed, List.append_nil, List.rtake, Nat.sub_eq_zero_of_le hlen, List.drop_zero]
    simp only [step]
  | drain => exact absurd rfl hi

theorem run_queue (inputs : List FeedInput) (h : .drain ∉ inputs) (st : Feed)
    (hlen : st.queue.length ≤ queueLen) :
    (inputs.foldl (step rd) st).queue =
      (st.queue ++ Run.shown (step rd) (pushed rd) st inputs).rtake queueLen := by
  induction inputs generalizing st with
  | nil =>
    rw [Run.shown_nil, List.append_nil, List.rtake, Nat.sub_eq_zero_of_le hlen, List.drop_zero,
      List.foldl_nil]
  | cons i inputs ih =>
    rw [List.mem_cons, not_or] at h
    have hq := step_queue rd st (Ne.symm h.1) hlen
    have hlen' : (st.step rd i).queue.length ≤ queueLen := by
      rw [hq]
      exact Run.length_rtake_le _ _
    rw [List.foldl_cons, ih h.2 _ hlen', hq, Run.rtake_append_rtake, Run.shown, List.append_assoc]

theorem queue_length (rd : LineReader) (inputs : List FeedInput) :
    (inputs.foldl (step rd) {}).queue.length ≤ queueLen := by
  induction inputs using List.reverseRecOn with
  | nil => exact Nat.zero_le _
  | append_singleton inputs i ih =>
    rw [List.foldl_append, List.foldl_cons, List.foldl_nil]
    by_cases hi : i = .drain
    · subst hi
      exact Nat.zero_le _
    · rw [step_queue rd _ hi ih]
      exact Run.length_rtake_le _ _

theorem mem_pushed {inputs : List FeedInput} {i : FeedInput} {r : RxReport} {child : String}
    {now statsdNow : ℚ}
    (h : (inputs.foldl (step rd) {}).reported rd i = some (r, child, now, statsdNow)) :
    (inputs.foldl (step rd) {}).pushed rd i =
      [r.event now child (inputs.foldl (step rd) {}).current] := by
  cases i with
  | line => simp only [pushed, h, Option.toList_some, List.map_cons, List.map_nil]
  | tx => cases h
  | select => cases h
  | drain => cases h

def zeroReader : LineReader where
  strip := id
  int s := if s = "0" then some 0 else none
  hex s := if s = "0" then some 0 else none

def quietLine : String := "0\tPKT\t0:0:0:0:0:0:0:0:0:0:0"

def burst : List FeedInput :=
  .line "video rx" quietLine 1 1 :: List.replicate 256 (.line "video rx" quietLine 0 0)

def plainValues : Gs.PyValues where
  float _ := none
  int _ := none
  repr _ := ""
  list
    | .arr xs => .ok xs
    | _ => .error .typeError
  dict
    | .obj members => .ok members
    | _ => .error .typeError
  list_arr _ := rfl

end Feed

end Fpvd.Wfb
