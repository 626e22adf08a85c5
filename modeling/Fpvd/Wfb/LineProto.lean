import Mathlib.Tactic
import Mathlib.Data.List.DropRight
import Fpvd.Lib.GroupFold

/-!
# Fpvd.Wfb.LineProto — the lines that wfb_rx and wfb_tx print (`gs/fpvdgs/wfb/lineproto.py`)

A line is given by what its columns hold; a line that does not fit is logged and changes nothing.
-/

namespace Fpvd.Wfb

open AssocMap

/-! ## wfb_rx -/

structure RxPackets where
  all : ℤ := 0
  allBytes : ℤ := 0
  decErr : ℤ := 0
  session : ℤ := 0
  data : ℤ := 0
  uniq : ℤ := 0
  fecRec : ℤ := 0
  lost : ℤ := 0
  bad : ℤ := 0
  out : ℤ := 0
  outBytes : ℤ := 0
  deriving DecidableEq, Repr

def RxPackets.add (a b : RxPackets) : RxPackets :=
  ⟨a.all + b.all, a.allBytes + b.allBytes, a.decErr + b.decErr, a.session + b.session, a.data + b.data,
    a.uniq + b.uniq, a.fecRec + b.fecRec, a.lost + b.lost, a.bad + b.bad, a.out + b.out,
    a.outBytes + b.outBytes⟩

/-- The values of an `RX_ANT` line; a wfb_rx without EVM leaves the last three out. -/
structure RxAnt where
  pktS : ℤ
  rssiMin : ℤ
  rssiAvg : ℤ
  rssiMax : ℤ
  snrMin : ℤ
  snrAvg : ℤ
  snrMax : ℤ
  evmMin : ℤ := -1
  evmAvg : ℤ := -1
  evmMax : ℤ := -1
  deriving DecidableEq, Repr

abbrev AntKey := (ℤ × ℤ × ℤ) × ℤ

abbrev AntTable := List (AntKey × RxAnt)

structure Session where
  fecType : String
  fecK : ℤ
  fecN : ℤ
  epoch : ℤ
  contractVersion : ℤ
  deriving DecidableEq, Repr

def fecTypeName (t : ℤ) : String := if t = 1 then "VDM_RS" else if t = 2 then "swfec" else "Unknown"

inductive RxLine where
  | rxAnt (key : AntKey) (vals : RxAnt)
  | pkt (counters : RxPackets)
  | session (epoch fecType fecK fecN : ℤ) (contractVersion : Option ℤ)
  | bad
  deriving DecidableEq, Repr

/-- How Python reads the text of a line; `none` where it raises. -/
structure LineReader where
  strip : String → String
  int : String → Option ℤ
  /-- `int(s, 16)` -/
  hex : String → Option ℤ

def splitText (sep : Char) (text : String) : List String :=
  (text.toList.splitOn sep).map String.ofList

def LineReader.ints (rd : LineReader) (col : String) : Option (List ℤ) := (splitText ':' col).mapM rd.int

def RxAnt.ofValues : List ℤ → Option RxAnt
  | [p, r1, r2, r3, s1, s2, s3] => some ⟨p, r1, r2, r3, s1, s2, s3, -1, -1, -1⟩
  | [p, r1, r2, r3, s1, s2, s3, e1, e2, e3] => some ⟨p, r1, r2, r3, s1, s2, s3, e1, e2, e3⟩
  | _ => none

def RxPackets.ofValues : List ℤ → Option RxPackets
  | a :: b :: c :: d :: e :: f :: g :: h :: i :: j :: k :: _ => some ⟨a, b, c, d, e, f, g, h, i, j, k⟩
  | _ => none

def RxLine.ofSession : List ℤ → RxLine
  | epoch :: fecType :: fecK :: fecN :: rest => .session epoch fecType fecK fecN rest.head?
  | _ => .bad

def RxLine.ofText (rd : LineReader) (line : String) : RxLine :=
  match splitText '\t' (rd.strip line) with
  | [_, "RX_ANT", key, ant, vals] =>
    match rd.ints key, (rd.ints vals).bind RxAnt.ofValues, rd.hex ant with
    | some [freq, mcs, bw], some vals, some ant => .rxAnt ((freq, mcs, bw), ant) vals
    | _, _, _ => .bad
  | [_, "PKT", counters] => ((rd.ints counters).bind RxPackets.ofValues).elim .bad .pkt
  | [_, "SESSION", parts] => (rd.ints parts).elim .bad RxLine.ofSession
  | _ => .bad

/-- A closed window: the counters of the window and their sums so far, the antenna rows, and the
session it belongs to. -/
structure RxWindow where
  packets : RxPackets
  cumulative : RxPackets
  ant : AntTable
  session : Option Session
  deriving DecidableEq, Repr

inductive RxReport where
  | window (w : RxWindow)
  | newSession (s : Session)
  deriving DecidableEq, Repr

structure RxLineParser where
  ant : AntTable := []
  cum : Option RxPackets := none
  session : Option Session := none
  deriving DecidableEq, Repr

def RxLineParser.feed (p : RxLineParser) : RxLine → RxLineParser × Option RxReport
  | .rxAnt key vals => ({ p with ant := put key vals p.ant }, none)
  | .pkt counters =>
    let cum := match p.cum with
      | none => counters
      | some c => counters.add c
    ({ p with cum := some cum, ant := [] }, some (.window ⟨counters, cum, p.ant, p.session⟩))
  | .session epoch fecType fecK fecN contractVersion =>
    let s : Session := ⟨fecTypeName fecType, fecK, fecN, epoch, contractVersion.getD 1⟩
    if some s = p.session then (p, none) else ({ p with session := some s }, some (.newSession s))
  | .bad => (p, none)

/-! ### Whole runs of lines -/

structure RxFeed where
  parser : RxLineParser := {}
  reports : List RxReport := []
  deriving DecidableEq, Repr

namespace RxFeed

variable (rd : LineReader)

/-- The body of the `try` in `feed_line`: an exception, `_Bad` or `ValueError`, keeps what was assigned
before it. -/
abbrev Body := EStateM Unit RxFeed

def orBad {α : Type} : Option α → Body α
  | none => throw ()
  | some a => pure a

def rxAnt (key ant vals : String) : Body Unit := do
  let [freq, mcs, bw] ← orBad (rd.ints key) | throw ()
  let vals ← orBad ((rd.ints vals).bind RxAnt.ofValues)
  let ant ← orBad (rd.hex ant)
  modify fun s => { s with parser.ant := put ((freq, mcs, bw), ant) vals s.parser.ant }

def pkt (counters : String) : Body Unit := do
  let counters ← orBad ((rd.ints counters).bind RxPackets.ofValues)
  let cum := ((← get).parser.cum.map counters.add).getD counters
  modify fun s => { s with parser.cum := some cum }
  modify fun s => { s with
    reports := s.reports ++ [.window ⟨counters, cum, s.parser.ant, s.parser.session⟩] }
  modify fun s => { s with parser.ant := [] }

def session (parts : String) : Body Unit := do
  let epoch :: fecType :: fecK :: fecN :: rest ← orBad (rd.ints parts) | throw ()
  let session : Session := ⟨fecTypeName fecType, fecK, fecN, epoch, rest.head?.getD 1⟩
  if some session ≠ (← get).parser.session then
    modify fun s => { s with parser.session := some session }
    modify fun s => { s with reports := s.reports ++ [.newSession session] }

def body : List String → Body Unit
  | [_, "RX_ANT", key, ant, vals] => rxAnt rd key ant vals
  | [_, "PKT", counters] => pkt rd counters
  | [_, "SESSION", parts] => session rd parts
  | _ => throw ()

def left : EStateM.Result Unit RxFeed Unit → RxFeed
  | .ok _ s => s
  | .error _ s => s

def feedLine (s : RxFeed) (line : String) : RxFeed :=
  left (body rd (splitText '\t' (rd.strip line)) s)

def feed (s : RxFeed) (l : RxLine) : RxFeed :=
  ⟨(s.parser.feed l).1, s.reports ++ (s.parser.feed l).2.toList⟩

theorem feed_bad (s : RxFeed) : s = s.feed .bad := by simp [feed, RxLineParser.feed]

variable {s : RxFeed}

theorem rxAnt_eq (key ant vals : String) : left (rxAnt rd key ant vals s) =
    s.feed (match rd.ints key, (rd.ints vals).bind RxAnt.ofValues, rd.hex ant with
      | some [freq, mcs, bw], some vals, some ant => .rxAnt ((freq, mcs, bw), ant) vals
      | _, _, _ => .bad) := by
  unfold rxAnt
  match rd.ints key, (rd.ints vals).bind RxAnt.ofValues, rd.hex ant with
  | none, _, _ | some [], _, _ | some [_], _, _ | some [_, _], _, _ | some (_ :: _ :: _ :: _ :: _), _, _
  | some [_, _, _], none, _ | some [_, _, _], some _, none => exact feed_bad s
  | some [freq, mcs, bw], some v, some a => exact congrArg (RxFeed.mk _) (List.append_nil _).symm

theorem pkt_eq (counters : String) : left (pkt rd counters s) =
    s.feed (((rd.ints counters).bind RxPackets.ofValues).elim .bad .pkt) := by
  obtain ⟨⟨table, cum, ses⟩, out⟩ := s
  unfold pkt
  cases (rd.ints counters).bind RxPackets.ofValues with
  | none => exact feed_bad _
  | some c => cases cum <;> rfl

theorem session_eq (parts : String) : left (session rd parts s) =
    s.feed ((rd.ints parts).elim .bad RxLine.ofSession) := by
  unfold session
  match rd.ints parts with
  | none | some [] | some [_] | some [_, _] | some [_, _, _] => exact feed_bad s
  | some (epoch :: fecType :: fecK :: fecN :: rest) =>
    change left ((if some (⟨fecTypeName fecType, fecK, fecN, epoch, rest.head?.getD 1⟩ : Session) ≠
      s.parser.session then _ else _ : Body Unit) s) = s.feed (.session epoch fecType fecK fecN rest.head?)
    split_ifs with h
    · simp only [feed, RxLineParser.feed, if_neg h]
      rfl
    · rw [not_not] at h
      simp only [feed, RxLineParser.feed, if_pos h]
      exact feed_bad s

theorem feedLine_eq (s : RxFeed) (line : String) : feedLine rd s line = s.feed (.ofText rd line) := by
  unfold feedLine body RxLine.ofText
  generalize splitText '\t' (rd.strip line) = cols
  split
  · exact rxAnt_eq rd _ _ _
  · exact pkt_eq rd _
  · exact session_eq rd _
  · exact feed_bad s

end RxFeed

/-! ### What a run of lines shows -/

@[simp] def RxLine.row? : RxLine → Option (AntKey × RxAnt)
  | .rxAnt key vals => some (key, vals)
  | _ => none

@[simp] def RxLine.pkt? : RxLine → Option RxPackets
  | .pkt counters => some counters
  | _ => none

@[simp] def RxLine.session? : RxLine → Option Session
  | .session epoch fecType fecK fecN version =>
    some ⟨fecTypeName fecType, fecK, fecN, epoch, version.getD 1⟩
  | _ => none

def RxPackets.total (cs : List RxPackets) : RxPackets := cs.foldl (fun t c => c.add t) {}

def rowsSince (ls : List RxLine) : List (AntKey × RxAnt) :=
  (ls.rtakeWhile fun l => l.pkt?.isNone).filterMap RxLine.row?

def antTable (rows : List (AntKey × RxAnt)) : AntTable := rows.foldl (fun m row => put row.1 row.2 m) []

theorem find?_antTable (rows : List (AntKey × RxAnt)) (a : AntKey) :
    find? a (antTable rows) = (GroupFold.rowsOf a rows).getLast? := by
  induction rows using List.reverseRecOn with
  | nil => rfl
  | append_singleton rows row ih =>
    rw [antTable, List.foldl_append, List.foldl_cons, List.foldl_nil, find?_put]
    by_cases h : a = row.1
    · simp [GroupFold.rowsOf, h]
    · rw [if_neg h]
      exact ih.trans (by simp [GroupFold.rowsOf, Ne.symm h])

theorem nodup_antTable (rows : List (AntKey × RxAnt)) : (keys (antTable rows)).Nodup :=
  List.foldlRecOn (motive := fun m => (keys m).Nodup) rows _ List.nodup_nil
    fun _ h _ _ => nodup_keys_put h

theorem rowsSince_concat (ls : List RxLine) (l : RxLine) :
    rowsSince (ls ++ [l]) = if l.pkt?.isNone then rowsSince ls ++ [l].filterMap RxLine.row? else [] := by
  rw [rowsSince, List.rtakeWhile_concat]
  split_ifs
  · exact List.filterMap_append
  · rfl

theorem parser_run (ls : List RxLine) : (ls.foldl RxFeed.feed {}).parser =
    ⟨antTable (rowsSince ls),
      if ls.filterMap RxLine.pkt? = [] then none else some (.total (ls.filterMap RxLine.pkt?)),
      (ls.filterMap RxLine.session?).getLast?⟩ := by
  induction ls using List.reverseRecOn with
  | nil => rfl
  | append_singleton ls l ih =>
    rw [List.foldl_append, List.foldl_cons, List.foldl_nil, RxFeed.feed, ih, rowsSince_concat,
      List.filterMap_append, List.filterMap_append]
    generalize rowsSince ls = rows, ls.filterMap RxLine.pkt? = cs, ls.filterMap RxLine.session? = ss
    cases l with
    | rxAnt key vals => simp [RxLineParser.feed, antTable, List.filterMap_cons]
    | pkt c =>
      by_cases h : cs = [] <;>
        simp [RxLineParser.feed, antTable, List.filterMap_cons, h, RxPackets.total, RxPackets.add]
    | session epoch fecType fecK fecN version =>
      by_cases h : some (⟨fecTypeName fecType, fecK, fecN, epoch, version.getD 1⟩ : Session) = ss.getLast?
      · simp [RxLineParser.feed, List.filterMap_cons, ← h]
      · simp [RxLineParser.feed, List.filterMap_cons, h]
    | bad => simp [RxLineParser.feed, List.filterMap_cons]

theorem foldl_feedLine (rd : LineReader) (lines : List String) :
    lines.foldl (RxFeed.feedLine rd) {} = (lines.map (RxLine.ofText rd)).foldl RxFeed.feed {} := by
  rw [List.foldl_map]
  exact List.foldl_ext _ _ _ fun s line _ => RxFeed.feedLine_eq rd s line

def RxReport.window? : RxReport → Option RxWindow
  | .window w => some w
  | .newSession _ => none

theorem windows_run (ls : List RxLine) :
    ((ls.foldl RxFeed.feed {}).reports.filterMap RxReport.window?).map RxWindow.packets =
      ls.filterMap RxLine.pkt? := by
  induction ls using List.reverseRecOn with
  | nil => rfl
  | append_singleton ls l ih =>
    rw [List.foldl_append, List.foldl_cons, List.foldl_nil, RxFeed.feed, List.filterMap_append,
      List.map_append, ih, List.filterMap_append]
    generalize (ls.foldl RxFeed.feed {}).parser = p
    congr 1
    cases l with
    | session epoch fecType fecK fecN version =>
      simp only [RxLineParser.feed]
      split_ifs <;> rfl
    | _ => rfl

/-! ## wfb_tx -/

section Tx

variable {N : Type}

inductive TxLine (N : Type) where
  | listenUnix (sock : N) (wlanId : ℤ)
  | listenUnixEnd
  | listenUdpEnd
  /-- ports, statistics, and what does not fit: none of it is about the sockets -/
  | other
  deriving DecidableEq, Repr

/-- What a parser knows of the process it reads; `unixSockets` is in the order of the lines. -/
structure TxLineParser (N : Type) where
  unixSockets : List (ℤ × N) := []
  handshakeDone : Bool := false
  deriving DecidableEq, Repr

def TxLineParser.names (p : TxLineParser N) : List N := p.unixSockets.map Prod.snd

def TxLineParser.feed (p : TxLineParser N) : TxLine N → TxLineParser N
  | .listenUnix sock wlanId => { p with unixSockets := put wlanId sock p.unixSockets }
  | .listenUnixEnd | .listenUdpEnd => { p with handshakeDone := true }
  | .other => p

end Tx

end Fpvd.Wfb
