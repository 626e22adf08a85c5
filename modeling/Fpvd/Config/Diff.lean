import Fpvd.Config.Codec

/-!
# Fpvd.Config.Diff — what changed between two configurations (`drone/src/config/diff.cpp`)

Blocks are compared as JSON, as the source does; `classifyLinkChange` compares field by field.
-/

namespace Fpvd

structure SubsystemDiff where
  radio : Bool
  encoder : Bool
  telemetry : Bool
  dynamicLink : Bool
  /-- A `std::set`: in order, without repeats. -/
  servicesAffected : List String
  deriving DecidableEq, Repr

def servicesAffected (a b : OrdMap String Service) : List String :=
  let changed := a.entries.filter fun e =>
    match b.find? e.1 with
    | none => true
    | some sb => e.2.toJson ≠ sb.toJson
  let added := b.entries.filter fun e => (a.find? e.1).isNone
  (OrdMap.ofList ((changed ++ added).map fun e => (e.1, ()))).keys

def diffSubsystems (a b : Config) : SubsystemDiff where
  radio := a.link.toJson ≠ b.link.toJson
  encoder := a.video.toJson ≠ b.video.toJson || a.image.toJson ≠ b.image.toJson ||
    a.recording.toJson ≠ b.recording.toJson
  telemetry := a.telemetry.toJson ≠ b.telemetry.toJson
  dynamicLink := a.dynamicLink.toJson ≠ b.dynamicLink.toJson || a.link.mtu ≠ b.link.mtu ||
    a.video.fps ≠ b.video.fps
  servicesAffected := servicesAffected a.services b.services

structure LinkChange where
  nicChannel : Bool
  nicWidth : Bool
  nicTxpower : Bool
  nicMtu : Bool
  videoRadiotap : Bool
  videoFec : Bool
  fullRestart : Bool
  deriving DecidableEq, Repr

def classifyLinkChange (a b : Config) : LinkChange :=
  let la := a.link
  let lb := b.link
  let width : Bool := la.width ≠ lb.width
  let fecMode : Bool := la.fec.mode ≠ lb.fec.mode
  { nicChannel := la.channel ≠ lb.channel || width
    nicWidth := width
    nicTxpower := !la.txPowerDbm.same lb.txPowerDbm
    nicMtu := la.mtu ≠ lb.mtu
    videoRadiotap := la.mcs ≠ lb.mcs || la.stbc ≠ lb.stbc || la.ldpc ≠ lb.ldpc || width
    -- only the active mode's parameters are live
    videoFec := !fecMode &&
      (if lb.fec.mode = "swfec" then
        la.fec.overheadPct ≠ lb.fec.overheadPct || la.fec.deadlineMs ≠ lb.fec.deadlineMs
      else la.fec.k ≠ lb.fec.k || la.fec.n ≠ lb.fec.n)
    fullRestart := la.linkId ≠ lb.linkId || la.wlanAdapter ≠ lb.wlanAdapter || fecMode ||
      la.videoEncryption ≠ lb.videoEncryption }

/-! ## Equal JSON -/

theorem TxPower.toJson_inj {a b : TxPower} : a.toJson = b.toJson ↔ a.same b = true := by
  unfold TxPower.toJson TxPower.same
  cases a.automatic <;> cases b.automatic <;> simp

theorem Fec.toJson_inj {a b : Fec} : a.toJson = b.toJson ↔ a = b := by
  cases a
  cases b
  simp [Fec.toJson]
  tauto

theorem Beamforming.toJson_inj {a b : Beamforming} : a.toJson = b.toJson ↔ a = b := by
  cases a
  cases b
  simp [Beamforming.toJson]
  tauto

theorem optStr_inj {a b : Option String} :
    (a.map Json.str).getD .null = (b.map Json.str).getD .null ↔ a = b := by
  cases a <;> cases b <;> simp

/-- Links with the same JSON differ at most in the unused `dbm` of an automatic power. -/
theorem Link.toJson_inj {a b : Link} : a.toJson = b.toJson ↔
    a.txPowerDbm.same b.txPowerDbm = true ∧ a = { b with txPowerDbm := a.txPowerDbm } := by
  cases a
  cases b
  simp only [Link.toJson, Json.obj.injEq, List.cons.injEq, Prod.mk.injEq, true_and, and_true,
    Beamforming.toJson_inj, Fec.toJson_inj, TxPower.toJson_inj, optStr_inj, Json.int.injEq,
    Json.bool.injEq, Link.mk.injEq]
  tauto

theorem Telemetry.toJson_inj {a b : Telemetry} : a.toJson = b.toJson ↔ a = b := by
  cases a
  cases b
  simp [Telemetry.toJson]
  tauto

end Fpvd
