import Fpvd.DynLink.LocalCompute
import Fpvd.Supervise.Orchestrator
import Fpvd.Translate.Argv

/-!
# Fpvd.Supervise.Seed — the processes of a configuration

`Daemon::seedOrchestrator` (`drone/src/daemon.cpp`) and `drone/src/probe/probe_specs.cpp`.

Built-in processes, the telemetry router, the enabled services and the probe pair are registered in
this order in one name space; a later one replaces an earlier one of the same name.
-/

namespace Fpvd

open Relation Digraph

/-! ## Specs -/

def droneKey : String := "/etc/drone.key"

def ifaceOr (iface : String) : String := if iface = "" then "wlan0" else iface

def wfbSpec (name : String) (argv after : List String) : SupervisedSpec where
  name := name
  argv := argv
  restart := .always
  startAfter := after

def waybeamArgv : List String :=
  ["/bin/sh", "-c",
    "K=0; for p in $(pidof waybeam); do kill -9 \"$p\" 2>/dev/null && K=1; done; " ++
    "[ \"$K\" = 1 ] && sleep 1; exec /usr/bin/waybeam"]

def builtins (c : Config) (iface : String) : List SupervisedSpec :=
  [wfbSpec "wfb_video_tx" (wfbArgs c .videoTx iface droneKey) [],
   wfbSpec "wfb_tun_rx" (wfbArgs c .tunRx iface droneKey) [],
   wfbSpec "wfb_tun_tx" (wfbArgs c .tunTx iface droneKey) [],
   wfbSpec "wfb_tun" wfbTunArgs ["wfb_tun_rx", "wfb_tun_tx"],
   wfbSpec "wfb_tlm_rx" (wfbArgs c .tlmRx iface droneKey) [],
   wfbSpec "wfb_tlm_tx" (wfbArgs c .tlmTx iface droneKey) [],
   wfbSpec "waybeam" waybeamArgv ["wfb_video_tx"]]

def telemetryName (c : Config) : String :=
  if c.telemetry.router = "mavfwd" then "mavfwd"
  else if c.telemetry.router = "msposd" then "msposd"
  else ""

def telemetrySpecs (c : Config) : List SupervisedSpec :=
  if telemetryArgs c ≠ [] ∧ telemetryName c ≠ "" then
    [wfbSpec (telemetryName c) (telemetryArgs c) ["wfb_tlm_rx", "wfb_tlm_tx"]]
  else []

def serviceSpec (n : String) (s : Service) : SupervisedSpec where
  name := n
  argv := s.exec :: s.args
  env := s.env
  startAfter := s.startAfter
  restart :=
    if s.restart = "always" then .always
    else if s.restart = "on-failure" then .onFailure
    else .never

def serviceSpecs (c : Config) : List SupervisedSpec :=
  (c.services.entries.filter fun e => e.2.enabled).map fun e => serviceSpec e.1 e.2

def buildProbeSpecs (c : Config) (iface key feederPath : String) (mcs : ℤ) : List SupervisedSpec :=
  let rung := max 0 (min mcs kProbeMcsCeiling)
  [{ name := "probe-tx"
     argv := ["/usr/bin/wfb_tx", "-K", key, "-M", toString rung, "-B",
       toString (modulationWidth c.link.width), "-S", flag01 c.link.stbc, "-L", flag01 c.link.ldpc,
       "-k", "1", "-n", "1", "-C", toString kProbeControlPort, "-i", toString c.link.linkId, "-p",
       toString kProbeRadioPort, "-u", toString kProbeFeedPort, iface] },
   { name := "probe-feed"
     argv := [feederPath, toString kProbeFeedPort, toString kProbePps, toString kProbePacketBytes]
     startAfter := ["probe-tx"] }]

def kProbeFeeder : String := "/usr/libexec/fpvd/probe-feeder"

def probeSpecs (c : Config) (iface : String) : List SupervisedSpec :=
  buildProbeSpecs c iface droneKey kProbeFeeder
    (min ((DynLink.kDlFailsafeMcs : ℤ) + 1) kProbeMcsCeiling)

def probeOn (c : Config) : Bool := c.dynamicLink.enabled && c.dynamicLink.probe.enabled

def seedSpecs (c : Config) (iface : String) : List SupervisedSpec :=
  builtins c iface ++ telemetrySpecs c ++ serviceSpecs c ++
    (if probeOn c then probeSpecs c iface else [])

@[irreducible] def seedOrchestrator (c : Config) (iface : String) : Orchestrator :=
  (seedSpecs c iface).foldl (fun o s => o.add s) {}

/-! ## What a process waits for -/

def leaves : List String :=
  ["wfb_video_tx", "wfb_tun_rx", "wfb_tun_tx", "wfb_tlm_rx", "wfb_tlm_tx", "probe-tx"]

def builtinAfter (c : Config) (n : String) : Option (List String) :=
  if n ∈ ["wfb_video_tx", "wfb_tun_rx", "wfb_tun_tx", "wfb_tlm_rx", "wfb_tlm_tx"] then some []
  else if n = "wfb_tun" then some ["wfb_tun_rx", "wfb_tun_tx"]
  else if n = "waybeam" then some ["wfb_video_tx"]
  else if telemetryName c ≠ "" ∧ n = telemetryName c then some ["wfb_tlm_rx", "wfb_tlm_tx"]
  else none

def probeAfter (c : Config) (n : String) : Option (List String) :=
  if probeOn c ∧ n = "probe-tx" then some []
  else if probeOn c ∧ n = "probe-feed" then some ["probe-tx"]
  else none

def enabledService (c : Config) (n : String) : Option Service :=
  (c.services.find? n).filter fun s => s.enabled

/-- What the process registered under a name waits for: the probe pair replaces a service of the
same name, and an enabled service replaces a built-in process. -/
def after (c : Config) (n : String) : Option (List String) :=
  (probeAfter c n).or (((enabledService c n).map Service.startAfter).or (builtinAfter c n))

theorem enabledService_eq_some {c : Config} {n : String} {s : Service} :
    enabledService c n = some s ↔ c.services.find? n = some s ∧ s.enabled = true := by
  simp [enabledService, Option.filter_eq_some_iff]

open Orchestrator

variable (c : Config) (iface n : String)

theorem named_services :
    named n (serviceSpecs c) = (enabledService c n).map (serviceSpec n) := by
  have hmem : ∀ sp, sp ∈ serviceSpecs c ↔
      ∃ k s, enabledService c k = some s ∧ serviceSpec k s = sp := by
    intro sp
    simp [serviceSpecs, enabledService_eq_some, OrdMap.mem_entries]
  cases h : named n (serviceSpecs c) with
  | some sp =>
    obtain ⟨hin, hname⟩ := mem_of_named h
    obtain ⟨k, s, hk, rfl⟩ := (hmem sp).mp hin
    have hkn : k = n := hname
    subst hkn
    rw [hk, Option.map_some]
  | none =>
    cases hs : enabledService c n with
    | none => rfl
    | some s => exact absurd rfl (named_eq_none.mp h _ ((hmem _).mpr ⟨n, s, hs, rfl⟩))

theorem named_probe :
    (named n (if probeOn c then probeSpecs c iface else [])).map SupervisedSpec.startAfter =
      probeAfter c n := by
  unfold probeAfter
  cases probeOn c
  · simp [named]
  · by_cases h1 : n = "probe-tx"
    · subst h1; rfl
    by_cases h2 : n = "probe-feed"
    · subst h2; rfl
    · simp [named, probeSpecs, buildProbeSpecs, h1, h2, Ne.symm h1, Ne.symm h2]

theorem telemetrySpecs_cases :
    (telemetryName c = "" ∧ telemetrySpecs c = []) ∨
      (telemetryName c ∈ ["mavfwd", "msposd"] ∧ telemetrySpecs c =
        [wfbSpec (telemetryName c) (telemetryArgs c) ["wfb_tlm_rx", "wfb_tlm_tx"]]) := by
  unfold telemetrySpecs telemetryName telemetryArgs
  by_cases h1 : c.telemetry.router = "mavfwd"
  · simp [h1]
  by_cases h2 : c.telemetry.router = "msposd"
  · simp [h2]
  · simp [h1, h2]

theorem named_builtin :
    (named n (builtins c iface ++ telemetrySpecs c)).map SupervisedSpec.startAfter =
      builtinAfter c n := by
  have hb : (named n (builtins c iface)).map SupervisedSpec.startAfter =
      if n ∈ ["wfb_video_tx", "wfb_tun_rx", "wfb_tun_tx", "wfb_tlm_rx", "wfb_tlm_tx"] then some []
      else if n = "wfb_tun" then some ["wfb_tun_rx", "wfb_tun_tx"]
      else if n = "waybeam" then some ["wfb_video_tx"] else none := by
    by_cases h : n ∈ (builtins c iface).map SupervisedSpec.name
    · simp only [builtins, wfbSpec, List.map_cons, List.map_nil, List.mem_cons, List.not_mem_nil,
        or_false] at h
      rcases h with rfl | rfl | rfl | rfl | rfl | rfl | rfl <;> rfl
    · rw [named_eq_none.mpr fun s hs hn => h (List.mem_map.mpr ⟨s, hs, hn⟩)]
      simp only [builtins, wfbSpec, List.map_cons, List.map_nil, List.mem_cons, List.not_mem_nil,
        or_false, not_or] at h
      simp [h]
  rw [named_append]
  unfold builtinAfter
  rcases telemetrySpecs_cases c with ⟨hn, hs⟩ | ⟨hn, hs⟩
  · rw [hs, hn]
    simpa [named] using hb
  · rw [hs]
    by_cases h : n = telemetryName c
    · subst h
      simp only [List.mem_cons, List.not_mem_nil, or_false] at hn
      rcases hn with hn | hn <;> simp [named, wfbSpec, hn]
    · simpa [named, wfbSpec, h, Ne.symm h] using hb

/-- The spec registered under a name: probe pair, then services, then the built-in processes. -/
theorem seed_spec? :
    (seedOrchestrator c iface).spec? n =
      (named n (if probeOn c then probeSpecs c iface else [])).or
        (((enabledService c n).map (serviceSpec n)).or
          (named n (builtins c iface ++ telemetrySpecs c))) := by
  unfold seedOrchestrator seedSpecs
  rw [spec?_addAll, named_append, named_append, named_services]
  exact Option.or_none

theorem seed_spec?_name {c : Config} {iface n : String} {spec : SupervisedSpec}
    (h : (seedOrchestrator c iface).spec? n = some spec) : spec.name = n := by
  unfold seedOrchestrator at h
  rw [spec?_addAll] at h
  exact (mem_of_named (h.symm.trans Option.or_none).symm).2

theorem seed_deps : (seedOrchestrator c iface).deps = after c := by
  funext n
  unfold deps after
  rw [seed_spec?, Option.map_or, Option.map_or, named_probe, named_builtin, Option.map_map]
  rfl

/-! ## Command lines -/

section Argv

variable {c : Config} {iface : String}

theorem builtins_name {p : SupervisedSpec} (hp : p ∈ builtins c iface) :
    p.name ∈ ["wfb_video_tx", "wfb_tun_rx", "wfb_tun_tx", "wfb_tun", "wfb_tlm_rx", "wfb_tlm_tx",
      "waybeam"] :=
  List.mem_map.mpr ⟨p, hp, rfl⟩

theorem probeSpecs_name {s : SupervisedSpec} (hs : s ∈ probeSpecs c iface) :
    s.name ∈ ["probe-tx", "probe-feed"] :=
  List.mem_map.mpr ⟨s, hs, rfl⟩

theorem named_builtin_self {p : SupervisedSpec} (hp : p ∈ builtins c iface) :
    named p.name (builtins c iface ++ telemetrySpecs c) = some p := by
  have hb : named p.name (builtins c iface) = some p := by
    simp only [builtins, List.mem_cons, List.not_mem_nil, or_false] at hp
    rcases hp with rfl | rfl | rfl | rfl | rfl | rfl | rfl <;> rfl
  have ht : named p.name (telemetrySpecs c) = none := by
    rw [named_eq_none]
    rcases telemetrySpecs_cases c with ⟨-, hs⟩ | ⟨hn, hs⟩
    · simp [hs]
    · have hdisj : ∀ n ∈ ["mavfwd", "msposd"], ∀ m ∈ ["wfb_video_tx", "wfb_tun_rx", "wfb_tun_tx",
          "wfb_tun", "wfb_tlm_rx", "wfb_tlm_tx", "waybeam"], n ≠ m := by decide
      rw [hs]
      intro s hmem
      rw [List.mem_singleton.mp hmem]
      exact hdisj _ hn _ (builtins_name hp)
  rw [named_append, ht, Option.none_or, hb]

theorem seed_argv {p : SupervisedSpec} (hp : p ∈ builtins c iface) :
    ((seedOrchestrator c iface).spec? p.name).map SupervisedSpec.argv =
      some (((enabledService c p.name).map fun s => s.exec :: s.args).getD p.argv) := by
  have hprobe : named p.name (if probeOn c then probeSpecs c iface else []) = none := by
    rw [named_eq_none]
    have hdisj : ∀ n ∈ ["probe-tx", "probe-feed"], ∀ m ∈ ["wfb_video_tx", "wfb_tun_rx",
        "wfb_tun_tx", "wfb_tun", "wfb_tlm_rx", "wfb_tlm_tx", "waybeam"], n ≠ m := by decide
    split_ifs
    · exact fun s hs => hdisj _ (probeSpecs_name hs) _ (builtins_name hp)
    · simp
  rw [seed_spec?, hprobe, Option.none_or, named_builtin_self hp]
  cases enabledService c p.name <;> rfl

theorem seed_argv_videoTx (c : Config) (iface : String) :
    ((seedOrchestrator c iface).spec? "wfb_video_tx").map SupervisedSpec.argv =
      some (((enabledService c "wfb_video_tx").map fun s => s.exec :: s.args).getD
        (wfbArgs c .videoTx iface droneKey)) :=
  seed_argv (p := wfbSpec "wfb_video_tx" _ []) List.mem_cons_self

theorem seed_argv_msposd (iface : String) (hr : c.telemetry.router = "msposd") :
    ((seedOrchestrator c iface).spec? "msposd").map SupervisedSpec.argv =
      some (((enabledService c "msposd").map fun s => s.exec :: s.args).getD (telemetryArgs c)) := by
  have hprobe : named "msposd" (if probeOn c then probeSpecs c iface else []) = none := by
    rw [named_eq_none]
    have hdisj : ∀ n ∈ ["probe-tx", "probe-feed"], n ≠ "msposd" := by decide
    split_ifs
    · exact fun s hs => hdisj _ (probeSpecs_name hs)
    · simp
  have htel : named "msposd" (telemetrySpecs c) =
      some (wfbSpec "msposd" (telemetryArgs c) ["wfb_tlm_rx", "wfb_tlm_tx"]) := by
    simp [telemetrySpecs, telemetryName, telemetryArgs, hr, named, wfbSpec]
  rw [seed_spec?, hprobe, Option.none_or, named_append, htel, Option.some_or]
  cases enabledService c "msposd" <;> rfl

def Agrees (c : Config) (name : String) (argv : List String) : Prop :=
  ∀ svc ∈ enabledService c name, svc.exec :: svc.args = argv

instance (c : Config) (name : String) (argv : List String) : Decidable (Agrees c name argv) :=
  inferInstanceAs (Decidable (∀ svc ∈ enabledService c name, _))

theorem Agrees.getD {c : Config} {name : String} {argv : List String} (h : Agrees c name argv) :
    ((enabledService c name).map fun svc => svc.exec :: svc.args).getD argv = argv := by
  cases hs : enabledService c name with
  | none => rfl
  | some svc => exact h svc hs

end Argv

end Fpvd
