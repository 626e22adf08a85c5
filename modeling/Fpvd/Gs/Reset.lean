import Fpvd.Gs.Follow

/-!
# Fpvd.Gs.Reset — `POST /gs/reset` and the services

A reset puts the store on the defaults and restarts the runner; it routes no other service.  So the
services are those of a boot on the defaults only if they were before (`reset_resets`).
-/

namespace Fpvd.Gs

open Json (normObj)

/-- Two configurations that PixelPilot cannot tell apart. -/
def SameRender (cfg cfg' : Dict) : Prop :=
  ∃ argv env argv' env', renderPixelpilotArgv cfg = .ok argv ∧ renderPixelpilotEnv cfg = .ok env ∧
    renderPixelpilotArgv cfg' = .ok argv' ∧ renderPixelpilotEnv cfg' = .ok env' ∧
    argv.map Json.norm = argv'.map Json.norm ∧ normObj env = normObj env'

/-- The services are already those of the defaults: no dynamic link, PixelPilot and the relay on,
PixelPilot with the default command line and the relay built for the default address and port. -/
structure AsDefaults (s : Sys) : Prop where
  dynlink : s.dynlink.running = false
  pixelpilot : onByDefault (block s.store.config "pixelpilot") = true
  render : SameRender s.store.config defaultConfig
  idrForward : onByDefault (block s.store.config "idrForward") = true
  host : s.idrRelay.host = .str "10.5.0.10"
  port : s.idrRelay.port = 11223

structure SameServices (s t : Sys) : Prop where
  dynlink : s.dynlink.running = t.dynlink.running
  snapshot : s.dynlink.running = true →
    Json.pyEq (.obj s.dynlink.snapshot) (.obj t.dynlink.snapshot) = true
  pixelpilot : s.pixelpilot.running = t.pixelpilot.running
  argv : s.pixelpilot.argv.map Json.norm = t.pixelpilot.argv.map Json.norm
  env : normObj s.pixelpilot.env = normObj t.pixelpilot.env
  idrRelay : s.idrRelay = t.idrRelay

section Reset

variable {pl : Platform} {o : Outcomes} {s d : Sys}

theorem reset_sys (h : (resetGs o s).answer.code = 200) :
    ∃ store runner, (resetGs o s).sys = { s with store, runner } ∧ store.config = s.store.defaults := by
  unfold resetGs at h ⊢
  cases hw : o.written with
  | false =>
    rw [hw] at h
    exact absurd (code_ok.mp h) nofun
  | true =>
    cases ho : o.restart with
    | returned ok => exact ⟨_, _, rfl, rfl⟩
    | raised e => exact ⟨_, _, rfl, rfl⟩

theorem settled_run {loaded : Dict} (hboot : boot pl loaded = .ok s) (qs : List Request)
    (hrun : Run.Meets (serve pl) (fun s q => (handle pl s q).answer.code = 200) s qs) :
    Settled (qs.foldl (serve pl) s) :=
  Run.Meets.invariant (fun _ _ hset hcode => settled_serve hset hcode) qs s (boot_ok hboot).2.1 hrun

theorem boot_defaults (h : boot pl [] = .ok d) :
    d.dynlink.running = false ∧ d.pixelpilot.running = true ∧ Rendered d.pixelpilot defaultConfig ∧
      d.idrRelay = { running := true, host := .str "10.5.0.10", port := 11223 } := by
  obtain ⟨hstore, hset, hport, hhost, -⟩ := boot_ok h
  have hcfg : d.store.config = defaultConfig := by
    rw [hstore]
    rfl
  have hrelay := hset.relay
  have hchild := hset.child
  have hoff := hset.dlOff
  have hrendered := hset.rendered
  rw [hcfg] at hport hhost hrelay hchild hoff hrendered
  refine ⟨hoff rfl, hchild.trans rfl, hrendered rfl, ?_⟩
  have hhost' : d.idrRelay.host = .str "10.5.0.10" := (Except.ok.inj hhost).symm
  have hport' : d.idrRelay.port = 11223 := (Except.ok.inj hport).symm
  have hruns : d.idrRelay.running = true := hrelay
  rw [← hhost', ← hport', ← hruns]

/-- **A reset leaves the services as a boot on the defaults does, if they are those of the defaults
already.**  This is after any run of accepted requests from any boot. -/
theorem reset_resets (pl : Platform) (loaded : Dict) (s d : Sys) (hboot : boot pl loaded = .ok s)
    (qs : List Request)
    (hrun : Run.Meets (serve pl) (fun s q => (handle pl s q).answer.code = 200) s qs)
    (o : Outcomes) (hcode : (resetGs o (qs.foldl (serve pl) s)).answer.code = 200)
    (hdefault : boot pl [] = .ok d) (hcond : AsDefaults (qs.foldl (serve pl) s)) :
    (resetGs o (qs.foldl (serve pl) s)).sys.store.config = defaultConfig ∧
      SameServices (resetGs o (qs.foldl (serve pl) s)).sys d := by
  have hset := settled_run hboot qs hrun
  generalize qs.foldl (serve pl) s = t at hset hcond hcode ⊢
  obtain ⟨hdl, hpp, hrendered, hidr⟩ := boot_defaults hdefault
  obtain ⟨store, runner, hsys, hconfig⟩ := reset_sys hcode
  rw [hsys]
  obtain ⟨argv, env, hargv, henv, hca, hce⟩ := hset.rendered hcond.pixelpilot
  obtain ⟨argv₀, env₀, hargv₀, henv₀, hda, hde⟩ := hrendered
  obtain ⟨argv₁, env₁, argv₂, env₂, h1, h2, h3, h4, hargvs, henvs⟩ := hcond.render
  rw [hargv] at h1
  rw [henv] at h2
  rw [hargv₀] at h3
  rw [henv₀] at h4
  cases h1
  cases h2
  cases h3
  cases h4
  refine ⟨hconfig.trans hset.defaults, ?_, ?_, ?_, ?_, ?_, ?_⟩
  · exact hcond.dynlink.trans hdl.symm
  · exact fun hon => absurd (hon.symm.trans hcond.dynlink) nofun
  · exact (hset.child.trans hcond.pixelpilot).trans hpp.symm
  · exact (hca.trans hargvs).trans hda.symm
  · exact (hce.trans henvs).trans hde.symm
  · rw [hidr, ← hcond.host, ← hcond.port, ← hset.relay.trans hcond.idrForward]

/-- A reset after the channel was changed. -/
theorem reset_resets_channel : ∃ s, boot plainPlatform [] = .ok s ∧
    let t := [.patch [("link", .obj [("channel", .int 149)])], .apply {}].foldl (serve plainPlatform) s
    t.store.config ≠ defaultConfig ∧ (resetGs {} t).sys.store.config = defaultConfig ∧
      SameServices (resetGs {} t).sys s := by
  let qs : List Request := [.patch [("link", .obj [("channel", .int 149)])], .apply {}]
  obtain ⟨s, hboot, hrun, hcode, hne, hdl, hpp, hargv, henv, hidr, hhost, hport⟩ :=
    exists_ok (x := boot plainPlatform []) (P := fun s =>
      Run.Meets (serve plainPlatform) (fun s q => (handle plainPlatform s q).answer.code = 200) s qs ∧
      let t := qs.foldl (serve plainPlatform) s
      (resetGs {} t).answer.code = 200 ∧ t.store.config ≠ defaultConfig ∧ t.dynlink.running = false ∧
        onByDefault (block t.store.config "pixelpilot") = true ∧
        renderPixelpilotArgv t.store.config = renderPixelpilotArgv defaultConfig ∧
        renderPixelpilotEnv t.store.config = renderPixelpilotEnv defaultConfig ∧
        onByDefault (block t.store.config "idrForward") = true ∧
        t.idrRelay.host = .str "10.5.0.10" ∧ t.idrRelay.port = 11223) (by decide +kernel)
  refine ⟨s, hboot, hne, reset_resets plainPlatform [] s s hboot qs hrun {} hcode hboot
    ⟨hdl, hpp, ⟨_, _, _, _, hargv, henv, rfl, rfl, rfl, rfl⟩, hidr, hhost, hport⟩⟩

/-- A reset while the dynamic link is on: the defaults have it off, and it goes on running. -/
theorem reset_forgets : ∃ s, boot plainPlatform [] = .ok s ∧
    let qs := [.patch [("dynamicLink", .obj [("enabled", .bool true)])], .apply {}]
    let t := qs.foldl (serve plainPlatform) s
    Run.Meets (serve plainPlatform) (fun s q => (handle plainPlatform s q).answer.code = 200) s qs ∧
      (resetGs {} t).answer.code = 200 ∧ (resetGs {} t).sys.store.config = s.store.config ∧
      (resetGs {} t).sys.dynlink.running = true ∧ s.dynlink.running = false ∧
      ¬ SameServices (resetGs {} t).sys s := by
  let qs : List Request := [.patch [("dynamicLink", .obj [("enabled", .bool true)])], .apply {}]
  obtain ⟨s, hboot, hrun, hcode, hconfig, hruns, hoff⟩ :=
    exists_ok (x := boot plainPlatform []) (P := fun s =>
      Run.Meets (serve plainPlatform) (fun s q => (handle plainPlatform s q).answer.code = 200) s qs ∧
      let t := qs.foldl (serve plainPlatform) s
      (resetGs {} t).answer.code = 200 ∧ (resetGs {} t).sys.store.config = s.store.config ∧
        (resetGs {} t).sys.dynlink.running = true ∧ s.dynlink.running = false) (by decide +kernel)
  refine ⟨s, hboot, hrun, hcode, hconfig, hruns, hoff, fun hsame => ?_⟩
  have hrunning := hsame.dynlink
  rw [hruns, hoff] at hrunning
  cases hrunning

end Reset

end Fpvd.Gs
