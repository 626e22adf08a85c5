import Fpvd.DynLink.WireCodec

/-!
# Fpvd.Translate.WfbControl — the client of a `wfb_tx` control socket

`drone/src/translate/wfb_control.cpp`, with the packets of `wfb_cmd.h`.  `setRadio` and `setFec` send one
numbered datagram and wait for the reply with its number.

* `Link`: the client, the `wfb_tx` at the other end, and all datagrams sent between them.  The channel may
  hand over any datagram that was ever sent, in any order, any number of times, or never.

`wfb_tx` is what the client assumes of it: it executes requests that it receives, with a result code that
it chooses, and answers any of them with that code.
-/

namespace Fpvd

open DynLink (putU32 getU32 getU32_putU32)

abbrev Datagram := List UInt8

/-! ## Packets -/

/-- A command with its arguments: the union of `WfbCmdReq`. -/
inductive WfbCmd where
  | setFec (k n : UInt8)
  | setRadio (stbc : UInt8) (ldpc shortGi : Bool) (bandwidth mcs : UInt8) (vhtMode : Bool)
      (vhtNss : UInt8)
  deriving DecidableEq, Repr

structure WfbCmdReq where
  reqId : UInt32
  cmd : WfbCmd
  deriving DecidableEq, Repr

structure WfbCtlResult where
  ok : Bool := false
  error : String := ""
  deriving DecidableEq, Repr

def kWfbCmdSetFec : UInt8 := 1

def kWfbCmdSetRadio : UInt8 := 2

namespace WfbCmd

def cmdId : WfbCmd → UInt8
  | .setFec .. => kWfbCmdSetFec
  | .setRadio .. => kWfbCmdSetRadio

def label : WfbCmd → String
  | .setFec .. => "set_fec"
  | .setRadio .. => "set_radio"

def boolByte (b : Bool) : UInt8 := if b then 1 else 0

def args : WfbCmd → List UInt8
  | .setFec k n => [k, n]
  | .setRadio stbc ldpc shortGi bandwidth mcs vhtMode vhtNss =>
    [stbc, boolByte ldpc, boolByte shortGi, bandwidth, mcs, boolByte vhtMode, vhtNss]

def ofArgs (cmdId : UInt8) (args : List UInt8) : Option WfbCmd :=
  if cmdId = kWfbCmdSetFec then
    match args with
    | [k, n] => some (.setFec k n)
    | _ => none
  else if cmdId = kWfbCmdSetRadio then
    match args with
    | [stbc, ldpc, shortGi, bandwidth, mcs, vhtMode, vhtNss] =>
      some (.setRadio stbc (ldpc != 0) (shortGi != 0) bandwidth mcs (vhtMode != 0) vhtNss)
    | _ => none
  else none

theorem boolByte_ne_zero (b : Bool) : (boolByte b != 0) = b := by
  cases b <;> rfl

theorem ofArgs_args (c : WfbCmd) : ofArgs c.cmdId c.args = some c := by
  cases c with
  | setFec k n => rfl
  | setRadio stbc ldpc shortGi bandwidth mcs vhtMode vhtNss =>
    show some (WfbCmd.setRadio stbc (boolByte ldpc != 0) (boolByte shortGi != 0) bandwidth mcs
      (boolByte vhtMode != 0) vhtNss) = _
    rw [boolByte_ne_zero, boolByte_ne_zero, boolByte_ne_zero]

end WfbCmd

namespace WfbCmdReq

def bytes (r : WfbCmdReq) : Datagram := putU32 r.reqId ++ r.cmd.cmdId :: r.cmd.args

def ofBytes (d : Datagram) : Option WfbCmdReq :=
  match d.drop 4 with
  | cmdId :: args => (WfbCmd.ofArgs cmdId args).map (⟨getU32 d 0, ·⟩)
  | [] => none

theorem ofBytes_bytes (r : WfbCmdReq) : ofBytes r.bytes = some r := by
  have hdrop : r.bytes.drop 4 = r.cmd.cmdId :: r.cmd.args := rfl
  rw [ofBytes, hdrop, bytes, getU32_putU32]
  dsimp only
  rw [WfbCmd.ofArgs_args]
  rfl

end WfbCmdReq

def respBytes (reqId rc : UInt32) (payload : List UInt8) : Datagram :=
  putU32 reqId ++ (putU32 rc ++ payload)

def respSize : ℕ := 15

def respHeader : ℕ := 8

theorem respBytes_take (reqId rc : UInt32) (payload : List UInt8) :
    (respBytes reqId rc payload).take respSize = respBytes reqId rc (payload.take 7) := rfl

theorem getU32_respBytes (reqId rc : UInt32) (payload : List UInt8) :
    getU32 (respBytes reqId rc payload) 0 = reqId ∧ getU32 (respBytes reqId rc payload) 4 = rc :=
  ⟨getU32_putU32 _ _, DynLink.getU32_append (putU32 reqId) payload rc⟩

/-! ## The two ends and the channel -/

namespace WfbControl

structure Link where
  /-- the socket could not be opened -/
  openError : Option String := none
  /-- `reqId_` -/
  reqId : UInt32 := 1
  /-- the request that a call waits for -/
  waiting : Option WfbCmdReq := none
  /-- the datagrams that wait in the client's socket -/
  inbox : List Datagram := []
  /-- the requests made, and what the calls returned -/
  issued : List WfbCmdReq := []
  returned : List (WfbCmdReq × WfbCtlResult) := []
  /-- every datagram sent to `wfb_tx`, and by it -/
  sent : List Datagram := []
  replies : List Datagram := []
  /-- what `wfb_tx` has executed, with the result -/
  executed : List (WfbCmdReq × UInt32) := []
  deriving DecidableEq, Repr

namespace Link

def drain : List Datagram → List Datagram
  | [] => []
  | d :: ds => if d.length > 0 then drain ds else ds

def giveBack (req : WfbCmdReq) (ok : Bool) (error : String) (s : Link) : Link :=
  { s with waiting := none, returned := s.returned ++ [(req, ⟨ok, error⟩)] }

def call (cmd : WfbCmd) (sendOk : Bool) (s : Link) : Link :=
  let req : WfbCmdReq := ⟨s.reqId, cmd⟩
  let s := { s with reqId := s.reqId + 1, issued := s.issued ++ [req] }
  match s.openError with
  | some e => s.giveBack req false (cmd.label ++ ": " ++ e)
  | none =>
    let s := { s with inbox := drain s.inbox }
    if sendOk then { s with sent := s.sent ++ [req.bytes], waiting := some req }
    else s.giveBack req false (cmd.label ++ ": send failed")

def handle (req : WfbCmdReq) (d : Datagram) (s : Link) : Link :=
  let resp := d.take respSize
  if resp.length < respHeader then s.giveBack req false (req.cmd.label ++ ": short reply")
  else if getU32 resp 0 ≠ req.reqId then s
  else
    let rc := getU32 resp 4
    if rc ≠ 0 then s.giveBack req false (req.cmd.label ++ ": rc=" ++ toString rc.toNat)
    else s.giveBack req true ""

def serve (d : Datagram) (rc : UInt32) (answer : Option (List UInt8)) (s : Link) : Link :=
  match WfbCmdReq.ofBytes d with
  | none => s
  | some req =>
    { s with
      executed := s.executed ++ [(req, rc)]
      replies := s.replies ++ (answer.map (respBytes req.reqId rc)).toList }

/-- What happens next: a call of the client, the outcome of its `recv`, or the channel handing over the
`i`-th datagram of either direction. -/
inductive Act where
  | call (cmd : WfbCmd) (sendOk : Bool)
  | recv
  | timeout
  | deliver (i : ℕ)
  | serve (i : ℕ) (rc : UInt32) (answer : Option (List UInt8))
  deriving DecidableEq, Repr

def step (s : Link) : Act → Link
  -- the client has one call at a time
  | .call cmd sendOk => if s.waiting.isSome then s else s.call cmd sendOk
  | .recv =>
    match s.waiting, s.inbox with
    | some req, d :: ds => { s with inbox := ds }.handle req d
    | _, _ => s
  | .timeout =>
    match s.waiting with
    | some req => s.giveBack req false (req.cmd.label ++ ": timeout")
    | none => s
  | .deliver i => { s with inbox := s.inbox ++ s.replies[i]?.toList }
  | .serve i rc answer =>
    match s.sent[i]? with
    | some d => s.serve d rc answer
    | none => s

/-! ## Where datagrams come from -/

/-- **What holds in every run.** -/
structure Sound (s : Link) : Prop where
  next : s.reqId = UInt32.ofNat (s.issued.length + 1)
  numbered : ∀ k r, s.issued[k]? = some r → r.reqId = UInt32.ofNat (k + 1)
  sent : ∀ d ∈ s.sent, ∃ r ∈ s.issued, d = r.bytes
  executed : ∀ e ∈ s.executed, e.1 ∈ s.issued
  replies : ∀ d ∈ s.replies, ∃ e ∈ s.executed, ∃ payload, d = respBytes e.1.reqId e.2 payload
  inbox : ∀ d ∈ s.inbox, d ∈ s.replies
  waiting : ∀ r, s.waiting = some r → r ∈ s.issued
  returned : s.issued.length < 2 ^ 32 → ∀ e ∈ s.returned, e.2.ok = true → (e.1, 0) ∈ s.executed

theorem Sound.eq_of_reqId {s : Link} (h : s.Sound) (hlen : s.issued.length < 2 ^ 32) {r r' : WfbCmdReq}
    (hr : r ∈ s.issued) (hr' : r' ∈ s.issued) (hid : r.reqId = r'.reqId) : r = r' := by
  obtain ⟨k, hk, rfl⟩ := List.mem_iff_getElem.mp hr
  obtain ⟨k', hk', rfl⟩ := List.mem_iff_getElem.mp hr'
  rw [h.numbered k _ (List.getElem?_eq_getElem hk), h.numbered k' _ (List.getElem?_eq_getElem hk')] at hid
  have hmod := congrArg UInt32.toNat hid
  simp only [UInt32.toNat_ofNat'] at hmod
  have hkk : k = k' := by omega
  subst hkk
  rfl

section Steps

variable {s : Link} {req : WfbCmdReq}

theorem Sound.giveBack (h : s.Sound) {ok : Bool} {error : String}
    (hok : ok = true → s.issued.length < 2 ^ 32 → (req, 0) ∈ s.executed) :
    (s.giveBack req ok error).Sound := by
  refine ⟨h.next, h.numbered, h.sent, h.executed, h.replies, h.inbox, by simp [Link.giveBack], ?_⟩
  intro hlen e he heok
  rcases List.mem_append.mp he with he | he
  · exact h.returned hlen e he heok
  · obtain rfl := List.mem_singleton.mp he
    exact hok heok hlen

theorem Sound.issue (h : s.Sound) (cmd : WfbCmd) :
    { s with reqId := s.reqId + 1, issued := s.issued ++ [WfbCmdReq.mk s.reqId cmd] }.Sound := by
  have hmem : ∀ {r}, r ∈ s.issued → r ∈ s.issued ++ [WfbCmdReq.mk s.reqId cmd] :=
    List.mem_append_left _
  refine ⟨?_, fun k r hk => ?_, fun d hd => ?_, fun e he => hmem (h.executed e he), h.replies, h.inbox,
    fun r hr => hmem (h.waiting r hr), fun hlen => h.returned ?_⟩
  · dsimp only
    rw [h.next, List.length_append, List.length_singleton, UInt32.ofNat_add (s.issued.length + 1)]
    rfl
  · rw [List.getElem?_append] at hk
    split at hk
    · exact h.numbered k r hk
    · next hge =>
      obtain rfl : k = s.issued.length := by
        by_contra hne
        have hk0 : k - s.issued.length ≠ 0 := by omega
        simp [hk0] at hk
      rw [Nat.sub_self, List.getElem?_cons_zero, Option.some.injEq] at hk
      rw [← hk]
      exact h.next
  · obtain ⟨r, hr, hd⟩ := h.sent d hd
    exact ⟨r, hmem hr, hd⟩
  · rw [List.length_append] at hlen
    omega

theorem mem_drain {d : Datagram} : ∀ {ds : List Datagram}, d ∈ drain ds → d ∈ ds
  | [], h => h
  | d' :: ds, h => by
    unfold drain at h
    split at h
    · exact List.mem_cons_of_mem d' (mem_drain h)
    · exact List.mem_cons_of_mem d' h

theorem call_sound (h : s.Sound) (cmd : WfbCmd) (sendOk : Bool) : (s.call cmd sendOk).Sound := by
  have hissued := h.issue cmd
  unfold call
  dsimp only
  split
  · exact hissued.giveBack (by simp)
  · have hdrained : { s with
        reqId := s.reqId + 1, issued := s.issued ++ [WfbCmdReq.mk s.reqId cmd]
        inbox := drain s.inbox }.Sound :=
      ⟨hissued.next, hissued.numbered, hissued.sent, hissued.executed, hissued.replies,
        fun d hd => hissued.inbox d (mem_drain hd), hissued.waiting, hissued.returned⟩
    split
    · refine ⟨hdrained.next, hdrained.numbered, fun d hd => ?_, hdrained.executed, hdrained.replies,
        hdrained.inbox, fun r hr => ?_, hdrained.returned⟩
      · rcases List.mem_append.mp hd with hd | hd
        · exact hdrained.sent d hd
        · exact ⟨⟨s.reqId, cmd⟩, by simp, List.mem_singleton.mp hd⟩
      · obtain rfl := Option.some.inj hr
        simp
    · exact hdrained.giveBack (by simp)

theorem handle_sound (h : s.Sound) (hreq : req ∈ s.issued) {d : Datagram} (hd : d ∈ s.replies) :
    (s.handle req d).Sound := by
  obtain ⟨e, he, payload, rfl⟩ := h.replies d hd
  obtain ⟨hid, hrc⟩ := getU32_respBytes e.1.reqId e.2 (payload.take 7)
  unfold handle
  rw [respBytes_take]
  dsimp only
  rw [hid, hrc]
  split
  · exact h.giveBack (by simp)
  · split
    · exact h
    · next hmatch =>
      split
      · exact h.giveBack (by simp)
      · next hzero =>
        refine h.giveBack fun _ hlen => ?_
        have hsame : e.1 = req := h.eq_of_reqId hlen (h.executed e he) hreq (not_not.mp hmatch)
        have hpair : e = (req, 0) := Prod.ext hsame (not_not.mp hzero)
        exact hpair ▸ he

theorem serve_sound (h : s.Sound) {d : Datagram} (hd : d ∈ s.sent) (rc : UInt32)
    (answer : Option (List UInt8)) : (s.serve d rc answer).Sound := by
  obtain ⟨r, hr, rfl⟩ := h.sent d hd
  unfold serve
  rw [WfbCmdReq.ofBytes_bytes]
  refine ⟨h.next, h.numbered, h.sent, fun e he => ?_, fun d hd => ?_,
    fun d hd => List.mem_append_left _ (h.inbox d hd), h.waiting,
    fun hlen e he hok => List.mem_append_left _ (h.returned hlen e he hok)⟩
  · rcases List.mem_append.mp he with he | he
    · exact h.executed e he
    · obtain rfl := List.mem_singleton.mp he
      exact hr
  · rcases List.mem_append.mp hd with hd | hd
    · obtain ⟨e, he, payload, hd⟩ := h.replies d hd
      exact ⟨e, List.mem_append_left _ he, payload, hd⟩
    · obtain ⟨payload, -, rfl⟩ := Option.map_eq_some_iff.mp (Option.mem_toList.mp hd)
      exact ⟨(r, rc), by simp, payload, rfl⟩

theorem step_sound (h : s.Sound) (a : Act) : (s.step a).Sound := by
  cases a with
  | call cmd sendOk =>
    simp only [step]
    split
    · exact h
    · exact call_sound h cmd sendOk
  | recv =>
    simp only [step]
    split
    · next req d ds hwait hinbox =>
      have hrest : { s with inbox := ds }.Sound :=
        ⟨h.next, h.numbered, h.sent, h.executed, h.replies,
          fun d' hd' => h.inbox d' (hinbox ▸ List.mem_cons_of_mem d hd'), h.waiting, h.returned⟩
      exact handle_sound hrest (h.waiting req hwait) (h.inbox d (hinbox ▸ List.mem_cons_self))
    · exact h
  | timeout =>
    simp only [step]
    split
    · exact h.giveBack (by simp)
    · exact h
  | deliver i =>
    refine ⟨h.next, h.numbered, h.sent, h.executed, h.replies, fun d hd => ?_, h.waiting, h.returned⟩
    rcases List.mem_append.mp hd with hd | hd
    · exact h.inbox d hd
    · exact List.mem_of_getElem? (Option.mem_toList.mp hd)
  | serve i rc answer =>
    simp only [step]
    split
    · next d hget => exact serve_sound h (List.mem_of_getElem? hget) rc answer
    · exact h

theorem boot_sound (openError : Option String) : ({ openError := openError } : Link).Sound := by
  refine ⟨rfl, ?_, ?_, ?_, ?_, ?_, ?_, ?_⟩ <;> simp

end Steps

/-- **No mistaken acknowledgement.**  In every run of the client, the channel and `wfb_tx` with fewer than
2³² requests: a call that returned ok had its own request, with its number, command and arguments,
executed with result 0. -/
theorem no_mistaken_ack (openError : Option String) (acts : List Act)
    (hlen : (acts.foldl step { openError := openError }).issued.length < 2 ^ 32) :
    ∀ e ∈ (acts.foldl step { openError := openError }).returned, e.2.ok = true →
      (e.1, 0) ∈ (acts.foldl step { openError := openError }).executed :=
  (List.foldlRecOn acts step (boot_sound openError) fun _ hs a _ => step_sound hs a).returned hlen

def lateReply : List Act :=
  [.call (.setFec 8 12) true, .timeout, .serve 0 1 (some []), .call (.setFec 6 12) true, .deliver 0,
    .recv, .serve 1 0 (some []), .deliver 1, .recv]

theorem lateReply_ack :
    let s := lateReply.foldl step {}
    s.returned = [(⟨1, .setFec 8 12⟩, ⟨false, "set_fec: timeout"⟩), (⟨2, .setFec 6 12⟩, ⟨true, ""⟩)] ∧
      s.issued.length < 2 ^ 32 ∧
      ∀ e ∈ s.returned, e.2.ok = true → (e.1, 0) ∈ s.executed :=
  ⟨by decide +kernel, by decide +kernel, no_mistaken_ack none lateReply (by decide +kernel)⟩

end Link

end WfbControl

end Fpvd
