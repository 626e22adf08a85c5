import Mathlib.Tactic
import Fpvd.Lib.Run

/-!
# Fpvd.Wfb.AggQueue — the aggregation queue of the uplinks (`gs/fpvdgs/wfb/agg_queue.py`)

Messages are joined into batches of a limited size, and a timer sends what is queued.  The state has the
queue with the handle of its timer, and the event loop: the clock, the timers that are armed and have
neither fired nor been cancelled, and what was sent.
-/

namespace Fpvd.Wfb

/-- The arguments of `AggQueue`; `None` for either is the passthrough mode, as is a timeout of zero. -/
structure AggConfig where
  maxSize : Option ℕ
  timeoutS : Option ℚ
  deriving DecidableEq, Repr

def AggConfig.aggregates (c : AggConfig) : Option (ℕ × ℚ) :=
  match c.maxSize, c.timeoutS with
  | some maxSize, some timeout => if timeout = 0 then none else some (maxSize, timeout)
  | _, _ => none

structure Timer where
  id : ℕ
  due : ℚ
  deriving DecidableEq, Repr

structure Queued where
  since : ℚ
  data : List UInt8
  deriving DecidableEq, Repr

structure AggQueue where
  queue : List Queued := []
  queueSize : ℕ := 0
  /-- the handle of the timer that was armed last -/
  timer : Option ℕ := none
  now : ℚ := 0
  created : ℕ := 0
  pending : List Timer := []
  sent : List (List UInt8) := []
  deriving DecidableEq, Repr

namespace AggQueue

def joined (q : AggQueue) : List UInt8 := (q.queue.map Queued.data).flatten

def cancelTimer (q : AggQueue) : AggQueue :=
  { q with pending := q.pending.filter fun t => some t.id ≠ q.timer, timer := none }

def sendQueue (q : AggQueue) : AggQueue :=
  { q with sent := q.sent ++ [q.joined], queue := [], queueSize := 0 }

def armTimer (timeout : ℚ) (q : AggQueue) : AggQueue :=
  { q with
    timer := some q.created
    created := q.created + 1
    pending := q.pending ++ [⟨q.created, q.now + timeout⟩] }

def makeRoom (maxSize : ℕ) (data : List UInt8) (q : AggQueue) : AggQueue :=
  if q.queueSize + data.length > maxSize then
    if q.queue = [] then q.cancelTimer else q.cancelTimer.sendQueue
  else q

def enqueue (timeout : ℚ) (data : List UInt8) (q : AggQueue) : AggQueue :=
  let q := { q with queue := q.queue ++ [⟨q.now, data⟩], queueSize := q.queueSize + data.length }
  if q.timer = none then q.armTimer timeout else q

def put (c : AggConfig) (data : List UInt8) (q : AggQueue) : AggQueue :=
  match c.aggregates with
  | none => { q with sent := q.sent ++ [data] }
  | some (maxSize, timeout) =>
    if data.length > maxSize then q else (q.makeRoom maxSize data).enqueue timeout data

def flush (q : AggQueue) : AggQueue := if q.queueSize > 0 then q.cancelTimer.sendQueue else q

def expire (id : ℕ) (q : AggQueue) : AggQueue :=
  if id ∈ q.pending.map Timer.id then flush { q with pending := q.pending.filter fun t => t.id ≠ id }
  else q

end AggQueue

/-- A call, or what the event loop does; time does not go back. -/
inductive AggInput where
  | put (data : List UInt8)
  | expire (id : ℕ)
  | flush
  | wait (d : ℚ≥0)

def AggQueue.step (c : AggConfig) (q : AggQueue) : AggInput → AggQueue
  | .put data => q.put c data
  | .expire id => q.expire id
  | .flush => q.flush
  | .wait d => { q with now := q.now + d }

/-! ## The timer of what is queued -/

/-- Where a byte is queued a timer is pending, and for each message with a byte one that is due within the
timeout. -/
structure HasTimer (timeout : ℚ) (q : AggQueue) : Prop where
  pending : q.joined ≠ [] → ∃ t, t ∈ q.pending
  inTime : ∀ m ∈ q.queue, m.data ≠ [] → ∃ t ∈ q.pending, t.due ≤ m.since + timeout

def Spent (q : AggQueue) : Prop := q.timer.isSome = true ∧ q.pending = []

instance (q : AggQueue) : Decidable (Spent q) := inferInstanceAs (Decidable (_ ∧ _))

/-- No message with a byte that fits comes while the handle is spent. -/
def Rearms (maxSize : ℕ) (q : AggQueue) : AggInput → Prop
  | .put data => Spent q → data = [] ∨ data.length > maxSize
  | _ => True

instance (maxSize : ℕ) (q : AggQueue) : DecidablePred (Rearms maxSize q)
  | .put data => inferInstanceAs (Decidable (Spent q → data = [] ∨ data.length > maxSize))
  | .expire _ | .flush | .wait _ => inferInstanceAs (Decidable True)

structure Sound (timeout : ℚ) (q : AggQueue) : Prop where
  size : q.queueSize = q.joined.length
  idle : q.timer = none → q.queue = [] ∧ q.pending = []
  handle : ∀ t ∈ q.pending, q.timer = some t.id
  due : ∀ t ∈ q.pending, t.due ≤ q.now + timeout
  dueFor : ∀ m ∈ q.queue, ∀ t ∈ q.pending, t.due ≤ m.since + timeout

section Sound

open AggQueue

variable {timeout : ℚ} {maxSize : ℕ} {q : AggQueue} {data : List UInt8}

theorem joined_concat {q' : AggQueue} {m : Queued} (h : q'.queue = q.queue ++ [m]) :
    q'.joined = q.joined ++ m.data := by
  simp [joined, h]

theorem cancelTimer_pending (h : Sound timeout q) : q.cancelTimer.pending = [] :=
  List.filter_eq_nil_iff.mpr fun t ht => by simp [h.handle t ht]

theorem Sound.sendQueue (h : Sound timeout q) : Sound timeout q.cancelTimer.sendQueue := by
  have hpending : q.cancelTimer.sendQueue.pending = [] := cancelTimer_pending h
  refine ⟨rfl, fun _ => ⟨rfl, hpending⟩, ?_, ?_, fun m hm => ?_⟩
  · rw [hpending]
    exact nofun
  · rw [hpending]
    exact nofun
  · cases hm

theorem Sound.flush (h : Sound timeout q) : Sound timeout q.flush := by
  unfold AggQueue.flush
  split_ifs
  · exact h.sendQueue
  · exact h

theorem queue_ne_nil (h : Sound timeout q) (hpos : q.queueSize > 0) : q.queue ≠ [] := by
  intro hnil
  rw [h.size, joined, hnil] at hpos
  exact absurd hpos (by simp)

theorem makeRoom_full (h : Sound timeout q) (hlen : ¬ data.length > maxSize)
    (hfull : q.queueSize + data.length > maxSize) :
    q.makeRoom maxSize data = q.cancelTimer.sendQueue := by
  rw [makeRoom, if_pos hfull, if_neg (queue_ne_nil h (by omega))]

theorem Sound.makeRoom (h : Sound timeout q) (hlen : ¬ data.length > maxSize) :
    Sound timeout (q.makeRoom maxSize data) := by
  by_cases hfull : q.queueSize + data.length > maxSize
  · rw [makeRoom_full h hlen hfull]
    exact h.sendQueue
  · rwa [AggQueue.makeRoom, if_neg hfull]

theorem enqueue_idle (h : Sound timeout q) (htimer : q.timer = none) :
    q.enqueue timeout data =
      { q with
        queue := [⟨q.now, data⟩]
        queueSize := data.length
        timer := some q.created
        created := q.created + 1
        pending := [⟨q.created, q.now + timeout⟩] } := by
  obtain ⟨hqueue, hpending⟩ := h.idle htimer
  have hsize : q.queueSize = 0 := by rw [h.size, joined, hqueue]; rfl
  simp [enqueue, armTimer, htimer, hqueue, hpending, hsize]

theorem enqueue_armed (htimer : q.timer ≠ none) : q.enqueue timeout data =
    { q with queue := q.queue ++ [⟨q.now, data⟩], queueSize := q.queueSize + data.length } :=
  if_neg htimer

theorem Sound.enqueue (h : Sound timeout q) : Sound timeout (q.enqueue timeout data) := by
  by_cases htimer : q.timer = none
  · rw [enqueue_idle h htimer]
    constructor
    · simp [joined]
    · exact nofun
    · intro t ht
      rw [List.mem_singleton.mp ht]
    · intro t ht
      rw [List.mem_singleton.mp ht]
    · intro m hm t ht
      rw [List.mem_singleton.mp hm, List.mem_singleton.mp ht]
  · rw [enqueue_armed htimer]
    constructor
    · rw [joined_concat rfl, List.length_append, ← h.size]
    · intro hnone
      exact absurd hnone htimer
    · exact h.handle
    · exact h.due
    · intro m hm t ht
      rcases List.mem_append.mp hm with hm | hm
      · exact h.dueFor m hm t ht
      · rw [List.mem_singleton.mp hm]
        exact h.due t ht

theorem Sound.fired (h : Sound timeout q) (id : ℕ) :
    Sound timeout { q with pending := q.pending.filter fun t => t.id ≠ id } := by
  refine ⟨h.size, fun hnone => ?_, fun t ht => ?_, fun t ht => ?_, fun m hm t ht => ?_⟩
  · obtain ⟨hqueue, hpending⟩ := h.idle hnone
    exact ⟨hqueue, by simp [hpending]⟩
  · exact h.handle t (List.mem_filter.mp ht).1
  · exact h.due t (List.mem_filter.mp ht).1
  · exact h.dueFor m hm t (List.mem_filter.mp ht).1

theorem Sound.step (ht : timeout ≠ 0) (h : Sound timeout q) (i : AggInput) :
    Sound timeout (q.step ⟨some maxSize, some timeout⟩ i) := by
  cases i with
  | put data =>
    show Sound timeout (q.put _ data)
    have hagg : AggConfig.aggregates ⟨some maxSize, some timeout⟩ = some (maxSize, timeout) := if_neg ht
    rw [AggQueue.put, hagg]
    dsimp only
    split_ifs with hlen
    · exact h
    · exact (h.makeRoom hlen).enqueue
  | expire id =>
    show Sound timeout (q.expire id)
    unfold AggQueue.expire
    split_ifs
    · exact (h.fired id).flush
    · exact h
  | flush => exact h.flush
  | wait d =>
    refine ⟨h.size, h.idle, h.handle, fun t ht => ?_, h.dueFor⟩
    have hd : (0 : ℚ) ≤ d := d.2
    have hdue := h.due t ht
    show t.due ≤ q.now + d + timeout
    linarith

theorem hasTimer_of_sound (h : Sound timeout q) :
    HasTimer timeout q ↔ (q.joined ≠ [] → q.pending ≠ []) := by
  constructor
  · intro hq hjoined
    obtain ⟨t, ht⟩ := hq.pending hjoined
    exact List.ne_nil_of_mem ht
  · intro hq
    refine ⟨fun hjoined => List.exists_mem_of_ne_nil _ (hq hjoined), fun m hm hdata => ?_⟩
    have hjoined : q.joined ≠ [] := by
      intro hnil
      exact hdata (List.flatten_eq_nil_iff.mp hnil _ (List.mem_map_of_mem hm))
    obtain ⟨t, ht⟩ := List.exists_mem_of_ne_nil _ (hq hjoined)
    exact ⟨t, ht, h.dueFor m hm t ht⟩

theorem hasTimer_sendQueue (h : Sound timeout q) : HasTimer timeout q.cancelTimer.sendQueue :=
  (hasTimer_of_sound h.sendQueue).mpr fun hjoined => absurd rfl hjoined

theorem hasTimer_flush (h : Sound timeout q) : HasTimer timeout q.flush := by
  unfold AggQueue.flush
  split_ifs with hsize
  · exact hasTimer_sendQueue h
  · refine (hasTimer_of_sound h).mpr fun hjoined => absurd ?_ hjoined
    exact List.eq_nil_of_length_eq_zero (by rw [← h.size]; omega)

theorem hasTimer_enqueue (h : Sound timeout q) (hq : HasTimer timeout q) :
    HasTimer timeout (q.enqueue timeout data) ↔ (Spent q → data = []) := by
  rw [hasTimer_of_sound h.enqueue]
  by_cases htimer : q.timer = none
  · rw [enqueue_idle h htimer]
    refine iff_of_true (fun _ => List.cons_ne_nil _ _) fun hspent => ?_
    have hsome := hspent.1
    rw [htimer] at hsome
    cases hsome
  · rw [enqueue_armed htimer]
    rw [joined_concat rfl]
    have hq := (hasTimer_of_sound h).mp hq
    by_cases hpending : q.pending = []
    · have hjoined : q.joined = [] := by
        by_contra hne
        exact hq hne hpending
      have hspent : Spent q := ⟨Option.isSome_iff_ne_none.mpr htimer, hpending⟩
      rw [hjoined, List.nil_append]
      constructor
      · intro himp _
        by_contra hdata
        exact himp hdata hpending
      · intro himp hdata
        exact absurd (himp hspent) hdata
    · exact iff_of_true (fun _ => hpending) fun hspent => absurd hspent.2 hpending

theorem hasTimer_step (ht : timeout ≠ 0) (h : Sound timeout q) (hq : HasTimer timeout q) (i : AggInput) :
    HasTimer timeout (q.step ⟨some maxSize, some timeout⟩ i) ↔ Rearms maxSize q i := by
  cases i with
  | put data =>
    have hagg : AggConfig.aggregates ⟨some maxSize, some timeout⟩ = some (maxSize, timeout) := if_neg ht
    show HasTimer timeout (q.put _ data) ↔ (Spent q → data = [] ∨ data.length > maxSize)
    rw [AggQueue.put, hagg]
    dsimp only
    by_cases hlen : data.length > maxSize
    · rw [if_pos hlen]
      exact iff_of_true hq fun _ => .inr hlen
    · rw [if_neg hlen, or_iff_left hlen]
      by_cases hfull : q.queueSize + data.length > maxSize
      · rw [makeRoom_full h hlen hfull]
        refine iff_of_true ?_ fun hspent => ?_
        · refine (hasTimer_enqueue h.sendQueue (hasTimer_sendQueue h)).mpr fun hspent => ?_
          cases hspent.1
        · -- a full queue has a byte, so its handle is not spent
          have hjoined : q.joined ≠ [] := by
            intro hnil
            have hsize := h.size
            rw [hnil, List.length_nil] at hsize
            omega
          exact absurd hspent.2 ((hasTimer_of_sound h).mp hq hjoined)
      · rw [AggQueue.makeRoom, if_neg hfull]
        exact hasTimer_enqueue h hq
  | expire id =>
    refine iff_of_true ?_ trivial
    show HasTimer timeout (q.expire id)
    unfold AggQueue.expire
    split_ifs
    · exact hasTimer_flush (h.fired id)
    · exact hq
  | flush => exact iff_of_true (hasTimer_flush h) trivial
  | wait d => exact iff_of_true ⟨hq.pending, hq.inTime⟩ trivial

end Sound

/-- **Queued data has a live timer**, in every state of a run in aggregation mode, just when no message
with a byte that fits comes while the handle is spent. -/
theorem hasTimer_iff (maxSize : ℕ) (timeout : ℚ) (ht : timeout ≠ 0) (inputs : List AggInput) :
    Run.Meets (AggQueue.step ⟨some maxSize, some timeout⟩) (Rearms maxSize) {} inputs ↔
      ∀ before, before <+: inputs →
        HasTimer timeout (before.foldl (AggQueue.step ⟨some maxSize, some timeout⟩) {}) := by
  have hsound : Sound timeout {} := ⟨rfl, fun _ => ⟨rfl, rfl⟩, nofun, nofun, nofun⟩
  have hstart : HasTimer timeout {} := ⟨fun hne => absurd rfl hne, nofun⟩
  exact Run.meets_iff_throughout hsound (fun _ i h => h.step ht i) hstart
    (fun _ i h hq => hasTimer_step ht h hq i) inputs

/-- The defaults of the MAVLink service. -/
theorem hasTimer_mavlink : HasTimer (1 / 10)
    ([.put [1], .wait (1 / 20), .put [2]].foldl (AggQueue.step ⟨some 1445, some (1 / 10)⟩) {}) :=
  (hasTimer_iff 1445 (1 / 10) (by norm_num) [.put [1], .wait (1 / 20), .put [2]]).mp
    (by decide +kernel) _ (List.prefix_refl _)

/-- **An empty message, its timer, and a message of one byte**: the byte waits without a timer. -/
theorem empty_message_stalls :
    let q := [AggInput.put [], .expire 0, .put [1]].foldl (AggQueue.step ⟨some 1445, some (1 / 10)⟩) {}
    q.joined = [1] ∧ q.pending = [] := by
  decide +kernel

end Fpvd.Wfb
