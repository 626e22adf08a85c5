import Fpvd.Config.Schema
import Fpvd.Lib.Digraph

/-!
# Fpvd.Supervise.Orchestrator — the set of supervised processes

`drone/src/supervise/orchestrator.cpp` and the data of `supervisor.hpp`.  `sups_` and `specs_` have
the same keys; the model keeps the specs, and starting or stopping a process is an event of the
daemon's log.
-/

namespace Fpvd

inductive RestartPolicy where
  | always
  | onFailure
  | never
  deriving DecidableEq, Repr

structure SupervisedSpec where
  name : String
  argv : List String
  env : OrdMap String String := ∅
  restart : RestartPolicy := .always
  startAfter : List String := []
  deriving DecidableEq, Repr

structure Orchestrator where
  specs : OrdMap String SupervisedSpec := ∅
  deriving DecidableEq, Repr

namespace Orchestrator

def add (spec : SupervisedSpec) (o : Orchestrator) : Orchestrator :=
  { specs := o.specs.insert spec.name spec }

def remove (name : String) (o : Orchestrator) : Orchestrator := { specs := o.specs.erase name }

def spec? (name : String) (o : Orchestrator) : Option SupervisedSpec := o.specs.find? name

def names (o : Orchestrator) : List String := o.specs.keys

def deps (o : Orchestrator) (name : String) : Option (List String) :=
  (o.spec? name).map SupervisedSpec.startAfter

def startOrder (o : Orchestrator) : Option (List String) :=
  let out := Digraph.kahn o.deps o.names
  if out.length = o.names.length then some out else none

def stopOrder (o : Orchestrator) : Option (List String) := o.startOrder.map List.reverse

def startAll (o : Orchestrator) : Option (List SupervisedSpec) :=
  o.startOrder.map fun order => order.filterMap o.spec?

variable (o : Orchestrator)

@[simp] theorem spec?_add (spec : SupervisedSpec) (n : String) :
    (o.add spec).spec? n = if n = spec.name then some spec else o.spec? n :=
  OrdMap.find?_insert n spec.name spec o.specs

@[simp] theorem spec?_remove (name n : String) :
    (o.remove name).spec? n = if n = name then none else o.spec? n :=
  OrdMap.find?_erase n name o.specs

theorem mem_names {o : Orchestrator} {n : String} : n ∈ o.names ↔ (o.spec? n).isSome :=
  OrdMap.mem_keys

theorem names_nodup : o.names.Nodup := o.specs.keys_nodup

theorem deps_isSome {o : Orchestrator} {n : String} : (o.deps n).isSome ↔ n ∈ o.names := by
  rw [mem_names, deps, Option.isSome_map]

def named (n : String) (l : List SupervisedSpec) : Option SupervisedSpec :=
  l.reverse.find? fun s => s.name = n

theorem named_append (n : String) (l l' : List SupervisedSpec) :
    named n (l ++ l') = (named n l').or (named n l) := by
  simp [named, List.find?_append]

theorem named_eq_none {n : String} {l : List SupervisedSpec} :
    named n l = none ↔ ∀ s ∈ l, s.name ≠ n := by
  simp [named]

theorem mem_of_named {n : String} {l : List SupervisedSpec} {s : SupervisedSpec}
    (h : named n l = some s) : s ∈ l ∧ s.name = n :=
  ⟨List.mem_reverse.mp (List.mem_of_find?_eq_some h), by simpa using List.find?_some h⟩

theorem spec?_addAll (n : String) (l : List SupervisedSpec) (o : Orchestrator) :
    (l.foldl (fun o s => o.add s) o).spec? n = (named n l).or (o.spec? n) := by
  induction l using List.reverseRecOn with
  | nil => rfl
  | append_singleton l s ih =>
    rw [List.foldl_append, List.foldl_cons, List.foldl_nil, spec?_add, named_append, ih]
    by_cases h : n = s.name
    · simp [named, h]
    · simp [named, h, Ne.symm h]

theorem startOrder_isSome_iff :
    o.startOrder.isSome ↔ ∀ n, ¬ Relation.TransGen (Digraph.Dep o.deps) n n := by
  have hnames : ∀ n, n ∈ o.names ↔ (o.deps n).isSome := fun _ => deps_isSome.symm
  have hlen := Digraph.kahn_length_iff o.names_nodup hnames
  rw [← Digraph.acc_iff_acyclic hnames, ← hlen]
  unfold startOrder
  dsimp only
  split_ifs with h
  · exact iff_of_true rfl h
  · exact iff_of_false (by simp) h

theorem startOrder_spec {o : Orchestrator} {order : List String} (h : o.startOrder = some order) :
    order.Perm o.names ∧ ∀ l₁ n l₂, order = l₁ ++ n :: l₂ → ∀ d, Digraph.Dep o.deps d n → d ∈ l₁ := by
  unfold startOrder at h
  dsimp only at h
  split_ifs at h with hlen
  obtain rfl := Option.some.inj h
  refine ⟨?_, fun l₁ n l₂ hl d hd => Digraph.kahn_before o.names_nodup hl hd⟩
  exact ((Digraph.kahn_nodup o.deps o.names_nodup).subperm
    (Digraph.kahn_subset o.deps o.names_nodup)).perm_of_length_le hlen.ge

theorem mem_startAll {o : Orchestrator} {specs : List SupervisedSpec} (h : o.startAll = some specs)
    (spec : SupervisedSpec) : spec ∈ specs ↔ ∃ n, o.spec? n = some spec := by
  obtain ⟨order, horder, rfl⟩ := Option.map_eq_some_iff.mp h
  simp only [List.mem_filterMap, (startOrder_spec horder).1.mem_iff, mem_names]
  exact ⟨fun ⟨n, _, hn⟩ => ⟨n, hn⟩, fun ⟨n, hn⟩ => ⟨n, by simp [hn], hn⟩⟩

end Orchestrator

end Fpvd
