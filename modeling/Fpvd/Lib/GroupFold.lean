import Fpvd.Lib.AssocMap

/-!
# Fpvd.Lib.GroupFold — folding rows into a map by key

The first row of a key starts its entry, each further row is added to it.
-/

namespace Fpvd.GroupFold

variable {κ α β : Type} [DecidableEq κ] (init : β → α) (add : β → α → α)

def insertRow (m : List (κ × α)) (row : κ × β) : List (κ × α) :=
  match AssocMap.find? row.1 m with
  | none => AssocMap.put row.1 (init row.2) m
  | some s => AssocMap.put row.1 (add row.2 s) m

def collect (rows : List (κ × β)) : List (κ × α) := rows.foldl (insertRow init add) []

def total : List β → Option α
  | [] => none
  | v :: vs => some (vs.foldl (fun s v => add v s) (init v))

def rowsOf (k : κ) (rows : List (κ × β)) : List β := (rows.filter fun row => row.1 = k).map Prod.snd

variable {init add} {k : κ} {rows : List (κ × β)}

theorem mem_rowsOf {v : β} : v ∈ rowsOf k rows ↔ (k, v) ∈ rows := by
  simp [rowsOf]

theorem total_concat (vs : List β) (v : β) : total init add (vs ++ [v]) =
    some (((total init add vs).map (add v)).getD (init v)) := by
  cases vs with
  | nil => rfl
  | cons u vs => simp [total]

theorem total_eq_none {vs : List β} : total init add vs = none ↔ vs = [] := by
  cases vs with
  | nil => exact iff_of_true rfl rfl
  | cons u vs => exact iff_of_false nofun nofun

theorem insertRow_eq (m : List (κ × α)) (row : κ × β) : insertRow init add m row =
    AssocMap.put row.1 (((AssocMap.find? row.1 m).map (add row.2)).getD (init row.2)) m := by
  unfold insertRow
  cases AssocMap.find? row.1 m <;> rfl

theorem collect_concat (rows : List (κ × β)) (row : κ × β) :
    collect init add (rows ++ [row]) = insertRow init add (collect init add rows) row := by
  simp [collect]

theorem find?_collect (rows : List (κ × β)) (k : κ) :
    AssocMap.find? k (collect init add rows) = total init add (rowsOf k rows) := by
  induction rows using List.reverseRecOn with
  | nil => rfl
  | append_singleton rows row ih =>
    rw [collect_concat, insertRow_eq, AssocMap.find?_put]
    by_cases hk : k = row.1
    · have hrows : rowsOf k (rows ++ [row]) = rowsOf k rows ++ [row.2] := by
        simp [rowsOf, hk]
      rw [if_pos hk, hrows, total_concat, ← ih, hk]
    · have hrows : rowsOf k (rows ++ [row]) = rowsOf k rows := by
        simp [rowsOf, Ne.symm hk]
      rw [if_neg hk, hrows, ih]

theorem nodup_keys_collect (rows : List (κ × β)) : (AssocMap.keys (collect init add rows)).Nodup := by
  induction rows using List.reverseRecOn with
  | nil => exact List.nodup_nil
  | append_singleton rows row ih =>
    rw [collect_concat, insertRow_eq]
    exact AssocMap.nodup_keys_put ih

end Fpvd.GroupFold
