import Mathlib.Data.List.Sort

/-!
# Stable sorting by a key

`list.sort(key=...)`: entries with the same key keep their order, so what comes
out depends on the order of the entries, but the sequence of the keys does not.
-/

namespace FivegLab.KeySort

variable {α κ : Type} [LinearOrder κ] (key : α → κ)

def sorted (entries : List α) : List α :=
  entries.insertionSort fun first second => key first ≤ key second

variable {entries others : List α}

theorem sorted_perm (entries : List α) : (sorted key entries).Perm entries :=
  List.perm_insertionSort _ _

@[simp]
theorem mem_sorted {entry : α} : entry ∈ sorted key entries ↔ entry ∈ entries :=
  (sorted_perm key entries).mem_iff

/-- The keys of the sorted entries are the sorted keys. -/
theorem map_sorted (entries : List α) :
    (sorted key entries).map key = (entries.map key).insertionSort (· ≤ ·) :=
  List.map_insertionSort _ _ _ _ fun _ _ _ _ => Iff.rfl

theorem pairwise_sorted (entries : List α) :
    (sorted key entries).Pairwise fun first second => key first ≤ key second := by
  have keys : ((sorted key entries).map key).Pairwise (· ≤ ·) := by
    rw [map_sorted]
    exact List.pairwise_insertionSort _ _
  exact List.pairwise_map.mp keys

/-- The sequence of the keys does not depend on the order of the entries. -/
theorem map_sorted_of_perm (same : entries.Perm others) :
    (sorted key entries).map key = (sorted key others).map key := by
  have keys : ((sorted key entries).map key).Perm ((sorted key others).map key) :=
    ((sorted_perm key entries).trans (same.trans (sorted_perm key others).symm)).map key
  exact keys.eq_of_pairwise' (List.pairwise_map.mpr (pairwise_sorted key entries))
    (List.pairwise_map.mpr (pairwise_sorted key others))

/-- An entry with a smaller key stands before one with a greater key. -/
theorem rel_of_key_lt {related : α → α → Prop} (pairwise : (sorted key entries).Pairwise related)
    {first second : α} (firstMem : first ∈ entries) (secondMem : second ∈ entries)
    (less : key first < key second) : related first second := by
  have both : ∀ entry ∈ sorted key entries, ∀ other ∈ sorted key entries,
      key entry < key other → related entry other := by
    apply List.Pairwise.forall_of_forall_of_flip
    · intro entry _ below
      exact absurd below (lt_irrefl _)
    · apply pairwise.imp
      intro entry other holds _
      exact holds
    · apply (pairwise_sorted key entries).imp
      intro entry other atMost below
      exact absurd below (not_lt.mpr atMost)
  exact both first ((mem_sorted key).mpr firstMem) second ((mem_sorted key).mpr secondMem) less

end FivegLab.KeySort
