import Mathlib.Data.List.Sort
import MediaRelay.Arrival
/-! Reports that arrive in any order and are sorted by number come out in the order of their
numbers, so nothing is left of the order of arrival. -/

namespace MediaRelay.Arrival

theorem mergeSort_eq_of_perm {α : Type} {key : α → ℕ} {l l' : List α} (h : l.Perm l')
    (hl' : l'.Pairwise (key · < key ·)) : (l.mergeSort fun a b => key a ≤ key b) = l' := by
  have hinj : ∀ a ∈ l', ∀ b ∈ l', key a = key b → a = b := by
    have hnodup : (l'.map key).Nodup := List.pairwise_map.2 (hl'.imp ne_of_lt)
    exact fun a ha b hb hab => List.inj_on_of_nodup_map hnodup ha hb hab
  have hsorted : (l.mergeSort fun a b => key a ≤ key b).Pairwise (key · ≤ key ·) := by
    have : (l.mergeSort fun a b => key a ≤ key b).Pairwise
        fun a b => decide (key a ≤ key b) = true :=
      List.pairwise_mergeSort (fun a b c hab hbc => by simp only [decide_eq_true_eq] at *; omega)
        (fun a b => by simp only [Bool.or_eq_true, decide_eq_true_eq]; omega) l
    simpa only [decide_eq_true_eq] using this
  have hperm := (List.mergeSort_perm l fun a b => key a ≤ key b).trans h
  refine List.Perm.eq_of_pairwise (fun a b ha hb hab hba => ?_) hsorted (hl'.imp le_of_lt) hperm
  exact hinj a (hperm.subset ha) b hb (le_antisymm hab hba)

/-- Whatever the order of arrival, the reports of all tasks are put back as the tasks were
started. -/
theorem inPlace_collect {α : Type} (a : Arrival) (l : List α) : inPlace (a.collect l) = l := by
  have hplaces : (l.zipIdx.map Prod.swap).Pairwise (·.1 < ·.1) := by
    rw [List.pairwise_map]
    change l.zipIdx.Pairwise fun p q => p.2 < q.2
    rw [← List.pairwise_map (f := fun p : α × ℕ => p.2) (R := (· < ·)), List.zipIdx_map_snd]
    exact List.pairwise_lt_range'
  have hcollect : (a.collect l).Perm (l.zipIdx.map Prod.swap) := a.arrange_perm _
  rw [inPlace, mergeSort_eq_of_perm hcollect hplaces, List.map_map]
  exact List.zipIdx_map_fst 0 l

end MediaRelay.Arrival
