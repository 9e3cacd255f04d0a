import Mathlib.Data.List.Basic
import Mathlib.Data.List.DropRight
import Mathlib.Data.List.Nodup
/-! Facts on lists that several modules share: lookups in lists of pairs, two members of a list that
stand in order, what a list is mapped to in part, a sum in which one member is changed, and where
taking and dropping stops. -/

namespace MediaRelay

section

variable {α β : Type} [BEq α] [LawfulBEq α] {l : List (α × β)}

theorem lookup_eq_some_iff_mem (h : (l.map (·.1)).Nodup) {a : α} {b : β} :
    l.lookup a = some b ↔ (a, b) ∈ l := by
  induction l with
  | nil => simp
  | cons p l ih =>
    obtain ⟨k, v⟩ := p
    obtain ⟨hk, hl⟩ := List.nodup_cons.1 h
    rw [List.lookup_cons, List.mem_cons, Prod.mk.injEq]
    by_cases hak : a = k
    · subst hak
      have : (a, b) ∉ l := fun hmem => hk (List.mem_map.2 ⟨_, hmem, rfl⟩)
      simp [this, eq_comm]
    · rw [beq_false_of_ne hak, ih hl]
      simp [hak]

theorem lookup_filter_ne {a b : α} (h : a ≠ b) : (l.filter (·.1 != b)).lookup a = l.lookup a := by
  induction l with
  | nil => rfl
  | cons p l ih =>
    obtain ⟨k, v⟩ := p
    rw [List.filter_cons, List.lookup_cons]
    by_cases hk : k = b
    · subst hk
      rw [beq_false_of_ne h]
      simpa using ih
    · rw [if_pos (by simpa using hk), List.lookup_cons, ih]

end

section

variable {α β : Type} {l : List α}

theorem filterMap_sublist_map {f : α → Option β} {g : α → β}
    (h : ∀ a ∈ l, ∀ b, f a = some b → b = g a) : (l.filterMap f).Sublist (l.map g) := by
  induction l with
  | nil => exact .slnil
  | cons a l ih =>
    obtain ⟨ha, hl⟩ := List.forall_mem_cons.1 h
    cases hf : f a with
    | none =>
      rw [List.filterMap_cons_none hf]
      exact (ih hl).cons _
    | some b =>
      rw [List.filterMap_cons_some hf, ha b hf]
      exact (ih hl).cons_cons _

theorem filter_eq_singleton [DecidableEq β] {g : α → β} (h : (l.map g).Nodup) {a : α}
    (ha : a ∈ l) : l.filter (g · == g a) = [a] := by
  rw [← List.perm_singleton]
  refine (List.perm_ext_iff_of_nodup (h.of_map.filter _) (List.nodup_singleton a)).2 fun b => ?_
  rw [List.mem_filter, List.mem_singleton, beq_iff_eq]
  constructor
  · rintro ⟨hb, hg⟩
    exact List.inj_on_of_nodup_map h hb ha hg
  · rintro rfl
    exact ⟨ha, rfl⟩

end

theorem pair_sublist_concat {α : Type} {a b c : α} {l : List α} :
    [a, b].Sublist (l ++ [c]) ↔ [a, b].Sublist l ∨ a ∈ l ∧ b = c := by
  constructor
  · intro h
    obtain ⟨l₁, l₂, hl, h₁, h₂⟩ := List.sublist_append_iff.1 h
    rcases l₂ with _ | ⟨x, _ | ⟨y, l₂⟩⟩
    · left
      rwa [hl, List.append_nil]
    · right
      obtain ⟨rfl, rfl⟩ : l₁ = [a] ∧ x = b := by
        have hl : [a] ++ [b] = l₁ ++ [x] := hl
        have := List.append_inj' hl rfl
        simp_all
      exact ⟨h₁.subset (by simp), by simpa using h₂⟩
    · have := h₂.length_le
      simp at this
  · rintro (h | ⟨ha, rfl⟩)
    · exact h.trans (List.sublist_append_left _ _)
    · exact (List.singleton_sublist.2 ha).append (List.Sublist.refl [b])

section

variable {α : Type} (f : α → ℕ)

def total : List α → ℕ
  | [] => 0
  | a :: l => f a + total l

theorem total_set {l : List α} {i : ℕ} {a : α} (h : l[i]? = some a) (b : α) :
    total f (l.set i b) + f a = total f l + f b := by
  induction l generalizing i with
  | nil => cases h
  | cons c l ih =>
    cases i with
    | zero =>
      obtain rfl : c = a := by simpa using h
      simp only [List.set_cons_zero, total]
      omega
    | succ i =>
      have hl := ih (i := i) (by simpa using h)
      simp only [List.set_cons_succ, total]
      omega

theorem total_replicate_of_zero {a : α} (h : f a = 0) (n : ℕ) :
    total f (List.replicate n a) = 0 := by
  induction n with
  | zero => rfl
  | succ n ih => rw [List.replicate_succ, total, h, ih]

theorem total_pos_iff {l : List α} : 0 < total f l ↔ ∃ a ∈ l, 0 < f a := by
  induction l with
  | nil => simp [total]
  | cons a l ih =>
    rw [total, List.exists_mem_cons_iff, ← ih]
    omega

end

/-- What is left after dropping begins with none of the class. -/
theorem not_of_mem_head?_dropWhile {α : Type} {p : α → Bool} {s : List α} {a : α}
    (h : a ∈ (s.dropWhile p).head?) : p a = false := by
  have hhead := List.head?_dropWhile_not p s
  rw [Option.mem_def.1 h] at hhead
  simpa using hhead

/-- What is taken and dropped stops at once where the first member is not of the class. -/
theorem takeWhile_of_head? {α : Type} {p : α → Bool} {s : List α} (h : ∀ a ∈ s.head?, p a = false) :
    s.takeWhile p = [] ∧ s.dropWhile p = s := by
  cases s with
  | nil => exact ⟨rfl, rfl⟩
  | cons a s => simp [h a rfl]

/-- What is dropped from the end stops before a part of which nothing would be dropped. -/
theorem rdropWhile_append_of_forall {α : Type} {p : α → Bool} {s : List α} (t : List α)
    (hs : ∀ a ∈ s, p a = false) : (s ++ t).rdropWhile p = s ++ t.rdropWhile p := by
  induction t using List.reverseRecOn with
  | nil =>
    rw [List.append_nil, List.rdropWhile_nil, List.append_nil, List.rdropWhile_eq_self_iff]
    intro hne
    simp [hs _ (List.getLast_mem hne)]
  | append_singleton t a ih =>
    rw [← List.append_assoc, List.rdropWhile_concat, List.rdropWhile_concat, ih]
    split_ifs
    · rfl
    · rw [List.append_assoc]

end MediaRelay
