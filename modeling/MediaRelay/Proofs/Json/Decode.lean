import Mathlib.Data.List.Forall2
import Mathlib.Data.List.Nodup
import MediaRelay.Json.Decode
/-! What decoders accept: a record that names each of its fields once, in order, is taken field by
field. What they give: a value that was checked, or what stands in for a field that is not there. -/

namespace MediaRelay.Json

theorem except_bind_eq_ok {ε α β : Type} {x : Except ε α} {f : α → Except ε β} {b : β} :
    (x >>= f) = .ok b ↔ ∃ a, x = .ok a ∧ f a = .ok b := by
  cases x <;> simp [bind, Except.bind]

theorem of_field {α : Type} {found : List (String × Json)} {name : String} {dec : Decoder α}
    {depth : ℕ} {absent : Except Fault α} {a : α} (h : field found name dec depth absent = .ok a) :
    (∃ j, dec (depth + 1) j = .ok a) ∨ absent = .ok a := by
  rw [field] at h
  split at h
  · exact .inl ⟨_, h⟩
  · exact .inr h

theorem of_decodeInt {lo hi n : Int} {depth : ℕ} {j : Json} (h : decodeInt lo hi depth j = .ok n) :
    lo ≤ n ∧ n ≤ hi := by
  unfold decodeInt at h
  split at h
  · split at h
    · obtain rfl := Except.ok.inj h
      assumption
    · cases h
  · cases h

theorem decodeSigned_int {n : Int} (h : Word.minSigned ≤ n ∧ n ≤ Word.maxSigned) (depth : ℕ) :
    decodeSigned depth (.int n) = .ok n := if_pos h

theorem decodeUnsigned_nat {n : ℕ} (h : n ≤ Word.maxUnsigned) (depth : ℕ) :
    decodeUnsigned depth (.nat n) = .ok n := by
  have hrange : 0 ≤ (n : Int) ∧ (n : Int) ≤ Word.maxUnsigned :=
    ⟨Int.natCast_nonneg n, Int.ofNat_le.2 h⟩
  rw [decodeUnsigned, nat, decodeInt, if_pos hrange]
  rfl

theorem decodeItemsFrom_map {α : Type} {dec : Decoder α} {enc : α → Json} {depth : ℕ} {as : List α}
    (h : ∀ a ∈ as, dec depth (enc a) = .ok a) (done : List α) :
    decodeItemsFrom dec depth done (as.map enc) = .ok (done.reverse ++ as) := by
  induction as generalizing done with
  | nil => rw [List.append_nil, List.map_nil, decodeItemsFrom]
  | cons a as ih =>
    have ha : dec depth (enc a) = .ok a := h a (by simp)
    rw [List.map_cons, decodeItemsFrom, ha]
    dsimp only
    rw [ih (fun b hb => h b (.tail a hb)), List.reverse_cons, List.append_assoc,
      List.singleton_append]

theorem decodeList_map {α : Type} {dec : Decoder α} {enc : α → Json} {depth : ℕ} {as : List α}
    (hdepth : depth < maxDepth) (h : ∀ a ∈ as, dec (depth + 1) (enc a) = .ok a) :
    decodeList dec depth (.array (as.map enc)) = .ok as := by
  rw [decodeList, if_pos hdepth]
  exact decodeItemsFrom_map h []

/-! ### Records -/

def Slot.Fits (depth : ℕ) (slot : Slot) (m : String × Json) : Prop :=
  slot.name = m.1 ∧ slot.check depth m.2 = .ok ()

theorem Slot.fits_of {α : Type} {dec : Decoder α} {depth : ℕ} {j : Json} {a : α}
    (h : dec depth j = .ok a) (name : String) (absence : Absence) :
    (Slot.of name dec absence).Fits depth (name, j) :=
  ⟨rfl, congrArg (Except.map fun _ => ()) h⟩

theorem find?_slot {all : List Slot} (hall : (all.map (·.name)).Nodup) {slot : Slot}
    (h : slot ∈ all) : all.find? (·.name == slot.name) = some slot := by
  induction all with
  | nil => cases h
  | cons s all ih =>
    obtain ⟨hs, hall⟩ := List.nodup_cons.1 hall
    rcases List.mem_cons.1 h with rfl | h
    · simp
    · have hne : s.name ≠ slot.name := by
        intro heq
        exact hs (List.mem_map.2 ⟨slot, h, heq.symm⟩)
      rw [List.find?_cons_of_neg (by simpa using hne)]
      exact ih hall h

theorem lookup_isSome_of_fits {slots : List Slot} {members : List (String × Json)} {depth : ℕ}
    (hfits : List.Forall₂ (Slot.Fits depth) slots members) {slot : Slot} (hslot : slot ∈ slots) :
    (members.reverse.lookup slot.name).isSome = true := by
  rw [List.lookup_isSome_iff]
  induction hfits with
  | nil => cases hslot
  | @cons s m slots members hm _ ih =>
    rcases List.mem_cons.1 hslot with rfl | hslot
    · exact ⟨m, by simp, by simp [hm.1]⟩
    · obtain ⟨p, hp, heq⟩ := ih hslot
      exact ⟨p, by simp [List.mem_reverse.1 hp], heq⟩

/-- Members that fit slots of a record are all kept, the last first. -/
theorem scanMembers_of_fits {all slots : List Slot} {members : List (String × Json)} {depth : ℕ}
    (hall : (all.map (·.name)).Nodup) (hfits : List.Forall₂ (Slot.Fits depth) slots members)
    (hmem : ∀ slot ∈ slots, slot ∈ all) (hslots : (slots.map (·.name)).Nodup)
    {seen : List (String × Json)} (hseen : ∀ slot ∈ slots, seen.lookup slot.name = none)
    (hend : ∀ slot ∈ all, ((members.reverse ++ seen).lookup slot.name).isSome = true) :
    scanMembers all depth seen (members.map fun (k, v) => (some k, v)) =
      .ok (members.reverse ++ seen) := by
  -- Along slots and members at once: of the slots to come nothing was seen yet.
  induction hfits generalizing seen with
  | nil =>
    rw [List.map_nil, scanMembers, if_pos]
    · rfl
    · rw [List.all_eq_true]
      intro slot hslot
      exact Bool.or_eq_true_iff.2 (.inr (hend slot hslot))
  | @cons slot m slots members hm hms ih =>
    obtain ⟨k, v⟩ := m
    obtain ⟨rfl, hcheck⟩ := hm
    obtain ⟨hslot, hslots⟩ := List.nodup_cons.1 hslots
    have hfind := find?_slot hall (hmem slot (by simp))
    have hfresh : seen.lookup slot.name = none := hseen slot (by simp)
    have hseen' : ∀ s ∈ slots, ((slot.name, v) :: seen).lookup s.name = none := by
      intro s hs
      have hne : s.name ≠ slot.name := by
        intro heq
        exact hslot (List.mem_map.2 ⟨s, hs, heq⟩)
      rw [List.lookup_cons, beq_false_of_ne hne]
      exact hseen s (.tail slot hs)
    have hend' : ∀ s ∈ all,
        ((members.reverse ++ (slot.name, v) :: seen).lookup s.name).isSome = true := by
      intro s hs
      have := hend s hs
      rwa [List.reverse_cons, List.append_assoc, List.singleton_append] at this
    have htail := ih (fun s hs => hmem s (.tail slot hs)) hslots hseen' hend'
    rw [List.map_cons, scanMembers, hfind]
    dsimp only
    rw [hfresh, if_neg (by simp), hcheck, htail, List.reverse_cons, List.append_assoc,
      List.singleton_append]

/-- A record that names all fields of a list of slots, in order, gives them all. -/
theorem fields_record {slots : List Slot} {members : List (String × Json)} (depth : ℕ)
    (hdepth : depth < maxDepth) (hnodup : (slots.map (·.name)).Nodup)
    (hfits : List.Forall₂ (Slot.Fits (depth + 1)) slots members) :
    fields slots depth (.record members) = .ok members.reverse := by
  have hend : ∀ slot ∈ slots, ((members.reverse ++ []).lookup slot.name).isSome = true := by
    intro slot hslot
    rw [List.append_nil]
    exact lookup_isSome_of_fits hfits hslot
  rw [record, fields, if_pos hdepth,
    scanMembers_of_fits hnodup hfits (fun _ h => h) hnodup (fun _ _ => rfl) hend, List.append_nil]

theorem field_eq_ok {α : Type} {found : List (String × Json)} {name : String} {j : Json}
    {dec : Decoder α} {depth : ℕ} {a : α} {absent : Except Fault α}
    (hlookup : found.lookup name = some j) (hdec : dec (depth + 1) j = .ok a) :
    field found name dec depth absent = .ok a := by
  rw [field, hlookup]
  exact hdec

end MediaRelay.Json
