import Mathlib.Data.List.Basic
import MediaRelay.Web.Exchange
/-! Reading a body. However the body is cut into pieces, what is read of it can be told from its
announced length, its bytes and its end. -/

namespace MediaRelay.Web.Body

theorem foldl_append (buf : ByteArray) (chunks : List ByteArray) :
    chunks.foldl (· ++ ·) buf = buf ++ chunks.foldl (· ++ ·) .empty := by
  induction chunks generalizing buf with
  | nil => exact ByteArray.append_empty.symm
  | cons c chunks ih =>
    rw [List.foldl_cons, List.foldl_cons, ih (buf ++ c), ih (.empty ++ c), ByteArray.empty_append,
      ByteArray.append_assoc]

theorem foldl_append_cons (buf c : ByteArray) (chunks : List ByteArray) :
    buf ++ (c :: chunks).foldl (· ++ ·) .empty =
      (buf ++ c) ++ chunks.foldl (· ++ ·) .empty := by
  rw [List.foldl_cons, foldl_append, ByteArray.empty_append, ByteArray.append_assoc]

/-- More than `limit` bytes are announced, or arrive. -/
def IsOver (limit : ℕ) (b : Body) : Prop :=
  (∃ size, b.declared = some size ∧ limit < size) ∨ limit < b.bytes.size

/-! ### The whole body -/

theorem readCappedFrom_of_lt {limit : ℕ} {complete : Bool} {buf : ByteArray}
    {chunks : List ByteArray} (hbuf : buf.size ≤ limit)
    (h : limit < (buf ++ chunks.foldl (· ++ ·) .empty).size) :
    ∃ size, limit < size ∧ readCappedFrom limit complete buf chunks = .error (.oversized size) := by
  induction chunks generalizing buf with
  | nil =>
    rw [List.foldl_nil, ByteArray.append_empty] at h
    omega
  | cons c chunks ih =>
    rw [readCappedFrom]
    split_ifs with hsize
    · exact ⟨_, hsize, rfl⟩
    · rw [foldl_append_cons] at h
      rw [← ByteArray.size_append] at hsize
      exact ih (Nat.not_lt.1 hsize) h

theorem readCappedFrom_of_le {limit : ℕ} {complete : Bool} {buf : ByteArray}
    {chunks : List ByteArray} (h : (buf ++ chunks.foldl (· ++ ·) .empty).size ≤ limit) :
    readCappedFrom limit complete buf chunks =
      if complete then .ok (buf ++ chunks.foldl (· ++ ·) .empty) else .error .broken := by
  induction chunks generalizing buf with
  | nil => rw [List.foldl_nil, ByteArray.append_empty, readCappedFrom]
  | cons c chunks ih =>
    rw [foldl_append_cons] at h ⊢
    have hsize : ¬ buf.size + c.size > limit := by
      rw [ByteArray.size_append, ByteArray.size_append] at h
      omega
    rw [readCappedFrom, if_neg hsize]
    exact ih h

variable {limit : ℕ} {b : Body}

theorem readCapped_of_isOver (h : b.IsOver limit) :
    ∃ size, limit < size ∧ b.readCapped limit = .error (.oversized size) := by
  unfold readCapped
  have hbytes (hlt : limit < b.bytes.size) :
      ∃ size, limit < size ∧
        readCappedFrom limit b.complete .empty b.chunks = .error (.oversized size) :=
    readCappedFrom_of_lt (Nat.zero_le _) (by rwa [ByteArray.empty_append])
  cases hdeclared : b.declared with
  | none =>
    rcases h with ⟨size, hsize, -⟩ | hlt
    · cases hdeclared.symm.trans hsize
    · exact hbytes hlt
  | some size =>
    dsimp only
    split_ifs with hsize
    · exact ⟨size, hsize, rfl⟩
    · rcases h with ⟨size', hsize', hlt⟩ | hlt
      · cases hdeclared.symm.trans hsize'
        exact absurd hlt hsize
      · exact hbytes hlt

theorem readCapped_of_not_isOver (h : ¬ b.IsOver limit) :
    b.readCapped limit = if b.complete then .ok b.bytes else .error .broken := by
  have hbytes : readCappedFrom limit b.complete .empty b.chunks =
      if b.complete then .ok b.bytes else .error .broken := by
    have hle : (ByteArray.empty ++ b.bytes).size ≤ limit := by
      rw [ByteArray.empty_append]
      exact Nat.not_lt.1 fun hlt => h (.inr hlt)
    rw [readCappedFrom_of_le hle, ByteArray.empty_append]
    rfl
  unfold readCapped
  cases hdeclared : b.declared with
  | none => exact hbytes
  | some size =>
    have hsize : ¬ size > limit := fun hlt => h (.inl ⟨size, hdeclared, hlt⟩)
    dsimp only
    rw [if_neg hsize]
    exact hbytes

/-! ### The first bytes -/

/-- The first `limit` bytes end in the piece that fills the room which is left for them. -/
theorem extract_append_of_le {buf c rest : ByteArray} (hbuf : buf.size ≤ limit)
    (hc : limit - buf.size ≤ c.size) :
    (buf ++ c ++ rest).extract 0 limit = buf ++ c.extract 0 (limit - buf.size) := by
  have hfull : buf.extract 0 limit = buf := by
    rw [← Nat.max_eq_left hbuf, ByteArray.extract_zero_max_size]
  have hrest : rest.extract (0 - c.size) (limit - buf.size - c.size) = .empty := by
    rw [Nat.sub_eq_zero_of_le hc, ByteArray.extract_eq_empty_iff]
    omega
  rw [ByteArray.append_assoc, ByteArray.extract_append, ByteArray.extract_append, hfull,
    Nat.zero_sub, hrest, ByteArray.append_empty]

theorem readPrefixFrom_eq {complete : Bool} {buf : ByteArray} {chunks : List ByteArray}
    (hbuf : buf.size < limit) :
    readPrefixFrom limit complete buf chunks =
      if complete ∨ limit ≤ (buf ++ chunks.foldl (· ++ ·) .empty).size then
        .ok ((buf ++ chunks.foldl (· ++ ·) .empty).extract 0 limit)
      else .error .broken := by
  induction chunks generalizing buf with
  | nil =>
    have hfull : buf.extract 0 limit = buf := by
      rw [← Nat.max_eq_left (Nat.le_of_lt hbuf), ByteArray.extract_zero_max_size]
    have hlt : ¬ limit ≤ buf.size := Nat.not_le.2 hbuf
    rw [readPrefixFrom, List.foldl_nil, ByteArray.append_empty, hfull]
    simp only [hlt, or_false]
  | cons c chunks ih =>
    rw [foldl_append_cons, readPrefixFrom]
    split_ifs with hc hdone hdone
    · rw [extract_append_of_le (Nat.le_of_lt hbuf) hc]
    · refine absurd (.inr ?_) hdone
      rw [ByteArray.size_append, ByteArray.size_append]
      omega
    all_goals
      have hgrown : (buf ++ c).size < limit := by
        rw [ByteArray.size_append]
        omega
      rw [ih hgrown]
    · exact if_pos hdone
    · exact if_neg hdone

theorem readPrefix_eq (hlimit : 0 < limit) :
    b.readPrefix limit =
      if b.complete ∨ limit ≤ b.bytes.size then .ok (b.bytes.extract 0 (min limit b.bytes.size))
      else .error .broken := by
  have hextract : b.bytes.extract 0 (min limit b.bytes.size) = b.bytes.extract 0 limit := by
    rcases Nat.le_total limit b.bytes.size with hle | hle
    · rw [Nat.min_eq_left hle]
    · rw [Nat.min_eq_right hle, ← Nat.max_eq_left hle, ByteArray.extract_zero_max_size,
        ByteArray.extract_zero_size]
  have hbytes : ByteArray.empty ++ b.chunks.foldl (· ++ ·) .empty = b.bytes :=
    ByteArray.empty_append
  rw [hextract, readPrefix, readPrefixFrom_eq hlimit, hbytes]

inductive IsPrefixBuffer (limit : ℕ) (b : Body) : ByteArray → List ByteArray → Prop
  | start : IsPrefixBuffer limit b .empty b.chunks
  | grown {buf c : ByteArray} {chunks : List ByteArray}
      (h : IsPrefixBuffer limit b buf (c :: chunks)) (hroom : c.size < limit - buf.size) :
      IsPrefixBuffer limit b (buf ++ c) chunks

theorem IsPrefixBuffer.readPrefix_eq {buf : ByteArray} {chunks : List ByteArray}
    (h : IsPrefixBuffer limit b buf chunks) :
    b.readPrefix limit = readPrefixFrom limit b.complete buf chunks := by
  induction h with
  | start => rfl
  | grown _ hroom ih =>
    rw [ih, readPrefixFrom, if_neg (Nat.not_le.2 hroom)]

theorem IsPrefixBuffer.size_lt (hlimit : 0 < limit) {buf : ByteArray} {chunks : List ByteArray}
    (h : IsPrefixBuffer limit b buf chunks) : buf.size < limit := by
  cases h with
  | start => exact hlimit
  | grown _ hroom =>
    rw [ByteArray.size_append]
    omega

/-! ### Both -/

structure IsReadByBytes (limit : ℕ) (b : Body) : Prop where
  oversized_iff : (∃ size, b.readCapped limit = .error (.oversized size)) ↔ b.IsOver limit
  lt_of_oversized : ∀ size, b.readCapped limit = .error (.oversized size) → limit < size
  capped : ¬ b.IsOver limit →
    b.readCapped limit = if b.complete then .ok b.bytes else .error .broken
  /-- the first bytes, where some are asked for -/
  leading : 0 < limit → b.readPrefix limit =
    if b.complete ∨ limit ≤ b.bytes.size then .ok (b.bytes.extract 0 (min limit b.bytes.size))
    else .error .broken
  /-- whenever the next piece is looked at, there is room left in what is asked for -/
  room : 0 < limit → ∀ buf chunks, IsPrefixBuffer limit b buf chunks →
    b.readPrefix limit = readPrefixFrom limit b.complete buf chunks ∧ buf.size < limit
  /-- the same bytes with the same end, cut otherwise -/
  recut : ∀ b' : Body, b'.declared = b.declared → b'.bytes = b.bytes → b'.complete = b.complete →
    (b'.readCapped limit).toOption = (b.readCapped limit).toOption ∧
      (0 < limit → b'.readPrefix limit = b.readPrefix limit)

theorem isOver_of_oversized {size : ℕ} (h : b.readCapped limit = .error (.oversized size)) :
    b.IsOver limit := by
  by_contra hle
  rw [readCapped_of_not_isOver hle] at h
  split_ifs at h
  cases h

theorem toOption_readCapped_of_recut {b' : Body} (hdeclared : b'.declared = b.declared)
    (hbytes : b'.bytes = b.bytes) (hend : b'.complete = b.complete) :
    (b'.readCapped limit).toOption = (b.readCapped limit).toOption := by
  have hover : b'.IsOver limit ↔ b.IsOver limit := by
    rw [IsOver, IsOver, hdeclared, hbytes]
  by_cases h : b.IsOver limit
  · obtain ⟨size, -, hsize⟩ := readCapped_of_isOver h
    obtain ⟨size', -, hsize'⟩ := readCapped_of_isOver (hover.2 h)
    rw [hsize, hsize']
    rfl
  · rw [readCapped_of_not_isOver h, readCapped_of_not_isOver (mt hover.1 h), hbytes, hend]

theorem isReadByBytes (limit : ℕ) (b : Body) : b.IsReadByBytes limit where
  oversized_iff := by
    refine ⟨fun ⟨size, hsize⟩ => isOver_of_oversized hsize, fun h => ?_⟩
    obtain ⟨size, -, hsize⟩ := readCapped_of_isOver h
    exact ⟨size, hsize⟩
  lt_of_oversized size h := by
    obtain ⟨size', hlt, hsize⟩ := readCapped_of_isOver (isOver_of_oversized h)
    rw [h] at hsize
    cases hsize
    exact hlt
  capped := readCapped_of_not_isOver
  leading := readPrefix_eq
  room hlimit _ _ h := ⟨h.readPrefix_eq, h.size_lt hlimit⟩
  recut b' hdeclared hbytes hend := by
    refine ⟨toOption_readCapped_of_recut hdeclared hbytes hend, fun hlimit => ?_⟩
    rw [readPrefix_eq hlimit, readPrefix_eq hlimit, hbytes, hend]

/-- The first bytes are there although the body breaks off right after them. -/
example : Body.readPrefix 2 ⟨none, [⟨#[1]⟩, ⟨#[]⟩, ⟨#[2]⟩], false⟩ = .ok ⟨#[1, 2]⟩ := rfl

end MediaRelay.Web.Body
