import TableTalk.Stream

/-! The cursor as an index. Wherever it goes, it stands some number of bytes past where it was, and
what it hands out is a part of the rest; how the stream was cut into chunks shows in neither. -/
namespace TableTalk.Cursor

/-- The place `n` bytes further on. -/
def moved (c : Cursor) : Nat → Cursor
  | 0 => c
  | n + 1 => c.advance.moved n

@[simp] theorem moved_zero (c : Cursor) : c.moved 0 = c := rfl

theorem moved_succ (c : Cursor) (n : Nat) : c.moved (n + 1) = c.advance.moved n := rfl

theorem moved_moved (c : Cursor) (m n : Nat) : (c.moved m).moved n = c.moved (m + n) := by
  induction m generalizing c with
  | zero => simp
  | succ m ih =>
    rw [moved_succ, ih, Nat.succ_add]
    rfl

theorem advance_moved (c : Cursor) (n : Nat) : (c.moved n).advance = c.moved (n + 1) :=
  moved_moved c n 1

@[simp] theorem moved_rest (c : Cursor) (n : Nat) : (c.moved n).rest = c.rest.drop n := by
  induction n generalizing c with
  | zero => rfl
  | succ n ih => rw [moved_succ, ih, advance_rest, List.drop_tail]

@[simp] theorem settle_position (position chunk : Nat) (chunks : List Bytes) :
    (settle position chunk chunks).position = position := by
  induction chunks generalizing chunk with
  | nil => rfl
  | cons s later ih =>
    cases s with
    | nil => exact ih (chunk + 1)
    | cons b here => rfl

@[simp] theorem start_position (chunks : List Bytes) : (start chunks).position = 0 :=
  settle_position 0 0 chunks

theorem advance_position {c : Cursor} (h : c.rest ≠ []) : c.advance.position = c.position + 1 := by
  obtain ⟨here, later, _, _, _, settled⟩ := c
  match here with
  | [] => simp [rest, settled rfl] at h
  | [_] => exact settle_position _ _ _
  | _ :: _ :: _ => rfl

theorem moved_position {c : Cursor} {n : Nat} (h : n ≤ c.rest.length) :
    (c.moved n).position = c.position + n := by
  induction n generalizing c with
  | zero => rfl
  | succ n ih =>
    have hc : c.rest ≠ [] := by
      intro hnil
      simp [hnil] at h
    have hn : n ≤ c.advance.rest.length := by
      rw [advance_rest, List.length_tail]
      omega
    rw [moved_succ, ih hn, advance_position hc]
    omega

theorem rest_of_peek? {c : Cursor} {b : UInt8} (h : c.peek? = some b) :
    c.rest = b :: c.advance.rest := by
  rw [peek?_eq, List.head?_eq_some_iff] at h
  obtain ⟨s, hs⟩ := h
  rw [advance_rest, hs, List.tail_cons]

theorem rest_of_peek?_none {c : Cursor} (h : c.peek? = none) : c.rest = [] := by
  rwa [peek?_eq, List.head?_eq_none_iff] at h

theorem atEnd_eq (c : Cursor) : c.atEnd = c.rest.isEmpty := by
  obtain ⟨here, later, _, _, _, settled⟩ := c
  cases here with
  | nil => simp [atEnd, rest, settled rfl]
  | cons b here => simp [atEnd, rest]

theorem skipWhile_eq_moved (p : UInt8 → Bool) (c : Cursor) :
    c.skipWhile p = c.moved (c.rest.takeWhile p).length := by
  fun_induction skipWhile p c with
  | case1 c h => simp [rest_of_peek?_none h]
  | case2 c b h hp ih =>
    rw [ih, rest_of_peek? h, List.takeWhile_cons_of_pos hp]
    rfl
  | case3 c b h hp =>
    rw [rest_of_peek? h, List.takeWhile_cons_of_neg hp]
    rfl

theorem gather_eq (n : Nat) (chunks : List Bytes) : gather n chunks = chunks.flatten.take n := by
  induction chunks generalizing n with
  | nil => simp [gather]
  | cons chunk later ih =>
    rw [gather, List.flatten_cons, List.take_append]
    split
    · next h => simp [Nat.sub_eq_zero_of_le h]
    · next h =>
      have hall : chunk.take n = chunk := List.take_of_length_le (by omega)
      rw [ih, hall]

/-- Whether a span is a view or gathered, its bytes are the next ones of the stream. -/
theorem span_bytes (c : Cursor) (n : Nat) : (c.span n).bytes = c.rest.take n := by
  simp only [span]
  split
  · next h =>
    rw [atEnd_eq, List.isEmpty_iff] at h
    simp [Span.bytes, h]
  · split
    · next h =>
      have hn : n ≤ c.here.length := by
        rw [List.length_take] at h
        omega
      exact (List.take_append_of_le_length hn).symm
    · exact gather_eq n (c.here :: c.later)

theorem lookahead_eq (c : Cursor) (window : Bytes) :
    c.lookahead window =
      (min window.length c.rest.length,
        c.rest.take window.length ++ window.drop c.rest.length) := by
  induction window generalizing c with
  | nil => simp [lookahead]
  | cons w window ih =>
    unfold lookahead
    rw [peek?_eq]
    cases h : c.rest with
    | nil => simp
    | cons b s =>
      simp only [List.head?_cons, ih, advance_rest, h, List.tail_cons]
      simp [Nat.succ_min_succ]

end TableTalk.Cursor
