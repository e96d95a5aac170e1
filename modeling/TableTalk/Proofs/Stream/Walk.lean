import TableTalk.Proofs.Stream

/-! Walking over a stream. Wherever its calls take a cursor, and wherever marks were saved on the
way, each of them is an index into all the bytes of the stream: what it shows, and what lies between
two of them, is read off there. -/
namespace TableTalk

/-- Not copied. -/
def Span.isView : Span → Bool
  | view _ => true
  | gathered _ => false

namespace Cursor
variable {chunks : List Bytes} {c mark : Cursor} {position chunk n : Nat}

/-- Where a cursor stands among the chunks: behind all those before its own, and behind so many
bytes of that. What is left is what the stream has from its position on. -/
structure Stands (chunks : List Bytes) (c : Cursor) : Prop where
  here : c.here = (chunks[c.chunk]?.getD []).drop c.offset
  later : c.later = chunks.drop (c.chunk + 1)
  position : c.position = (chunks.take c.chunk).flatten.length + c.offset
  le : c.position ≤ chunks.flatten.length
  rest : c.rest = chunks.flatten.drop c.position

theorem flatten_split (chunks : List Bytes) (chunk : Nat) :
    chunks.flatten = (chunks.take chunk).flatten ++ (chunks.drop chunk).flatten := by
  rw [← List.flatten_append, List.take_append_drop]

theorem length_take_succ {s : Bytes} (h : chunks[chunk]? = some s) :
    (chunks.take (chunk + 1)).flatten.length = (chunks.take chunk).flatten.length + s.length := by
  simp [List.take_add_one, h]

/-- Chunks without bytes are passed over, and nothing is lost with them. -/
theorem stands_settle (hposition : position = (chunks.take chunk).flatten.length) :
    (settle position chunk (chunks.drop chunk)).Stands chunks := by
  have hle : position ≤ chunks.flatten.length := by
    rw [flatten_split chunks chunk, List.length_append]
    omega
  have hrest : (chunks.drop chunk).flatten = chunks.flatten.drop position := by
    rw [flatten_split chunks chunk, hposition, List.drop_left]
  generalize hlater : chunks.drop chunk = later at hrest
  induction later generalizing chunk with
  | nil =>
    have hnone : chunks.length ≤ chunk := List.drop_eq_nil_iff.mp hlater
    have hend : chunks.drop (chunk + 1) = [] := List.drop_eq_nil_of_le (by omega)
    refine ⟨?_, hend.symm, hposition, hle, hrest⟩
    simp [settle, List.getElem?_eq_none hnone]
  | cons s later ih =>
    have hchunk : chunks[chunk]? = some s := by
      simpa [List.head?_drop] using congrArg List.head? hlater
    have hnext : chunks.drop (chunk + 1) = later := by
      simpa [List.tail_drop] using congrArg List.tail hlater
    cases s with
    | nil =>
      apply ih _ hnext hrest
      simpa [length_take_succ hchunk] using hposition
    | cons b here =>
      refine ⟨?_, hnext.symm, hposition, hle, hrest⟩
      simp [settle, hchunk]

theorem stands_start (chunks : List Bytes) : (start chunks).Stands chunks := stands_settle rfl

theorem Stands.atEnd_iff (h : c.Stands chunks) : c.atEnd ↔ c.position = chunks.flatten.length := by
  have hle := h.le
  rw [atEnd_eq, h.rest, List.isEmpty_iff, List.drop_eq_nil_iff]
  omega

theorem advance_of_atEnd (h : c.atEnd) : c.advance = c := by
  obtain ⟨here, later, _, _, _, _⟩ := c
  obtain rfl : here = [] := List.isEmpty_iff.mp h
  rfl

theorem position_advance (c : Cursor) :
    c.advance.position = if c.atEnd then c.position else c.position + 1 := by
  by_cases hend : c.atEnd
  · simp [hend, advance_of_atEnd hend]
  · rw [if_neg hend]
    apply advance_position
    rwa [atEnd_eq, List.isEmpty_iff] at hend

/-- Inside a chunk the next byte is one further on; behind its last byte the next chunk that has
any begins. -/
theorem Stands.advance (h : c.Stands chunks) : c.advance.Stands chunks := by
  by_cases hend : c.atEnd
  · rwa [advance_of_atEnd hend]
  have hmoved := c.position_advance
  rw [if_neg hend] at hmoved
  have hlt : c.position < chunks.flatten.length := by
    have hne := mt h.atEnd_iff.mpr hend
    have hle := h.le
    omega
  have hrest : c.advance.rest = chunks.flatten.drop c.advance.position := by
    rw [advance_rest, h.rest, hmoved, List.tail_drop]
  obtain ⟨hhere, hlater, hposition, -, -⟩ := h
  obtain ⟨here, later, chunk, offset, position, settled⟩ := c
  simp only at hhere hlater hposition hmoved hlt
  rcases here with _ | ⟨b, _ | ⟨b', here⟩⟩
  · exact absurd rfl hend
  · cases hs : chunks[chunk]? with
    | none => simp [hs] at hhere
    | some s =>
      have hlength : 1 = s.length - offset := by
        simpa [hs] using congrArg List.length hhere
      subst hlater
      apply stands_settle
      rw [length_take_succ hs]
      omega
  · refine ⟨?_, hlater, ?_, ?_, hrest⟩
    · have htail := congrArg List.tail hhere
      rwa [List.tail_drop] at htail
    · simp only [Cursor.advance]
      omega
    · rw [hmoved]
      exact hlt

theorem Stands.peek? (h : c.Stands chunks) : c.peek? = chunks.flatten[c.position]? := by
  rw [peek?_eq, h.rest, List.head?_drop]

/-- Where a byte is left there is a chunk for it, and the cursor is inside. -/
theorem Stands.inside (h : c.Stands chunks) (hend : ¬c.atEnd) :
    ∃ s, chunks[c.chunk]? = some s ∧ c.offset < s.length ∧ c.here = s.drop c.offset := by
  have hhere := h.here
  cases hs : chunks[c.chunk]? with
  | none =>
    simp [atEnd, hhere, hs] at hend
  | some s =>
    rw [hs, Option.getD_some] at hhere
    refine ⟨s, rfl, ?_, hhere⟩
    simpa [atEnd, hhere] using hend

/-- A span is copied only if it goes past the end of the chunk that it begins in. -/
theorem Stands.isView_span (h : c.Stands chunks) :
    (c.span n).isView ↔ c.atEnd ∨ c.position + n ≤ (chunks.take (c.chunk + 1)).flatten.length := by
  by_cases hend : c.atEnd
  · simp [span, hend, Span.isView]
  · obtain ⟨s, hs, hlt, hhere⟩ := h.inside hend
    have hfits : (c.here.take n).length = n ↔
        c.position + n ≤ (chunks.take (c.chunk + 1)).flatten.length := by
      rw [List.length_take, hhere, List.length_drop, length_take_succ hs, h.position]
      omega
    rw [← hfits, span, if_neg hend]
    by_cases hn : (c.here.take n).length = n
    · rw [if_pos hn]
      exact iff_of_true rfl (.inr hn)
    · rw [if_neg hn]
      exact iff_of_false Bool.false_ne_true (not_or.mpr ⟨hend, hn⟩)

/-- Between a mark and a cursor that is not behind it lie the bytes between their positions. -/
theorem Stands.since (hmark : mark.Stands chunks) (hle : mark.position ≤ c.position) :
    ∃ span, c.since mark = .ok span ∧
      span.bytes = (chunks.flatten.take c.position).drop mark.position ∧
      (span.isView ↔ mark.atEnd ∨ c.position ≤ (chunks.take (mark.chunk + 1)).flatten.length) := by
  refine ⟨mark.span (c.position - mark.position), if_pos hle, ?_, ?_⟩
  · rw [span_bytes, hmark.rest, List.drop_take]
  · rw [hmark.isView_span]
    have hsum : mark.position + (c.position - mark.position) = c.position := by omega
    rw [hsum]

theorem since_of_ahead (h : c.position < mark.position) : c.since mark = .error .markAhead :=
  if_neg (by omega)

/-- What can be asked of a cursor. Marks are copies of it, numbered as they were saved. -/
inductive Call
  | peek
  | bump
  | advance
  | save
  | back (mark : Nat)
  | since (mark : Nat)
  | copySince (mark : Nat)
  | lookahead (window : Bytes)
  deriving DecidableEq, Repr

/-- A cursor, and how many bytes it passed on its way from the start. -/
structure Visit where
  cursor : Cursor
  passed : Nat := 0

/-- An advance succeeds unless the cursor is at the end. -/
def Visit.to (v : Visit) (next : Cursor) : Visit :=
  ⟨next, if v.cursor.atEnd then v.passed else v.passed + 1⟩

structure Walk where
  now : Visit
  marks : List Visit := []

namespace Walk

def begin (chunks : List Bytes) : Walk := { now := { cursor := .start chunks } }

/-- The walk that a call leaves. To look or to compare moves nothing. -/
def next (w : Walk) : Call → Walk
  | .bump => { w with now := w.now.to w.now.cursor.bump.2 }
  | .advance => { w with now := w.now.to w.now.cursor.advance }
  | .save => { w with marks := w.marks ++ [w.now] }
  | .back mark => { w with now := w.marks[mark]?.getD w.now }
  | .peek | .since _ | .copySince _ | .lookahead _ => w

def after (w : Walk) (calls : List Call) : Walk := calls.foldl next w

end Walk

/-- A visit whose cursor stands where the number of bytes passed says. -/
structure Visit.Counted (chunks : List Bytes) (v : Visit) : Prop where
  stands : v.cursor.Stands chunks
  position : v.cursor.position = v.passed

structure Walk.Counted (chunks : List Bytes) (w : Walk) : Prop where
  now : w.now.Counted chunks
  marks : ∀ v ∈ w.marks, v.Counted chunks

theorem Visit.Counted.advance {v : Visit} (h : v.Counted chunks) :
    (v.to v.cursor.advance).Counted chunks := by
  refine ⟨h.stands.advance, ?_⟩
  rw [Visit.to, position_advance, h.position]

theorem Walk.counted_begin (chunks : List Bytes) : (Walk.begin chunks).Counted chunks :=
  ⟨⟨stands_start chunks, start_position chunks⟩, nofun⟩

theorem Walk.Counted.next {w : Walk} (h : w.Counted chunks) (call : Call) :
    (w.next call).Counted chunks := by
  cases call with
  | bump | advance => exact ⟨h.now.advance, h.marks⟩
  | save =>
    refine ⟨h.now, ?_⟩
    intro v hv
    rcases List.mem_append.mp hv with hv | hv
    · exact h.marks v hv
    · rw [List.mem_singleton.mp hv]
      exact h.now
  | back mark =>
    refine ⟨?_, h.marks⟩
    cases hv : w.marks[mark]? with
    | none => simpa [Walk.next, hv] using h.now
    | some v => simpa [Walk.next, hv] using h.marks v (List.mem_of_getElem? hv)
  | peek | since | copySince | lookahead => exact h

theorem Walk.Counted.after {w : Walk} (h : w.Counted chunks) (calls : List Call) :
    (w.after calls).Counted chunks := by
  induction calls generalizing w with
  | nil => exact h
  | cons call calls ih => exact ih (h.next call)

/-- After any calls the cursor is an index into all the bytes: it counts those that were passed
and shows the next one, or that there is none, and then it stays. Till then it is inside the chunk
that it names. From a mark it gives the bytes since, as they lie in the mark's chunk if they all
do; from a mark ahead of it, nothing. Looking ahead fills the front of a window with the bytes
that are next. -/
theorem index_after_calls (chunks : List Bytes) (calls : List Call) :
    let s := chunks.flatten
    let w := (Walk.begin chunks).after calls
    let c := w.now.cursor
    (c.position = w.now.passed ∧ c.position ≤ s.length) ∧
    (c.peek? = s[c.position]? ∧ c.bump.1 = s[c.position]?) ∧
    ((c.atEnd ↔ c.position = s.length) ∧ (c.atEnd → c.advance = c ∧ c.bump = (none, c))) ∧
    (¬c.atEnd → ∃ chunk, chunks[c.chunk]? = some chunk ∧ c.offset < chunk.length ∧
      c.position = (chunks.take c.chunk).flatten.length + c.offset) ∧
    (∀ v ∈ w.marks,
      let mark := v.cursor
      mark.position = v.passed ∧
      (mark.position ≤ c.position → ∃ span, c.since mark = .ok span ∧
        span.bytes = (s.take c.position).drop mark.position ∧ c.copySince mark = .ok span.bytes ∧
        (span.isView ↔ mark.atEnd ∨ c.position ≤ (chunks.take (mark.chunk + 1)).flatten.length)) ∧
      (c.position < mark.position →
        c.since mark = .error .markAhead ∧ c.copySince mark = .error .markAhead)) ∧
    ∀ window : Bytes,
      let filled := min window.length (s.length - c.position)
      c.lookahead window = (filled, (s.drop c.position).take filled ++ window.drop filled) := by
  intro s w c
  obtain ⟨⟨hstands, hpassed⟩, hmarks⟩ : w.Counted chunks := (Walk.counted_begin chunks).after calls
  refine ⟨⟨hpassed, hstands.le⟩, ⟨hstands.peek?, hstands.peek?⟩, ⟨hstands.atEnd_iff, ?_⟩, ?_,
    ?_, ?_⟩
  · intro hend
    have hstays := advance_of_atEnd hend
    have hnone : c.peek? = none := by
      rw [Cursor.peek?, List.isEmpty_iff.mp hend, List.head?_nil]
    exact ⟨hstays, by rw [bump, hstays, hnone]⟩
  · intro hend
    obtain ⟨chunk, hchunk, hlt, -⟩ := hstands.inside hend
    exact ⟨chunk, hchunk, hlt, hstands.position⟩
  · intro v hv
    have hmark := hmarks v hv
    refine ⟨hmark.position, ?_, ?_⟩
    · intro hle
      obtain ⟨span, hspan, hbytes, hview⟩ := hmark.stands.since hle
      exact ⟨span, hspan, hbytes, by rw [copySince, hspan]; rfl, hview⟩
    · intro hahead
      have hnone := since_of_ahead hahead
      exact ⟨hnone, by rw [copySince, hnone]; rfl⟩
  · intro window filled
    have hleft : c.rest.length = s.length - c.position := by
      rw [hstands.rest, List.length_drop]
    rw [lookahead_eq, List.take_eq_take_min, List.drop_eq_drop_min, Nat.min_comm c.rest.length,
      hleft, hstands.rest]

end Cursor
end TableTalk
