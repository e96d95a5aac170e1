import Mathlib.Tactic.SplitIfs
import TableTalk.Lexing.Run
import TableTalk.Proofs.Buffer
import TableTalk.Proofs.Lexing.Grammar
import TableTalk.Proofs.Stream

/-! The lexer reads by the grammar. A step from a cursor is what the grammar finds at the front
of the rest of the stream, and a whole call is a scan whose tokens are put into the buffer one
by one. -/
namespace TableTalk

namespace Grammar
open Lexing

/-- Capitals as characters are capitals as bytes. -/
theorem upper_eq_spelling_iff (k : Keyword) (word : Bytes) :
    word.map (fun b => (glyph b).toUpper) = k.spelling.toList ↔
      word.map Keyword.capital = Utf8.encode k.spelling := by
  have hk : k.spelling.toList = (Utf8.encode k.spelling).map glyph := by
    cases k <;> decide
  have hword : word.map (fun b => (glyph b).toUpper) = (word.map Keyword.capital).map glyph := by
    simp [upper_glyph, Function.comp_def]
  rw [hword, hk, List.map_inj_right fun _ _ => glyph_injective]

theorem keyword?_eq_some_iff {k : Keyword} {word : Bytes} :
    keyword? word = some k ↔ word.map (fun b => (glyph b).toUpper) = k.spelling.toList := by
  constructor
  · intro h
    simpa using List.find?_some h
  · intro h
    have hin : k ∈ Keyword.all.toList := by cases k <;> decide
    have hsome : (keyword? word).isSome := List.find?_isSome.mpr ⟨k, hin, by simpa using h⟩
    obtain ⟨j, hj⟩ := Option.isSome_iff_exists.mp hsome
    have hspell : j.spelling.toList = k.spelling.toList := by
      rw [← h, ← (by simpa using List.find?_some hj : _ = j.spelling.toList)]
    rw [hj]
    revert hspell
    cases j <;> cases k <;> decide

/-- Halving finds what looking at every entry finds. -/
theorem find?_eq_keyword? (word : Bytes) : (Keyword.find? word).map (·.1) = keyword? word := by
  apply Option.ext
  intro k
  rw [keyword?_eq_some_iff, upper_eq_spelling_iff, ← Keyword.exists_find?_iff]
  constructor
  · intro h
    obtain ⟨⟨j, i⟩, hfind, hj⟩ := Option.map_eq_some_iff.mp h
    exact ⟨i, hfind.trans (by rw [← hj])⟩
  · rintro ⟨i, hfind⟩
    rw [hfind]
    rfl

theorem particle_eq (r : Run) (bytes : Bytes) : r.particle bytes = particle r bytes := by
  cases r with
  | number => rfl
  | word =>
    rw [particle, ← find?_eq_keyword?, Run.particle]
    cases Keyword.find? bytes <;> rfl

/-- Four bytes of what is left decide the words for a byte. -/
theorem describe_eq (c : Cursor) : describe c = wording c.rest := by
  simp only [wording, describe, Cursor.lookahead_eq, Cursor.start_rest, List.flatten_cons,
    List.flatten_nil, List.append_nil]

def Front.step (c : Cursor) : Front → Step
  | blank => .skip (c.moved 1)
  | token p n => .emit p (c.moved n)
  | unfinished => .unfinished

def Inside.quoted (value : Bytes) (c : Cursor) : Inside → Quoted
  | closed v n => .closed (value.reverse ++ v) (c.moved n)
  | forbidden n => .forbidden (c.moved n)
  | unfinished => .unfinished

theorem inside_after_quoted (value : Bytes) (c : Cursor) (b : UInt8) (n : Nat) (i : Inside) :
    i.quoted (b :: value) (c.moved n) = (i.after [b] n).quoted value c := by
  cases i <;> simp [Inside.quoted, Inside.after, Cursor.moved_moved]

/-- Inside the quotes the lexer keeps its place and what it has read; the grammar sees
only bytes. -/
theorem quoted_eq (value : Bytes) (c : Cursor) :
    quoted value c = (inside c.rest).quoted value c := by
  have hquote : glyph quotation = '"' := (eq_quotation_iff _).mp rfl
  have hslash : glyph backslash = '\\' := (eq_backslash_iff _).mp rfl
  fun_induction quoted value c with
  | case1 value c h =>
    rw [Cursor.rest_of_peek?_none h]
    rfl
  | case2 value c b h hf =>
    rw [isForbidden_eq] at hf
    rw [Cursor.rest_of_peek? h, inside_cons, if_pos hf]
    rfl
  | case3 value c h hf =>
    rw [isForbidden_eq] at hf
    rw [Cursor.rest_of_peek? h, inside_cons, if_neg hf, if_pos hquote]
    simp [Inside.quoted, Cursor.moved_succ]
  | case4 value c he h hf hq =>
    rw [isForbidden_eq] at hf
    rw [eq_quotation_iff] at hq
    rw [Cursor.rest_of_peek? h, Cursor.rest_of_peek?_none he, inside_cons, if_neg hf, if_neg hq,
      if_pos hslash]
    rfl
  | case5 value c e he hfe h hf hq ih =>
    rw [isForbidden_eq] at hf hfe
    rw [eq_quotation_iff] at hq
    rw [ih, Cursor.rest_of_peek? h, Cursor.rest_of_peek? he, inside_cons, inside_cons, if_neg hf,
      if_neg hq, if_pos hslash, if_pos hfe]
    simp only [if_pos hfe]
    rfl
  | case6 value c e he hfe h hf hq ih =>
    rw [isForbidden_eq] at hf hfe
    rw [eq_quotation_iff] at hq
    rw [ih, Cursor.rest_of_peek? h, Cursor.rest_of_peek? he, inside_cons, if_neg hf,
      if_neg hq, if_pos hslash]
    simp only [if_neg hfe]
    exact inside_after_quoted value c e 2 _
  | case7 value c b h hf hq hb ih =>
    rw [isForbidden_eq] at hf
    rw [eq_quotation_iff] at hq
    rw [eq_backslash_iff] at hb
    rw [ih, Cursor.rest_of_peek? h, inside_cons, if_neg hf, if_neg hq, if_neg hb]
    exact inside_after_quoted value c b 1 _

theorem taken_moved {c : Cursor} {n : Nat} (h : n ≤ c.rest.length) :
    taken c (c.moved n) = c.rest.take n := by
  rw [taken, Cursor.span_bytes, Cursor.moved_position h]
  congr 1
  omega

/-- The first byte of a kind is where the bytes of the other kind end. -/
theorem findIdx?_eq (p : UInt8 → Bool) (s : Bytes) :
    s.findIdx? p =
      if s.dropWhile (!p ·) = [] then none else some (s.takeWhile (!p ·)).length := by
  induction s with
  | nil => rfl
  | cons b s ih =>
    cases hb : p b with
    | true => simp [List.findIdx?_cons, hb]
    | false =>
      simp only [List.findIdx?_cons, ih, hb, List.dropWhile_cons, List.takeWhile_cons]
      by_cases hs : s.dropWhile (!p ·) = [] <;> simp [hs]

end Grammar

namespace Lexer
open Grammar
open Lexing hiding isForbidden
variable (x : Lexer) {c : Cursor} {b : UInt8}

theorem error_moved {n : Nat} (reason : String) (h : n ≤ c.rest.length) :
    x.error c (c.moved n) reason = (Front.token (x.fault (c.rest.take n) reason) n).step c := by
  rw [error, taken_moved h]
  rfl

theorem closeNest_eq (hb : c.peek? = some b) :
    x.closeNest c = (x.frontClosing c.rest).step c := by
  have hone : 1 ≤ c.rest.length := by
    rw [Cursor.rest_of_peek? hb]
    exact Nat.le_add_left _ _
  simp only [closeNest, frontClosing, Cursor.peek?_eq, Cursor.advance_rest, endsRun_eq, describe_eq]
  split
  · rfl
  · exact x.error_moved _ hone

/-- A run is read from its second byte on; the byte that announced it belongs to it. -/
theorem run_eq {r : Run} (hb : c.peek? = some b) (hr : continues r b) :
    x.run r c = (x.frontRun r c.rest).step c := by
  have hstop : c.advance.skipWhile (continues r) =
      c.moved (c.rest.takeWhile (continues r)).length := by
    rw [Cursor.skipWhile_eq_moved, Cursor.rest_of_peek? hb, List.takeWhile_cons_of_pos hr]
    rfl
  have hrest : (c.advance.skipWhile (continues r)).rest = c.rest.dropWhile (continues r) := by
    rw [Cursor.skipWhile_rest, Cursor.rest_of_peek? hb, List.dropWhile_cons_of_pos hr]
  have hsplit := congrArg List.length
    (List.takeWhile_append_dropWhile (p := continues r) (l := c.rest))
  rw [List.length_append] at hsplit
  have htaken : taken c (c.moved (c.rest.takeWhile (continues r)).length) =
      c.rest.takeWhile (continues r) := by
    rw [taken_moved (by omega)]
    exact (List.prefix_iff_eq_take.mp (List.takeWhile_prefix _)).symm
  simp only [run, frontRun, accepts_eq, endsRun_eq, endsRecovery_eq, describe_eq, hrest,
    Cursor.peek?_eq, Cursor.atEnd_eq, Cursor.skipWhile_rest]
  cases hd : (c.rest.dropWhile (continues r)).head? with
  | none => rfl
  | some b' =>
    by_cases hs : stops b'
    · simp only [if_pos hs, hstop, htaken, particle_eq]
      rfl
    · simp only [if_neg hs, findIdx?_eq, List.isEmpty_iff]
      by_cases he : (c.rest.dropWhile (continues r)).dropWhile (!recovers ·) = []
      · simp only [if_pos he]
        rfl
      · have hle :=
          (List.takeWhile_prefix (!recovers ·) (l := c.rest.dropWhile (continues r))).length_le
        simp only [if_neg he, Cursor.skipWhile_eq_moved _ (c.advance.skipWhile (continues r)),
          hrest]
        rw [hstop, Cursor.moved_moved]
        exact x.error_moved _ (by omega)

theorem quotedName_eq (hb : c.peek? = some b) :
    x.quotedName c = (x.frontName c.rest).step c := by
  have hlength := congrArg List.length (Cursor.rest_of_peek? hb)
  rw [List.length_cons] at hlength
  rw [quotedName, frontName, quoted_eq, ← Cursor.advance_rest]
  cases hi : inside c.advance.rest with
  | closed value n => rfl
  | unfinished => rfl
  | forbidden n =>
    simp only [Inside.quoted, ne_quotation_eq, Cursor.atEnd_eq, Cursor.skipWhile_rest,
      Cursor.moved_rest, describe_eq, findIdx?_eq, List.isEmpty_iff]
    by_cases he : (c.advance.rest.drop n).dropWhile (fun b => !decide (glyph b = '"')) = []
    · simp only [if_pos he]
      rfl
    · have hsplit := congrArg List.length (List.takeWhile_append_dropWhile
        (p := fun b => !decide (glyph b = '"')) (l := c.advance.rest.drop n))
      have hpos := List.length_pos_iff.mpr he
      rw [List.length_append, List.length_drop] at hsplit
      simp only [if_neg he]
      rw [Cursor.skipWhile_eq_moved, Cursor.moved_moved, Cursor.advance_moved, Cursor.moved_rest,
        ← Cursor.moved_succ]
      exact x.error_moved _ (by omega)

/-- What a step does is what the grammar finds at the front of the rest. -/
theorem step_eq (c : Cursor) : x.step c = (x.front c.rest).step c := by
  rw [step]
  cases hb : c.peek? with
  | none =>
    rw [Cursor.rest_of_peek?_none hb]
    rfl
  | some b =>
    have hone : 1 ≤ c.rest.length := by
      rw [Cursor.rest_of_peek? hb]
      exact Nat.le_add_left _ _
    have hfront : x.front c.rest = x.rule (lead b) c.rest := by
      rw [Cursor.rest_of_peek? hb, front_cons]
    have hrun {r : Run} (hr : r.accepts b) : x.run r c = (x.frontRun r c.rest).step c :=
      x.run_eq hb (by rwa [← accepts_eq])
    rw [hfront, lead_eq]
    simp only
    split_ifs with hblank hnewline hopening hclosing hquotation hdigit hword
    · rfl
    · rfl
    · rfl
    · exact x.closeNest_eq hb
    · exact x.quotedName_eq hb
    · exact hrun hdigit
    · exact hrun (by simp [Run.accepts, continuesWord, hword])
    · rw [describe_eq]
      exact x.error_moved _ hone

end Lexer

namespace Grammar

/-- The tokens of a scan go into the buffer in order; the first that finds no room ends the call. -/
def deliver (consumed : Nat) : List Token → ParticleBuffer → Except Failure Nat × ParticleBuffer
  | [], b => (.ok consumed, b)
  | t :: ts, b =>
    match b.add t.particle with
    | (.error f, b) => (.error (f.within "lex" t.start), b)
    | (.ok (), b) => deliver consumed ts b

def Scan.into (r : Scan) (b : ParticleBuffer) : Except Failure Nat × ParticleBuffer :=
  deliver r.consumed r.tokens b

theorem Scan.into_cons (t : Token) (r : Scan) (b : ParticleBuffer) :
    (r.cons t).into b =
      match b.add t.particle with
      | (.error f, b) => (.error (f.within "lex" t.start), b)
      | (.ok (), b) => r.into b := rfl

/-- A buffer with room for every token ends up with all their particles. -/
theorem Scan.into_of_takes {r : Scan} {b : ParticleBuffer} (h : b.Takes r.tokens.length) :
    ∃ b', r.into b = (.ok r.consumed, b') ∧
      b'.particles.toList = b.particles.toList ++ r.particles := by
  obtain ⟨tokens, consumed⟩ := r
  induction tokens generalizing b with
  | nil => exact ⟨b, rfl, by simp [Scan.particles]⟩
  | cons t ts ih =>
    obtain ⟨hadd, hroom⟩ := h t.particle
    obtain ⟨capacity, hc⟩ | hc := b.add_cases t.particle
    · rw [hc] at hroom
      obtain ⟨b', hinto, hparticles⟩ := ih hroom
      refine ⟨b', ?_, ?_⟩
      · rw [← hinto]
        simp only [Scan.into, deliver, hc]
      · simpa [Scan.particles] using hparticles
    · rw [hc] at hadd
      cases hadd

/-- A call that ends well has delivered every token. -/
theorem Scan.of_into_ok {r : Scan} {b b' : ParticleBuffer} {n : Nat} (h : r.into b = (.ok n, b')) :
    n = r.consumed ∧ b'.particles.toList = b.particles.toList ++ r.particles := by
  obtain ⟨tokens, consumed⟩ := r
  induction tokens generalizing b with
  | nil =>
    cases h
    exact ⟨rfl, by simp [Scan.particles]⟩
  | cons t ts ih =>
    obtain ⟨capacity, hc⟩ | hc := b.add_cases t.particle <;>
      simp only [Scan.into, deliver, hc] at h
    · obtain ⟨hn, hparticles⟩ := ih h
      exact ⟨hn, by simpa [Scan.particles] using hparticles⟩
    · cases h

end Grammar

namespace Lexer
open Grammar
variable (x : Lexer)

/-- Growing the buffer as the tokens come and growing it afterwards is the same. -/
theorem lexFrom_eq (c : Cursor) (b : ParticleBuffer) :
    x.lexFrom c b = (x.scan c.position c.rest).into b := by
  fun_induction lexFrom x c b with
  | case1 c b h =>
    rw [step_eq] at h
    cases hf : x.front c.rest <;> rw [hf] at h <;> cases h
    rw [x.scan_unfinished hf]
    rfl
  | case2 c b after h ih =>
    rw [step_eq] at h
    cases hf : x.front c.rest <;> rw [hf] at h <;> cases h
    rw [ih, x.scan_blank hf, Cursor.moved_rest, Cursor.moved_position (x.front_blank_length hf)]
  | case3 c b p after h f b' hadd =>
    rw [step_eq] at h
    cases hf : x.front c.rest <;> rw [hf] at h <;> cases h
    rw [x.scan_token hf, Scan.into_cons]
    simp only [hadd]
  | case4 c b p after h b' hadd ih =>
    rw [step_eq] at h
    cases hf : x.front c.rest <;> rw [hf] at h <;> cases h
    rw [ih, x.scan_token hf, Scan.into_cons, Cursor.moved_rest,
      Cursor.moved_position (x.front_token_bounds hf).2]
    simp only [hadd]

theorem lex_eq (chunks : List Bytes) (b : ParticleBuffer) :
    x.lex chunks b = (x.scan 0 chunks.flatten).into b := by
  rw [lex, lexFrom_eq, Cursor.start_rest, Cursor.start_position]

/-- A call with room for every byte reads the whole scan. -/
theorem lex_of_takes {chunks : List Bytes} {b : ParticleBuffer}
    (hroom : b.Takes chunks.flatten.length) :
    ∃ b', x.lex chunks b = (.ok (x.scan 0 chunks.flatten).consumed, b') ∧
      b'.particles.toList = b.particles.toList ++ (x.scan 0 chunks.flatten).particles := by
  obtain ⟨b', hinto, hparticles⟩ := Scan.into_of_takes (hroom.of_le x.scan_tokens_length_le)
  exact ⟨b', by rw [lex_eq, hinto], hparticles⟩

end Lexer
end TableTalk
