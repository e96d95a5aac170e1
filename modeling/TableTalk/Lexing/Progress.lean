import TableTalk.Lexing.Step

/-! Every step of the lexer that is not its last leaves less of the stream. -/
namespace TableTalk

namespace Lexing

theorem quoted_closed_shorter {value v : Bytes} {c after : Cursor}
    (h : quoted value c = .closed v after) : after.rest.length < c.rest.length := by
  fun_induction quoted value c with
  | case1 => cases h
  | case2 => cases h
  | case3 value c hb =>
    cases h
    exact Cursor.advance_shorter hb
  | case4 => cases h
  | case5 value c e he _ hb _ _ ih =>
    have := ih h
    have := Cursor.advance_shorter hb
    omega
  | case6 value c e he _ hb _ _ ih =>
    have := ih h
    have := Cursor.advance_shorter hb
    have := Cursor.advance_shorter he
    omega
  | case7 value c b hb _ _ _ ih =>
    have := ih h
    have := Cursor.advance_shorter hb
    omega

theorem quoted_forbidden_le {value : Bytes} {c stop : Cursor}
    (h : quoted value c = .forbidden stop) : stop.rest.length ≤ c.rest.length := by
  fun_induction quoted value c with
  | case1 => cases h
  | case2 => cases h; omega
  | case3 => cases h
  | case4 => cases h
  | case5 value c e he _ hb _ _ ih =>
    have := ih h
    have := Cursor.advance_shorter hb
    omega
  | case6 value c e he _ hb _ _ ih =>
    have := ih h
    have := Cursor.advance_shorter hb
    have := Cursor.advance_shorter he
    omega
  | case7 value c b hb _ _ _ ih =>
    have := ih h
    have := Cursor.advance_shorter hb
    omega

end Lexing

namespace Lexer
open Lexing
variable (x : Lexer) {c after : Cursor} {b : UInt8} {p : Particle}

theorem run_ne_skip (r : Run) : x.run r c ≠ .skip after := by
  simp only [run, error]
  split
  · nofun
  · split
    · nofun
    · split <;> nofun

theorem run_shorter {r : Run} (hb : c.peek? = some b) (h : x.run r c = .emit p after) :
    after.rest.length < c.rest.length := by
  have hstop := Cursor.skipWhile_le r.accepts c.advance
  have hc := Cursor.advance_shorter hb
  simp only [run] at h
  split at h
  · cases h
  · split at h
    · cases h
      omega
    · split at h
      · cases h
      · simp only [error, Step.emit.injEq] at h
        rw [← h.2]
        have := Cursor.skipWhile_le (fun b => !endsRecovery b) (c.advance.skipWhile r.accepts)
        omega

theorem quotedName_ne_skip : x.quotedName c ≠ .skip after := by
  simp only [quotedName, error]
  split
  · nofun
  · split <;> nofun
  · nofun

theorem quotedName_shorter (hb : c.peek? = some b) (h : x.quotedName c = .emit p after) :
    after.rest.length < c.rest.length := by
  have hc := Cursor.advance_shorter hb
  simp only [quotedName] at h
  split at h
  next value after' hq =>
    cases h
    have := quoted_closed_shorter hq
    omega
  next stop hq =>
    split at h
    · cases h
    · simp only [error, Step.emit.injEq] at h
      rw [← h.2]
      have h1 := quoted_forbidden_le hq
      have h2 := Cursor.skipWhile_le (· != quotation) stop
      have h3 : ((stop.skipWhile (· != quotation)).advance).rest.length
          ≤ (stop.skipWhile (· != quotation)).rest.length := by simp
      omega
  next => cases h

theorem step_shorter (h : x.step c = .skip after ∨ ∃ p, x.step c = .emit p after) :
    after.rest.length < c.rest.length := by
  cases hb : c.peek? with
  | none => simp [step, hb] at h
  | some b =>
    have hc := Cursor.advance_shorter hb
    have hrun (r : Run) (h : x.run r c = .skip after ∨ ∃ p, x.run r c = .emit p after) :
        after.rest.length < c.rest.length := by
      obtain h | ⟨p, h⟩ := h
      · exact absurd h (x.run_ne_skip r)
      · exact x.run_shorter hb h
    have hquoted (h : x.quotedName c = .skip after ∨ ∃ p, x.quotedName c = .emit p after) :
        after.rest.length < c.rest.length := by
      obtain h | ⟨p, h⟩ := h
      · exact absurd h x.quotedName_ne_skip
      · exact x.quotedName_shorter hb h
    simp only [step, hb, closeNest, error] at h
    repeat' split at h
    all_goals first
      | exact hrun _ h
      | exact hquoted h
      | (obtain h | ⟨p, h⟩ := h <;> cases h; exact hc)

end Lexer
end TableTalk
