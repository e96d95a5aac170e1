import TableTalk.Proofs.Buffer
import TableTalk.Proofs.Lexing.Agreement
import TableTalk.Proofs.Text.Controls
import TableTalk.Shell.Terminal

/-! How what was read is shown. Only a name is shown as it was typed; everything else comes out on
one line, whatever bytes it was read from. -/
namespace TableTalk
open Text (Clean Plain)

namespace Lexing

/-- The words for a place in the stream name the character there, or its byte, and never show it. -/
theorem clean_describe (c : Cursor) : Clean (describe c) := by
  rw [describe]
  split
  split
  · next char _ _ =>
    have hnumber : Clean (String.ofList ((Text.hex 4 char.toNat).map Char.toUpper)) := by
      rw [Text.clean_ofList]
      intro d hd
      obtain ⟨digit, hdigit, rfl⟩ := List.mem_map.mp hd
      exact (Text.plain_of_mem_hex hdigit).2
    have hquoted := Text.clean_quoteChar char
    exact ((hquoted.append (by decide)).append hnumber).append (by decide)
  · have hnumber (n : Nat) : Clean (String.ofList (Text.hex 2 n)) :=
      Text.clean_ofList.mpr fun d hd => (Text.plain_of_mem_hex hd).1
    exact Clean.append (by decide) (hnumber _)

end Lexing

namespace Grammar
open Lexing (Run)
variable {b : UInt8} {r : Run} {word : Bytes}

theorem clean_wording (s : Bytes) : Clean (wording s) := Lexing.clean_describe _

theorem plain_of_continues (h : continues r b) : b.toNat < 0x80 ∧ Plain (glyph b) := by
  have hall (b : UInt8) : continues r b → b.toNat < 0x80 ∧ Plain (glyph b) := by
    revert b
    cases r <;> exact forall_byte (by decide +kernel)
  exact hall b h

/-- Numbers and words are shown as they were typed, which is safe for the bytes they are made of. -/
theorem clean_lossy (h : ∀ b ∈ word, continues r b) : Clean (Utf8.lossy word) := by
  rw [Utf8.lossy_ascii fun b hb => (plain_of_continues (h b hb)).1, Text.clean_ofList]
  intro c hc
  obtain ⟨b, hb, rfl⟩ := List.mem_map.mp hc
  exact (plain_of_continues (h b hb)).2

theorem clean_spelling (k : Keyword) : Clean k.spelling := by
  cases k <;> decide

theorem clean_particle (h : ∀ b ∈ word, continues r b) : Clean (particle r word).text := by
  cases r with
  | number => exact (clean_lossy h).between (by decide) (by decide)
  | word =>
    rw [particle]
    cases keyword? word with
    | none => exact (clean_lossy h).between (by decide) (by decide)
    | some k =>
      have hspelling : Clean (Utf8.lossy (Utf8.encode k.spelling)) := by
        rw [Utf8.lossy_encode]
        exact clean_spelling k
      exact hspelling.between (by decide) (by decide)

/-- What holds of every token holds of the particles that find room. -/
theorem deliver_added (P : Particle → Prop) {ts : List Token}
    (h : ∀ t ∈ ts, P t.particle) (consumed : Nat) (b : ParticleBuffer) :
    ∃ read, (deliver consumed ts b).2.particles.toList = b.particles.toList ++ read ∧
      ∀ p ∈ read, P p := by
  induction ts generalizing b with
  | nil => exact ⟨[], (List.append_nil _).symm, nofun⟩
  | cons t ts ih =>
    obtain ⟨hfirst, hothers⟩ := List.forall_mem_cons.mp h
    rcases b.add_cases t.particle with ⟨capacity, hadd⟩ | hadd
    · obtain ⟨read, hread, hall⟩ :=
        ih hothers { b with particles := b.particles.push t.particle, capacity }
      refine ⟨t.particle :: read, ?_, List.forall_mem_cons.mpr ⟨hfirst, hall⟩⟩
      simp only [deliver, hadd]
      rw [hread, Array.toList_push, List.append_assoc, List.singleton_append]
    · refine ⟨[], ?_, nofun⟩
      simp only [deliver, hadd, List.append_nil]

end Grammar

namespace Terminal

/-- A text without a newline and the newline behind it are one line, whatever comes next. -/
theorem lines_cons {line : Bytes} (h : Lexing.newline ∉ line) (more : Bytes) :
    lines (line ++ [Lexing.newline] ++ more) = (line ++ [Lexing.newline]) :: lines more := by
  induction line with
  | nil => exact if_pos rfl
  | cons b line ih =>
    obtain ⟨hfirst, hothers⟩ := not_or.mp (mt List.mem_cons.mpr h)
    rw [List.cons_append, List.cons_append, lines, if_neg (Ne.symm hfirst), ih hothers]

theorem lines_clean {s : String} (h : Clean s) (more : Bytes) :
    lines (Utf8.encode (s ++ "\n") ++ more) = Utf8.encode (s ++ "\n") :: lines more := by
  have hencode : Utf8.encode (s ++ "\n") = Utf8.encode s ++ [Lexing.newline] := by
    rw [Utf8.encode_eq_flatMap, Utf8.encode_eq_flatMap, String.toList_append, List.flatMap_append]
    rfl
  have hnewline : Lexing.newline ∉ Utf8.encode s :=
    fun hmem => absurd (h.bytes _ hmem).1 (by decide)
  rw [hencode, lines_cons hnewline]

end Terminal

namespace Lexer
open Grammar
open Lexing (Run)
variable (x : Lexer) {s : Bytes} {p : Particle} {n : Nat}

/-- Malformed bytes are escaped, and the reason is words. -/
theorem clean_fault (bytes : Bytes) {reason : String} (h : Clean reason) :
    Clean (x.fault bytes reason).text := by
  have hshown : Clean (Text.escape (Utf8.lossy bytes)) := Text.clean_escape _
  rw [fault]
  split
  · exact (hshown.between (by decide) (by decide)).append h
  · exact hshown.between (by decide) (by decide)

theorem kind_nameParticle (value : Bytes) : (x.nameParticle value).kind = .name := by
  rw [nameParticle]
  cases x.name? value <;> rfl

theorem clean_of_frontRun {r : Run} (h : x.frontRun r s = .token p n) : Clean p.text := by
  simp only [frontRun] at h
  split at h
  · cases h
  · split at h
    · cases h
      exact clean_particle fun b hb => List.mem_takeWhile_imp hb
    · split at h <;> cases h
      exact x.clean_fault _ (((clean_wording _).append (by decide)).append (by cases r <;> decide))

theorem clean_of_frontName (h : x.frontName s = .token p n) (hp : p.kind ≠ .name) :
    Clean p.text := by
  simp only [frontName] at h
  split at h
  · cases h
    exact absurd (x.kind_nameParticle _) hp
  · split at h <;> cases h
    exact x.clean_fault _ ((clean_wording _).append (by decide))
  · cases h

/-- Whatever stands at the front, only a name is not shown cleanly. -/
theorem clean_of_front (h : x.front s = .token p n) (hp : p.kind ≠ .name) : Clean p.text := by
  cases s with
  | nil => cases h
  | cons b t =>
    rw [front_cons] at h
    cases hl : lead b <;> simp only [hl, rule] at h
    case blank => cases h
    case newline | opening => cases h; decide
    case closing =>
      simp only [frontClosing] at h
      split at h <;> cases h
      · decide
      · exact x.clean_fault _ (Clean.append (by decide) (clean_wording _))
    case quotation => exact x.clean_of_frontName h hp
    case run r => exact x.clean_of_frontRun h
    case stray =>
      cases h
      exact x.clean_fault _ (Clean.append (by decide) (clean_wording _))

/-- Of what a call reads, whether it ends well or not, everything but names is shown without a
control byte, the reasons included; so each of these particles makes one line of the output. -/
theorem lex_shown_on_one_line (chunks : List Bytes) (b : ParticleBuffer) :
    ∃ read, (x.lex chunks b).2.particles.toList = b.particles.toList ++ read ∧
      ∀ p ∈ read, p.kind ≠ .name →
        (∀ byte ∈ Utf8.encode p.text, 0x20 ≤ byte.toNat ∧ byte.toNat ≠ 0x7F) ∧
        ∀ more, Terminal.lines (Utf8.encode (p.text ++ "\n") ++ more) =
          Utf8.encode (p.text ++ "\n") :: Terminal.lines more := by
  obtain ⟨read, hread, hall⟩ :=
    deliver_added (fun p => p.kind ≠ .name → Clean p.text)
      (fun t ht => x.clean_of_front (x.front_of_mem_scan [] ht))
      (x.scan 0 chunks.flatten).consumed b
  rw [lex_eq]
  refine ⟨read, hread, fun p hmem hp => ?_⟩
  exact ⟨(hall p hmem hp).bytes, Terminal.lines_clean (hall p hmem hp)⟩

/-- A number that breaks off in an order to clear the screen, and a byte that begins no
character. -/
theorem lex_shown_on_one_line_escape :
    let x : Lexer := ⟨fun _ => none, true⟩
    let chunks : List Bytes := [[0x31, 0x1B, 0x5B], [0x32, 0x4A, 0x20, 0x9B]]
    let number : Particle :=
      .error [0x31, 0x1B, 0x5B, 0x32, 0x4A] (some "'\\u\x7b1b\x7d' (U+001B) in number")
    let stray : Particle := .error [0x9B] (some "unexpected byte 0x9b")
    (x.lex chunks .empty).2.particles.toList = [number, stray] ∧
      number.text = "ERROR<1\\u\x7b1b\x7d[2J>: '\\u\x7b1b\x7d' (U+001B) in number" ∧
      (∀ byte ∈ Utf8.encode number.text, 0x20 ≤ byte.toNat ∧ byte.toNat ≠ 0x7F) ∧
      Terminal.lines (Utf8.encode (number.text ++ "\n") ++ Utf8.encode (stray.text ++ "\n")) =
        [Utf8.encode (number.text ++ "\n"), Utf8.encode (stray.text ++ "\n")] := by
  intro x chunks number stray
  have hlex : (x.lex chunks .empty).2.particles.toList = [number, stray] := by decide +kernel
  obtain ⟨read, hread, hall⟩ := x.lex_shown_on_one_line chunks .empty
  obtain rfl : read = [number, stray] := hread.symm.trans hlex
  obtain ⟨hbytes, hnumber⟩ := hall number (by decide) (by decide)
  obtain ⟨-, hstray⟩ := hall stray (by decide) (by decide)
  have hlast := hstray []
  rw [List.append_nil] at hlast
  refine ⟨hlex, by decide +kernel, hbytes, ?_⟩
  rw [hnumber, hlast]
  rfl

end Lexer
end TableTalk
