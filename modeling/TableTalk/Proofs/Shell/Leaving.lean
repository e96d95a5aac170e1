import TableTalk.Proofs.Ascii
import TableTalk.Proofs.Lexing.Lines
import TableTalk.Proofs.Session.Waiting
import TableTalk.Shell.Basic

/-! Asking to leave. The text of a line alone decides whether it does, unless a name is open: then
no line does, for it begins within the name. -/
namespace TableTalk

namespace Grammar
open Lexing (newline)
variable {k : Keyword} {chars : List Char}

/-- A text that begins with a keyword, in any case, and goes on with what may follow one, if
at all. -/
def Begins (k : Keyword) (chars : List Char) : Prop :=
  ∃ word rest, chars = word ++ rest ∧ word.map Char.toUpper = k.spelling.toList ∧
    ∀ c, rest.head? = some c → c ∈ [' ', ')', '\n']

theorem toNat_lt_of_isAlpha {c : Char} (h : c.toUpper.isAlpha) : c.toNat < 0x80 := by
  by_cases hlower : 'a'.val ≤ c.val ∧ c.val ≤ 'z'.val
  · exact Nat.lt_of_le_of_lt (UInt32.le_iff_toNat_le.mp hlower.2) (by decide)
  · have hself : c.toUpper = c := dif_neg hlower
    rw [hself] at h
    rcases Bool.or_eq_true_iff.mp h with hupper | hsmall
    · have hle := (of_decide_eq_true hupper).2
      exact Nat.lt_of_le_of_lt (UInt32.le_iff_toNat_le.mp hle) (by decide)
    · have hle := of_decide_eq_true (Bool.and_eq_true_iff.mp hsmall).2
      exact Nat.lt_of_le_of_lt (UInt32.le_iff_toNat_le.mp hle) (by decide)

theorem stops_iff (b : UInt8) : stops b ↔ glyph b ∈ [' ', ')', '\n'] := by
  apply forall_byte (P := fun b => stops b ↔ glyph b ∈ [' ', ')', '\n'])
  decide +kernel

theorem toNat_lt_of_mem {c : Char} (h : c ∈ [' ', ')', '\n']) : c.toNat < 0x80 := by
  simp only [List.mem_cons, List.not_mem_nil, or_false] at h
  rcases h with rfl | rfl | rfl <;> decide

/-- The characters of a keyword are its bytes, and the newline behind a line stops a keyword that
nothing else does. -/
theorem begins_iff :
    Begins k chars ↔ ∃ w b t, (chars ++ ['\n']).flatMap String.utf8EncodeChar = w ++ b :: t ∧
      w.map (fun b => (glyph b).toUpper) = k.spelling.toList ∧ stops b := by
  have hword {word : List Char} (h : word.map Char.toUpper = k.spelling.toList) :
      ∀ c ∈ word, c.toNat < 0x80 := by
    intro c hc
    apply toNat_lt_of_isAlpha
    apply Keyword.isAlpha_spelling (k := k)
    rw [← h]
    exact List.mem_map_of_mem hc
  constructor
  · rintro ⟨word, rest, rfl, hspelling, hrest⟩
    obtain ⟨c, more, hnext, hc⟩ : ∃ c more, rest ++ ['\n'] = c :: more ∧ c ∈ [' ', ')', '\n'] := by
      cases rest with
      | nil => exact ⟨'\n', [], rfl, by decide⟩
      | cons c rest => exact ⟨c, rest ++ ['\n'], rfl, hrest c rfl⟩
    obtain ⟨w, rfl, hw⟩ := Utf8.exists_bytes (hword hspelling)
    have hascii : ∀ d ∈ [c], d.toNat < 0x80 := by
      intro d hd
      rw [List.mem_singleton.mp hd]
      exact toNat_lt_of_mem hc
    obtain ⟨bs, hbs, hb⟩ := Utf8.exists_bytes hascii
    obtain ⟨b, rfl, rfl⟩ := List.map_eq_singleton_iff.mp hbs
    refine ⟨w, b, more.flatMap String.utf8EncodeChar, ?_, ?_, (stops_iff b).mpr hc⟩
    · rw [List.append_cons w b]
      apply (Utf8.encode_eq_append_iff ?_).mpr
      · exact ⟨more, by rw [List.append_assoc, hnext, List.map_append, List.append_assoc]; rfl, rfl⟩
      · intro a ha
        exact (List.mem_append.mp ha).elim (hw a) (hb a)
    · rwa [List.map_map] at hspelling
  · rintro ⟨w, b, t, hbytes, hspelling, hstops⟩
    have hb := (stops_iff b).mp hstops
    have hupper : (w.map glyph).map Char.toUpper = k.spelling.toList := by
      rwa [List.map_map]
    have hascii : ∀ a ∈ w ++ [b], a.toNat < 0x80 := by
      intro a ha
      rw [← Utf8.toNat_ofUInt8]
      rcases List.mem_append.mp ha with ha | ha
      · exact hword hupper _ (List.mem_map_of_mem ha)
      · rw [List.mem_singleton.mp ha]
        exact toNat_lt_of_mem hb
    rw [List.append_cons w b t] at hbytes
    obtain ⟨more, hmore, -⟩ := (Utf8.encode_eq_append_iff hascii).mp hbytes
    rw [List.map_append, List.append_assoc] at hmore
    rcases List.eq_nil_or_concat more with rfl | ⟨rest, c, rfl⟩
    · obtain ⟨hchars, -⟩ := List.append_inj' hmore rfl
      exact ⟨w.map glyph, [], by rw [hchars, List.append_nil], hupper, nofun⟩
    · rw [List.concat_eq_append, ← List.append_assoc, ← List.append_assoc] at hmore
      obtain ⟨hchars, -⟩ := List.append_inj' hmore rfl
      refine ⟨w.map glyph, glyph b :: rest, by rw [hchars, List.append_assoc]; rfl, hupper, ?_⟩
      intro d hd
      cases hd
      exact hb

end Grammar

namespace Shell
open Grammar
open Lexing (newline)
variable {sh : Shell} {x : Lexer} {line : String} {s : Bytes}

/-- The line asks to leave: after any spaces, carriage returns and tabs comes EXIT or SHUTDOWN, in
any case, and then a space, a closing bracket, a newline or nothing more. -/
def Leaves (line : String) : Prop :=
  ∃ word rest, (line.toList.dropWhile fun c => [' ', '\r', '\t'].contains c) = word ++ rest ∧
    (word.map Char.toUpper = "EXIT".toList ∨ word.map Char.toUpper = "SHUTDOWN".toList) ∧
    ∀ c, rest.head? = some c → c ∈ [' ', ')', '\n']

theorem leaves_iff_begins (line : String) :
    Leaves line ↔ ∃ k, (k = .exit ∨ k = .shutdown) ∧
      Begins k (line.toList.dropWhile fun c => [' ', '\r', '\t'].contains c) := by
  constructor
  · rintro ⟨word, rest, hline, hword | hword, hrest⟩
    · exact ⟨.exit, .inl rfl, word, rest, hline, hword, hrest⟩
    · exact ⟨.shutdown, .inr rfl, word, rest, hline, hword, hrest⟩
  · rintro ⟨k, rfl | rfl, word, rest, hline, hword, hrest⟩
    · exact ⟨word, rest, hline, .inl hword, hrest⟩
    · exact ⟨word, rest, hline, .inr hword, hrest⟩

/-- The bytes of a line without the blanks in front. -/
theorem dropWhile_indents (line : String) :
    (Utf8.encode line ++ [newline]).dropWhile indents =
      ((line.toList.dropWhile fun c => [' ', '\r', '\t'].contains c) ++ ['\n']).flatMap
        String.utf8EncodeChar := by
  have hskip : ∀ c : Char, [' ', '\r', '\t'].contains c → c.toNat < 0x80 := by
    intro c hc
    have hmem := List.contains_iff_mem.mp hc
    simp only [List.mem_cons, List.not_mem_nil, or_false] at hmem
    rcases hmem with rfl | rfl | rfl <;> decide
  have hbytes : Utf8.encode line ++ [newline] =
      (line.toList ++ ['\n']).flatMap String.utf8EncodeChar := by
    rw [Utf8.encode_eq_flatMap, List.flatMap_append]
    rfl
  have hchars : ((line.toList ++ ['\n']).dropWhile fun c => [' ', '\r', '\t'].contains c) =
      (line.toList.dropWhile fun c => [' ', '\r', '\t'].contains c) ++ ['\n'] := by
    rw [List.dropWhile_append]
    split
    · next hall =>
      rw [List.isEmpty_iff.mp hall]
      rfl
    · rfl
  rw [hbytes, ← hchars]
  exact Utf8.dropWhile_encode hskip _

/-- The first particle of a feed asks to leave if the bytes that were fed begin with the verb
for it. -/
theorem asksToLeave_iff (x : Lexer) (s : Bytes) :
    (x.scan 0 s).particles.head?.any asksToLeave ↔
      ∃ k, (k = .exit ∨ k = .shutdown) ∧
        ∃ n, x.front (s.dropWhile indents) = .token (.keyword k) n := by
  constructor
  · intro h
    obtain ⟨p, hp, hask⟩ := (Option.any_eq_true _ _).mp h
    obtain ⟨n, hfront⟩ := (x.head?_particles 0 s).mp hp
    cases p with
    | keyword k =>
      refine ⟨k, ?_, n, hfront⟩
      simpa [asksToLeave, Particle.keyword?] using hask
    | _ => cases hask
  · rintro ⟨k, hk, hfront⟩
    rw [(x.head?_particles 0 s).mpr hfront]
    rcases hk with rfl | rfl <;> rfl

/-- No keyword begins with a quotation mark. -/
theorem front_quotation_ne_keyword {k : Keyword} {n : Nat} (hs : s.head? = some '"'.toUInt8) :
    x.front s ≠ .token (.keyword k) n := by
  obtain ⟨body, rfl⟩ := List.head?_eq_some_iff.mp hs
  exact x.frontName_ne_keyword

/-- What waits begins with a quotation mark, and the name behind it has no end yet. -/
def NameOpen (sh : Shell) : Prop :=
  sh.session.pending.head? = some '"'.toUInt8 ∧
    sh.session.lexer.frontName sh.session.pending = .unfinished

/-- At a prompt nothing waits, or a quoted name does. -/
def Ready (sh : Shell) : Prop := sh.session.pending = [] ∨ sh.NameOpen

theorem lexLine_fst (sh : Shell) (line : String) :
    (sh.lexLine line).1 = (sh.session.feed (Utf8.encode line ++ [newline])).1.map fun particles =>
      { lines := particles.toList.map (·.text) ++
          [s!"consumed {(sh.session.feed (Utf8.encode line ++ [newline])).2.lastConsumed} bytes"]
        exit := particles[0]?.any asksToLeave } := rfl

theorem exit_iff_front {report : Report} (h : (sh.lexLine line).1 = .ok report) :
    report.exit ↔ ∃ k, (k = .exit ∨ k = .shutdown) ∧ ∃ n, sh.session.lexer.front
      ((sh.session.pending ++ (Utf8.encode line ++ [newline])).dropWhile indents) =
        .token (.keyword k) n := by
  rw [lexLine_fst] at h
  rcases hfeed : sh.session.feed (Utf8.encode line ++ [newline]) with ⟨f | particles, t⟩
  · rw [hfeed] at h
    cases h
  · rw [hfeed] at h
    cases h
    obtain ⟨hparticles, -⟩ := Session.feed_eq_ok hfeed
    simp only [← Array.getElem?_toList, ← List.head?_eq_getElem?, hparticles]
    exact asksToLeave_iff _ _

/-- A line that is read asks to leave by its text alone, but never within a name. -/
theorem exit_iff {report : Report} (hready : sh.Ready) (h : (sh.lexLine line).1 = .ok report) :
    report.exit ↔ sh.session.pending = [] ∧ Leaves line := by
  rw [exit_iff_front h]
  rcases hready with hnone | ⟨hname, -⟩
  · rw [hnone, List.nil_append, dropWhile_indents, leaves_iff_begins]
    simp only [Lexer.front_eq_keyword_iff, begins_iff, true_and]
  · obtain ⟨body, hbody⟩ := List.head?_eq_some_iff.mp hname
    have hkeep : (sh.session.pending ++ (Utf8.encode line ++ [newline])).dropWhile indents =
        sh.session.pending ++ (Utf8.encode line ++ [newline]) := by
      rw [hbody]
      exact List.dropWhile_cons_of_neg (by decide)
    rw [hkeep]
    constructor
    · rintro ⟨k, -, n, hfront⟩
      refine absurd hfront (front_quotation_ne_keyword ?_)
      rw [List.head?_append, hname, Option.some_or]
    · rintro ⟨hnone, -⟩
      rw [hnone] at hname
      cases hname

end Shell
end TableTalk
