import TableTalk.Proofs.Lexing.Conservation

/-! Writing commands down. However their terms are spelled and set apart, the lexer reads them back,
one particle for each. -/
namespace TableTalk

namespace Grammar
open Lexing (Run)

/-- What a command is made of, before it is written. -/
inductive Term
  | lineEnd
  | opening
  | closing
  | number (digits : Bytes)
  | word (bytes : Bytes)
  | name (value : Bytes)
  deriving DecidableEq, Repr

/-- What may stand between quotation marks for a value: a backslash goes before every quotation mark
and every backslash, and before any other byte at will. -/
inductive Quotes : Bytes → Bytes → Prop
  | nil : Quotes [] []
  | plain {b : UInt8} {v s : Bytes} : ¬forbids b → glyph b ≠ '"' → glyph b ≠ '\\' → Quotes v s →
      Quotes (b :: v) (b :: s)
  | escaped {b : UInt8} {v s : Bytes} : ¬forbids b → Quotes v s →
      Quotes (b :: v) ('\\'.toUInt8 :: b :: s)

/-- How a term is spelled. What has no spelling, such as a number without digits, cannot
be written. -/
inductive Spells : Term → Bytes → Prop
  | lineEnd : Spells .lineEnd ['\n'.toUInt8]
  | opening : Spells .opening ['('.toUInt8]
  | closing : Spells .closing [')'.toUInt8]
  | number {digits : Bytes} : digits ≠ [] → (∀ b ∈ digits, (glyph b).isDigit) →
      Spells (.number digits) digits
  | word {b : UInt8} {more : Bytes} : (glyph b).isAlpha ∨ glyph b ∈ signs →
      (∀ c ∈ more, (glyph c).isAlphanum ∨ glyph c ∈ signs) → Spells (.word (b :: more)) (b :: more)
  | name {value s : Bytes} : Quotes value s →
      Spells (.name value) ('"'.toUInt8 :: s ++ ['"'.toUInt8])

/-- Terms that must not touch what follows. -/
def Term.Touchy : Term → Prop
  | number _ | word _ | closing => True
  | lineEnd | opening | name _ => False

/-- The blanks between a term and those after it. Behind a touchy term they start with a space; they
may be left out before a closing bracket or the end of a line, and behind a last closing bracket. -/
structure Separates (t : Term) (gap : Bytes) (later : List Term) : Prop where
  blank : Blank gap
  apart : t.Touchy → (∃ g, gap = ' '.toUInt8 :: g) ∨
    gap = [] ∧
    (later.head? = some .closing ∨ later.head? = some .lineEnd ∨ t = .closing ∧ later = [])

/-- How a row of terms is written. -/
inductive Writes : List Term → Bytes → Prop
  | nil : Writes [] []
  | cons {t : Term} {s gap rest : Bytes} {ts : List Term} :
      Spells t s → Separates t gap ts → Writes ts rest → Writes (t :: ts) (s ++ gap ++ rest)

/-- What may follow a term at once. -/
def Term.Precedes : Term → Bytes → Prop
  | number _, s | word _, s => ∃ b, s.head? = some b ∧ stops b
  | closing, s => s.head?.all stops
  | lineEnd, _ | opening, _ | name _, _ => True

variable {t : Term} {ts : List Term} {s v gap rest : Bytes}

theorem not_continues_of_stops (r : Run) (b : UInt8) : stops b → ¬continues r b := by
  apply forall_byte (P := fun b => stops b → ¬continues r b)
  cases r <;> decide +kernel

theorem Writes.head_of_lineEnd (h : Writes ts s) (ht : ts.head? = some .lineEnd) :
    s.head? = some '\n'.toUInt8 := by
  cases h with
  | nil => cases ht
  | cons hspells _ _ =>
    cases ht
    cases hspells
    rfl

theorem Writes.head_of_closing (h : Writes ts s) (ht : ts.head? = some .closing) :
    s.head? = some ')'.toUInt8 := by
  cases h with
  | nil => cases ht
  | cons hspells _ _ =>
    cases ht
    cases hspells
    rfl

/-- What is written behind a term may follow it. -/
theorem Separates.precedes (hgap : Separates t gap ts) (hrest : Writes ts rest) :
    t.Precedes (gap ++ rest) := by
  have hfollow : t.Touchy →
      (∃ b, (gap ++ rest).head? = some b ∧ stops b) ∨ t = .closing ∧ gap ++ rest = [] := by
    intro htouchy
    rcases hgap.apart htouchy with ⟨g, rfl⟩ | ⟨rfl, hnext⟩
    · exact .inl ⟨_, rfl, rfl⟩
    · rcases hnext with hclosing | hline | ⟨hlast, rfl⟩
      · exact .inl ⟨_, hrest.head_of_closing hclosing, rfl⟩
      · exact .inl ⟨_, hrest.head_of_lineEnd hline, rfl⟩
      · cases hrest
        exact .inr ⟨hlast, rfl⟩
  cases t with
  | lineEnd | opening | name _ => trivial
  | number _ | word _ =>
    rcases hfollow trivial with hstops | ⟨hclosing, -⟩
    · exact hstops
    · cases hclosing
  | closing =>
    rcases hfollow trivial with ⟨b, hb, hstops⟩ | ⟨-, hnil⟩
    · rw [Term.Precedes, hb]
      exact hstops
    · simp only [Term.Precedes, hnil, List.head?_nil, Option.all_none]

/-- Taking the backslashes away again gives the value. -/
theorem inside_quotes (h : Quotes v s) (rest : Bytes) :
    inside (s ++ '"'.toUInt8 :: rest) = .closed v (s.length + 1) := by
  induction h with
  | nil => exact inside_cons _ _
  | plain hf hq hb _ ih =>
    rw [List.cons_append, inside_cons, if_neg hf, if_neg hq, if_neg hb, ih, List.length_cons]
    simp only [Inside.after, List.singleton_append, Nat.add_comm 1]
  | escaped hf _ ih =>
    rw [List.cons_append, List.cons_append, inside_cons, if_neg (by decide), if_neg (by decide),
      if_pos (by decide)]
    simp only [if_neg hf, ih, Inside.after, List.singleton_append, List.length_cons]
    congr 1
    omega

theorem lead_of_isDigit (b : UInt8) : (glyph b).isDigit → lead b = .run .number := by
  apply forall_byte (P := fun b => (glyph b).isDigit → lead b = .run .number)
  decide +kernel

theorem lead_of_startsWord (b : UInt8) :
    (glyph b).isAlpha ∨ glyph b ∈ signs → lead b = .run .word := by
  apply forall_byte (P := fun b => (glyph b).isAlpha ∨ glyph b ∈ signs → lead b = .run .word)
  decide +kernel

/-- The blanks that may stand before a token. -/
def indents (b : UInt8) : Bool := [' ', '\r', '\t'].contains (glyph b)

theorem lead_eq_blank_iff (b : UInt8) : lead b = .blank ↔ indents b := by
  apply forall_byte (P := fun b => lead b = .blank ↔ indents b)
  decide +kernel

end Grammar

namespace Lexer
open Grammar
open Lexing (Run)
variable (x : Lexer) {t : Term} {ts : List Term} {s v gap : Bytes} {r : Run}

/-- The particle that a term is read as. -/
def reading : Term → Particle
  | .lineEnd => .endOfLine
  | .opening => .beginNest
  | .closing => .endNest
  | .number digits => .number digits
  | .word bytes => (keyword? bytes).elim (.word bytes) .keyword
  | .name value => (x.name? value).elim (.unknownName value) .name

theorem isError_reading (t : Term) : (x.reading t).isError = false := by
  cases t with
  | lineEnd | opening | closing | number _ => rfl
  | word bytes =>
    rw [reading]
    cases keyword? bytes <;> rfl
  | name value =>
    rw [reading]
    cases x.name? value <;> rfl

/-- A run of bytes of one kind ends at a byte that stops it. -/
theorem frontRun_of_stops (hs : ∀ b ∈ s, continues r b) (hv : ∃ b, v.head? = some b ∧ stops b) :
    x.frontRun r (s ++ v) = .token (particle r s) s.length := by
  obtain ⟨b, hb, hstops⟩ := hv
  obtain ⟨v, rfl⟩ := List.head?_eq_some_iff.mp hb
  have hends := not_continues_of_stops r b hstops
  have htake : (s ++ b :: v).takeWhile (continues r) = s := by
    rw [List.takeWhile_append_of_pos hs, List.takeWhile_cons_of_neg hends, List.append_nil]
  have hdrop : (s ++ b :: v).dropWhile (continues r) = b :: v := by
    rw [List.dropWhile_append_of_pos hs, List.dropWhile_cons_of_neg hends]
  simp only [frontRun, htake, hdrop, List.head?_cons, if_pos hstops]

/-- A spelled term is a token, whatever may follow it. -/
theorem front_spells (h : Spells t s) (hv : t.Precedes v) :
    x.front (s ++ v) = .token (x.reading t) s.length := by
  cases h with
  | lineEnd | opening => rfl
  | closing => exact if_pos hv
  | number hne hdigits =>
    obtain ⟨b, more, rfl⟩ := List.exists_cons_of_ne_nil hne
    rw [List.cons_append, front_cons, lead_of_isDigit b (hdigits b List.mem_cons_self)]
    exact x.frontRun_of_stops (r := .number) hdigits hv
  | @word b more hfirst hmore =>
    have hlead := lead_of_startsWord b hfirst
    rw [List.cons_append, front_cons, hlead]
    refine x.frontRun_of_stops (r := .word) (s := b :: more) ?_ hv
    intro c hc
    rcases List.mem_cons.mp hc with rfl | hc
    · exact continues_of_lead hlead
    · simpa [continues] using hmore c hc
  | name hquotes =>
    have hinside := inside_quotes hquotes v
    simp only [List.cons_append, List.append_assoc] at hinside ⊢
    rw [front_cons]
    show x.frontName _ = _
    simp only [frontName, List.tail_cons, List.nil_append, hinside, nameParticle, reading,
      List.length_cons, List.length_append, List.length_nil]

/-- Blanks give nothing. -/
theorem scan_gap (position : Nat) (hgap : Blank gap) (s : Bytes) :
    x.scan position (gap ++ s) = x.scan (position + gap.length) s := by
  induction gap generalizing position with
  | nil => rfl
  | cons b gap ih =>
    have hindents : indents b := List.contains_iff_mem.mpr (hgap b List.mem_cons_self)
    have hb : x.front (b :: gap ++ s) = .blank := by
      rw [List.cons_append, front_cons, (lead_eq_blank_iff b).mpr hindents]
      rfl
    rw [x.scan_blank hb, List.length_cons, Nat.add_comm gap.length, ← Nat.add_assoc]
    exact ih (position + 1) fun c hc => hgap c (List.mem_cons_of_mem b hc)

/-- Each term is read where it was written, and nothing is left. -/
theorem scan_writes (position : Nat) (h : Writes ts s) :
    (x.scan position s).particles = ts.map x.reading ∧
      (x.scan position s).consumed = position + s.length := by
  induction h generalizing position with
  | nil =>
    rw [x.scan_unfinished x.front_nil]
    exact ⟨rfl, rfl⟩
  | @cons t s gap rest ts hspells hgap hrest ih =>
    have hfront := x.front_spells hspells (hgap.precedes hrest)
    obtain ⟨hparticles, hconsumed⟩ := ih (position + s.length + gap.length)
    rw [List.append_assoc, x.scan_token hfront, List.drop_left, x.scan_gap _ hgap.blank]
    refine ⟨?_, ?_⟩
    · rw [List.map_cons, ← hparticles]
      rfl
    · rw [Scan.cons, hconsumed, List.length_append, List.length_append]
      omega

/-- Reading undoes writing: of written terms nothing is left over, each comes out as one particle,
in order, and none of them is an error. -/
theorem lex_writes {chunks : List Bytes} {b : ParticleBuffer} (h : Writes ts s)
    (hchunks : chunks.flatten = s) (hroom : b.Takes ts.length) :
    ∃ b', x.lex chunks b = (.ok s.length, b') ∧
      b'.particles.toList = b.particles.toList ++ ts.map x.reading ∧
      ∀ t ∈ ts, (x.reading t).isError = false := by
  obtain ⟨hparticles, hconsumed⟩ := x.scan_writes 0 h
  have hcount : (x.scan 0 s).tokens.length = ts.length := by
    have hlength := congrArg List.length hparticles
    rwa [Scan.particles, List.length_map, List.length_map] at hlength
  rw [← hcount] at hroom
  obtain ⟨b', hinto, hread⟩ := Scan.into_of_takes hroom
  refine ⟨b', ?_, ?_, fun t _ => x.isError_reading t⟩
  · rw [lex_eq, hchunks, hinto, hconsumed, Nat.zero_add]
  · rw [hread, hparticles]

/-- A verb, and in brackets a name that holds a quotation mark, a line end and a byte of no
character, close to a number. -/
theorem lex_writes_line :
    let x : Lexer := ⟨fun _ => none, true⟩
    let ts : List Term := [.word [0x53, 0x61, 0x79], .opening, .name [0x61, 0x22, 0x0A, 0xFF],
      .number [0x34, 0x32], .closing, .closing, .lineEnd]
    let s : Bytes :=
      [0x53, 0x61, 0x79, 0x20, 0x28, 0x22, 0x61, 0x5C, 0x22, 0x5C, 0x0A, 0xFF, 0x22, 0x34, 0x32,
        0x29, 0x29, 0x0A, 0x09]
    Writes ts s ∧ ParticleBuffer.empty.Takes ts.length ∧ ∃ b', x.lex [s] .empty = (.ok 19, b') ∧
      b'.particles.toList = [.keyword .say, .beginNest, .unknownName [0x61, 0x22, 0x0A, 0xFF],
        .number [0x34, 0x32], .endNest, .endNest, .endOfLine] := by
  intro x ts s
  have hspace : Blank [0x20] := List.forall_mem_singleton.mpr (by decide)
  have htab : Blank [0x09] := List.forall_mem_singleton.mpr (by decide)
  have hdigits : ∀ b ∈ ([0x34, 0x32] : Bytes), (glyph b).isDigit := List.all_eq_true.mp (by decide)
  have hletters : ∀ b ∈ ([0x61, 0x79] : Bytes), (glyph b).isAlphanum ∨ glyph b ∈ signs :=
    List.forall_mem_cons.mpr ⟨by decide, List.forall_mem_singleton.mpr (by decide)⟩
  have hname : Quotes [0x61, 0x22, 0x0A, 0xFF] [0x61, 0x5C, 0x22, 0x5C, 0x0A, 0xFF] :=
    .plain (by decide) (by decide) (by decide) (.escaped (by decide) (.escaped (by decide)
      (.plain (by decide) (by decide) (by decide) .nil)))
  have hclosings : Writes [.closing, .closing, .lineEnd] [0x29, 0x29, 0x0A, 0x09] :=
    .cons .closing ⟨blank_nil, fun _ => .inr ⟨rfl, .inl rfl⟩⟩
      (.cons .closing ⟨blank_nil, fun _ => .inr ⟨rfl, .inr (.inl rfl)⟩⟩
        (.cons .lineEnd ⟨htab, nofun⟩ .nil))
  have hnumber : Writes [.number [0x34, 0x32], .closing, .closing, .lineEnd]
      [0x34, 0x32, 0x29, 0x29, 0x0A, 0x09] :=
    .cons (.number (by decide) hdigits) ⟨blank_nil, fun _ => .inr ⟨rfl, .inl rfl⟩⟩ hclosings
  have hwrites : Writes ts s :=
    .cons (.word (by decide) hletters) ⟨hspace, fun _ => .inl ⟨[], rfl⟩⟩
      (.cons .opening ⟨blank_nil, nofun⟩ (.cons (.name hname) ⟨blank_nil, nofun⟩ hnumber))
  have hroom : ParticleBuffer.empty.Takes ts.length :=
    ParticleBuffer.takes_of_fits (by decide) (by decide)
  obtain ⟨b', hlex, hparticles, -⟩ := x.lex_writes hwrites (List.flatten_singleton) hroom
  have hreading :
      ts.map x.reading = [.keyword .say, .beginNest, .unknownName [0x61, 0x22, 0x0A, 0xFF],
        .number [0x34, 0x32], .endNest, .endNest, .endOfLine] := by decide +kernel
  refine ⟨hwrites, hroom, b', hlex, ?_⟩
  rw [hparticles, hreading]
  rfl

end Lexer
end TableTalk
