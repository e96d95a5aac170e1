import TableTalk.Lexing.Step
import TableTalk.Proofs.Lexing.Alphabet

/-! The grammar of commands, on byte strings alone: which token stands at the front of what is left,
and what a scan from front to end comes to. -/
namespace TableTalk

namespace Grammar
open Lexing (Run describe)

/-- The keyword that a word is when case is ignored. -/
def keyword? (word : Bytes) : Option Keyword :=
  Keyword.all.toList.find? fun k => word.map (fun b => (glyph b).toUpper) = k.spelling.toList

def particle (r : Run) (bytes : Bytes) : Particle :=
  match r with
  | .number => .number bytes
  | .word => (keyword? bytes).elim (.word bytes) .keyword

/-- The words for what some bytes begin with. -/
def wording (s : Bytes) : String := describe (.start [s])

/-- What stands at the front of some bytes: a blank, a token of so many bytes, or the beginning of
a token whose end has yet to come. -/
inductive Front
  | blank
  | token (p : Particle) (length : Nat)
  | unfinished
  deriving DecidableEq

/-- What the bytes after an opening quotation mark come to. -/
inductive Inside
  | closed (value : Bytes) (length : Nat)
  /-- So many bytes stand before the first forbidden one. -/
  | forbidden (before : Nat)
  | unfinished
  deriving DecidableEq

/-- With some bytes in front, which stand for `read`. -/
def Inside.after (read : Bytes) (width : Nat) : Inside → Inside
  | closed value n => closed (read ++ value) (width + n)
  | forbidden n => forbidden (width + n)
  | unfinished => unfinished

/-- A backslash makes the byte behind it stand for itself, unless that is forbidden. -/
def inside : Bytes → Inside
  | [] => .unfinished
  | b :: s =>
    if forbids b then .forbidden 0
    else if glyph b = '"' then .closed [] 1
    else if glyph b = '\\' then
      match s with
      | [] => .unfinished
      | e :: t => if forbids e then .forbidden 1 else (inside t).after [e] 2
    else (inside s).after [b] 1

theorem inside_cons (b : UInt8) (s : Bytes) :
    inside (b :: s) =
      if forbids b then .forbidden 0
      else if glyph b = '"' then .closed [] 1
      else if glyph b = '\\' then
        match s with
        | [] => .unfinished
        | e :: t => if forbids e then .forbidden 1 else (inside t).after [e] 2
      else (inside s).after [b] 1 := by
  cases s <;> rw [inside.eq_def]

/-- A token with its place in the stream. -/
structure Token where
  start : Nat
  stop : Nat
  particle : Particle
  deriving DecidableEq

/-- The bytes of a stream that a token was read from. -/
def Token.bytes (t : Token) (s : Bytes) : Bytes := (s.drop t.start).take (t.stop - t.start)

structure Scan where
  tokens : List Token
  consumed : Nat
  deriving DecidableEq

def Scan.particles (r : Scan) : List Particle := r.tokens.map (·.particle)

/-- A scan that found a token before the others. -/
def Scan.cons (t : Token) (r : Scan) : Scan := ⟨t :: r.tokens, r.consumed⟩

theorem inside_closed_bounds {s value : Bytes} {n : Nat} (h : inside s = .closed value n) :
    0 < n ∧ n ≤ s.length := by
  fun_induction inside s generalizing value n with
  | case1 => cases h
  | case2 => cases h
  | case3 => cases h; simp
  | case4 => cases h
  | case5 => cases h
  | case6 b _ _ _ e t _ ih =>
    cases ht : inside t <;> rw [ht] at h <;> cases h
    have := ih ht
    simp only [List.length_cons]
    omega
  | case7 b s _ _ _ ih =>
    cases hs : inside s <;> rw [hs] at h <;> cases h
    have := ih hs
    simp only [List.length_cons]
    omega

theorem inside_forbidden_bounds {s : Bytes} {n : Nat} (h : inside s = .forbidden n) :
    n < s.length := by
  fun_induction inside s generalizing n with
  | case1 => cases h
  | case2 => cases h; simp
  | case3 => cases h
  | case4 => cases h
  | case5 => cases h; simp
  | case6 b _ _ _ e t _ ih =>
    cases ht : inside t <;> rw [ht] at h <;> cases h
    have := ih ht
    simp only [List.length_cons]
    omega
  | case7 b s _ _ _ ih =>
    cases hs : inside s <;> rw [hs] at h <;> cases h
    have := ih hs
    simp only [List.length_cons]
    omega

end Grammar

namespace Lexer
open Grammar
open Lexing (Run)
variable (x : Lexer) {s : Bytes} {p : Particle} {n : Nat}

/-- Malformed bytes, with the reason if reasons are given. -/
def fault (bytes : Bytes) (reason : String) : Particle :=
  .error bytes (if x.reasons then some reason else none)

def frontClosing (s : Bytes) : Front :=
  if s.tail.head?.all stops then .token .endNest 1
  else .token (x.fault (s.take 1) ("')' followed by " ++ wording s.tail)) 1

/-- The longest run of bytes that continue a number or word; what follows must stop it. -/
def frontRun (r : Run) (s : Bytes) : Front :=
  let run := s.takeWhile (continues r)
  let rest := s.dropWhile (continues r)
  match rest.head? with
  | none => .unfinished
  | some b =>
    if stops b then .token (particle r run) run.length
    else
      match rest.findIdx? recovers with
      | none => .unfinished
      | some k =>
        .token (x.fault (s.take (run.length + k)) (wording rest ++ " in " ++ r.label))
          (run.length + k)

/-- A name up to the closing quotation mark; one with a forbidden byte ends at the next mark after
that byte. -/
def frontName (s : Bytes) : Front :=
  match inside s.tail with
  | .closed value n => .token (x.nameParticle value) (n + 1)
  | .forbidden n =>
    match (s.tail.drop n).findIdx? (glyph · = '"') with
    | none => .unfinished
    | some k =>
      .token (x.fault (s.take (n + k + 2)) (wording (s.tail.drop n) ++ " in name")) (n + k + 2)
  | .unfinished => .unfinished

/-- What the rule for a byte makes of some bytes that begin with it. -/
def rule (l : Lead) (s : Bytes) : Front :=
  match l with
  | .blank => .blank
  | .newline => .token .endOfLine 1
  | .opening => .token .beginNest 1
  | .closing => x.frontClosing s
  | .quotation => x.frontName s
  | .run r => x.frontRun r s
  | .stray => .token (x.fault (s.take 1) ("unexpected " ++ wording s)) 1

def front (s : Bytes) : Front :=
  match s with
  | [] => .unfinished
  | b :: t => x.rule (lead b) (b :: t)

@[simp] theorem front_nil : x.front [] = .unfinished := rfl

theorem front_cons (b : UInt8) (s : Bytes) : x.front (b :: s) = x.rule (lead b) (b :: s) := rfl

theorem frontRun_bounds {r : Run} {b : UInt8} (hb : s.head? = some b) (hr : continues r b)
    (h : x.frontRun r s = .token p n) : 0 < n ∧ n ≤ s.length := by
  obtain ⟨t, rfl⟩ := List.head?_eq_some_iff.mp hb
  have hsplit :=
    congrArg List.length (List.takeWhile_append_dropWhile (p := continues r) (l := b :: t))
  rw [List.length_append] at hsplit
  have hrun : 0 < ((b :: t).takeWhile (continues r)).length := by simp [hr]
  simp only [frontRun] at h
  split at h
  · cases h
  · split at h
    · cases h
      omega
    · split at h
      · cases h
      · next k hk =>
        cases h
        obtain ⟨hk, _⟩ := List.findIdx?_eq_some_iff_getElem.mp hk
        omega

theorem frontName_bounds (h : x.frontName s = .token p n) : 0 < n ∧ n ≤ s.length := by
  cases s with
  | nil => simp [frontName, inside] at h
  | cons b t =>
    simp only [frontName, List.tail_cons] at h
    simp only [List.length_cons]
    split at h
    next value m hm =>
      cases h
      have := inside_closed_bounds hm
      omega
    next m hm =>
      split at h
      · cases h
      · next k hk =>
        cases h
        obtain ⟨hk, _⟩ := List.findIdx?_eq_some_iff_getElem.mp hk
        rw [List.length_drop] at hk
        omega
    next => cases h

/-- A token has at least one byte, and no more than there are. -/
theorem front_token_bounds (h : x.front s = .token p n) : 0 < n ∧ n ≤ s.length := by
  cases s with
  | nil => cases h
  | cons b t =>
    have hone : 1 ≤ (b :: t).length := Nat.le_add_left _ _
    rw [front_cons] at h
    cases hl : lead b <;> rw [hl] at h
    case blank => cases h
    case newline | opening | stray => cases h; exact ⟨Nat.one_pos, hone⟩
    case closing =>
      simp only [rule, frontClosing] at h
      split at h <;> cases h <;> exact ⟨Nat.one_pos, hone⟩
    case quotation => exact x.frontName_bounds h
    case run r => exact x.frontRun_bounds rfl (continues_of_lead hl) h

theorem front_blank_length (h : x.front s = .blank) : 0 < s.length := by
  cases s with
  | nil => simp at h
  | cons => simp

/-- Scans what is left from a position on, up to the first unfinished token. -/
def scan (position : Nat) (s : Bytes) : Scan :=
  match _h : x.front s with
  | .unfinished => ⟨[], position⟩
  | .blank => scan (position + 1) (s.drop 1)
  | .token p n => .cons ⟨position, position + n, p⟩ (scan (position + n) (s.drop n))
termination_by s.length
decreasing_by
  · have := x.front_blank_length _h
    rw [List.length_drop]
    omega
  · have := x.front_token_bounds _h
    rw [List.length_drop]
    omega

variable {position : Nat}

theorem scan_unfinished (h : x.front s = .unfinished) : x.scan position s = ⟨[], position⟩ := by
  rw [scan.eq_def]
  split <;> simp_all

theorem scan_blank (h : x.front s = .blank) :
    x.scan position s = x.scan (position + 1) (s.drop 1) := by
  rw [scan.eq_def]
  split <;> simp_all

theorem scan_token (h : x.front s = .token p n) :
    x.scan position s =
      (x.scan (position + n) (s.drop n)).cons ⟨position, position + n, p⟩ := by
  rw [scan.eq_def]
  split <;> simp_all

/-- No more particles come out than bytes went in. -/
theorem scan_tokens_length_le : (x.scan position s).tokens.length ≤ s.length := by
  fun_induction scan x position s with
  | case1 => exact Nat.zero_le _
  | case2 position s hf ih =>
    rw [List.length_drop] at ih
    omega
  | case3 position s p n hf ih =>
    obtain ⟨hpos, hle⟩ := x.front_token_bounds hf
    rw [List.length_drop] at ih
    rw [Scan.cons, List.length_cons]
    omega

theorem scan_tokens_bounds {t : Token} (h : t ∈ (x.scan position s).tokens) :
    position ≤ t.start ∧ t.start < t.stop ∧ t.stop ≤ position + s.length := by
  fun_induction scan x position s with
  | case1 => cases h
  | case2 position s hf ih =>
    have hpos := x.front_blank_length hf
    have := ih h
    rw [List.length_drop] at this
    omega
  | case3 position s p n hf ih =>
    obtain ⟨hpos, hle⟩ := x.front_token_bounds hf
    obtain rfl | hin := List.mem_cons.mp h
    · simp only
      omega
    · have := ih hin
      rw [List.length_drop] at this
      omega

/-- Each token of a scan stands at the front of the stream from its place on. -/
theorem front_of_mem_scan (read : Bytes) {t : Token} (h : t ∈ (x.scan read.length s).tokens) :
    x.front ((read ++ s).drop t.start) = .token t.particle (t.stop - t.start) := by
  generalize hposition : read.length = position at h
  fun_induction scan x position s generalizing read with
  | case1 => cases h
  | case2 position s hf ih =>
    have hone : (s.take 1).length = 1 := List.length_take_of_le (x.front_blank_length hf)
    have hlater := ih (read ++ s.take 1) (by rw [List.length_append, hone, hposition]) h
    rwa [List.append_assoc, List.take_append_drop] at hlater
  | case3 position s p n hf ih =>
    obtain ⟨-, hle⟩ := x.front_token_bounds hf
    rcases List.mem_cons.mp h with rfl | h
    · rw [← hposition, List.drop_left, Nat.add_sub_cancel_left, hf]
    · have hlater :=
        ih (read ++ s.take n) (by rw [List.length_append, List.length_take_of_le hle, hposition]) h
      rwa [List.append_assoc, List.take_append_drop] at hlater

end Lexer
end TableTalk
