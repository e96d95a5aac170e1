import TableTalk.Proofs.Lexing.Grammar

/-! What more input changes. A finished token stays what it is, but for the words of its reason and
for a closing bracket that was the last byte; an unfinished one is read again and then reaches at
least as far as before. -/
namespace TableTalk

/-- Alike in all but the reason. -/
structure Particle.Agrees (p q : Particle) : Prop where
  kind : p.kind = q.kind
  payload : p.payload = q.payload
  keyword : p.keyword? = q.keyword?
  name : p.name? = q.name?

theorem Particle.Agrees.refl (p : Particle) : p.Agrees p := ⟨rfl, rfl, rfl, rfl⟩

/-- The error for a closing bracket that touches what follows. -/
def Particle.IsStray : Particle → Prop
  | .error bytes _ => bytes = [Lexing.closing]
  | _ => False

instance : DecidablePred Particle.IsStray := fun p => by
  cases p <;> unfold Particle.IsStray <;> infer_instance

namespace Grammar

/-- Nothing before the `m`-th byte ends it. -/
def Inside.Past (m : Nat) : Inside → Prop
  | closed _ n => m < n
  | forbidden n => m ≤ n
  | unfinished => True

theorem Inside.Past.after {m : Nat} {i : Inside} (h : i.Past m) (read : Bytes) (w : Nat) :
    (i.after read w).Past (w + m) := by
  cases i with
  | closed value n => exact Nat.add_lt_add_left h w
  | forbidden n => exact Nat.add_le_add_left h w
  | unfinished => trivial

/-- A name that has ended ends the same way before any other bytes. -/
theorem inside_append {u : Bytes} (v : Bytes) (h : inside u ≠ .unfinished) :
    inside (u ++ v) = inside u := by
  fun_induction inside u with
  | case1 => exact absurd rfl h
  | case2 b s hf => rw [List.cons_append, inside_cons, if_pos hf]
  | case3 b s hf hq => rw [List.cons_append, inside_cons, if_neg hf, if_pos hq]
  | case4 => exact absurd rfl h
  | case5 b hf hq hb e t he =>
    rw [List.cons_append, List.cons_append, inside_cons, if_neg hf, if_neg hq, if_pos hb]
    exact if_pos he
  | case6 b hf hq hb e t he ih =>
    have ht : inside t ≠ .unfinished := by
      intro ht
      rw [ht] at h
      exact h rfl
    rw [List.cons_append, List.cons_append, inside_cons, if_neg hf, if_neg hq, if_pos hb, ← ih ht]
    exact if_neg he
  | case7 b s hf hq hb ih =>
    have hs : inside s ≠ .unfinished := by
      intro hs
      rw [hs] at h
      exact h rfl
    rw [List.cons_append, inside_cons, if_neg hf, if_neg hq, if_neg hb, ih hs]

/-- A name that is still open reaches past the bytes it had. -/
theorem inside_append_past {u : Bytes} (v : Bytes) (h : inside u = .unfinished) :
    (inside (u ++ v)).Past u.length := by
  fun_induction inside u with
  | case1 =>
    cases hv : inside v with
    | closed value n =>
      rw [List.nil_append, hv]
      exact (inside_closed_bounds hv).1
    | forbidden n =>
      rw [List.nil_append, hv]
      exact Nat.zero_le n
    | unfinished =>
      rw [List.nil_append, hv]
      trivial
  | case2 => cases h
  | case3 => cases h
  | case4 b hf hq hb =>
    rw [List.cons_append, List.nil_append, inside_cons, if_neg hf, if_neg hq, if_pos hb]
    cases v with
    | nil => trivial
    | cons e t =>
      by_cases he : forbids e
      · simp only [if_pos he]
        exact Nat.le_refl 1
      · simp only [if_neg he]
        cases ht : inside t with
        | closed value n =>
          have := (inside_closed_bounds ht).1
          simp only [Inside.after, Inside.Past, List.length_singleton]
          omega
        | forbidden n =>
          simp only [Inside.after, Inside.Past, List.length_singleton]
          omega
        | unfinished => trivial
  | case5 => cases h
  | case6 b hf hq hb e t he ih =>
    have ht : inside t = .unfinished := by
      cases ht : inside t <;> rw [ht] at h <;> cases h
    have hpast := (ih ht).after [e] 2
    rw [List.cons_append, List.cons_append, inside_cons, if_neg hf, if_neg hq, if_pos hb]
    simp only [if_neg he, List.length_cons]
    rwa [Nat.add_comm] at hpast
  | case7 b s hf hq hb ih =>
    have hs : inside s = .unfinished := by
      cases hs : inside s <;> rw [hs] at h <;> cases h
    have hpast := (ih hs).after [b] 1
    rw [List.cons_append, inside_cons, if_neg hf, if_neg hq, if_neg hb, List.length_cons]
    rwa [Nat.add_comm] at hpast

/-- Where a run of bytes has ended, more bytes leave it as it was. -/
theorem run_append {q : UInt8 → Bool} {u t : Bytes} {b : UInt8} (v : Bytes)
    (h : u.dropWhile q = b :: t) :
    (u ++ v).takeWhile q = u.takeWhile q ∧ (u ++ v).dropWhile q = b :: t ++ v := by
  have hsplit := congrArg List.length (List.takeWhile_append_dropWhile (p := q) (l := u))
  rw [h, List.length_append, List.length_cons] at hsplit
  constructor
  · rw [List.takeWhile_append, if_neg (by omega)]
  · rw [List.dropWhile_append, h]
    rfl

end Grammar

namespace Lexer
open Grammar
open Lexing (Run)
variable (x : Lexer) {u v : Bytes} {p q : Particle} {n : Nat}

/-- The same particle, with a reason that may be worded anew where reasons are given. -/
def Restated (p q : Particle) : Prop := p.Agrees q ∧ (x.reasons = false → p = q)

theorem Restated.refl (p : Particle) : x.Restated p p := ⟨.refl p, fun _ => rfl⟩

theorem fault_restated (bytes : Bytes) (a b : String) :
    x.Restated (x.fault bytes a) (x.fault bytes b) := by
  refine ⟨⟨rfl, rfl, rfl, rfl⟩, fun h => ?_⟩
  simp [fault, h]

theorem frontRun_append {r : Run} (v : Bytes) (h : x.frontRun r u = .token p n) :
    ∃ q, x.frontRun r (u ++ v) = .token q n ∧ x.Restated p q := by
  simp only [frontRun] at h ⊢
  have hsplit := congrArg List.length
    (List.takeWhile_append_dropWhile (p := continues r) (l := u))
  cases hd : u.dropWhile (continues r) with
  | nil => simp [hd] at h
  | cons b t =>
    obtain ⟨htake, hdrop⟩ := run_append v hd
    simp only [hd, List.head?_cons, List.length_append, List.length_cons] at h hsplit
    simp only [htake, hdrop, List.cons_append, List.head?_cons]
    split at h
    · next hs =>
      cases h
      exact ⟨_, if_pos hs, .refl x _⟩
    · next hs =>
      split at h
      · cases h
      · next k hk =>
        cases h
        obtain ⟨hlt, _⟩ := List.findIdx?_eq_some_iff_getElem.mp hk
        rw [List.length_cons] at hlt
        rw [if_neg hs, ← List.cons_append, List.findIdx?_append, hk, Option.some_or]
        refine ⟨_, rfl, ?_⟩
        rw [List.take_append_of_le_length (by omega)]
        exact x.fault_restated _ _ _

theorem frontRun_append_past {r : Run} (hu : x.frontRun r u = .unfinished)
    (h : x.frontRun r (u ++ v) = .token q n) : u.length ≤ n := by
  have hsplit := congrArg List.length
    (List.takeWhile_append_dropWhile (p := continues r) (l := u))
  simp only [frontRun] at hu h
  cases hd : u.dropWhile (continues r) with
  | nil =>
    have hrun : ((u ++ v).takeWhile (continues r)).length =
        u.length + (v.takeWhile (continues r)).length := by
      rw [hd, List.append_nil] at hsplit
      rw [List.takeWhile_append, if_pos hsplit, List.length_append]
    split at h
    · cases h
    · split at h
      · cases h
        omega
      · split at h <;> cases h
        omega
  | cons b t =>
    obtain ⟨htake, hdrop⟩ := run_append v hd
    simp only [hd, List.head?_cons, List.length_append, List.length_cons] at hu hsplit
    simp only [htake, hdrop, List.cons_append, List.head?_cons] at h
    split at hu
    · cases hu
    · next hs =>
      split at hu
      · next hk =>
        rw [if_neg hs, ← List.cons_append, List.findIdx?_append, hk, Option.none_or] at h
        split at h
        · cases h
        · next k hk' =>
          cases h
          obtain ⟨j, -, rfl⟩ := Option.map_eq_some_iff.mp hk'
          rw [List.length_cons]
          omega
      · cases hu

theorem frontName_append (v : Bytes) (hne : u ≠ []) (h : x.frontName u = .token p n) :
    ∃ q, x.frontName (u ++ v) = .token q n ∧ x.Restated p q := by
  obtain ⟨b, t, rfl⟩ := List.exists_cons_of_ne_nil hne
  simp only [frontName, List.cons_append, List.tail_cons] at h ⊢
  cases hi : inside t with
  | unfinished => simp [hi] at h
  | closed value m =>
    simp only [hi] at h
    rw [inside_append v (by simp [hi]), hi]
    cases h
    exact ⟨_, rfl, .refl x _⟩
  | forbidden m =>
    have hm := inside_forbidden_bounds hi
    simp only [hi] at h
    rw [inside_append v (by simp [hi]), hi]
    simp only [List.drop_append_of_le_length (Nat.le_of_lt hm), List.findIdx?_append]
    split at h
    · cases h
    · next k hk =>
      cases h
      obtain ⟨hlt, _⟩ := List.findIdx?_eq_some_iff_getElem.mp hk
      rw [List.length_drop] at hlt
      rw [hk, Option.some_or]
      refine ⟨_, rfl, ?_⟩
      rw [← List.cons_append, List.take_append_of_le_length (by rw [List.length_cons]; omega)]
      exact x.fault_restated _ _ _

theorem frontName_append_past (hne : u ≠ []) (hu : x.frontName u = .unfinished)
    (h : x.frontName (u ++ v) = .token q n) : u.length ≤ n := by
  obtain ⟨b, t, rfl⟩ := List.exists_cons_of_ne_nil hne
  simp only [frontName, List.cons_append, List.tail_cons] at hu h
  rw [List.length_cons]
  cases hi : inside t with
  | closed value m => simp [hi] at hu
  | unfinished =>
    have hpast := inside_append_past v hi
    split at h
    next value m hm =>
      rw [hm] at hpast
      cases h
      exact Nat.succ_le_succ (Nat.le_of_lt hpast)
    next m hm =>
      rw [hm] at hpast
      split at h <;> cases h
      exact Nat.le_trans (Nat.succ_le_succ hpast) (by omega)
    next => cases h
  | forbidden m =>
    have hm := inside_forbidden_bounds hi
    rw [inside_append v (by simp [hi]), hi] at h
    simp only [hi] at hu
    simp only [List.drop_append_of_le_length (Nat.le_of_lt hm), List.findIdx?_append] at h
    split at hu
    · next hk =>
      rw [hk, Option.none_or] at h
      split at h
      · cases h
      · next k hk' =>
        cases h
        obtain ⟨j, -, rfl⟩ := Option.map_eq_some_iff.mp hk'
        rw [List.length_drop]
        omega
    · cases hu

theorem particle_ne_error (r : Run) (s bytes : Bytes) (reason : Option String) :
    particle r s ≠ .error bytes reason := by
  cases r with
  | number => exact nofun
  | word =>
    rw [particle]
    cases keyword? s <;> exact nofun

theorem nameParticle_ne_error (value bytes : Bytes) (reason : Option String) :
    x.nameParticle value ≠ .error bytes reason := by
  rw [nameParticle]
  cases x.name? value <;> exact nofun

/-- An error at the front is a fault of all the bytes of its token. -/
theorem front_fault {bytes : Bytes} {reason : Option String}
    (h : x.front u = .token (.error bytes reason) n) :
    ∃ words, Particle.error bytes reason = x.fault (u.take n) words := by
  cases u with
  | nil => cases h
  | cons b s =>
    rw [front_cons] at h
    cases hl : lead b <;> simp only [hl, rule] at h
    case blank | newline | opening => cases h
    case stray =>
      cases h
      exact ⟨_, rfl⟩
    case closing =>
      simp only [frontClosing] at h
      split at h <;> cases h
      exact ⟨_, rfl⟩
    case quotation =>
      simp only [frontName] at h
      split at h
      · exact absurd (Front.token.inj h).1 (x.nameParticle_ne_error _ _ _)
      · split at h <;> cases h
        exact ⟨_, rfl⟩
      · cases h
    case run r =>
      simp only [frontRun] at h
      split at h
      · cases h
      · split at h
        · exact absurd (Front.token.inj h).1 (particle_ne_error _ _ _ _)
        · split at h <;> cases h
          exact ⟨_, rfl⟩

/-- Malformed bytes are the bytes of their token. -/
theorem front_error {bytes : Bytes} {reason : Option String}
    (h : x.front u = .token (.error bytes reason) n) : bytes = u.take n := by
  obtain ⟨words, hfault⟩ := x.front_fault h
  exact (Particle.error.inj hfault).1

/-- Only a closing bracket makes a stray one, and only with something behind it. -/
theorem front_stray (h : x.front u = .token p n) (hp : p.IsStray) :
    u.head? = some Lexing.closing ∧ n = 1 ∧ 1 < u.length := by
  obtain ⟨hpos, hle⟩ := x.front_token_bounds h
  cases p <;> simp only [Particle.IsStray] at hp
  case error bytes reason =>
    have htake : u.take n = [Lexing.closing] := by rw [← x.front_error h, hp]
    have hn : n = 1 := by
      have := congrArg List.length htake
      rw [List.length_take_of_le hle] at this
      exact this
    subst hn
    obtain ⟨b, t, rfl⟩ := List.exists_cons_of_length_pos hle
    obtain rfl : b = Lexing.closing := by simpa using htake
    refine ⟨rfl, rfl, ?_⟩
    cases t with
    | nil =>
      have hend : x.front [Lexing.closing] = .token .endNest 1 := rfl
      rw [hend] at h
      cases h
    | cons => simp

theorem not_isStray {b : UInt8} {s : Bytes} (hb : lead b ≠ .closing)
    (h : x.front (b :: s) = .token p n) : ¬p.IsStray := by
  intro hp
  obtain ⟨hclosing, -⟩ := x.front_stray h hp
  cases hclosing
  exact absurd rfl hb

/-- Every rule but that for blanks finds a token or an unfinished one. -/
theorem rule_ne_blank {l : Lead} (hl : l ≠ .blank) : x.rule l u ≠ .blank := by
  intro h
  cases l with
  | blank => exact hl rfl
  | newline | opening | stray => cases h
  | closing =>
    simp only [rule, frontClosing] at h
    split at h <;> cases h
  | quotation =>
    simp only [rule, frontName] at h
    split at h
    · cases h
    · split at h <;> cases h
    · cases h
  | run r =>
    simp only [rule, frontRun] at h
    split at h
    · cases h
    · split at h
      · cases h
      · split at h <;> cases h

theorem front_append_blank (v : Bytes) (h : x.front u = .blank) : x.front (u ++ v) = .blank := by
  obtain ⟨b, s, rfl⟩ := List.exists_cons_of_length_pos (x.front_blank_length h)
  by_cases hl : lead b = .blank
  · rw [List.cons_append, front_cons, hl]
    rfl
  · exact absurd h (x.rule_ne_blank hl)

/-- What follows decides nothing about a token that has ended, except behind a closing bracket. -/
theorem rule_append {l : Lead} (v : Bytes) (hl : l ≠ .closing) (hne : u ≠ [])
    (h : x.rule l u = .token p n) : ∃ q, x.rule l (u ++ v) = .token q n ∧ x.Restated p q := by
  cases l with
  | blank => cases h
  | newline | opening =>
    cases h
    exact ⟨_, rfl, .refl x _⟩
  | stray =>
    cases h
    have htake : (u ++ v).take 1 = u.take 1 :=
      List.take_append_of_le_length (List.length_pos_iff.mpr hne)
    rw [← htake]
    exact ⟨_, rfl, x.fault_restated _ _ _⟩
  | closing => exact absurd rfl hl
  | quotation => exact x.frontName_append v hne h
  | run r => exact x.frontRun_append v h

/-- What became of a particle read at the end of a stretch, once there is more after it: a closing
bracket that ended the stretch may turn out to be stray. -/
def Revised (atEnd : Prop) (p q : Particle) : Prop :=
  (q.IsStray ∧ atEnd → p = .endNest) ∧ (¬(q.IsStray ∧ atEnd) → x.Restated p q)

theorem Revised.of_restated {atEnd : Prop} (h : x.Restated p q) (hnot : ¬(q.IsStray ∧ atEnd)) :
    x.Revised atEnd p q := ⟨fun hq => absurd hq hnot, fun _ => h⟩

theorem frontClosing_append {b : UInt8} {s : Bytes} (v : Bytes) (hb : lead b = .closing)
    (h : x.frontClosing (b :: s) = .token p n) :
    ∃ q, x.frontClosing (b :: s ++ v) = .token q n ∧ x.Revised (n = (b :: s).length) p q := by
  cases s with
  | nil =>
    cases h
    by_cases hs : v.head?.all stops
    · exact ⟨_, if_pos hs, .of_restated x (.refl x _) fun hq => hq.1⟩
    · obtain rfl := eq_closing_of_lead hb
      exact ⟨_, if_neg hs, fun _ => rfl, fun hnot => absurd ⟨rfl, rfl⟩ hnot⟩
  | cons c t =>
    have hmore {q : Particle} : ¬(q.IsStray ∧ 1 = (b :: c :: t).length) := by simp
    by_cases hs : stops c
    · cases (if_pos hs).symm.trans h
      exact ⟨_, if_pos hs, .of_restated x (.refl x _) hmore⟩
    · cases (if_neg hs).symm.trans h
      exact ⟨_, if_neg hs, .of_restated x (x.fault_restated _ _ _) hmore⟩

theorem front_append (v : Bytes) (h : x.front u = .token p n) :
    ∃ q, x.front (u ++ v) = .token q n ∧ x.Revised (n = u.length) p q := by
  obtain ⟨hpos, hle⟩ := x.front_token_bounds h
  obtain ⟨b, s, rfl⟩ := List.exists_cons_of_length_pos (Nat.lt_of_lt_of_le hpos hle)
  rw [front_cons] at h
  rw [List.cons_append, front_cons]
  by_cases hl : lead b = .closing
  · rw [hl] at h ⊢
    exact x.frontClosing_append v hl h
  · obtain ⟨q, hq, hpq⟩ := x.rule_append v hl (List.cons_ne_nil b s) h
    exact ⟨q, hq, .of_restated x hpq fun hstray => x.not_isStray hl hq hstray.1⟩

/-- Read again with more behind it, an unfinished token reaches past what there was. -/
theorem rule_append_past {l : Lead} (hne : u ≠ []) (hu : x.rule l u = .unfinished)
    (h : x.rule l (u ++ v) = .token q n) : l ≠ .closing ∧ u.length ≤ n := by
  cases l with
  | blank | newline | opening | stray => cases hu
  | closing =>
    simp only [rule, frontClosing] at hu
    split at hu <;> cases hu
  | quotation => exact ⟨by simp, x.frontName_append_past hne hu h⟩
  | run r => exact ⟨by simp, x.frontRun_append_past hu h⟩

theorem front_append_past (hne : u ≠ []) (hu : x.front u = .unfinished)
    (h : x.front (u ++ v) = .token q n) : u.length ≤ n ∧ ¬q.IsStray := by
  obtain ⟨b, s, rfl⟩ := List.exists_cons_of_ne_nil hne
  obtain ⟨hl, hle⟩ := x.rule_append_past hne hu h
  exact ⟨hle, x.not_isStray hl h⟩

theorem front_append_ne_blank (hne : u ≠ []) (hu : x.front u = .unfinished) :
    x.front (u ++ v) ≠ .blank := by
  obtain ⟨b, s, rfl⟩ := List.exists_cons_of_ne_nil hne
  refine x.rule_ne_blank fun hl => ?_
  rw [front_cons, hl] at hu
  cases hu

end Lexer
end TableTalk
