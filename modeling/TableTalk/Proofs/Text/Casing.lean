import TableTalk.Proofs.Text.CharSet
import TableTalk.Proofs.Utf8
import TableTalk.Text.Lowercase

/-! Texts that differ in the case of their letters. A capital letter and its small letter are both
cased, and neither is passed over on the way to a cased neighbour; so which sigmas end a word is the
same in all casings of a text, and only there does it matter which sigma was capital. -/
namespace TableTalk.Text
variable {c d : Char} {a b : Nat} {r : LowerRun} {s t before before' : List Char}

/-- A character that has a case and is not passed over. -/
def Lettered (c : Char) : Prop := cased.contains c ∧ ¬caseIgnorable.contains c

/-- Every character from `a` to `b` is one of these. -/
def allLettered (a b : Nat) : Bool := cased.covers a b && caseIgnorable.misses a b

theorem cased_ascending : cased.Ascending := by decide +kernel

theorem caseIgnorable_ascending : caseIgnorable.Ascending := by decide +kernel

theorem lettered_of_range (h : allLettered a b) (ha : a ≤ c.toNat) (hb : c.toNat ≤ b) :
    Lettered c := by
  obtain ⟨hcovers, hmisses⟩ := Bool.and_eq_true_iff.mp h
  exact ⟨cased_ascending.contains_of_covers hcovers ha hb,
    caseIgnorable_ascending.not_contains_of_misses hmisses ha hb⟩

/-- Every number in these ranges is that of a character. -/
theorem cased_valid : ∀ r ∈ cased.ranges.toList, r.2 < 0xD800 ∨ 0xDFFF < r.1 ∧ r.2 < 0x110000 := by
  decide +kernel

theorem lettered_ofNat (h : allLettered a b) {code : Nat} (ha : a ≤ code) (hb : code ≤ b) :
    Lettered (Char.ofNat code) := by
  obtain ⟨r, hr, hlow, hhigh⟩ := CharSet.range_of_covers (Bool.and_eq_true_iff.mp h).1
  have hvalid : code.isValidChar := by
    obtain hsmall | ⟨hlarge, hlimit⟩ := cased_valid r hr
    · exact .inl (by omega)
    · exact .inr ⟨by omega, by omega⟩
  have hcode : (Char.ofNat code).toNat = code := by
    rw [Char.ofNat, dif_pos hvalid]
    rfl
  exact lettered_of_range h (by rwa [hcode]) (by rwa [hcode])

namespace LowerRun

/-- The capitals of a run have a case; where not all that lies between them has, they are looked at
one by one. -/
def capitals (r : LowerRun) : Bool :=
  allLettered r.first r.last ||
    (List.range (r.last + 1 - r.first)).all fun k =>
      k % r.stride != 0 || allLettered (r.first + k) (r.first + k)

/-- So have their small letters. -/
def smalls (r : LowerRun) : Bool := allLettered (r.first + r.shift).toNat (r.last + r.shift).toNat

theorem lettered_capital (h : r.capitals) (hfirst : r.first ≤ c.toNat) (hlast : c.toNat ≤ r.last)
    (hstride : (c.toNat - r.first) % r.stride = 0) : Lettered c := by
  obtain hall | hone := Bool.or_eq_true_iff.mp h
  · exact lettered_of_range hall hfirst hlast
  · have hk : c.toNat - r.first ∈ List.range (r.last + 1 - r.first) := by
      rw [List.mem_range]
      omega
    have hself : r.first + (c.toNat - r.first) = c.toNat := by omega
    have hcapital := List.all_eq_true.mp hone _ hk
    rw [hstride, bne_self_eq_false, Bool.false_or, hself] at hcapital
    exact lettered_of_range hcapital (Nat.le_refl _) (Nat.le_refl _)

theorem lettered_small (h : r.smalls) {code : Nat} (hfirst : r.first ≤ code)
    (hlast : code ≤ r.last) :
    Lettered (Char.ofNat (code + r.shift).toNat) := by
  have hlow : (r.first + r.shift).toNat ≤ (code + r.shift).toNat := by omega
  have hhigh : (code + r.shift).toNat ≤ (r.last + r.shift).toNat := by omega
  exact lettered_ofNat h hlow hhigh

end LowerRun

theorem lowerRuns_lettered : ∀ r ∈ lowerRuns.toList, r.capitals && r.smalls := by
  rw [← List.all_eq_true]
  decide +kernel

/-- A character becomes itself or, if it is a letter with a case, another one; the dotted
capital apart. -/
theorem lowerChar_cases (c : Char) :
    c = 'İ' ∨ ∃ small, lowerChar c = [small] ∧ (c = small ∨ Lettered c ∧ Lettered small) := by
  simp only [lowerChar]
  split
  · refine .inr ⟨_, rfl, ?_⟩
    split
    · next hcapital =>
      have hlow : 0x41 ≤ c.toNat := hcapital.1
      have hhigh : c.toNat ≤ 0x5A := hcapital.2
      have hcapitals : allLettered 0x41 0x5A := by decide +kernel
      have hsmalls : allLettered 0x61 0x7A := by decide +kernel
      exact .inr ⟨lettered_of_range hcapitals hlow hhigh,
        lettered_ofNat hsmalls (by omega) (by omega)⟩
    · exact .inl rfl
  · split
    · next hdotted => exact .inl hdotted
    · split
      · next r hr =>
        split
        · next hstride =>
          obtain ⟨i, hi, hrun⟩ := Option.bind_eq_some_iff.mp hr
          obtain ⟨-, -, hside⟩ := bisect_some hi
          rw [hrun] at hside
          obtain ⟨hfirst, hlast⟩ := rangeSide_eq_eq.mp hside
          obtain ⟨hcapitals, hsmalls⟩ := Bool.and_eq_true_iff.mp
            (lowerRuns_lettered r (Array.mem_toList_iff.mpr (Array.mem_of_getElem? hrun)))
          exact .inr ⟨_, rfl, .inr ⟨LowerRun.lettered_capital hcapitals hfirst hlast hstride,
            LowerRun.lettered_small hsmalls hfirst hlast⟩⟩
        · exact .inr ⟨c, rfl, .inl rfl⟩
      · exact .inr ⟨c, rfl, .inl rfl⟩

/-- Characters with the same small letter are the same or both have a case. -/
theorem lettered_of_lowerChar_eq (h : lowerChar c = lowerChar d) :
    c = d ∨ Lettered c ∧ Lettered d := by
  have hdotted : (lowerChar 'İ').length = 2 := rfl
  obtain rfl | ⟨small, hc, hcases⟩ := lowerChar_cases c
  · obtain rfl | ⟨small, hd, -⟩ := lowerChar_cases d
    · exact .inl rfl
    · rw [h, hd] at hdotted
      cases hdotted
  · obtain rfl | ⟨small', hd, hcases'⟩ := lowerChar_cases d
    · rw [← h, hc] at hdotted
      cases hdotted
    · rw [hc, hd] at h
      obtain rfl := List.singleton_inj.mp h
      obtain rfl | ⟨hcapital, hsmall⟩ := hcases
      · obtain rfl | ⟨hcapital', hsmall'⟩ := hcases'
        · exact .inl rfl
        · exact .inr ⟨hsmall', hcapital'⟩
      · obtain rfl | ⟨hcapital', -⟩ := hcases'
        · exact .inr ⟨hcapital, hsmall⟩
        · exact .inr ⟨hcapital, hcapital'⟩

theorem meetsCased_cons (c : Char) (s : List Char) :
    meetsCased (c :: s) = if caseIgnorable.contains c then meetsCased s else cased.contains c := by
  rw [meetsCased, List.dropWhile_cons]
  split <;> rfl

/-- The case of the neighbours does not matter. -/
theorem meetsCased_congr (h : s.map lowerChar = t.map lowerChar) : meetsCased s = meetsCased t := by
  induction s generalizing t with
  | nil =>
    rw [List.map_nil] at h
    rw [List.map_eq_nil_iff.mp h.symm]
  | cons c s ih =>
    cases t with
    | nil => cases h
    | cons d t =>
      obtain ⟨hfirst, hrest⟩ := List.cons.inj h
      rw [meetsCased_cons, meetsCased_cons]
      obtain rfl | ⟨⟨hc, hc'⟩, hd, hd'⟩ := lettered_of_lowerChar_eq hfirst
      · rw [ih hrest]
      · rw [if_neg hc', if_neg hd', hc, hd]

theorem endsWord_congr (hbefore : before.map lowerChar = before'.map lowerChar)
    (hafter : s.map lowerChar = t.map lowerChar) : endsWord before s = endsWord before' t := by
  rw [endsWord, endsWord, meetsCased_congr hbefore, meetsCased_congr hafter]

/-- A sigma at this position would end a word; `before` is what has been read, the nearest
character first. -/
def endsAt (before s : List Char) (i : Nat) : Bool :=
  endsWord ((s.take i).reverse ++ before) (s.drop (i + 1))

theorem endsAt_succ (before : List Char) (c : Char) (s : List Char) (i : Nat) :
    endsAt before (c :: s) (i + 1) = endsAt (c :: before) s i := by
  rw [endsAt, endsAt, List.take_succ_cons, List.reverse_cons, List.append_assoc,
    List.drop_succ_cons]
  rfl

theorem lowerChar_sigma : lowerChar 'Σ' = ['σ'] := by decide +kernel

/-- What a character becomes where a sigma would, or would not, end a word. -/
def lowerAt (ends : Bool) (c : Char) : List Char := if c = 'Σ' ∧ ends then ['ς'] else lowerChar c

theorem length_lowerAt (ends : Bool) (c : Char) :
    (lowerAt ends c).length = (lowerChar c).length := by
  rw [lowerAt]
  split
  · next h =>
    rw [h.1, lowerChar_sigma]
    rfl
  · rfl

theorem lowerAt_eq_iff {ends : Bool} (h : lowerChar c = lowerChar d) :
    lowerAt ends c = lowerAt ends d ↔ (ends → (c = 'Σ' ↔ d = 'Σ')) := by
  have hsmall : ['ς'] ≠ lowerChar 'Σ' := by
    rw [lowerChar_sigma]
    decide
  cases ends with
  | false =>
    rw [lowerAt, lowerAt, if_neg fun hc => Bool.false_ne_true hc.2,
      if_neg fun hd => Bool.false_ne_true hd.2]
    exact iff_of_true h nofun
  | true =>
    simp only [lowerAt, and_true, true_implies]
    by_cases hc : c = 'Σ' <;> by_cases hd : d = 'Σ'
    · rw [if_pos hc, if_pos hd]
      exact iff_of_true rfl (iff_of_true hc hd)
    · rw [if_pos hc, if_neg hd, ← h, hc]
      exact iff_of_false hsmall fun hiff => hd (hiff.mp rfl)
    · rw [if_neg hc, if_pos hd, h, hd]
      exact iff_of_false hsmall.symm fun hiff => hc (hiff.mpr rfl)
    · rw [if_neg hc, if_neg hd]
      exact iff_of_true h (iff_of_false hc hd)

theorem lowerAfter_cons (before : List Char) (c : Char) (s : List Char) :
    lowerAfter before (c :: s) = lowerAt (endsWord before s) c ++ lowerAfter (c :: before) s := by
  rw [lowerAfter, lowerAt]
  congr 1
  by_cases hsigma : c = 'Σ'
  · subst hsigma
    simp only [true_and, if_true, lowerChar_sigma]
    split <;> rfl
  · rw [if_neg hsigma, if_neg fun h => hsigma h.1]

/-- Texts that differ in case alone come to the same in small letters if, and only if, the sigmas
that end a word are capital in both or small in both. -/
theorem lowerAfter_eq_iff (hbefore : before.map lowerChar = before'.map lowerChar)
    (h : s.map lowerChar = t.map lowerChar) :
    lowerAfter before s = lowerAfter before' t ↔
      ∀ i, endsAt before' t i → (s[i]? = some 'Σ' ↔ t[i]? = some 'Σ') := by
  induction s generalizing t before before' with
  | nil =>
    rw [List.map_nil] at h
    rw [List.map_eq_nil_iff.mp h.symm]
    exact iff_of_true rfl fun _ _ => Iff.rfl
  | cons c s ih =>
    cases t with
    | nil => cases h
    | cons d t =>
      obtain ⟨hfirst, hrest⟩ := List.cons.inj h
      have hnext : (c :: before).map lowerChar = (d :: before').map lowerChar := by
        rw [List.map_cons, List.map_cons, hfirst, hbefore]
      have hlength :
          (lowerAt (endsWord before' t) c).length = (lowerAt (endsWord before' t) d).length := by
        rw [length_lowerAt, length_lowerAt, hfirst]
      rw [lowerAfter_cons, lowerAfter_cons, endsWord_congr hbefore hrest,
        List.append_eq_append_iff_of_size_eq_left hlength, lowerAt_eq_iff hfirst, ih hnext hrest]
      constructor
      · rintro ⟨hzero, hsucc⟩ i hi
        cases i with
        | zero => simpa only [List.getElem?_cons_zero, Option.some_inj] using hzero hi
        | succ i =>
          rw [endsAt_succ] at hi
          exact hsucc i hi
      · intro hall
        refine ⟨fun hends => ?_, fun i hi => ?_⟩
        · simpa only [List.getElem?_cons_zero, Option.some_inj] using hall 0 hends
        · rw [← endsAt_succ] at hi
          exact hall (i + 1) hi

theorem lowercase_eq_iff {v w : String} (h : v.toList.map lowerChar = w.toList.map lowerChar) :
    lowercase v = lowercase w ↔
      ∀ i, endsAt [] w.toList i → (v.toList[i]? = some 'Σ' ↔ w.toList[i]? = some 'Σ') := by
  rw [lowercase, lowercase, String.ofList_inj]
  exact lowerAfter_eq_iff rfl h

end TableTalk.Text
