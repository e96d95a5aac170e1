import TableTalk.Proofs.Text.Beginnings
import TableTalk.Shell.Completion

/-! What is offered behind an open quotation mark. -/
namespace TableTalk.Completer
open Text
variable {c : Completer} {x p r d : String} {before word : List Char}

theorem inName_append (h : '"' ∉ word) : inName (before ++ '"' :: word) = !inName before := by
  have hmore : (before ++ '"' :: word).count '"' = before.count '"' + 1 := by
    rw [List.count_append, List.count_cons_self, List.count_eq_zero_of_not_mem h, Nat.zero_add]
  rw [inName, inName, hmore, Bool.eq_iff_iff, Bool.not_eq_true', decide_eq_true_eq,
    decide_eq_false_iff_not]
  omega

/-- Behind the last quotation mark of an odd number of them, all is typed of a name. -/
theorem typed_append (hinside : inName (before ++ '"' :: word)) (h : '"' ∉ word) :
    typed (before ++ '"' :: word) = word := by
  have hword : ∀ a ∈ word.reverse, (!bounds true a) = true := by
    intro a ha
    rw [List.mem_reverse] at ha
    have hne : a ≠ '"' := fun h' => h (h' ▸ ha)
    simp only [bounds, if_true, decide_eq_false hne, Bool.not_false]
  rw [typed, hinside, List.reverse_append, List.reverse_cons, List.append_assoc,
    List.takeWhile_append_of_pos hword, List.singleton_append,
    List.takeWhile_cons_of_neg (by decide), List.append_nil, List.reverse_reverse]

theorem mem_candidates_iff (before : String) :
    ⟨d, d⟩ ∈ (c.candidates before).2 ↔ d ∈ c.pool (inName before.toList) ∧
      (lowercase (String.ofList (typed before.toList))).toList <+: (lowercase d).toList := by
  simp only [candidates, List.mem_map, List.mem_filter, List.isPrefixOf_iff_prefix]
  constructor
  · rintro ⟨s, hs, heq⟩
    cases heq
    exact hs
  · intro h
    exact ⟨d, h, rfl⟩

/-- Behind an opening quotation mark, a beginning of a name starts right there and is completed to
that name, unless it has a capital sigma that ends a word and in the name ends none. -/
theorem name_offered_iff (hname : p ++ r ∈ c.names) (hclosed : '"' ∉ (p ++ r).toList)
    (heven : x.toList.count '"' % 2 = 0) :
    let answer := c.candidates (x ++ "\"" ++ p)
    answer.1 = x.utf8ByteSize + 1 ∧
      (⟨p ++ r, p ++ r⟩ ∈ answer.2 ↔
        ∀ i, p.toList[i]? = some 'Σ' → endsAt [] p.toList i → endsAt [] (p ++ r).toList i) := by
  intro answer
  have hchars : (x ++ "\"" ++ p).toList = x.toList ++ '"' :: p.toList := by
    rw [String.toList_append, String.toList_append, List.append_assoc]
    rfl
  have hword : '"' ∉ p.toList := by
    rw [String.toList_append] at hclosed
    exact fun h => hclosed (List.mem_append_left _ h)
  have hinside : inName (x ++ "\"" ++ p).toList := by
    rw [hchars, inName_append hword, inName, heven]
    rfl
  have htyped : String.ofList (typed (x ++ "\"" ++ p).toList) = p := by
    rw [hchars] at hinside ⊢
    rw [typed_append hinside hword, String.ofList_toList]
  constructor
  · have hstart : answer.1 = (x ++ "\"" ++ p).utf8ByteSize -
        (String.ofList (typed (x ++ "\"" ++ p).toList)).utf8ByteSize := rfl
    have hmark : "\"".utf8ByteSize = 1 := by decide +kernel
    rw [hstart, htyped, String.utf8ByteSize_append, String.utf8ByteSize_append, hmark]
    omega
  · rw [mem_candidates_iff, htyped, hinside, pool, if_pos rfl, and_iff_right hname]
    exact lowercase_prefix_iff p r

/-- A sigma at the end of what is typed ends a word of the name too: a blank stands behind it. -/
theorem name_offered_iff_sigma :
    let answer := Completer.candidates ⟨["ΑΣ ΔΥΟ", "scone"]⟩ ("SAY \"scone\" " ++ "\"" ++ "ΑΣ")
    answer.1 = 13 ∧ ⟨"ΑΣ ΔΥΟ", "ΑΣ ΔΥΟ"⟩ ∈ answer.2 := by
  intro answer
  obtain ⟨hstart, hoffered⟩ := name_offered_iff (c := ⟨["ΑΣ ΔΥΟ", "scone"]⟩) (x := "SAY \"scone\" ")
    (p := "ΑΣ") (r := " ΔΥΟ") (by decide +kernel) (by decide +kernel) (by decide +kernel)
  refine ⟨hstart, hoffered.mpr ?_⟩
  intro i hi
  have hinside :
      ∀ i < 2, endsAt [] "ΑΣ".toList i → endsAt [] ("ΑΣ" ++ " ΔΥΟ").toList i := by decide +kernel
  exact hinside i (List.getElem?_eq_some_iff.mp hi).1

/-- With one letter more the word of the name is longer than what is typed of it, and the name is
not offered. -/
theorem name_not_offered :
    '"' ∉ ("ΑΣ" ++ "Α").toList ∧ "".toList.count '"' % 2 = 0 ∧
      Completer.candidates ⟨["ΑΣ" ++ "Α"]⟩ ("" ++ "\"" ++ "ΑΣ") = (1, []) := by
  decide +kernel

end TableTalk.Completer
