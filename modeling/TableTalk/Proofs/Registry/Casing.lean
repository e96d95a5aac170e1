import TableTalk.Proofs.Registry.Replies
import TableTalk.Proofs.Text.Casing

/-! Names in any casing. A spelling finds what was registered under another casing of it, unless a
sigma that ends a word is capital in one of the two and small in the other. -/
namespace TableTalk.Registry
variable {o : Orthography} {r : Registry} {limit : Option Nat} {log names : List Name} {name : Name}
  {requests : List Request} {v w : String} {kind : NameKind} {owner : Handle}

/-- What is in the log stays there. -/
theorem mem_foldl_record (h : name ∈ log) : name ∈ requests.foldl (record o) log := by
  induction requests generalizing log with
  | nil => exact h
  | cons request requests ih =>
    apply ih
    cases request with
    | add => exact List.mem_append_left _ h
    | lookup | lookupSpelling | compile => exact h

/-- Every name that was offered is in the log. -/
theorem name_mem_foldl_record (h : .add w kind owner ∈ requests) :
    o.name w kind owner ∈ requests.foldl (record o) log := by
  induction requests generalizing log with
  | nil => cases h
  | cons request requests ih =>
    rw [List.foldl_cons]
    obtain rfl | h := List.mem_cons.mp h
    · have hlast : o.name w kind owner ∈ record o log (.add w kind owner) :=
        List.mem_append_right _ (List.mem_singleton_self _)
      exact mem_foldl_record hlast
    · exact ih h

theorem find?_encode (r : Registry) (v : String) : r.find? (Utf8.encode v) = r.findSpelling? v := by
  rw [find?, Orthography.canonicalBytes?, Utf8.text?_eq_some_iff.mpr rfl, Option.map_some,
    Option.bind_some, findSpelling?]

/-- Some name has the key of every name that was offered; every spelling with this key finds it, and
none is added. -/
theorem Follows.settled (h : r.Follows o limit log names) (hname : name ∈ log) :
    ∃ n, n.key = name.key ∧ ∀ v, o.canonical v = name.key →
      r.findSpelling? v = some n ∧ ∀ kind owner, r.add v kind owner = (false, r) := by
  have hsome : (first? log name.key).isSome := mem_keys_iff.mp (List.mem_map_of_mem hname)
  obtain ⟨n, hn⟩ := Option.isSome_iff_exists.mp hsome
  refine ⟨n, by simpa using List.find?_some hn, fun v hv => ⟨?_, fun kind owner => ?_⟩⟩
  · rw [h.findSpelling?_eq, hv, hn]
  · obtain ⟨hnew, hsame, -⟩ := h.add v kind owner
    rw [hv, hn] at hnew
    exact Prod.ext hnew (hsame hnew)

theorem canonical_congr (h : Text.lowercase v = Text.lowercase w) :
    Name.canonical v = Name.canonical w := congrArg Text.nfc h

/-- Letter by letter the same but for case, and no sigma at the end of a word that is capital in
only one of the two: such spellings have one key, and each of them finds the name that was
registered with the other. -/
theorem found_in_any_casing (hcasing : v.toList.map Text.lowerChar = w.toList.map Text.lowerChar)
    (hsigma : ∀ i, Text.endsAt [] w.toList i →
      (v.toList[i]? = some 'Σ' ↔ w.toList[i]? = some 'Σ')) :
    Name.canonical v = Name.canonical w ∧
      ∀ (coins : Coins) (limit : Option Nat) (requests : List Request) (kind : NameKind)
        (owner : Handle), .add w kind owner ∈ requests →
          let r := (empty coins limit).after requests
          ∃ n, n.key = Name.canonical w ∧ r.findSpelling? w = some n ∧ r.findSpelling? v = some n ∧
            r.find? (Utf8.encode v) = some n ∧ ∀ kind owner, r.add v kind owner = (false, r) := by
  have hkey : Name.canonical v = Name.canonical w :=
    canonical_congr ((Text.lowercase_eq_iff hcasing).mpr hsigma)
  refine ⟨hkey, fun coins limit requests kind owner hadded => ?_⟩
  intro r
  obtain ⟨-, names, h⟩ := (follows_empty coins limit .standard).responses requests
  have hlogged : Orthography.standard.name w kind owner ∈ requests.foldl (record .standard) [] :=
    name_mem_foldl_record hadded
  obtain ⟨n, hn, hspelling⟩ := h.settled hlogged
  obtain ⟨hv, hrefused⟩ := hspelling v hkey
  exact ⟨n, hn, (hspelling w rfl).1, hv, (r.find?_encode v).trans hv, hrefused⟩

/-- The sigma inside the word may be of either case, the one at its end is capital in both. -/
theorem found_in_any_casing_mysos :
    let coins : Coins := ⟨fun _ => false, 0⟩
    let r := (empty coins none).after [.add "ΜΥΣΟΣ" .card ⟨1, 0⟩, .compile coins]
    Name.canonical "μυσοΣ" = Name.canonical "ΜΥΣΟΣ" ∧
      ∃ n, n.key = "μυσος" ∧ r.find? (Utf8.encode "μυσοΣ") = some n ∧
        r.add "μυσοΣ" .card ⟨2, 0⟩ = (false, r) := by
  intro coins r
  have hcasing : "μυσοΣ".toList.map Text.lowerChar = "ΜΥΣΟΣ".toList.map Text.lowerChar := by
    decide +kernel
  have hsigma (i : Nat) (_ : Text.endsAt [] "ΜΥΣΟΣ".toList i) :
      "μυσοΣ".toList[i]? = some 'Σ' ↔ "ΜΥΣΟΣ".toList[i]? = some 'Σ' := by
    have hinside : ∀ i < 5, Text.endsAt [] "ΜΥΣΟΣ".toList i →
        ("μυσοΣ".toList[i]? = some 'Σ' ↔ "ΜΥΣΟΣ".toList[i]? = some 'Σ') := by
      decide +kernel
    obtain hlt | hle := Nat.lt_or_ge i 5
    · exact hinside i hlt ‹_›
    · rw [List.getElem?_eq_none hle, List.getElem?_eq_none hle]
  obtain ⟨hkey, hfound⟩ := found_in_any_casing hcasing hsigma
  obtain ⟨n, hn, -, -, hfind, hrefused⟩ := hfound coins none _ .card ⟨1, 0⟩ List.mem_cons_self
  have hmysos : Name.canonical "ΜΥΣΟΣ" = "μυσος" := by decide +kernel
  exact ⟨hkey, n, hn.trans hmysos, hfind, hrefused .card ⟨2, 0⟩⟩

/-- A sigma at the end of a word keeps two casings apart: both are registered, each as a name of its
own. -/
theorem canonical_sigma_apart :
    let requests : List Request :=
      [.add "ΑΣ" .card ⟨1, 0⟩, .add "ασ" .card ⟨2, 0⟩, .lookupSpelling "ασ"]
    "ΑΣ".toList.map Text.lowerChar = "ασ".toList.map Text.lowerChar ∧
      Name.canonical "ΑΣ" ≠ Name.canonical "ασ" ∧
      ∀ coins limit, (empty coins limit).responses requests =
        [.added true, .added true, .found (some ⟨"ασ", "ασ", .card, ⟨2, 0⟩⟩)] := by
  intro requests
  refine ⟨by decide +kernel, by decide +kernel, fun coins limit => ?_⟩
  obtain ⟨hresponses, -⟩ := (follows_empty coins limit .standard).responses requests
  -- Nothing is compiled, so the limit makes no difference.
  have hlimit : expectedAll .standard limit [] requests = expectedAll .standard none [] requests :=
    rfl
  rw [hresponses, hlimit]
  decide +kernel

end TableTalk.Registry
