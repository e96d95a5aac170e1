import Mathlib.Data.List.Dedup
import TableTalk.Proofs.Registry.Compilation

/-! A registry and the log of all names that were ever offered to it. The first name offered with a
key is the name of that key, whatever the orthography, and whatever is compiled when. -/
namespace TableTalk.Registry
open SkipList (Builder)

inductive Request
  | add (spelling : String) (kind : NameKind) (owner : Handle)
  | lookup (typed : Bytes)
  | lookupSpelling (spelling : String)
  /-- The coins go with the table of loose names that comes out of it. -/
  | compile (coins : Coins)

inductive Response
  | added (new : Bool)
  | found (name : Option Name)
  | compiled (c : Compiled)
  | halted (h : Halt)
  deriving DecidableEq

def respond (r : Registry) : Request → Response × Registry
  | .add spelling kind owner =>
    let (new, r) := r.add spelling kind owner
    (.added new, r)
  | .lookup typed => (.found (r.find? typed), r)
  | .lookupSpelling spelling => (.found (r.findSpelling? spelling), r)
  | .compile coins =>
    match r.compile with
    | .ok (c, r') => (.compiled c, { r' with loose := ⟨r'.loose.list, coins⟩ })
    | .error halt => (.halted halt, r)

def responses (r : Registry) : List Request → List Response
  | [] => []
  | request :: requests => (r.respond request).1 :: responses (r.respond request).2 requests

def after (r : Registry) (requests : List Request) : Registry :=
  requests.foldl (fun r request => (r.respond request).2) r

/-- The log after a request: every name that is offered is put down, also those that are refused. -/
def record (o : Orthography) (log : List Name) : Request → List Name
  | .add spelling kind owner => log ++ [o.name spelling kind owner]
  | _ => log

def first? (log : List Name) (key : String) : Option Name := log.find? (·.key = key)

def distinctKeys (log : List Name) : Nat := (log.map (·.key)).dedup.length

/-- What comes of a compilation of so many keys. -/
def compilation (limit : Option Nat) (keys : Nat) : Response :=
  if Indexable limit keys then .compiled (.indexed keys)
  else if Memory.Fits Builder.entryWidth keys then .compiled (.rebuilt keys)
  else .halted (.failure ⟨.capacity, none⟩)

/-- The response to a request as the log has it. -/
def expected (o : Orthography) (limit : Option Nat) (log : List Name) : Request → Response
  | .add spelling _ _ => .added (first? log (o.canonical spelling)).isNone
  | .lookup typed =>
    .found ((String.fromUTF8? ⟨typed.toArray⟩).bind fun s => first? log (o.canonical s))
  | .lookupSpelling spelling => .found (first? log (o.canonical spelling))
  | .compile _ => compilation limit (distinctKeys log)

def expectedAll (o : Orthography) (limit : Option Nat) (log : List Name) :
    List Request → List Response
  | [] => []
  | request :: requests =>
    expected o limit log request :: expectedAll o limit (record o log request) requests

variable {o : Orthography} {r : Registry} {limit : Option Nat} {log names : List Name} {name : Name}

/-- The registry holds, of the names in the log, the first with each key. -/
structure Follows (r : Registry) (o : Orthography) (limit : Option Nat) (log names : List Name) :
    Prop where
  orthography : r.orthography = o
  limit : r.limit = limit
  holds : r.Holds names
  first : ∀ key, first? names key = first? log key

theorem follows_empty (coins : Coins) (limit : Option Nat) (o : Orthography) :
    (empty coins limit o).Follows o limit [] [] :=
  ⟨rfl, rfl, holds_empty coins limit o, fun _ => rfl⟩

theorem mem_keys_iff {key : String} : key ∈ names.map (·.key) ↔ (first? names key).isSome := by
  simp [first?, List.find?_isSome]

theorem first?_append (log : List Name) (name : Name) (key : String) :
    first? (log ++ [name]) key =
      (first? log key).or (if name.key = key then some name else none) := by
  simp only [first?, List.find?_append, List.find?_singleton, decide_eq_true_eq]

theorem Follows.keys_iff (h : r.Follows o limit log names) {key : String} :
    key ∈ names.map (·.key) ↔ key ∈ log.map (·.key) := by
  rw [mem_keys_iff, mem_keys_iff, h.first]

theorem Follows.isNone_first? (h : r.Follows o limit log names) (key : String) :
    (first? log key).isNone = decide (key ∉ names.map (·.key)) := by
  rw [Bool.eq_iff_iff, decide_eq_true_iff, mem_keys_iff, h.first, Option.isNone_iff_eq_none,
    Option.not_isSome_iff_eq_none]

theorem Follows.length_eq (h : r.Follows o limit log names) : names.length = distinctKeys log := by
  have hperm : (names.map (·.key)).Perm (log.map (·.key)).dedup := by
    rw [List.perm_ext_iff_of_nodup h.holds.keys_nodup (List.nodup_dedup _)]
    intro key
    rw [h.keys_iff, List.mem_dedup]
  rw [distinctKeys, ← hperm.length_eq, List.length_map]

/-- A name whose key was offered before changes nothing but the log. -/
theorem Follows.refused (h : r.Follows o limit log names) (hkey : name.key ∈ names.map (·.key)) :
    r.Follows o limit (log ++ [name]) names where
  orthography := h.orthography
  limit := h.limit
  holds := h.holds
  first key := by
    rw [first?_append, h.first]
    by_cases heq : name.key = key
    · subst heq
      rw [mem_keys_iff, h.first] at hkey
      obtain ⟨n, hn⟩ := Option.isSome_iff_exists.mp hkey
      rw [hn, Option.some_or]
    · rw [if_neg heq, Option.or_none]

theorem Follows.findKey?_eq (h : r.Follows o limit log names) (key : String) :
    r.findKey? (Utf8.encode key) = first? log key := (h.holds.findKey?_eq key).trans (h.first key)

theorem Holds.moved (h : r.Holds names) {r' : Registry} (hwell : r'.loose.list.WellFormed)
    (hperm : r'.entries.Perm r.entries) : r'.Holds names :=
  ⟨hwell, hperm.trans h.perm, h.keys_nodup⟩

/-- A compilation moves names and loses none. -/
theorem Follows.compile (h : r.Follows o limit log names) (coins : Coins) :
    (respond r (.compile coins)).1 = compilation limit (distinctKeys log) ∧
      (respond r (.compile coins)).2.Follows o limit log names := by
  have hkeys : r.size = distinctKeys log := h.holds.size_eq.trans h.length_eq
  have ho := h.orthography
  rw [respond, compilation, ← h.limit, ← hkeys]
  by_cases hindex : Indexable r.limit r.size
  · obtain ⟨t, hcompile, hperm⟩ := h.holds.compile_indexed hindex
    rw [if_pos hindex, hcompile]
    refine ⟨rfl, ho, rfl, h.holds.moved SkipList.wellFormed_empty ?_, h.first⟩
    exact (List.Perm.of_eq (List.append_nil _)).trans hperm
  · rw [if_neg hindex]
    by_cases hfits : Memory.Fits Builder.entryWidth r.size
    · obtain ⟨list, hcompile, hwell, hentries, -⟩ := h.holds.compile_rebuilt hindex hfits
      rw [if_pos hfits, hcompile]
      have hperm : list.entries.Perm r.entries := hentries ▸ h.holds.inOrder_perm
      exact ⟨rfl, ho, rfl, h.holds.moved hwell hperm, h.first⟩
    · rw [if_neg hfits, compile_failed hindex hfits]
      exact ⟨rfl, ho, rfl, h.holds, h.first⟩

/-- A spelling is refused if a name with its key was offered before, and nothing changes. -/
theorem Follows.add (h : r.Follows o limit log names) (spelling : String) (kind : NameKind)
    (owner : Handle) :
    (r.add spelling kind owner).1 = (first? log (o.canonical spelling)).isNone ∧
      ((r.add spelling kind owner).1 = false → (r.add spelling kind owner).2 = r) ∧
      ∃ names', (r.add spelling kind owner).2.Follows o limit
        (log ++ [o.name spelling kind owner]) names' := by
  rw [Registry.add, h.orthography, h.isNone_first?]
  obtain ⟨hkey, henter⟩ | ⟨hkey, r', henter, ho, hlimit, hholds⟩ :=
    h.holds.enter (o.name spelling kind owner)
  · rw [henter]
    exact ⟨(decide_eq_false (not_not_intro hkey)).symm, fun _ => rfl, names, h.refused hkey⟩
  · rw [henter]
    refine ⟨(decide_eq_true hkey).symm, nofun, _, ho.trans h.orthography, hlimit.trans h.limit,
      hholds, fun key => ?_⟩
    rw [first?_append, first?_append, h.first]

theorem Follows.find?_eq (h : r.Follows o limit log names) (typed : Bytes) :
    r.find? typed =
      (String.fromUTF8? ⟨typed.toArray⟩).bind fun s => first? log (o.canonical s) := by
  rw [find?, h.orthography, Orthography.canonicalBytes?, Utf8.text?_eq_fromUTF8?, Option.bind_map]
  simp only [Function.comp_def, h.findKey?_eq]

theorem Follows.findSpelling?_eq (h : r.Follows o limit log names) (spelling : String) :
    r.findSpelling? spelling = first? log (o.canonical spelling) := by
  rw [findSpelling?, h.orthography, h.findKey?_eq]

/-- One request: the response is the one expected, and the registry goes on following the log. -/
theorem Follows.respond (h : r.Follows o limit log names) (request : Request) :
    (r.respond request).1 = expected o limit log request ∧
      ∃ names', (r.respond request).2.Follows o limit (record o log request) names' := by
  cases request with
  | add spelling kind owner =>
    obtain ⟨hnew, -, hnext⟩ := h.add spelling kind owner
    exact ⟨congrArg Response.added hnew, hnext⟩
  | lookup typed => exact ⟨congrArg Response.found (h.find?_eq typed), names, h⟩
  | lookupSpelling spelling =>
    exact ⟨congrArg Response.found (h.findSpelling?_eq spelling), names, h⟩
  | compile coins =>
    obtain ⟨hresponse, hafter⟩ := h.compile coins
    exact ⟨hresponse, names, hafter⟩

theorem Follows.responses (h : r.Follows o limit log names) (requests : List Request) :
    r.responses requests = expectedAll o limit log requests ∧
      ∃ names', (r.after requests).Follows o limit (requests.foldl (record o) log) names' := by
  induction requests generalizing r log names with
  | nil => exact ⟨rfl, names, h⟩
  | cons request requests ih =>
    obtain ⟨hresponse, names', hnext⟩ := h.respond request
    obtain ⟨hrest, hafter⟩ := ih hnext
    rw [Registry.responses, expectedAll, hresponse, hrest]
    exact ⟨rfl, hafter⟩

/-- What can be counted and listed, and what a refusal leaves behind. -/
structure Tally (r : Registry) (log : List Name) : Prop where
  size_eq : r.size = distinctKeys log
  sum_eq : r.size = r.indexSize + r.looseSize
  indexSize_eq : r.indexSize = r.indexed.length
  looseSize_eq : r.looseSize = r.loose.toList.length
  apart : ∀ key, ¬(r.index.any (·.contains key) ∧ r.loose.contains key)
  own_key : ∀ e ∈ r.indexed ++ r.loose.toList, e.1 = Utf8.encode e.2.key
  toList_eq : r.toList = r.indexed.map (·.2) ++ r.loose.toList.map (·.2)
  nodup : r.toList.Nodup
  mem_iff : ∀ {n}, n ∈ r.toList ↔ first? log n.key = some n
  ascending : (r.loose.toList.map (·.2)).Pairwise fun m n => Utf8.encode m.key < Utf8.encode n.key
  refused : ∀ {spelling kind owner},
    (r.add spelling kind owner).1 = false → (r.add spelling kind owner).2 = r

theorem Holds.listed_perm (h : r.Holds names) : (r.indexed ++ r.loose.toList).Perm r.entries :=
  h.wellFormed.toList_perm.append_left _

theorem Holds.own_key (h : r.Holds names) :
    ∀ e ∈ r.indexed ++ r.loose.toList, e.1 = Utf8.encode e.2.key := by
  intro e he
  obtain ⟨n, -, rfl⟩ := h.mem_iff.mp (h.listed_perm.mem_iff.mp he)
  rfl

theorem Holds.toList_perm (h : r.Holds names) : r.toList.Perm names := by
  have hperm := ((h.listed_perm.trans h.perm).map (·.2))
  rwa [List.map_map, show (·.2) ∘ Name.entry = id from rfl, List.map_id] at hperm

theorem Holds.apart (h : r.Holds names) (key : Bytes) :
    ¬(r.index.any (·.contains key) ∧ r.loose.contains key) := by
  rintro ⟨hindex, hloose⟩
  have hnodup := h.nodup
  rw [entries, List.map_append] at hnodup
  exact List.disjoint_of_nodup_append hnodup (any_contains_iff.mp hindex)
    (h.wellFormed.contains_iff.mp hloose)

theorem Holds.ascending (h : r.Holds names) :
    (r.loose.toList.map (·.2)).Pairwise fun m n => Utf8.encode m.key < Utf8.encode n.key := by
  have hkey {e : Bytes × Name} (he : e ∈ r.loose.toList) : e.1 = Utf8.encode e.2.key :=
    h.own_key e (List.mem_append_right _ he)
  rw [List.pairwise_map]
  refine h.wellFormed.toList_ascending.imp_of_mem fun hd he hlt => ?_
  rwa [← hkey hd, ← hkey he]

theorem Follows.tally (h : r.Follows o limit log names) : r.Tally log where
  size_eq := h.holds.size_eq.trans h.length_eq
  sum_eq := rfl
  indexSize_eq := r.indexSize_eq_length
  looseSize_eq := r.looseSize_eq_length.trans h.holds.wellFormed.toList_perm.length_eq.symm
  apart := h.holds.apart
  own_key := h.holds.own_key
  toList_eq := List.map_append
  nodup := h.holds.toList_perm.nodup_iff.mpr h.holds.keys_nodup.of_map
  mem_iff := by
    intro n
    rw [h.holds.toList_perm.mem_iff, ← h.first, first?,
      find?_eq_some_iff_of_nodup h.holds.keys_nodup]
    simp
  ascending := h.holds.ascending
  refused := (h.add _ _ _).2.1

end TableTalk.Registry
