import TableTalk.Proofs.SkipList.Balanced
import TableTalk.Proofs.SkipTable

/-! Two ways to a table: built in order, or entry by entry in any order. They cannot be told apart
by anything but the levels and the drawing of them, since both stand for the same ordered map. -/
namespace TableTalk
open SkipList (Builder Reader Represents)

namespace SkipList
variable {α : Type} {l : SkipList α} {m : OrderedMap α}

/-- What a reader hands out in at most `fuel` steps, and how many it says are left after each. -/
def Reader.steps (l : SkipList α) : (fuel : Nat) → Reader → List ((Bytes × α) × Nat)
  | 0, _ => []
  | fuel + 1, r =>
    match r.next? l with
    | none => []
    | some (entry, r) => (entry, r.left) :: steps l fuel r

theorem Reader.steps_eq (l : SkipList α) (fuel : Nat) (r : Reader) :
    r.steps l fuel = (r.take l fuel).zipIdx.map fun (e, i) => (e, r.left - (i + 1)) := by
  induction fuel generalizing r with
  | zero => rfl
  | succ fuel ih =>
    rw [Reader.steps, Reader.take]
    cases hnext : r.next? l with
    | none => rfl
    | some step =>
      obtain ⟨entry, r'⟩ := step
      have hleft : r'.left = r.left - 1 := by
        rw [Reader.next?, Option.map_eq_some_iff] at hnext
        obtain ⟨node, -, heq⟩ := hnext
        cases heq
        rfl
      simp only [ih, hleft, List.zipIdx_cons', List.map_cons, List.map_map, Nat.zero_add]
      refine congrArg _ (List.map_congr_left fun e _ => ?_)
      simp only [Function.comp_apply, Prod.map_fst, Prod.map_snd, id_eq, Nat.sub_sub, Nat.add_comm]

/-- Who stops reading after some steps has been given the first so many entries. -/
theorem WellFormed.reader_take (hl : l.WellFormed) (n : Nat) :
    l.reader.take l n = l.toList.take n := by
  rw [← hl.drain_take, hl.drain_take_eq]
  exact Reader.take_eq l n .head l.size

theorem Represents.reader_steps (h : l.Represents m) (n : Nat) :
    l.reader.steps l n =
      (m.entries.take n).zipIdx.map fun (e, i) => (e, m.entries.length - (i + 1)) := by
  rw [Reader.steps_eq, h.wellFormed.reader_take, h.toList_eq, ← h.size_eq]
  rfl

theorem Represents.pairs_eq (h : l.Represents m) (render : α → String) :
    l.pairs render =
      m.entries.map fun (key, data) => Text.quote (Utf8.lossy key) ++ ": " ++ render data := by
  rw [pairs, h.toList_eq]

end SkipList

namespace SkipTable
variable {α β : Type} {t t' : SkipTable α} {m : OrderedMap α} {es es' : List (Bytes × α)}

/-- What can be asked of a table; all but its levels and their drawing. -/
inductive Request (α β : Type)
  | call (c : Table.Call α β)
  /-- Some steps of a reader, and how many entries are left after each. -/
  | read (steps : Nat)
  | left
  | shortText (render : α → String)
  | longText (render : α → String)

inductive Response (α β : Type)
  | reply (r : Table.Reply α β)
  | reading (seen : List ((Bytes × α) × Nat))
  | count (n : Nat)
  | text (s : String)
  deriving DecidableEq

def respond (t : SkipTable α) : Request α β → Response α β × SkipTable α
  | .call c =>
    let (r, t) := Table.answer t c
    (.reply r, t)
  | .read steps => (.reading (t.list.reader.steps t.list steps), t)
  | .left => (.count t.list.reader.left, t)
  | .shortText render => (.text (t.list.shortText render), t)
  | .longText render => (.text (t.list.longText render), t)

/-- The responses to some requests and then to a last call that uses the table up, if there
is one. -/
def responses (t : SkipTable α) (last : Option (Table.LastCall α β)) :
    List (Request α β) → List (Response α β)
  | [] => last.toList.map fun c => .reply (Table.lastAnswer t c)
  | request :: requests => (t.respond request).1 :: responses (t.respond request).2 last requests

/-- One entry after the other. -/
def addEach (t : SkipTable α) (es : List (Bytes × α)) : SkipTable α :=
  es.foldl (fun t e => (t.add e.1 e.2).2) t

/-- Two tables that stand for the same map respond alike, and stand for the same map afterwards. -/
theorem respond_congr (h : t.list.Represents m) (h' : t'.list.Represents m)
    (request : Request α β) :
    (t.respond request).1 = (t'.respond request).1 ∧
      ∃ m',
        (t.respond request).2.list.Represents m' ∧ (t'.respond request).2.list.Represents m' := by
  cases request with
  | call c =>
    obtain ⟨hreply, hafter⟩ := (backing α).answer_eq h c
    obtain ⟨hreply', hafter'⟩ := (backing α).answer_eq h' c
    exact ⟨congrArg Response.reply (hreply.trans hreply'.symm), _, hafter, hafter'⟩
  | read steps =>
    exact ⟨congrArg Response.reading ((h.reader_steps steps).trans (h'.reader_steps steps).symm),
      m, h, h'⟩
  | left => exact ⟨congrArg Response.count (h.size_eq.trans h'.size_eq.symm), m, h, h'⟩
  | shortText render =>
    refine ⟨congrArg Response.text ?_, m, h, h'⟩
    rw [SkipList.shortText, SkipList.shortText, h.pairs_eq, h'.pairs_eq]
  | longText render =>
    refine ⟨congrArg Response.text ?_, m, h, h'⟩
    rw [SkipList.longText, SkipList.longText, h.pairs_eq, h'.pairs_eq]

theorem responses_congr (h : t.list.Represents m) (h' : t'.list.Represents m)
    (last : Option (Table.LastCall α β)) (requests : List (Request α β)) :
    t.responses last requests = t'.responses last requests := by
  induction requests generalizing t t' m with
  | nil =>
    cases last with
    | none => rfl
    | some c =>
      have hlast := ((backing α).lastAnswer_eq h c).trans ((backing α).lastAnswer_eq h' c).symm
      exact congrArg (fun r => [Response.reply r]) hlast
  | cons request requests ih =>
    obtain ⟨hresponse, m', hafter, hafter'⟩ := respond_congr h h' request
    rw [responses, responses, hresponse, ih hafter hafter']

/-- Entries with keys of their own are all taken in. -/
theorem addEach_entries (hl : t.list.WellFormed)
    (hkeys : ((t.list.entries ++ es).map (·.1)).Nodup) :
    (t.addEach es).list.WellFormed ∧ (t.addEach es).list.entries = t.list.entries ++ es := by
  induction es generalizing t with
  | nil => exact ⟨hl, (List.append_nil _).symm⟩
  | cons e es ih =>
    have hspec := hl.insert?_spec (show 0 < t.coins.height from Nat.succ_pos _) e.1 e.2
    have hfresh : e.1 ∉ t.list.entries.map (·.1) := by
      rw [List.map_append, List.map_cons] at hkeys
      exact fun hmem => (List.disjoint_of_nodup_append hkeys) hmem List.mem_cons_self
    cases hinsert : t.list.insert? t.coins.height e.1 e.2 with
    | none =>
      rw [hinsert] at hspec
      exact absurd hspec hfresh
    | some l =>
      rw [hinsert] at hspec
      obtain ⟨hwell, hentries, -⟩ := hspec
      have hadd : (t.add e.1 e.2).2 = ⟨l, t.coins.afterHeight⟩ := by rw [add, hinsert]
      have hstep := ih (t := (t.add e.1 e.2).2) (by rwa [hadd])
        (by rwa [hadd, hentries, List.append_assoc])
      rw [addEach, List.foldl_cons]
      refine ⟨hstep.1, hstep.2.trans ?_⟩
      rw [hadd, hentries, List.append_assoc]
      rfl

/-- A table that is built in order and one that is filled in any order respond alike to any
requests, whatever the coins of either. -/
theorem responses_built_eq_added (hes : es.Pairwise (·.1 < ·.1)) (hperm : es'.Perm es)
    {b : Builder α} (hnew : Builder.new es.length = .ok b) :
    ∃ full l, b.addAll es = .ok full ∧ full.finish = .ok l ∧
      ∀ (coins coins' : Coins) (last : Option (Table.LastCall α β)) (requests : List (Request α β)),
        responses ⟨l, coins⟩ last requests =
          ((empty coins').addEach es').responses last requests := by
  obtain ⟨b', full, l, hnew', hall, hfinish, hfull, rfl, hentries⟩ :=
    Builder.exists_finished hes (Builder.fits_of_new hnew)
  obtain rfl : b' = b := Except.ok.inj (hnew'.symm.trans hnew)
  refine ⟨full, full.list, hall, hfinish, fun coins coins' last requests => ?_⟩
  have hbuilt : full.list.Represents ⟨es, hes⟩ := ⟨hfull.wellFormed, .of_eq hentries⟩
  have hnodup : (es'.map (·.1)).Nodup :=
    (hperm.map _).nodup_iff.mpr (OrderedMap.keys_nodup ⟨es, hes⟩)
  obtain ⟨hwell, hadded⟩ := addEach_entries (t := empty coins') SkipList.wellFormed_empty hnodup
  rw [show (empty coins').list.entries ++ es' = es' from rfl] at hadded
  exact responses_congr hbuilt ⟨hwell, (List.Perm.of_eq hadded).trans hperm⟩ last requests

/-- Two keys, the greater one added first. -/
theorem responses_built_eq_added_two :
    let es : List (Bytes × Nat) := [([97], 1), ([98], 2)]
    let b : Builder Nat := ⟨2, { head := #[none, none] }, #[.head, .head]⟩
    es.Pairwise (·.1 < ·.1) ∧ es.reverse.Perm es ∧ Builder.new es.length = .ok b ∧
      ∃ full l, b.addAll es = .ok full ∧ full.finish = .ok l ∧
        ∀ (coins coins' : Coins) (last : Option (Table.LastCall Nat Nat))
          (requests : List (Request Nat Nat)),
          responses ⟨l, coins⟩ last requests =
            ((empty coins').addEach es.reverse).responses last requests := by
  intro es b
  have hes : es.Pairwise (·.1 < ·.1) := by decide
  have hnew : Builder.new es.length = .ok b := by decide
  exact ⟨hes, es.reverse_perm, hnew, responses_built_eq_added hes es.reverse_perm hnew⟩

end SkipTable
end TableTalk
