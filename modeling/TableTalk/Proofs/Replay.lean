import TableTalk.Proofs.Construction
import TableTalk.Proofs.SkipList.Frame

/-! What decides where the entries of a table stand: the coins it began with and the keys it has
taken in, in their order. Reads, changes of data and keys that were refused leave no trace, and of
the keys themselves only their number has a say in the heights. -/
namespace TableTalk

namespace Coins

/-- The coins that are left once so many heights have been drawn. -/
def afterHeights (c : Coins) : Nat → Coins
  | 0 => c
  | n + 1 => (c.afterHeights n).afterHeight

/-- The height that is drawn when `n` others have been drawn before. -/
def nthHeight (c : Coins) (n : Nat) : Nat := (c.afterHeights n).height

end Coins

namespace SkipTable
variable {α β α' β' : Type} {t t' : SkipTable α} {c : Coins}

def frame (t : SkipTable α) : SkipTable Unit := ⟨t.list.frame, t.coins⟩

theorem frame_empty (c : Coins) : (empty c : SkipTable α).frame = empty c := by
  simp [frame, empty, SkipList.frame]

theorem frame_add (t : SkipTable α) (key : Bytes) (data : α) :
    (t.add key data).2.frame = (t.frame.add key ()).2 := by
  have hinsert := t.list.frame_insert? key data t.coins.height
  simp only [add, frame] at hinsert ⊢
  rw [← hinsert]
  cases t.list.insert? t.coins.height key data <;> rfl

theorem frame_modify (t : SkipTable α) (key : Bytes) (f : α → α) :
    (t.modify key f).frame = t.frame :=
  congrArg (SkipTable.mk · t.coins) (t.list.frame_modify key f)

/-- The key that a request has brought in, if the response says so. -/
def Request.taken : Request α β → Response α β → Option Bytes
  | .call (.add key _), .reply (.addition .unique) => some key
  | _, _ => none

/-- The table after some requests. -/
def after (t : SkipTable α) (requests : List (Request α β)) : SkipTable α :=
  requests.foldl (fun t request => (t.respond request).2) t

/-- The keys that some requests bring in, in order. -/
def takenKeys (t : SkipTable α) : List (Request α β) → List Bytes
  | [] => []
  | request :: requests =>
    (request.taken (t.respond request).1).toList ++ takenKeys (t.respond request).2 requests

/-- A key that is refused costs no coins and touches no link. -/
theorem add_of_not_unique {key : Bytes} {data : α} (h : (t.add key data).1 ≠ .unique) :
    (t.add key data).2 = t := by
  rw [add] at h ⊢
  cases hinsert : t.list.insert? t.coins.height key data with
  | none => rfl
  | some l =>
    rw [hinsert] at h
    exact absurd rfl h

/-- A request takes in one new key, or it leaves the frame as it was. -/
theorem respond_cases (t : SkipTable α) (request : Request α β) :
    (∃ key data, (t.add key data).1 = .unique ∧ (t.respond request).2 = (t.add key data).2 ∧
      request.taken (t.respond request).1 = some key) ∨
    ((t.respond request).2.frame = t.frame ∧ request.taken (t.respond request).1 = none) := by
  cases request with
  | call c =>
    cases c with
    | add key data =>
      rw [show (t.respond (.call (.add key data) : Request α β)).2 = (t.add key data).2 from rfl,
        show (t.respond (.call (.add key data) : Request α β)).1 =
          .reply (.addition (t.add key data).1) from rfl]
      by_cases hunique : (t.add key data).1 = .unique
      · refine .inl ⟨key, data, hunique, rfl, ?_⟩
        rw [hunique]
        rfl
      · rw [add_of_not_unique hunique]
        cases hadd : (t.add key data).1 with
        | unique => exact absurd hadd hunique
        | duplicate => exact .inr ⟨rfl, rfl⟩
    | lookupMut key f => exact .inr ⟨t.frame_modify key f, rfl⟩
    | lookup | contains | len | isEmpty | iter | apply => exact .inr ⟨rfl, rfl⟩
  | read | left | shortText | longText => exact .inr ⟨rfl, rfl⟩

/-- Of a request, the frame sees only the key that it has brought in. -/
theorem frame_respond (t : SkipTable α) (request : Request α β) :
    (t.respond request).2.frame =
      t.frame.addEach ((request.taken (t.respond request).1).toList.map fun key => (key, ())) := by
  obtain ⟨key, data, -, hnext, htaken⟩ | ⟨hsame, htaken⟩ := t.respond_cases request
  · rw [hnext, htaken]
    exact t.frame_add key data
  · rw [hsame, htaken]
    rfl

theorem addEach_append (t : SkipTable α) (es es' : List (Bytes × α)) :
    t.addEach (es ++ es') = (t.addEach es).addEach es' := List.foldl_append

theorem frame_after (t : SkipTable α) (requests : List (Request α β)) :
    (t.after requests).frame =
      t.frame.addEach ((t.takenKeys requests).map fun key => (key, ())) := by
  induction requests generalizing t with
  | nil => rfl
  | cons request requests ih =>
    rw [takenKeys, List.map_append, addEach_append, ← frame_respond]
    exact ih (t.respond request).2

/-- The keys in a table, in the order in which they came. -/
def storedKeys (t : SkipTable α) : List Bytes := t.list.entries.map (·.1)

theorem storedKeys_frame (t : SkipTable α) : t.frame.storedKeys = t.storedKeys := by
  simp [storedKeys, frame, SkipList.frame, SkipList.Node.frame, SkipList.entries]

theorem storedKeys_add {key : Bytes} {data : α} (h : (t.add key data).1 = .unique) :
    (t.add key data).2.storedKeys = t.storedKeys ++ [key] := by
  rw [add] at h ⊢
  cases hinsert : t.list.insert? t.coins.height key data with
  | none =>
    rw [hinsert] at h
    cases h
  | some l =>
    obtain ⟨path, rfl⟩ := SkipList.insert?_eq_some hinsert
    simp [storedKeys, SkipList.entries_splice]

theorem storedKeys_after (t : SkipTable α) (requests : List (Request α β)) :
    (t.after requests).storedKeys = t.storedKeys ++ t.takenKeys requests := by
  induction requests generalizing t with
  | nil => exact (List.append_nil _).symm
  | cons request requests ih =>
    rw [takenKeys, after, List.foldl_cons]
    refine (ih (t.respond request).2).trans ?_
    rw [← List.append_assoc]
    congr 1
    obtain ⟨key, data, hunique, hnext, htaken⟩ | ⟨hsame, htaken⟩ := t.respond_cases request
    · rw [hnext, htaken]
      exact storedKeys_add hunique
    · rw [← storedKeys_frame, hsame, storedKeys_frame, htaken]
      exact (List.append_nil _).symm

/-- What the coins that a table began with say about it, in terms of how many entries there are. -/
structure Drawn (c : Coins) (t : SkipTable α) : Prop where
  coins : t.coins = c.afterHeights t.size
  height : ∀ {id : Nat} {node : SkipList.Node α}, t.list.nodes[id]? = some node →
    node.tower.size = c.nthHeight id
  levels : t.list.levels = ((List.range t.size).map c.nthHeight).foldl max 0

theorem drawn_empty (c : Coins) : Drawn c (empty c : SkipTable α) where
  coins := rfl
  height h := by simp [empty] at h
  levels := rfl

theorem Drawn.add (h : Drawn c t) (key : Bytes) (data : α) : Drawn c (t.add key data).2 := by
  rw [SkipTable.add]
  cases hinsert : t.list.insert? t.coins.height key data with
  | none => exact h
  | some l =>
    obtain ⟨path, rfl⟩ := SkipList.insert?_eq_some hinsert
    have hheight : t.coins.height = c.nthHeight t.size := congrArg Coins.height h.coins
    have hsize : (t.list.splice path t.coins.height key data).size = t.size + 1 :=
      t.list.size_splice ..
    refine ⟨?_, fun {id node} hnode => ?_, ?_⟩
    · rw [size, hsize, Coins.afterHeights, ← h.coins]
    · obtain ⟨rfl, htower⟩ | ⟨old, hold, htower⟩ := SkipList.node_splice hnode
      · exact htower.trans hheight
      · exact htower.trans (h.height hold)
    · rw [size, hsize, List.range_succ, List.map_append, List.foldl_append, ← h.levels,
        SkipList.levels_splice, hheight]
      simp only [List.map_cons, List.map_nil, List.foldl_cons, List.foldl_nil]
      omega

theorem Drawn.of_frame (h : Drawn c t.frame) : Drawn c t where
  coins := by
    rw [size, ← t.list.size_frame]
    exact h.coins
  height hnode := h.height (t.list.nodes_frame _ ▸ congrArg (Option.map SkipList.Node.frame) hnode)
  levels := by
    rw [size, ← t.list.size_frame]
    exact h.levels

theorem Drawn.addEach (h : Drawn c t) (es : List (Bytes × α)) : Drawn c (t.addEach es) := by
  induction es generalizing t with
  | nil => exact h
  | cons e es ih => exact ih (h.add e.1 e.2)

theorem drawn_after (c : Coins) (requests : List (Request α β)) :
    Drawn c ((empty c : SkipTable α).after requests) := by
  refine Drawn.of_frame ?_
  rw [frame_after, frame_empty]
  exact (drawn_empty c).addEach _

/-- Tables that begin with the same coins and take in the same keys in the same order end with the
same levels, links and coins, and so with the same drawing, whatever else was asked of them. How
tall the entries are, and with them how many levels there are, depends on the coins and the number
of entries alone. -/
theorem frame_of_takenKeys (c : Coins) :
    (∀ {requests : List (Request α β)} {requests' : List (Request α' β')},
      (empty c).takenKeys requests = (empty c).takenKeys requests' →
        ((empty c).after requests).list.frame = ((empty c).after requests').list.frame ∧
        ((empty c).after requests).coins = ((empty c).after requests').coins ∧
        ((empty c).after requests).list.levels = ((empty c).after requests').list.levels ∧
        ((empty c).after requests).list.draw = ((empty c).after requests').list.draw) ∧
    ∀ requests : List (Request α β),
      ((empty c).after requests).storedKeys = (empty c).takenKeys requests ∧
        Drawn c ((empty c).after requests) := by
  refine ⟨fun {requests requests'} h => ?_, fun requests => ⟨?_, drawn_after c requests⟩⟩
  · have hframe : ((empty c).after requests).frame = ((empty c).after requests').frame := by
      rw [frame_after, frame_after, h, frame_empty, frame_empty]
    have hlist : ((empty c).after requests).list.frame = ((empty c).after requests').list.frame :=
      congrArg SkipTable.list hframe
    refine ⟨hlist, congrArg SkipTable.coins hframe, ?_, ?_⟩
    · exact congrArg SkipList.levels hlist
    · rw [← SkipList.draw_frame, hlist, SkipList.draw_frame]
  · exact storedKeys_after (empty c) requests

/-- A key offered again and data changed in one run, not in the other. -/
theorem frame_of_takenKeys_two :
    let c : Coins := .seeded 7
    let requests : List (Request Nat Nat) :=
      [.call (.add [98] 1), .call (.add [98] 2), .call (.lookupMut [98] (· + 1)),
        .call (.add [97] 3), .left]
    let requests' : List (Request Bool Nat) :=
      [.call (.add [98] true), .call (.contains [97]), .call (.add [97] false)]
    (empty c).takenKeys requests = (empty c).takenKeys requests' ∧
      ((empty c).after requests).list.frame = ((empty c).after requests').list.frame ∧
      Drawn c ((empty c).after requests) := by
  intro c requests requests'
  have hsame : (empty c).takenKeys requests = (empty c).takenKeys requests' := by decide +kernel
  exact ⟨hsame, ((frame_of_takenKeys c).1 hsame).1,
    ((@frame_of_takenKeys Nat Nat Bool Nat c).2 requests).2⟩

end SkipTable
end TableTalk
