import TableTalk.Proofs.SkipList.Insertion
import TableTalk.SkipList.Show

/-! A list without its data: keys, heights and links. Searches, insertions and drawings see nothing
else, and a change of data leaves it alone. -/
namespace TableTalk.SkipList
variable {α : Type}

def Node.frame (node : Node α) : Node Unit := ⟨node.key, (), node.tower⟩

def frame (l : SkipList α) : SkipList Unit where
  head := l.head
  nodes := l.nodes.map Node.frame

variable (l : SkipList α) (p : Place) (key : Bytes) (data : α)

@[simp] theorem size_frame : l.frame.size = l.size := Array.size_map

@[simp] theorem levels_frame : l.frame.levels = l.levels := rfl

@[simp] theorem nodes_frame (id : Nat) : l.frame.nodes[id]? = (l.nodes[id]?).map Node.frame :=
  Array.getElem?_map

@[simp] theorem tower_frame : l.frame.tower p = l.tower p := by
  cases p with
  | head => rfl
  | node id =>
    rw [tower, tower, nodes_frame]
    cases l.nodes[id]? <;> rfl

@[simp] theorem next_frame (level : Nat) : l.frame.next p level = l.next p level := by
  rw [next, tower_frame, next]

theorem walk_frame (level fuel : Nat) :
    l.frame.walk key level fuel p = l.walk key level fuel p := by
  induction fuel generalizing p with
  | zero => rfl
  | succ fuel ih =>
    rw [walk, walk, next_frame]
    cases l.next p level with
    | none => rfl
    | some id =>
      simp only [nodes_frame]
      cases l.nodes[id]? with
      | none => rfl
      | some node =>
        simp only [Option.map_some, Node.frame]
        cases compare node.key key with
        | lt => exact ih _
        | eq => rfl
        | gt => rfl

theorem descendFrom_frame (level : Nat) (path : List Place) :
    l.frame.descendFrom key level p path = l.descendFrom key level p path := by
  induction level generalizing p path with
  | zero => rfl
  | succ level ih =>
    rw [descendFrom, descendFrom, walk_frame, size_frame]
    cases l.walk key level l.size p with
    | found id => rfl
    | before q => exact ih q _

theorem descend_frame : l.frame.descend key = l.descend key :=
  l.descendFrom_frame .head key l.levels []

theorem map_frame_modify (nodes : Array (Node α)) (id : Nat) (f : Node α → Node α)
    (f' : Node Unit → Node Unit) (h : ∀ node, (f node).frame = f' node.frame) :
    (nodes.modify id f).map Node.frame = (nodes.map Node.frame).modify id f' := by
  apply Array.ext_getElem?
  intro i
  simp only [Array.getElem?_map, Array.getElem?_modify]
  split
  · simp only [Option.map_map, Function.comp_def, h]
  · rfl

theorem frame_link (level id : Nat) : (l.link p level id).frame = l.frame.link p level id := by
  cases p with
  | head => rfl
  | node n =>
    have hnodes := map_frame_modify l.nodes n
      (fun node => { node with tower := node.tower.setIfInBounds level (some id) })
      (fun node => { node with tower := node.tower.setIfInBounds level (some id) }) fun _ => rfl
    exact congrArg (SkipList.mk l.head) hnodes

theorem frame_linkAll (places : List (Place × Nat)) (id : Nat) :
    (l.linkAll places id).frame = l.frame.linkAll places id := by
  induction places generalizing l with
  | nil => rfl
  | cons place places ih =>
    refine (ih (l.link place.1 place.2 id)).trans ?_
    rw [frame_link]
    rfl

theorem frame_splice (path : List Place) (height : Nat) :
    (l.splice path height key data).frame = l.frame.splice path height key () := by
  have hlinked := l.frame_linkAll (path.take height).zipIdx l.size
  have hinherited : l.frame.inherited path height = l.inherited path height := by
    simp only [inherited, next_frame]
  rw [splice_eq, splice_eq, hinherited, levels_frame, size_frame, ← hlinked]
  simp only [frame, Array.map_push, Node.frame]

/-- Whether a key is taken in, and where its entry comes to stand, does not depend on any data. -/
theorem frame_insert? (height : Nat) :
    (l.insert? height key data).map frame = l.frame.insert? height key () := by
  rw [insert?, insert?, descend_frame]
  cases l.descend key with
  | found id => rfl
  | absent path => exact congrArg some (l.frame_splice key data path height)

theorem frame_modify (f : α → α) : (l.modify key f).frame = l.frame := by
  rw [modify]
  cases l.findId? key with
  | none => rfl
  | some id =>
    have hnodes := map_frame_modify l.nodes id (fun node => { node with data := f node.data })
      (fun node => node) fun _ => rfl
    have hsame : (l.nodes.map Node.frame).modify id (fun node => node) = l.nodes.map Node.frame :=
      Array.toList_inj.mp ((Array.toList_modify ..).trans (List.modify_id id _))
    exact congrArg (SkipList.mk l.head) (hnodes.trans hsame)

theorem chainFrom_frame (level fuel : Nat) (upcoming : Option Nat) :
    l.frame.chainFrom level fuel upcoming = (l.chainFrom level fuel upcoming).map Node.frame := by
  induction fuel generalizing upcoming with
  | zero => rfl
  | succ fuel ih =>
    rw [chainFrom, chainFrom]
    cases upcoming with
    | none => rfl
    | some id =>
      simp only [Option.bind_some, nodes_frame]
      cases l.nodes[id]? with
      | none => rfl
      | some node => exact congrArg (node.frame :: ·) (ih _)

theorem draw_frame : l.frame.draw = l.draw := by
  have hlevel (level : Nat) : l.frame.drawLevel level = l.drawLevel level := by
    simp only [drawLevel, chain, size_frame, next_frame, chainFrom_frame, List.map_map]
    rfl
  rw [draw, draw, levels_frame, funext hlevel]

end TableTalk.SkipList
