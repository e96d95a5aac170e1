import Mathlib.Data.List.DropRight
import TableTalk.Proofs.Buffer

/-! Calls on a buffer, in any order. Each gets exactly the room that it asks for, or fails
and leaves everything as it was; and what is held is what was added since the buffer was
last emptied. -/
namespace TableTalk.ParticleBuffer
variable {b : ParticleBuffer}

/-- What can be asked of a buffer. -/
inductive Call
  | add (p : Particle)
  | grow (amount : Nat)
  | atLeast (minimum : Nat)
  | clear
  deriving DecidableEq

/-- A buffer that cannot be given its room stays as it was. -/
def orKeep (b : ParticleBuffer) :
    Except Failure ParticleBuffer → Except Failure Unit × ParticleBuffer
  | .ok grown => (.ok (), grown)
  | .error f => (.error f, b)

def respond (b : ParticleBuffer) : Call → Except Failure Unit × ParticleBuffer
  | .add p => b.add p
  | .grow amount => b.orKeep (b.grow amount)
  | .atLeast minimum => b.orKeep (b.atLeast minimum)
  | .clear => (.ok (), b.clear)

/-- The buffer that some calls leave. -/
def after (b : ParticleBuffer) (calls : List Call) : ParticleBuffer :=
  calls.foldl (fun b call => (b.respond call).2) b

/-- Some calls, each with its answer. -/
def log (b : ParticleBuffer) : List Call → List (Call × Except Failure Unit)
  | [] => []
  | call :: calls => (call, (b.respond call).1) :: (b.respond call).2.log calls

/-- The particle that a call has added, if it has added one. -/
def added? : Call × Except Failure Unit → Option Particle
  | (.add p, .ok ()) => some p
  | _ => none

/-- The room that a call needs there to be. -/
def asked (b : ParticleBuffer) : Call → Nat
  | .add _ => if b.size = b.capacity then b.capacity + b.increment else b.capacity
  | .grow amount => b.capacity + amount
  | .atLeast minimum => max b.capacity minimum
  | .clear => b.capacity

/-- What is held after a call that did not fail. -/
def Call.onto (particles : Array Particle) : Call → Array Particle
  | .add p => particles.push p
  | .clear => #[]
  | .grow _ | .atLeast _ => particles

/-- There is room for what is held, and the room fits in one block. -/
structure Sound (b : ParticleBuffer) : Prop where
  size_le : b.size ≤ b.capacity
  fits : Memory.Fits slotWidth b.capacity

theorem not_fits_of_le {n : Nat} (h : Memory.sizeLimit ≤ n) : ¬Memory.Fits slotWidth n := by
  simp only [Memory.sizeLimit] at h
  simp only [Memory.Fits, Memory.blockLimit, slotWidth]
  omega

theorem Sound.capacity_lt (h : b.Sound) : b.capacity < Memory.sizeLimit :=
  Nat.lt_of_not_le fun hle => not_fits_of_le hle h.fits

/-- Room on top of what there is, spare or not, is given exactly. -/
theorem Sound.grow_eq (h : b.Sound) (amount : Nat) :
    b.grow amount =
      if Memory.Fits slotWidth (b.capacity + amount) then
        .ok { b with capacity := b.capacity + amount }
      else .error ⟨.capacity, none⟩ := by
  have hsize := h.size_le
  have hlimit := h.capacity_lt
  by_cases hsum : b.capacity - b.size + amount ≤ Memory.sizeLimit
  · have hmore : Memory.clampedAdd (b.capacity - b.size) amount = b.capacity - b.size + amount :=
      Nat.min_eq_left hsum
    have hall : b.size + (b.capacity - b.size + amount) = b.capacity + amount := by omega
    rw [grow, hmore, reserve, hall]
    by_cases hnone : amount = 0
    · rw [hnone, Nat.add_zero, Nat.add_zero, if_pos (Nat.le_refl _), if_pos h.fits]
    · rw [if_neg (by omega)]
  · -- The sum is held at the largest size. Neither that nor the true sum fits.
    have hmore : Memory.clampedAdd (b.capacity - b.size) amount = Memory.sizeLimit :=
      Nat.min_eq_right (Nat.le_of_not_le hsum)
    rw [grow, hmore, reserve, if_neg (by omega), if_neg (not_fits_of_le (Nat.le_add_left _ _)),
      if_neg (not_fits_of_le (by omega))]

theorem Sound.atLeast_eq (h : b.Sound) (minimum : Nat) :
    b.atLeast minimum =
      if Memory.Fits slotWidth (max b.capacity minimum) then
        .ok { b with capacity := max b.capacity minimum }
      else .error ⟨.capacity, none⟩ := by
  rw [atLeast]
  by_cases hmore : b.capacity < minimum
  · have hall : b.capacity + (minimum - b.capacity) = max b.capacity minimum := by omega
    rw [if_pos hmore, h.grow_eq, hall]
  · have hall : max b.capacity minimum = b.capacity := Nat.max_eq_left (Nat.le_of_not_lt hmore)
    rw [if_neg hmore, hall, if_pos h.fits]

/-- A call gets the room it asks for if that fits, and fails otherwise. -/
theorem Sound.respond_eq (h : b.Sound) (call : Call) :
    b.respond call =
      if Memory.Fits slotWidth (b.asked call) then
        (.ok (), { b with particles := call.onto b.particles, capacity := b.asked call })
      else (.error ⟨.capacity, none⟩, b) := by
  cases call with
  | add p =>
    rw [respond, asked, Call.onto]
    by_cases hfull : b.size = b.capacity
    · rw [if_pos hfull, ← hfull]
      by_cases hfits : Memory.Fits slotWidth (b.size + b.increment)
      · rw [if_pos hfits, add_of_full p hfull hfits]
      · rw [if_neg hfits, add_of_stuck p hfull hfits]
    · rw [if_neg hfull, if_pos h.fits, add_of_spare p hfull]
  | grow amount =>
    rw [respond, asked, Call.onto, h.grow_eq]
    split <;> rfl
  | atLeast minimum =>
    rw [respond, asked, Call.onto, h.atLeast_eq]
    split <;> rfl
  | clear => rw [respond, asked, Call.onto, if_pos h.fits, clear]

theorem capacity_le_asked (b : ParticleBuffer) (call : Call) : b.capacity ≤ b.asked call := by
  cases call with
  | add p =>
    rw [asked]
    split
    · exact Nat.le_add_right _ _
    · exact Nat.le_refl _
  | grow amount => exact Nat.le_add_right _ _
  | atLeast minimum => exact Nat.le_max_left _ _
  | clear => exact Nat.le_refl _

theorem Sound.size_onto_le (h : b.Sound) (call : Call) :
    (call.onto b.particles).size ≤ b.asked call := by
  have hsize := h.size_le
  have hpos := b.increment_pos
  cases call with
  | add p =>
    rw [asked, Call.onto, Array.size_push]
    change b.size + 1 ≤ _
    split <;> omega
  | grow amount => exact Nat.le_trans hsize (Nat.le_add_right _ _)
  | atLeast minimum => exact Nat.le_trans hsize (Nat.le_max_left _ _)
  | clear => exact Nat.zero_le _

theorem Sound.respond (h : b.Sound) (call : Call) : (b.respond call).2.Sound := by
  rw [h.respond_eq]
  split
  · next hfits => exact ⟨h.size_onto_le call, hfits⟩
  · exact h

theorem Sound.increment_respond (h : b.Sound) (call : Call) :
    (b.respond call).2.increment = b.increment := by
  rw [h.respond_eq]
  split <;> rfl

theorem Sound.after (h : b.Sound) (calls : List Call) :
    (b.after calls).Sound ∧ (b.after calls).increment = b.increment := by
  induction calls generalizing b with
  | nil => exact ⟨h, rfl⟩
  | cons call calls ih =>
    obtain ⟨hlater, hincrement⟩ := ih (h.respond call)
    exact ⟨hlater, hincrement.trans (h.increment_respond call)⟩

theorem after_concat (b : ParticleBuffer) (calls : List Call) (call : Call) :
    b.after (calls ++ [call]) = ((b.after calls).respond call).2 := by
  rw [ParticleBuffer.after, List.foldl_append]
  rfl

theorem log_concat (b : ParticleBuffer) (calls : List Call) (call : Call) :
    b.log (calls ++ [call]) = b.log calls ++ [(call, ((b.after calls).respond call).1)] := by
  induction calls generalizing b with
  | nil => rfl
  | cons first calls ih => exact congrArg (_ :: ·) (ih (b.respond first).2)

/-- What the calls of a log have added since the last one that empties. -/
def sinceClear (log : List (Call × Except Failure Unit)) : List Particle :=
  (log.rtakeWhile fun entry => entry.1 ≠ .clear).filterMap added?

theorem sinceClear_concat (log : List (Call × Except Failure Unit)) (call : Call)
    (answer : Except Failure Unit) :
    sinceClear (log ++ [(call, answer)]) =
      if call = .clear then [] else sinceClear log ++ (added? (call, answer)).toList := by
  by_cases hclear : call = .clear
  · rw [sinceClear, List.rtakeWhile_concat_neg _ _ _ (by simpa using hclear), if_pos hclear]
    rfl
  · rw [sinceClear, List.rtakeWhile_concat_pos _ _ _ (by simpa using hclear), if_neg hclear,
      List.filterMap_append]
    cases h : added? (call, answer) <;> simp [h, sinceClear]

/-- What is held is what the calls have added since the buffer was last emptied. -/
theorem Sound.particles_after (h : b.Sound) (hempty : b.particles = #[]) (calls : List Call) :
    (b.after calls).particles.toList = sinceClear (b.log calls) := by
  induction calls using List.reverseRecOn with
  | nil => rw [ParticleBuffer.after, List.foldl_nil, hempty, log]; rfl
  | append_singleton calls call ih =>
    obtain ⟨hnow, -⟩ := h.after calls
    rw [after_concat, log_concat, sinceClear_concat, ← ih, hnow.respond_eq]
    cases call with
    | add p => split <;> simp [Call.onto, added?]
    | grow amount | atLeast minimum => split <;> simp [Call.onto, added?]
    | clear => simp [Call.onto, asked, hnow.fits]

/-! The calls with all arithmetic checked: it is given up where a difference is below zero or a sum
too large for a size. Reserving refuses such a sum. -/
namespace Checked

def sub? (m n : Nat) : Option Nat := if n ≤ m then some (m - n) else none

def add? (m n : Nat) : Option Nat := if m + n ≤ Memory.sizeLimit then some (m + n) else none

def reserve (b : ParticleBuffer) (more : Nat) : Option (Except Failure ParticleBuffer) :=
  (sub? b.capacity b.size).map fun spare =>
    if more ≤ spare then .ok b
    else
      match add? b.size more with
      | none => .error ⟨.capacity, none⟩
      | some all =>
        if Memory.Fits slotWidth all then .ok { b with capacity := all }
        else .error ⟨.capacity, none⟩

def grow (b : ParticleBuffer) (amount : Nat) : Option (Except Failure ParticleBuffer) :=
  (sub? b.capacity b.size).bind fun spare => reserve b (Memory.clampedAdd spare amount)

def atLeast (b : ParticleBuffer) (minimum : Nat) : Option (Except Failure ParticleBuffer) :=
  if b.capacity < minimum then (sub? minimum b.capacity).bind (grow b) else some (.ok b)

def push (b : ParticleBuffer) (p : Particle) : Option ParticleBuffer :=
  (add? b.size 1).map fun _ => { b with particles := b.particles.push p }

def add (b : ParticleBuffer) (p : Particle) : Option (Except Failure Unit × ParticleBuffer) :=
  match if b.size = b.capacity then grow b b.increment else some (.ok b) with
  | none => none
  | some (.error f) => some (.error f, b)
  | some (.ok grown) => (push grown p).map fun full => (.ok (), full)

def respond (b : ParticleBuffer) : Call → Option (Except Failure Unit × ParticleBuffer)
  | .add p => add b p
  | .grow amount => (grow b amount).map b.orKeep
  | .atLeast minimum => (atLeast b minimum).map b.orKeep
  | .clear => some (.ok (), b.clear)

end Checked

theorem Sound.checked_reserve (h : b.Sound) (more : Nat) :
    Checked.reserve b more = some (b.reserve more) := by
  rw [Checked.reserve, Checked.sub?, if_pos h.size_le, Option.map_some, reserve, Checked.add?]
  by_cases hsum : b.size + more ≤ Memory.sizeLimit
  · rw [if_pos hsum]
  · rw [if_neg hsum, if_neg (not_fits_of_le (Nat.le_of_not_le hsum))]

theorem Sound.checked_grow (h : b.Sound) (amount : Nat) :
    Checked.grow b amount = some (b.grow amount) := by
  rw [Checked.grow, Checked.sub?, if_pos h.size_le, Option.bind_some, h.checked_reserve, grow]

theorem Sound.checked_atLeast (h : b.Sound) (minimum : Nat) :
    Checked.atLeast b minimum = some (b.atLeast minimum) := by
  rw [Checked.atLeast, atLeast]
  split
  · next hmore => rw [Checked.sub?, if_pos (Nat.le_of_lt hmore), Option.bind_some, h.checked_grow]
  · rfl

theorem checked_push (h : b.size < Memory.sizeLimit) (p : Particle) :
    Checked.push b p = some { b with particles := b.particles.push p } := by
  rw [Checked.push, Checked.add?, if_pos (Nat.succ_le_of_lt h), Option.map_some]

theorem Sound.checked_add (h : b.Sound) (p : Particle) : Checked.add b p = some (b.add p) := by
  have hlt : b.size < Memory.sizeLimit := Nat.lt_of_le_of_lt h.size_le h.capacity_lt
  rw [Checked.add, add]
  by_cases hfull : b.size = b.capacity
  · rw [if_pos hfull, if_pos hfull, h.checked_grow, h.grow_eq]
    by_cases hfits : Memory.Fits slotWidth (b.capacity + b.increment)
    · have hgrown :
          ({ b with capacity := b.capacity + b.increment } : ParticleBuffer).size <
            Memory.sizeLimit := hlt
      simp only [if_pos hfits, checked_push hgrown, Option.map_some]
    · simp only [if_neg hfits]
  · simp only [if_neg hfull, checked_push hlt, Option.map_some]

/-- No call on a sound buffer does arithmetic that overflows. -/
theorem Sound.checked_respond (h : b.Sound) (call : Call) :
    Checked.respond b call = some (b.respond call) := by
  cases call with
  | add p => exact h.checked_add p
  | grow amount => rw [Checked.respond, h.checked_grow, Option.map_some, ParticleBuffer.respond]
  | atLeast minimum =>
    rw [Checked.respond, h.checked_atLeast, Option.map_some, ParticleBuffer.respond]
  | clear => rfl

theorem sound_new {increment : Nat} (hpos : 0 < increment) :
    Sound { increment, increment_pos := hpos } :=
  ⟨Nat.le_refl 0, Nat.zero_le _⟩

/-- Whatever was asked of a buffer since it was new, it holds what was added since it was last
emptied, and has room for all of that. No call takes room away. Each either gets exactly the room
that it asks for, which it does if that fits in one block, or changes nothing; and no sum or
difference on the way is out of range. -/
theorem room_after_calls {increment : Nat} (hpos : 0 < increment) (calls : List Call) :
    ∃ b, withIncrement increment = .ok b ∧
      let now := b.after calls
      now.particles.toList = sinceClear (b.log calls) ∧
      now.size ≤ now.capacity ∧ Memory.Fits slotWidth now.capacity ∧ now.increment = increment ∧
      ∀ call,
        let answer := (now.respond call).1
        let next := (now.respond call).2
        now.capacity ≤ next.capacity ∧
        (answer = .ok () ↔ Memory.Fits slotWidth (now.asked call)) ∧
        (answer = .ok () → next.capacity = now.asked call) ∧
        (∀ f, answer = .error f → f = ⟨.capacity, none⟩ ∧ next = now) ∧
        Checked.respond now call = some (now.respond call) := by
  refine ⟨_, dif_pos hpos, ?_⟩
  intro now
  obtain ⟨hnow, hincrement⟩ := (sound_new hpos).after calls
  refine ⟨(sound_new hpos).particles_after rfl calls, hnow.size_le, hnow.fits, hincrement, ?_⟩
  intro call answer next
  have hrespond : now.respond call = (answer, next) := rfl
  have hle := now.capacity_le_asked call
  have hchecked := hnow.checked_respond call
  rw [hnow.respond_eq] at hrespond
  by_cases hfits : Memory.Fits slotWidth (now.asked call)
  · rw [if_pos hfits] at hrespond
    obtain ⟨hanswer, hnext⟩ := Prod.mk.inj hrespond
    rw [← hanswer, ← hnext]
    exact ⟨hle, iff_of_true rfl hfits, fun _ => rfl, nofun, hchecked⟩
  · rw [if_neg hfits] at hrespond
    obtain ⟨hanswer, hnext⟩ := Prod.mk.inj hrespond
    rw [← hanswer, ← hnext]
    refine ⟨Nat.le_refl _, iff_of_false nofun hfits, nofun, ?_, hchecked⟩
    rintro f ⟨⟩
    exact ⟨rfl, rfl⟩

/-- Room for ten is asked for when four have been given. Far more is refused, and all that is held
is what came after the buffer was emptied. -/
theorem room_after_calls_refused :
    let calls : List Call :=
      [.add .endOfLine, .atLeast 10, .grow Memory.sizeLimit, .clear, .add .beginNest, .add .endNest]
    ∃ b, withIncrement 4 = .ok b ∧
      let now := b.after calls
      now.particles.toList = [.beginNest, .endNest] ∧ now.capacity = 10 ∧
      (now.respond (.grow 3)).2.capacity = 13 ∧
      Checked.respond now (.grow Memory.sizeLimit) = some (.error ⟨.capacity, none⟩, now) := by
  intro calls
  obtain ⟨b, hstart, hheld, -, -, -, hcalls⟩ := room_after_calls (show 0 < 4 by decide) calls
  refine ⟨b, hstart, ?_⟩
  have hlog : sinceClear (b.log calls) = [.beginNest, .endNest] := by
    cases hstart
    decide +kernel
  have hten : (b.after calls).capacity = 10 := by
    cases hstart
    decide +kernel
  obtain ⟨-, hfits, hgrown, -, -⟩ := hcalls (.grow 3)
  obtain ⟨-, hlarge, -, hrefused, hchecked⟩ := hcalls (.grow Memory.sizeLimit)
  have hmuch (amount : Nat) : amount ≤ (b.after calls).asked (.grow amount) := Nat.le_add_left _ _
  have hfew : (b.after calls).asked (.grow 3) = 13 := congrArg (· + 3) hten
  have hthirteen : ((b.after calls).respond (.grow 3)).2.capacity = 13 := by
    rw [hgrown (hfits.mpr (by rw [hfew]; decide)), hfew]
  rcases hresponse : (b.after calls).respond (.grow Memory.sizeLimit) with ⟨f | u, next⟩ <;>
    rw [hresponse] at hlarge hrefused hchecked
  · obtain ⟨rfl, hsame⟩ := hrefused f rfl
    dsimp only at hsame
    rw [hsame] at hchecked
    exact ⟨hheld.trans hlog, hten, hthirteen, hchecked⟩
  · exact absurd (hlarge.mp rfl) (not_fits_of_le (hmuch _))

end TableTalk.ParticleBuffer
