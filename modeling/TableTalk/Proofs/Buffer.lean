import TableTalk.Particle.Buffer

/-! Adding to a buffer: one particle more at the end, or a buffer that stays as it was. Which
of the two depends on what it holds and on its increment; how much room it got earlier makes
no difference. -/
namespace TableTalk.ParticleBuffer

/-- An addition appends, or fails for want of room and changes nothing. -/
theorem add_cases (b : ParticleBuffer) (p : Particle) :
    (∃ capacity, b.add p = (.ok (), { b with particles := b.particles.push p, capacity })) ∨
      b.add p = (.error ⟨.capacity, none⟩, b) := by
  simp only [add, grow, reserve]
  by_cases hfull : b.size = b.capacity
  · simp only [if_pos hfull]
    split
    · next f hf =>
      right
      repeat' split at hf
      all_goals cases hf
      rfl
    · next b' hb =>
      left
      repeat' split at hb
      all_goals cases hb
      · exact ⟨b.capacity, rfl⟩
      · exact ⟨_, rfl⟩
  · simp only [if_neg hfull]
    exact .inl ⟨b.capacity, rfl⟩

theorem add_of_spare {b : ParticleBuffer} (p : Particle) (h : b.size ≠ b.capacity) :
    b.add p = (.ok (), { b with particles := b.particles.push p }) := by
  simp only [add, if_neg h]

theorem add_of_full {b : ParticleBuffer} (p : Particle) (h : b.size = b.capacity)
    (hfits : Memory.Fits slotWidth (b.size + b.increment)) :
    b.add p =
      (.ok (), { b with particles := b.particles.push p, capacity := b.size + b.increment }) := by
  have hpos := b.increment_pos
  have hmore : Memory.clampedAdd (b.capacity - b.size) b.increment = b.increment := by
    simp only [Memory.Fits, Memory.blockLimit, slotWidth] at hfits
    simp only [Memory.clampedAdd, Memory.sizeLimit]
    omega
  have hgrow : b.grow b.increment = .ok { b with capacity := b.size + b.increment } := by
    rw [grow, hmore, reserve, if_neg (by omega), if_pos hfits]
  simp only [add, if_pos h, hgrow]

/-- There is room for `n` more particles, whatever they are. -/
def Takes : Nat → ParticleBuffer → Prop
  | 0, _ => True
  | n + 1, b => ∀ p, (b.add p).1 = .ok () ∧ Takes n (b.add p).2

theorem Takes.of_le {m n : Nat} {b : ParticleBuffer} (h : Takes n b) (hmn : m ≤ n) : Takes m b := by
  induction m generalizing n b with
  | zero => trivial
  | succ m ih =>
    obtain ⟨k, rfl⟩ : ∃ k, n = k + 1 := ⟨n - 1, by omega⟩
    intro p
    exact ⟨(h p).1, ih (h p).2 (by omega)⟩

/-- A buffer takes as many particles as one block has slots for, growth included. -/
theorem takes_of_fits {n : Nat} {b : ParticleBuffer} (hsize : b.size ≤ b.capacity)
    (hfits : Memory.Fits slotWidth (b.size + n + b.increment)) : Takes n b := by
  induction n generalizing b with
  | zero => trivial
  | succ n ih =>
    intro p
    by_cases hfull : b.size = b.capacity
    · have hone : Memory.Fits slotWidth (b.size + b.increment) := by
        refine Nat.le_trans (Nat.mul_le_mul_left _ ?_) hfits
        omega
      rw [add_of_full p hfull hone]
      refine ⟨rfl, ih ?_ ?_⟩
      · have hpos := b.increment_pos
        simp only [size, Array.size_push]
        omega
      · simp only [size, Array.size_push] at hfits ⊢
        rwa [show b.particles.size + 1 + n = b.particles.size + (n + 1) by omega]
    · rw [add_of_spare p hfull]
      refine ⟨rfl, ih ?_ ?_⟩
      · simp only [size, Array.size_push] at hsize hfull ⊢
        omega
      · simp only [size, Array.size_push] at hfits ⊢
        rwa [show b.particles.size + 1 + n = b.particles.size + (n + 1) by omega]

theorem add_of_stuck {b : ParticleBuffer} (p : Particle) (h : b.size = b.capacity)
    (hfits : ¬Memory.Fits slotWidth (b.size + b.increment)) :
    b.add p = (.error ⟨.capacity, none⟩, b) := by
  have hpos := b.increment_pos
  have hmore : ¬Memory.clampedAdd (b.capacity - b.size) b.increment ≤ b.capacity - b.size := by
    simp only [Memory.clampedAdd, Memory.sizeLimit]
    omega
  have hlarge :
      ¬Memory.Fits slotWidth (b.size + Memory.clampedAdd (b.capacity - b.size) b.increment) := by
    simp only [Memory.Fits, Memory.blockLimit, slotWidth] at hfits
    simp only [Memory.Fits, Memory.blockLimit, slotWidth, Memory.clampedAdd, Memory.sizeLimit]
    omega
  have hgrow : b.grow b.increment = .error ⟨.capacity, none⟩ := by
    rw [grow, reserve, if_neg hmore, if_neg hlarge]
  simp only [add, if_pos h, hgrow]

/-- The room once `n` more particles are held: one increment more each time that all of it
was taken. -/
def roomAfter (b : ParticleBuffer) : Nat → Nat
  | 0 => b.capacity
  | n + 1 => if b.size + n = b.roomAfter n then b.roomAfter n + b.increment else b.roomAfter n

/-- With `n` more particles the buffer is full, and another increment would not fit in one block. -/
def StuckAfter (b : ParticleBuffer) (n : Nat) : Prop :=
  b.size + n = b.roomAfter n ∧ ¬Memory.Fits slotWidth (b.roomAfter n + b.increment)

instance (b : ParticleBuffer) (n : Nat) : Decidable (b.StuckAfter n) :=
  inferInstanceAs (Decidable (_ ∧ _))

/-- With more particles behind those held, in the room that they came to need. -/
def filled (b : ParticleBuffer) (more : List Particle) : ParticleBuffer :=
  { b with particles := (b.particles.toList ++ more).toArray, capacity := b.roomAfter more.length }

theorem filled_nil (b : ParticleBuffer) : b.filled [] = b := by
  simp only [filled, List.append_nil, Array.toArray_toList, List.length_nil, roomAfter]

/-- Whether there is room for the next particle is a matter of how many came before, not
of which. -/
theorem add_filled (b : ParticleBuffer) (more : List Particle) (p : Particle) :
    (b.filled more).add p =
      if b.StuckAfter more.length then (.error ⟨.capacity, none⟩, b.filled more)
      else (.ok (), b.filled (more ++ [p])) := by
  have hsize : (b.filled more).size = b.size + more.length := by
    simp only [size, filled, List.size_toArray, List.length_append, Array.length_toList]
  have hpush :
      (b.filled more).particles.push p = (b.particles.toList ++ (more ++ [p])).toArray := by
    simp only [filled, List.push_toArray, List.append_assoc]
  have hlength : (more ++ [p]).length = more.length + 1 := List.length_append
  by_cases hfull : b.size + more.length = b.roomAfter more.length
  · have hcapacity : (b.filled more).size = (b.filled more).capacity := hsize.trans hfull
    by_cases hfits : Memory.Fits slotWidth (b.roomAfter more.length + b.increment)
    · rw [if_neg fun hstuck => hstuck.2 hfits, add_of_full p hcapacity (by rwa [hcapacity]), hpush,
        hcapacity]
      simp only [filled, hlength, roomAfter, if_pos hfull]
    · rw [if_pos ⟨hfull, hfits⟩, add_of_stuck p hcapacity (by rwa [hcapacity])]
  · have hspare : (b.filled more).size ≠ (b.filled more).capacity := by
      rw [hsize]
      exact hfull
    rw [if_neg fun hstuck => hfull hstuck.1, add_of_spare p hspare, hpush]
    simp only [filled, hlength, roomAfter, if_neg hfull]

/-- The room there is came in whole increments and fits in one block. -/
structure Grown (b : ParticleBuffer) : Prop where
  size_le : b.size ≤ b.capacity
  whole : b.increment ∣ b.capacity
  fits : Memory.Fits slotWidth b.capacity

theorem Grown.clear {b : ParticleBuffer} (h : b.Grown) : b.clear.Grown :=
  ⟨Nat.zero_le _, h.whole, h.fits⟩

/-- With room to spare, one more increment than is held fits too. -/
theorem Grown.fits_of_spare {b : ParticleBuffer} (h : b.Grown) (hspare : b.size ≠ b.capacity)
    (hwhole : b.increment ∣ b.size) : Memory.Fits slotWidth (b.size + b.increment) := by
  have hlt : b.size < b.capacity := Nat.lt_of_le_of_ne h.size_le hspare
  have hstep : b.increment ≤ b.capacity - b.size :=
    Nat.le_of_dvd (Nat.sub_pos_of_lt hlt) (Nat.dvd_sub h.whole hwhole)
  refine Nat.le_trans (Nat.mul_le_mul_left _ ?_) h.fits
  omega

/-- An addition fails if the buffer is at the end of an increment and another one would not fit. -/
theorem Grown.add_eq {b : ParticleBuffer} (h : b.Grown) (p : Particle) :
    (b.add p).1 =
      if b.increment ∣ b.size ∧ ¬Memory.Fits slotWidth (b.size + b.increment) then
        .error ⟨.capacity, none⟩
      else .ok () := by
  by_cases hfull : b.size = b.capacity
  · have hwhole : b.increment ∣ b.size := by
      rw [hfull]
      exact h.whole
    by_cases hfits : Memory.Fits slotWidth (b.size + b.increment)
    · rw [add_of_full p hfull hfits, if_neg fun hstuck => hstuck.2 hfits]
    · rw [add_of_stuck p hfull hfits, if_pos ⟨hwhole, hfits⟩]
  · rw [add_of_spare p hfull, if_neg fun hstuck => hstuck.2 (h.fits_of_spare hfull hstuck.1)]

theorem Grown.add {b : ParticleBuffer} (h : b.Grown) (p : Particle) : (b.add p).2.Grown := by
  have hpos := b.increment_pos
  have hle := h.size_le
  by_cases hfull : b.size = b.capacity
  · by_cases hfits : Memory.Fits slotWidth (b.size + b.increment)
    · rw [add_of_full p hfull hfits]
      refine ⟨?_, ?_, hfits⟩
      · simp only [size, Array.size_push]
        omega
      · show b.increment ∣ b.size + b.increment
        rw [hfull]
        exact Nat.dvd_add h.whole (Nat.dvd_refl _)
    · rw [add_of_stuck p hfull hfits]
      exact h
  · rw [add_of_spare p hfull]
    refine ⟨?_, h.whole, h.fits⟩
    simp only [size, Array.size_push] at hfull hle ⊢
    omega

theorem increment_add (b : ParticleBuffer) (p : Particle) :
    (b.add p).2.increment = b.increment := by
  rcases b.add_cases p with ⟨capacity, h⟩ | h <;> rw [h]

/-- Two buffers that hold the same particles and grow by the same increment, from whatever room. -/
structure Alike (b c : ParticleBuffer) : Prop where
  particles : b.particles = c.particles
  increment : b.increment = c.increment
  left : b.Grown
  right : c.Grown

theorem Alike.add {b c : ParticleBuffer} (h : b.Alike c) (p : Particle) :
    (b.add p).1 = (c.add p).1 ∧ (b.add p).2.Alike (c.add p).2 := by
  have hanswer : (b.add p).1 = (c.add p).1 := by
    rw [h.left.add_eq, h.right.add_eq, size, size, h.particles, h.increment]
  refine ⟨hanswer, ?_, ?_, h.left.add p, h.right.add p⟩
  · rcases b.add_cases p with ⟨_, hb⟩ | hb <;> rcases c.add_cases p with ⟨_, hc⟩ | hc <;>
      rw [hb, hc] at hanswer ⊢
    · simp only [h.particles]
    · cases hanswer
    · cases hanswer
    · exact h.particles
  · rw [increment_add, increment_add, h.increment]

end TableTalk.ParticleBuffer
