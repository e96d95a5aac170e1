import TableTalk.Failure
import TableTalk.Memory
import TableTalk.Particle.Basic

/-! Particle buffers: they grow by a fixed number of slots, and keep their room when emptied. -/
namespace TableTalk

structure ParticleBuffer where
  particles : Array Particle := #[]
  capacity : Nat := 0
  increment : Nat
  increment_pos : 0 < increment
  deriving DecidableEq

namespace ParticleBuffer

def defaultIncrement : Nat := 64

/-- The bytes of one slot. -/
def slotWidth : Nat := 64

def empty : ParticleBuffer := { increment := defaultIncrement, increment_pos := by decide }

def withIncrement (increment : Nat) : Except Breach ParticleBuffer :=
  if h : 0 < increment then .ok { increment, increment_pos := h } else .error .zeroIncrement

def size (b : ParticleBuffer) : Nat := b.particles.size

/-- Makes room for exactly `more` particles besides those held, if there is less. -/
def reserve (b : ParticleBuffer) (more : Nat) : Except Failure ParticleBuffer :=
  if more ≤ b.capacity - b.size then .ok b
  else if Memory.Fits slotWidth (b.size + more) then .ok { b with capacity := b.size + more }
  else .error ⟨.capacity, none⟩

/-- Adds slots to those there are, filled or not. -/
def grow (b : ParticleBuffer) (amount : Nat) : Except Failure ParticleBuffer :=
  b.reserve (Memory.clampedAdd (b.capacity - b.size) amount)

def atLeast (b : ParticleBuffer) (minimum : Nat) : Except Failure ParticleBuffer :=
  if b.capacity < minimum then b.grow (minimum - b.capacity) else .ok b

/-- A full buffer grows first; one that cannot grow stays as it was. -/
def add (b : ParticleBuffer) (p : Particle) : Except Failure Unit × ParticleBuffer :=
  match if b.size = b.capacity then b.grow b.increment else .ok b with
  | .error f => (.error f, b)
  | .ok b => (.ok (), { b with particles := b.particles.push p })

def clear (b : ParticleBuffer) : ParticleBuffer := { b with particles := #[] }

def get? (b : ParticleBuffer) (i : Nat) : Option Particle := b.particles[i]?

def get (b : ParticleBuffer) (i : Nat) : Except Breach Particle :=
  match b.particles[i]? with
  | some p => .ok p
  | none => .error (.indexOutOfBounds b.size i)

end ParticleBuffer
end TableTalk
