import DoubleRatchet.Negotiation
import DoubleRatchet.Proofs.Engine.Sequence

namespace DoubleRatchet

/-!
# Draws

An operation on a trace never looks at the events, never changes the source of
the draws and never gives a draw back.  `Continues` says so of two traces and
counts the draws between them.  A statement about fresh keys needs nothing else
of the operations in between: a pair is told from every other one by the number
of its draw.
-/

/-- A trace goes on from another by a number of draws. -/
structure Trace.Continues (trace : Trace) (draws : Nat) (later : Trace) : Prop where
  entropy_eq : later.entropy = trace.entropy
  drawn_eq : later.drawn = trace.drawn + draws

theorem Trace.Continues.refl (trace : Trace) : trace.Continues 0 trace :=
  ⟨rfl, rfl⟩

theorem Trace.Continues.trans {first second third : Trace} {draws more : Nat}
    (early : first.Continues draws second) (late : second.Continues more third) :
    first.Continues (draws + more) third :=
  ⟨late.entropy_eq.trans early.entropy_eq, by rw [late.drawn_eq, early.drawn_eq]; omega⟩

namespace Traced

variable {α β : Type}

/-- The operation draws nothing, whether it succeeds or not. -/
def Silent (operation : Traced α) : Prop :=
  ∀ trace : Trace, trace.Continues 0 (operation trace).2

theorem Silent.bind {operation : Traced α} {next : α -> Traced β} (first : Silent operation)
    (second : ∀ value, Silent (next value)) : Silent (operation >>= next) := by
  intro trace
  have early := first trace
  rw [sequence_eq]
  rcases outcome : operation trace with ⟨fault | value, later⟩
  · rw [outcome] at early
    exact early
  · rw [outcome] at early
    exact early.trans (second value later)

theorem silent_lift (result : Except Fault α) : Silent (monadLift result) :=
  fun trace => .refl trace

theorem silent_reportAll (events : List Event) :
    Silent (monadLift (Trace.reportAll events)) :=
  fun _ => ⟨rfl, rfl⟩

/-- The operation goes on from its trace by some number of draws. -/
def Advancing (operation : Traced α) : Prop :=
  ∀ trace : Trace, ∃ draws, trace.Continues draws (operation trace).2

theorem Advancing.bind {operation : Traced α} {next : α -> Traced β}
    (first : Advancing operation) (second : ∀ value, Advancing (next value)) :
    Advancing (operation >>= next) := by
  intro trace
  obtain ⟨draws, early⟩ := first trace
  rw [sequence_eq]
  rcases outcome : operation trace with ⟨fault | value, later⟩
  · rw [outcome] at early
    exact ⟨draws, early⟩
  · rw [outcome] at early
    obtain ⟨more, late⟩ := second value later
    exact ⟨draws + more, early.trans late⟩

theorem advancing_lift (result : Except Fault α) : Advancing (monadLift result) :=
  fun trace => ⟨0, .refl trace⟩

theorem advancing_drawing {operation : Drawing α}
    (advancing : ∀ trace : Trace, ∃ draws, trace.Continues draws (operation trace).2) :
    Advancing (monadLift operation) :=
  advancing

end Traced

section Suite

variable [Suite]

/-- The pair that a draw gives. -/
def KeyPair.drawnAt (entropy : Nat -> Octets 32) (place : Nat) : KeyPair :=
  .ofPrivate ⟨entropy place⟩

/-- The pair that the next draw gives. -/
def Trace.nextPair (trace : Trace) : KeyPair :=
  .drawnAt trace.entropy trace.drawn

end Suite

namespace Drawing

variable {α β : Type}

/-- The operation goes on from its trace by some number of draws. -/
def Advancing (operation : Drawing α) : Prop :=
  ∀ trace : Trace, ∃ draws, trace.Continues draws (operation trace).2

theorem Advancing.bind {operation : Drawing α} {next : α -> Drawing β}
    (first : Advancing operation) (second : ∀ value, Advancing (next value)) :
    Advancing (operation >>= next) := by
  intro trace
  obtain ⟨draws, early⟩ := first trace
  obtain ⟨more, late⟩ := second (operation trace).1 (operation trace).2
  exact ⟨draws + more, early.trans late⟩

theorem advancing_pure (value : α) : Advancing (pure value) :=
  fun trace => ⟨0, .refl trace⟩

theorem advancing_draw : Advancing Trace.draw :=
  fun _ => ⟨1, rfl, rfl⟩

theorem advancing_report (event : Event) : Advancing (Trace.report event) :=
  fun _ => ⟨0, rfl, rfl⟩

theorem advancing_reportAll (events : List Event) : Advancing (Trace.reportAll events) :=
  fun _ => ⟨0, rfl, rfl⟩

theorem advancing_drawBelow (range attempts : Nat) :
    Advancing (Trace.drawBelow range attempts) := by
  induction attempts with
  | zero => exact advancing_pure 0
  | succ attempts ih =>
    unfold Trace.drawBelow
    apply advancing_draw.bind
    intro octets
    dsimp only
    split
    · exact advancing_pure _
    · exact ih

theorem advancing_generateSequence : Advancing generateSequence :=
  (advancing_drawBelow _ _).bind fun _ => advancing_pure _

/-- The sequence takes what the choice of a number takes. -/
theorem snd_generateSequence (trace : Trace) :
    (generateSequence trace).2 = (Trace.drawBelow 65534 256 trace).2 := by
  have range : 65534 - 1 + 1 = 65534 := rfl
  unfold generateSequence Trace.drawNumber
  rw [range]
  generalize Trace.drawBelow 65534 256 = below
  rfl

/-- A draw that falls into the zone is the only one. -/
theorem snd_drawBelow_of_kept {range attempts : Nat} {trace : Trace}
    (kept : Bytes.ofLittleEndian ((trace.entropy trace.drawn).toList.take 4) * range % UInt32.size ≤
      (range <<< Trace.leadingZeros range) % UInt32.size - 1) :
    (Trace.drawBelow range (attempts + 1) trace).2 = { trace with drawn := trace.drawn + 1 } := by
  unfold Trace.drawBelow
  change ((if _ then _ else _ : Drawing Nat) _).2 = _
  rw [if_pos kept]
  rfl

theorem advancing_generate [Suite] : Advancing KeyPair.generate :=
  advancing_draw.bind fun _ => advancing_pure _

theorem advancing_symmetric [Suite] (version : UInt8) (keys : Negotiation.ExchangeKeys) :
    Advancing (Negotiation.symmetric version keys) := by
  unfold Negotiation.symmetric
  split
  · apply (advancing_report _).bind
    intro _
    exact advancing_generate.bind fun _ => advancing_pure _
  · exact (advancing_report _).bind fun _ => advancing_pure _

end Drawing
end DoubleRatchet
