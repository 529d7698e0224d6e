import LineTagger.Proofs.Listener.Binding

/-!
Binding as a whole. A listener either gets a listening socket and tells its address, or is left without one
as it was before, the new socket closed. The failure names the host and the port that were asked for, unless
the new socket cannot be closed, or could not be made for a number that is too large: these faults escape.
-/

namespace LineTagger

/-- Whether the system refused an operation. -/
def Fault.isRefusal : Fault → Bool
  | .system .. => true
  | _ => false

namespace ListenerFaults

/-- The first fault that an attempt at a listening socket meets. -/
def first? (f : ListenerFaults) : Option Fault := f.create.or f.setup?

/-- Steps to a listening socket are refused or get a number that is too large, and closing is refused. -/
structure Ordinary (f : ListenerFaults) : Prop where
  create : ∀ g ∈ f.create, (g.isRefusal || g.isOverflow) = true
  setup : ∀ g ∈ f.setup?, (g.isRefusal || g.isOverflow) = true
  close : ∀ g ∈ f.close, g.isRefusal = true
  name : f.name = none

/-- Whether a fault escapes as it is: the socket is not made for a number that is too large, or it is made
and cannot be closed again. -/
def Escapes (f : ListenerFaults) : Prop :=
  (∃ g ∈ f.create, g.isOverflow = true) ∨ f.create = none ∧ f.close ≠ none

theorem isCaught_of_isRefusal {g : Fault} (h : (g.isRefusal || g.isOverflow) = true) :
    (g.isSystem || g.isOverflow) = true := by
  cases g with
  | system | overflow => rfl
  | _ => cases h

theorem ne_bind_of_isRefusal {g : Fault} (h : (g.isRefusal || g.isOverflow) = true) (host port : Value)
    (reason : String) : g ≠ .bind host port reason := by
  rintro rfl
  cases h

end ListenerFaults

namespace Listener

variable {l : Listener} {n : Nat} {ops : List (Nat × ListenerOp)} {result : Except Fault Unit} {g : Fault}

/-- A listening socket is made just when nothing is in the way. -/
theorem Makes.ok_iff (h : l.Makes n ops result) : result = .ok () ↔ (l.faults n).first? = none := by
  cases h with
  | uncreated hf => simp [ListenerFaults.first?, hf]
  | givenUp hcreate hf => simp [ListenerFaults.first?, hcreate, hf]
  | leftOpen hcreate hf => simp [ListenerFaults.first?, hcreate, hf]
  | listening hcreate hnone => simp [ListenerFaults.first?, hcreate, hnone]

/-- What comes of the first fault is the failure to listen with its reason, unless it escapes. -/
theorem Makes.bindFault_iff (h : l.Makes n ops (.error g)) (hordinary : (l.faults n).Ordinary) :
    (∃ cause ∈ (l.faults n).first?, g = .bind l.host l.port cause.message) ↔
      ¬(l.faults n).Escapes := by
  unfold ListenerFaults.first? ListenerFaults.Escapes
  cases h with
  | @uncreated f hf =>
    have hcause := hordinary.create f hf
    cases hsystem : f.isSystem with
    | true =>
      have hsmall : f.isOverflow = false := by
        cases f with
        | overflow => cases hsystem
        | _ => rfl
      simp [hf, hsmall, bindFault]
    | false =>
      have hlarge : f.isOverflow = true := by
        simpa [hsystem] using ListenerFaults.isCaught_of_isRefusal hcause
      have hother := ListenerFaults.ne_bind_of_isRefusal hcause l.host l.port f.message
      simp [hf, hlarge, hother]
  | @givenUp f _ hcreate hf _ _ =>
    cases hclose : (l.faults n).close with
    | none => simp [hcreate, hf, bindFault]
    | some c =>
      have hrefused := hordinary.close c hclose
      have hother := ListenerFaults.ne_bind_of_isRefusal (g := c) (by rw [hrefused, Bool.true_or])
        l.host l.port f.message
      simp [hcreate, hf, hother]
  | leftOpen _ hf huncaught _ =>
    rw [ListenerFaults.isCaught_of_isRefusal (hordinary.setup _ hf)] at huncaught
    cases huncaught

theorem bind_of_held (h : l.held = some n) : l.bind = (pure l.address, l) := by
  unfold bind
  rw [h]

/-- A listener that could not make a listening socket is as it was, but for the number of its attempts. -/
theorem bind_of_error (hheld : l.held = none) (h : (l.make l.attempts).result = .error g) :
    l.bind = (⟨(l.make l.attempts).events, .error g⟩, { l with attempts := l.attempts + 1 }) := by
  unfold bind
  rw [hheld]
  simp only [h]

theorem bind_of_ok (hheld : l.held = none) (h : (l.make l.attempts).result = .ok ())
    (hname : (l.faults l.attempts).name = none) :
    l.bind.1.result = .ok l.name ∧
      l.bind.2 = { l with attempts := l.attempts + 1, held := some l.attempts, bound := some l.name } := by
  have hfound : ({ l with attempts := l.attempts + 1, held := none }.findAddress l.attempts).result =
      .ok l.name := by
    rw [findAddress, hname]
    rfl
  unfold bind
  rw [hheld]
  simp only [h]
  rw [hfound]
  exact ⟨rfl, rfl⟩

theorem bind_of_free (hheld : l.held = none) (h : l.faults l.attempts = {}) :
    l.bind.1.result = .ok l.name := by
  have hmade : (l.make l.attempts).result = .ok () := by
    rw [(l.makes l.attempts).ok_iff, h]
    rfl
  exact (bind_of_ok hheld hmade (by rw [h])).1

/-- Binding tells an address just when there is a listening socket already or nothing is in the way. -/
theorem bind_ok_iff (l : Listener) (hname : (l.faults l.attempts).name = none) :
    (∃ a, l.bind.1.result = .ok a) ↔ l.held ≠ none ∨ (l.faults l.attempts).first? = none := by
  cases hheld : l.held with
  | some n =>
    rw [bind_of_held hheld]
    exact ⟨fun _ => .inl (by simp), fun _ => ⟨l.address, rfl⟩⟩
  | none =>
    have hmade := (l.makes l.attempts).ok_iff
    cases hresult : (l.make l.attempts).result with
    | ok u =>
      obtain rfl : u = () := rfl
      exact ⟨fun _ => .inr (hmade.1 hresult), fun _ => ⟨l.name, (bind_of_ok hheld hresult hname).1⟩⟩
    | error g =>
      rw [bind_of_error hheld hresult]
      constructor
      · rintro ⟨a, ⟨⟩⟩
      · rintro (hne | hnone)
        · exact absurd rfl hne
        · rw [hmade.2 hnone] at hresult
          cases hresult

/-- Binding either tells the address of a listening socket, which is there already or made now, or fails.
Then the new socket was closed once, no other one was, the listener has no listening socket and is as it
was, so that the next attempt makes one; and the failure is that to listen, with the host and the port
that were asked for and the reason, just when no fault escapes as it is. -/
theorem bind_atomic (l : Listener) (h : (l.faults l.attempts).Ordinary) :
    ((∃ a, l.bind.1.result = .ok a) ↔ l.held ≠ none ∨ (l.faults l.attempts).first? = none) ∧
    (∀ a, l.bind.1.result = .ok a → l.bind.2.held ≠ none ∧ l.bind.2.address = a) ∧
    ∀ g, l.bind.1.result = .error g →
      l.held = none ∧ l.bind.2 = { l with attempts := l.attempts + 1 } ∧
      (∀ n, closings n l.bind.1.events =
        if l.attempts = n ∧ (l.faults l.attempts).create = none then 1 else 0) ∧
      (l.faults (l.attempts + 1) = {} → l.bind.2.bind.1.result = .ok l.name) ∧
      ((∃ cause ∈ (l.faults l.attempts).first?, g = .bind l.host l.port cause.message) ↔
        ¬(l.faults l.attempts).Escapes) := by
  refine ⟨bind_ok_iff l h.name, fun a ha => ?_, fun g hg => ?_⟩
  · cases hheld : l.held with
    | some n =>
      rw [bind_of_held hheld] at ha ⊢
      exact ⟨by simp [hheld], Except.ok.inj ha⟩
    | none =>
      cases hresult : (l.make l.attempts).result with
      | ok u =>
        obtain ⟨hname, hafter⟩ := bind_of_ok hheld hresult h.name
        rw [hname] at ha
        rw [hafter]
        exact ⟨by simp, Except.ok.inj ha⟩
      | error g =>
        rw [bind_of_error hheld hresult] at ha
        cases ha
  · have hnone : ¬∃ a, l.bind.1.result = .ok a := by
      rintro ⟨a, ha⟩
      rw [hg] at ha
      cases ha
    rw [bind_ok_iff l h.name, not_or, Decidable.not_not] at hnone
    obtain ⟨hheld, -⟩ := hnone
    have hmakes := l.makes l.attempts
    cases hresult : (l.make l.attempts).result with
    | ok u =>
      rw [(bind_of_ok hheld hresult h.name).1] at hg
      cases hg
    | error g' =>
      have hbind := bind_of_error hheld hresult
      rw [hbind] at hg
      obtain rfl : g' = g := Except.error.inj hg
      rw [hresult] at hmakes
      have hcaught : ∀ f ∈ (l.faults l.attempts).setup?, (f.isSystem || f.isOverflow) = true :=
        fun f hf => ListenerFaults.isCaught_of_isRefusal (h.setup f hf)
      rw [hbind]
      refine ⟨hheld, rfl, fun n => ?_, fun hnext => ?_, hmakes.bindFault_iff h⟩
      · rw [closings, (hmakes.tally_eq hcaught n).2]
        simp [Except.isOk, Except.toBool]
      · exact bind_of_free (l := { l with attempts := l.attempts + 1 }) hheld hnext

/-- A port that is taken, on a listener that was bound to none: the next attempt gets an address. -/
theorem bind_atomic_taken :
    let taken : Fault := .ofNumber 98 "Address already in use"
    let faults : Nat → ListenerFaults
      | 0 => { bind := some taken }
      | _ => {}
    let l : Listener := { Listener.ofSettings { port := .int 9191 } "" with faults }
    (l.faults l.attempts).Ordinary ∧ ¬(l.faults l.attempts).Escapes ∧
      l.bind.1.result = .error (.bind l.host l.port taken.message) ∧ closings 0 l.bind.1.events = 1 ∧
      l.bind.2.held = none ∧ l.bind.2.bind.1.result = .ok l.name := by
  intro taken faults l
  have hordinary : (l.faults l.attempts).Ordinary := by
    constructor <;> simp [l, faults, ListenerFaults.setup?, Listener.ofSettings, taken, Fault.ofNumber,
      Fault.isRefusal]
  have hcontained : ¬(l.faults l.attempts).Escapes := by
    simp [l, faults, ListenerFaults.Escapes, Listener.ofSettings]
  have hresult : l.bind.1.result = .error (.bind l.host l.port taken.message) := rfl
  obtain ⟨-, -, hfailed⟩ := bind_atomic l hordinary
  obtain ⟨hheld, hafter, hclosed, hnext, hcause⟩ := hfailed _ hresult
  refine ⟨hordinary, hcontained, hresult, hclosed 0, ?_, hnext rfl⟩
  rw [hafter]
  exact hheld

/-- A new socket that can neither be bound nor be closed: what escapes is no failure to listen. -/
theorem bind_escapes_close :
    let broken : Fault := .ofNumber 5 "Input/output error"
    let faults : ListenerFaults := { bind := some (.ofNumber 98 "Address already in use"), close := some broken }
    let l : Listener := { Listener.ofSettings { port := .int 9191 } "" with faults := fun _ => faults }
    l.bind.1.result = .error broken ∧ broken.isBind = false := ⟨rfl, rfl⟩

end Listener

end LineTagger
