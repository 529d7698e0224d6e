import LineTagger.Listener
import LineTagger.Proofs.Trace

/-!
What a listener does with listening sockets: to bind it may make one, which it keeps when it listens and
closes when the system refuses to let it listen; cleaning up closes the one that it keeps.
-/

namespace LineTagger

/-- What one thing after another does on listening sockets, if each does such things only. -/
theorem Run.forall_listenings_bind {α β : Type} {P : Nat × ListenerOp → Prop} {r : Run α}
    {f : α → Run β} (h : ∀ x ∈ listenings r.events, P x)
    (hnext : ∀ a, ∀ x ∈ listenings (f a).events, P x) : ∀ x ∈ listenings (r >>= f).events, P x := by
  obtain ⟨es, result⟩ := r
  cases result with
  | error e => exact h
  | ok a =>
    intro x hx
    have hparts : x ∈ listenings (es ++ (f a).events) := hx
    rw [listenings_append, List.mem_append] at hparts
    exact hparts.elim (h x) (hnext a x)

namespace ListenerFaults

/-- The fault that keeps a new socket from listening: the first one of the steps to that. -/
def setup? (f : ListenerFaults) : Option Fault :=
  f.setReuse.or (f.bind.or (f.listen.or f.setTimeout))

/-- Whether all that fails is refused by the system. -/
structure AllSystem (f : ListenerFaults) : Prop where
  create : ∀ g ∈ f.create, g.isSystem = true
  setReuse : ∀ g ∈ f.setReuse, g.isSystem = true
  bind : ∀ g ∈ f.bind, g.isSystem = true
  listen : ∀ g ∈ f.listen, g.isSystem = true
  setTimeout : ∀ g ∈ f.setTimeout, g.isSystem = true
  name : ∀ g ∈ f.name, g.isSystem = true
  close : ∀ g ∈ f.close, g.isSystem = true

theorem AllSystem.setup {f : ListenerFaults} (h : f.AllSystem) : ∀ g ∈ f.setup?, g.isSystem = true := by
  intro g hg
  simp only [setup?, Option.mem_def, Option.or_eq_some_iff] at hg
  obtain hg | ⟨-, hg | ⟨-, hg | ⟨-, hg⟩⟩⟩ := hg
  · exact h.setReuse g hg
  · exact h.bind g hg
  · exact h.listen g hg
  · exact h.setTimeout g hg

end ListenerFaults

namespace Listener

theorem act_eq (n : Nat) (op : ListenerOp) (f : Option Fault) :
    act n op f = ⟨[.listener n op], f.elim (.ok ()) .error⟩ := by
  cases f <;> rfl

theorem forall_listenings_act {P : Nat × ListenerOp → Prop} {n : Nat} {op : ListenerOp}
    (h : P (n, op)) (f : Option Fault) : ∀ x ∈ listenings (act n op f).events, P x := by
  rw [act_eq]
  simpa [listenings, Event.listenerOp?] using h

variable (l : Listener) (n : Nat)

theorem result_prepare : (l.prepare n).result = (l.faults n).setup?.elim (.ok ()) .error := by
  simp only [prepare, ListenerFaults.setup?, act_eq]
  cases (l.faults n).setReuse <;> cases (l.faults n).bind <;> cases (l.faults n).listen <;>
    cases (l.faults n).setTimeout <;> rfl

theorem isSetup_of_prepare : ∀ x ∈ listenings (l.prepare n).events, x.2.isSetup = true := by
  have hact {op : ListenerOp} (hop : op.isSetup = true) (f : Option Fault) :
      ∀ x ∈ listenings (act n op f).events, x.2.isSetup = true :=
    forall_listenings_act (P := fun x => x.2.isSetup = true) hop f
  exact Run.forall_listenings_bind (hact rfl _) fun _ =>
    Run.forall_listenings_bind (hact rfl _) fun _ =>
      Run.forall_listenings_bind (hact rfl _) fun _ => hact rfl _

theorem listenings_giveUp {f : Fault} (hcaught : (f.isSystem || f.isOverflow) = true) :
    listenings (l.giveUp n f).events = [(n, .close)] ∧
      (l.giveUp n f).result = .error ((l.faults n).close.getD (l.bindFault f)) := by
  rw [giveUp, if_pos hcaught, act_eq]
  cases (l.faults n).close <;> exact ⟨rfl, rfl⟩

/-- What can become of making a listening socket: the operations on listening sockets, and what comes
out. -/
inductive Makes : List (Nat × ListenerOp) → Except Fault Unit → Prop where
  | uncreated {f : Fault} (hf : (l.faults n).create = some f) :
      Makes [(n, .create)] (.error (if f.isSystem then l.bindFault f else f))
  /-- the new socket is not to listen, and is closed -/
  | givenUp {f : Fault} {ops : List (Nat × ListenerOp)} (hcreate : (l.faults n).create = none)
      (hf : (l.faults n).setup? = some f) (hcaught : (f.isSystem || f.isOverflow) = true)
      (hops : ∀ x ∈ ops, x.2.isSetup = true) :
      Makes ((n, .create) :: ops ++ [(n, .close)])
        (.error ((l.faults n).close.getD (l.bindFault f)))
  /-- a fault of another kind leaves the new socket as it is -/
  | leftOpen {f : Fault} {ops : List (Nat × ListenerOp)} (hcreate : (l.faults n).create = none)
      (hf : (l.faults n).setup? = some f) (hcaught : (f.isSystem || f.isOverflow) = false)
      (hops : ∀ x ∈ ops, x.2.isSetup = true) : Makes ((n, .create) :: ops) (.error f)
  | listening {ops : List (Nat × ListenerOp)} (hcreate : (l.faults n).create = none)
      (hnone : (l.faults n).setup? = none) (hops : ∀ x ∈ ops, x.2.isSetup = true) :
      Makes ((n, .create) :: ops) (.ok ())

theorem makes : l.Makes n (listenings (l.make n).events) (l.make n).result := by
  have hresult := l.result_prepare n
  have hops := l.isSetup_of_prepare n
  simp only [make, act_eq, Run.attempt_bind]
  cases hcreate : (l.faults n).create with
  | some f => exact .uncreated hcreate
  | none =>
    simp only [Option.elim_none]
    generalize l.prepare n = prepared at hresult hops ⊢
    obtain ⟨es, result⟩ := prepared
    obtain rfl : result = _ := hresult
    cases hsetup : (l.faults n).setup? with
    | none =>
      have hshown := Makes.listening hcreate hsetup hops
      simpa [listenings, Event.listenerOp?] using hshown
    | some f =>
      cases hcaught : f.isSystem || f.isOverflow with
      | true =>
        have hshown := Makes.givenUp hcreate hsetup hcaught hops
        obtain ⟨hclose, hfault⟩ := l.listenings_giveUp n hcaught
        rw [← hclose, ← hfault] at hshown
        simpa [listenings, Event.listenerOp?] using hshown
      | false =>
        have hshown := Makes.leftOpen hcreate hsetup hcaught hops
        simpa [listenings, Event.listenerOp?, giveUp, hcaught, Run.fail] using hshown

theorem tally_setup {ops : List (Nat × ListenerOp)} (h : ∀ x ∈ ops, x.2.isSetup = true) (n : Nat) :
    tally ListenerOp.isCreate n ops = 0 ∧ tally ListenerOp.isClose n ops = 0 :=
  ⟨tally_eq_zero h (by rintro (_ | _) <;> simp [ListenerOp.isSetup, ListenerOp.isCreate]) n,
    tally_eq_zero h (by rintro (_ | _) <;> simp [ListenerOp.isSetup, ListenerOp.isClose]) n⟩

/-- Making a listening socket asks for one, and closes it again when it is not to listen. -/
theorem Makes.tally_eq {l : Listener} {n : Nat} {ops : List (Nat × ListenerOp)}
    {result : Except Fault Unit}
    (h : l.Makes n ops result)
    (hcaught : ∀ g ∈ (l.faults n).setup?, (g.isSystem || g.isOverflow) = true) (k : Nat) :
    tally ListenerOp.isCreate k ops = (if n = k then 1 else 0) ∧
      tally ListenerOp.isClose k ops =
        if n = k ∧ (l.faults n).create = none ∧ result.isOk = false then 1 else 0 := by
  have hnil (p : ListenerOp → Bool) : tally p k [] = 0 := rfl
  cases h with
  | uncreated hf => simp [tally_cons, hnil, hf, ListenerOp.isCreate, ListenerOp.isClose]
  | givenUp hcreate hf _ hops =>
    obtain ⟨hcreates, hcloses⟩ := tally_setup hops k
    simp [tally_cons, tally_append, hnil, hcreates, hcloses, hcreate, ListenerOp.isCreate,
      ListenerOp.isClose, Except.isOk, Except.toBool]
  | leftOpen hcreate hf huncaught hops =>
    rw [hcaught _ hf] at huncaught
    cases huncaught
  | listening hcreate hnone hops =>
    obtain ⟨hcreates, hcloses⟩ := tally_setup hops k
    simp [tally_cons, hcreates, hcloses, ListenerOp.isCreate, ListenerOp.isClose, Except.isOk,
      Except.toBool]

/-- What can become of binding: the operations on listening sockets, and the listener after them. -/
inductive Binds : List (Nat × ListenerOp) → Listener → Prop where
  | held {n : Nat} (h : l.held = some n) : Binds [] l
  | unmade {ops : List (Nat × ListenerOp)} {f : Fault} (h : l.held = none)
      (hmakes : l.Makes l.attempts ops (.error f)) :
      Binds ops { l with attempts := l.attempts + 1, held := none }
  | made {ops : List (Nat × ListenerOp)} (h : l.held = none)
      (hmakes : l.Makes l.attempts ops (.ok ())) (bound : Option Address) :
      Binds ops { l with attempts := l.attempts + 1, held := some l.attempts, bound := bound }

theorem binds : l.Binds (listenings l.bind.1.events) l.bind.2 := by
  have hmakes := l.makes l.attempts
  unfold bind
  cases hheld : l.held with
  | some n => exact .held hheld
  | none =>
    dsimp only
    generalize l.make l.attempts = made at hmakes ⊢
    obtain ⟨es, result⟩ := made
    cases result with
    | error f => exact .unmade hheld hmakes
    | ok _ =>
      have hquiet (n : Nat) (l : Listener) : listenings (l.findAddress n).events = [] := by
        unfold findAddress
        cases (l.faults n).name <;> rfl
      dsimp only
      rw [listenings_append, hquiet, List.append_nil]
      split
      · exact .made hheld hmakes _
      · exact .made hheld hmakes l.bound

/-- Cleaning up gives back the signals and closes the listening socket that is kept, if there is one. -/
theorem cleanup_eq (h : ∀ n, (l.faults n).AllSystem) :
    l.cleanup.2 = { l.restoreSignals with held := none, ready := false } ∧
      listenings l.cleanup.1.events = l.held.toList.map fun n => (n, .close) := by
  have hkept : l.restoreSignals.held = l.held := rfl
  simp only [cleanup, closeHeld, hkept]
  cases l.held with
  | none => exact ⟨rfl, rfl⟩
  | some n =>
    simp only [act_eq]
    cases hclose : (l.restoreSignals.faults n).close with
    | none => exact ⟨rfl, rfl⟩
    | some f =>
      have hsystem := (h n).close f hclose
      simp only [Option.elim_some, hsystem, if_true]
      exact ⟨trivial, rfl⟩

end Listener

end LineTagger
