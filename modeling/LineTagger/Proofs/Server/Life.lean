import LineTagger.Proofs.Reception.Visits
import LineTagger.Server

/-!
What becomes of a server: it starts to listen, serves clients, is asked to stop, and gates open at any
time, in any order. The life of a server is a history of its accept loop.
-/

namespace LineTagger

variable {σ τ : Type}

theorem Run.sockets_bind {α β : Type} {r : Run α} {f : α → Run β} (h : sockets r.events = [])
    (hnext : ∀ a, sockets (f a).events = []) : sockets (r >>= f).events = [] := by
  obtain ⟨es, result⟩ := r
  cases result with
  | error e => exact h
  | ok a => exact (sockets_append es _).trans (by rw [h, hnext a, List.nil_append])

namespace Listener

theorem sockets_act (n : Nat) (op : ListenerOp) (f : Option Fault) :
    sockets (act n op f).events = [] := by
  cases f <;> rfl

theorem sockets_prepare (l : Listener) (n : Nat) : sockets (l.prepare n).events = [] :=
  Run.sockets_bind (sockets_act ..) fun _ => Run.sockets_bind (sockets_act ..) fun _ =>
    Run.sockets_bind (sockets_act ..) fun _ => sockets_act ..

theorem sockets_giveUp (l : Listener) (n : Nat) (f : Fault) : sockets (l.giveUp n f).events = [] := by
  unfold giveUp
  split
  · exact Run.sockets_bind (sockets_act ..) fun _ => Run.sockets_bind rfl fun _ => rfl
  · rfl

theorem sockets_make (l : Listener) (n : Nat) : sockets (l.make n).events = [] := by
  refine Run.sockets_bind (r := (act n .create (l.faults n).create).attempt) (sockets_act ..) ?_
  rintro (f | _)
  · rfl
  · refine Run.sockets_bind (r := (l.prepare n).attempt) (sockets_prepare l n) ?_
    rintro (f | _)
    · exact sockets_giveUp l n f
    · rfl

theorem sockets_findAddress (l : Listener) (n : Nat) : sockets (l.findAddress n).events = [] := by
  unfold findAddress
  cases (l.faults n).name <;> rfl

theorem sockets_bind (l : Listener) : sockets l.bind.1.events = [] := by
  have hmake := sockets_make l l.attempts
  unfold bind
  split
  · rfl
  · dsimp only
    split
    · exact hmake
    · exact (sockets_append _ _).trans (by rw [hmake, sockets_findAddress, List.nil_append])

theorem sockets_cleanup (l : Listener) : sockets l.cleanup.1.events = [] := by
  have hclosed : sockets l.restoreSignals.closeHeld.events = [] := by
    unfold closeHeld
    split
    · rfl
    · exact sockets_act ..
  unfold cleanup
  dsimp only
  split
  · exact (sockets_append _ _).trans (by rw [hclosed]; rfl)
  · split
    · exact (sockets_append _ _).trans (by rw [hclosed]; rfl)
    · exact hclosed

end Listener

namespace Reception

variable {h : Host σ τ} {r₀ r : Reception τ} {es : List Event} {vs : List (Reception τ × Visit σ)}

/-- The visits that are taken while a listener serves. -/
def served (h : Host σ τ) (r : Reception τ) (onMain : Bool) (visits : List (Visit σ)) :
    List (Reception τ × Visit σ) :=
  match r.listener.bind.1.result with
  | .error _ => []
  | .ok _ =>
    taken h { r with listener := { r.listener.bind.2.catchSignals onMain with ready := true } } visits

theorem History.cleanup (past : History h r₀ es vs r) :
    History h r₀ (es ++ r.listener.cleanup.1.events) vs { r with listener := r.listener.cleanup.2 } :=
  past.apart (Listener.sockets_cleanup r.listener) r.listener.cleanup.2

theorem History.serve (past : History h r₀ es vs r) (onMain : Bool) (visits : List (Visit σ)) :
    History h r₀ (es ++ (serve h r onMain visits).events) (vs ++ served h r onMain visits)
      (serve h r onMain visits).reception := by
  have hbinding := Listener.sockets_bind r.listener
  rw [Reception.serve, served]
  generalize r.listener.bind = bound at hbinding ⊢
  obtain ⟨⟨binding, result⟩, l⟩ := bound
  cases result with
  | error f =>
    rw [List.append_nil]
    exact past.apart hbinding l
  | ok a =>
    have hbody := (past.apart hbinding { l.catchSignals onMain with ready := true }).loop visits
    have hending := hbody.cleanup
    simp only [List.append_assoc] at hending ⊢
    exact hending

end Reception

namespace Server

variable [Peer σ]

inductive Act (σ : Type) where
  | start
  | run (onMain : Bool) (visits : List (Visit σ))
  | shutdown
  | release (gate : String)

/-- What a server has shown so far, the visits it has taken, and what it has become. -/
structure Life (σ : Type) where
  events : List Event
  visits : List (Reception (Workers (Pending σ)) × Visit σ)
  server : Server σ

/-- The visits that a server takes when something is done with it. -/
def takes (s : Server σ) : Act σ → List (Reception (Workers (Pending σ)) × Visit σ)
  | .start | .shutdown => []
  | .release gate => [(s.reception, .release gate)]
  | .run onMain visits =>
    match s.start.1.result with
    | .error _ => []
    | .ok _ => Reception.served s.host s.start.2.reception onMain visits

/-- What a server shows when something is done with it, and what becomes of it. -/
def perform (s : Server σ) : Act σ → List Event × Server σ
  | .start => (s.start.1.events, s.start.2)
  | .run onMain visits => ((s.run onMain visits).1.events, (s.run onMain visits).2.1)
  | .shutdown => ([], s.shutdown)
  | .release gate => s.release gate

def Life.next (l : Life σ) (a : Act σ) : Life σ where
  events := l.events ++ (l.server.perform a).1
  visits := l.visits ++ l.server.takes a
  server := (l.server.perform a).2

/-- The life of a server with which things are done one after another. -/
def live (s : Server σ) (acts : List (Act σ)) : Life σ := acts.foldl Life.next ⟨[], [], s⟩

/-- The clients that were handed over, in their order. -/
def Life.clients (l : Life σ) : List (Reception.Call σ (Workers (Pending σ))) :=
  l.visits.filterMap Reception.call?

/-- A server with which nothing was done yet. Its listener may meet any faults, and any starts of
threads may fail. -/
structure Fresh (s : Server σ) : Prop where
  capacity : s.reception.state.capacity = { limit := s.settings.maxSessions }
  waiting : s.reception.state.waiting = []

omit [Peer σ] in
theorem fresh_ofUsable (settings : Settings) (classifier : Classifier) (channel : String)
    (now : Double) : (ofUsable (σ := σ) settings classifier channel now).Fresh := ⟨rfl, rfl⟩

/-- The life of a server is a history of its accept loop, and what it makes of a client is settled. -/
structure Lived (s : Server σ) (l : Life σ) : Prop where
  history : Reception.History s.host s.reception l.events l.visits l.server.reception
  host : l.server.host = s.host

variable {s : Server σ} {l : Life σ}

theorem Lived.next (h : Lived s l) (a : Act σ) : Lived s (l.next a) := by
  obtain ⟨past, hhost⟩ := h
  have hbinding := Listener.sockets_bind l.server.reception.listener
  cases a with
  | start =>
    refine ⟨?_, hhost⟩
    rw [Life.next, takes, List.append_nil]
    exact past.apart hbinding _
  | shutdown =>
    refine ⟨?_, hhost⟩
    rw [Life.next, takes, List.append_nil]
    exact past.apart rfl _
  | release gate =>
    refine ⟨?_, hhost⟩
    exact past.visit (.release gate)
  | run onMain visits =>
    rw [Life.next, takes, perform, Server.run, Server.start]
    generalize l.server.reception.listener.bind = bound at hbinding ⊢
    obtain ⟨⟨binding, result⟩, listener⟩ := bound
    cases result with
    | error f =>
      refine ⟨?_, hhost⟩
      rw [List.append_nil]
      exact past.apart hbinding listener
    | ok a =>
      refine ⟨?_, hhost⟩
      have hready := past.apart hbinding listener
      have hquiet : sockets [l.server.announce a] = [] := rfl
      have hannounced := hready.apart hquiet listener
      have hserved := hannounced.serve onMain visits
      rw [← hhost] at hserved ⊢
      simp only [List.append_assoc] at hserved ⊢
      exact hserved

theorem lived (s : Server σ) (acts : List (Act σ)) : Lived s (s.live acts) := by
  have hstart : Lived s ⟨[], [], s⟩ := ⟨.start, rfl⟩
  rw [live]
  generalize (⟨[], [], s⟩ : Life σ) = l at hstart ⊢
  induction acts generalizing l with
  | nil => exact hstart
  | cons a acts ih => exact ih _ (hstart.next a)

end Server

end LineTagger
