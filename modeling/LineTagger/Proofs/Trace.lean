import LineTagger.Event

/-!
What of the events of a run a property is about: the operations and calls among them, the stages, the
bytes that are sent.
-/

namespace LineTagger

namespace Event

/-- Whether an event is an operation on a socket or a call of the classifier. -/
def isAct : Event → Bool
  | .socket .. | .classify .. => true
  | _ => false

/-- The stage that a connection enters. -/
def stage? : Event → Option Stage
  | .stage _ s => some s
  | _ => none

/-- Whether an event is a call of the classifier. -/
def isCall : Event → Bool
  | .classify .. => true
  | _ => false

/-- The bytes that an event sends on one socket. -/
def sentOn (id : Nat) : Event → Bytes
  | .socket i (.send bs) => if i = id then bs else []
  | _ => []

/-- The operation of an event on a socket, with the number of the socket. -/
def socketOp? : Event → Option (Nat × SocketOp)
  | .socket i op => some (i, op)
  | _ => none

/-- The operation of an event on a listening socket, with the number of the socket. -/
def listenerOp? : Event → Option (Nat × ListenerOp)
  | .listener n op => some (n, op)
  | _ => none

end Event

/-- The bytes that an operation sends. -/
def SocketOp.sent : SocketOp → Bytes
  | .send bs => bs
  | _ => []

def SocketOp.isClose : SocketOp → Bool
  | .close => true
  | _ => false

namespace ListenerOp

/-- Whether an operation is a wait for a client. -/
def isWait : ListenerOp → Bool
  | .accept | .acceptEnd => true
  | _ => false

def isCreate : ListenerOp → Bool
  | .create => true
  | _ => false

def isClose : ListenerOp → Bool
  | .close => true
  | _ => false

/-- Whether an operation is one of those that make a new socket a listening one. -/
def isSetup : ListenerOp → Bool
  | .setReuse | .bind .. | .listen _ | .setTimeout _ => true
  | _ => false

end ListenerOp

/-- The operations on sockets and the calls of the classifier among events. -/
def acts (es : List Event) : List Event := es.filter Event.isAct

def stages (es : List Event) : List Stage := es.filterMap Event.stage?

def calls (es : List Event) : List Event := es.filter Event.isCall

def sentOn (id : Nat) (es : List Event) : Bytes := es.flatMap (Event.sentOn id)

/-- The operations on sockets among events, each with the number of its socket. -/
def sockets (es : List Event) : List (Nat × SocketOp) := es.filterMap Event.socketOp?

/-- The operations on one socket among events. -/
def opsOn (id : Nat) (es : List Event) : List SocketOp :=
  (sockets es).filterMap fun x => if x.1 = id then some x.2 else none

/-- How often one socket is closed among events. -/
def closesOn (id : Nat) (es : List Event) : Nat := (opsOn id es).countP SocketOp.isClose

/-- The operations on listening sockets among events, each with the number of its socket. -/
def listenings (es : List Event) : List (Nat × ListenerOp) := es.filterMap Event.listenerOp?

/-- How often a client was waited for among events. -/
def waits (es : List Event) : Nat := (listenings es).countP fun x => x.2.isWait

/-- How often operations of some kind were done on one listening socket. -/
def tally (p : ListenerOp → Bool) (n : Nat) (ops : List (Nat × ListenerOp)) : Nat :=
  ops.countP fun x => decide (x.1 = n) && p x.2

/-- How often a listening socket was asked for under one number among events. -/
def creations (n : Nat) (es : List Event) : Nat := tally ListenerOp.isCreate n (listenings es)

/-- How often one listening socket was closed among events. -/
def closings (n : Nat) (es : List Event) : Nat := tally ListenerOp.isClose n (listenings es)

theorem acts_append (es fs : List Event) : acts (es ++ fs) = acts es ++ acts fs :=
  List.filter_append es fs

theorem stages_append (es fs : List Event) : stages (es ++ fs) = stages es ++ stages fs :=
  List.filterMap_append

theorem acts_replicate {e : Event} (h : e.isAct = true) (k : Nat) :
    acts (List.replicate k e) = List.replicate k e := by
  rw [acts, List.filter_replicate, if_pos h]

theorem stages_replicate {e : Event} (h : e.stage? = none) (k : Nat) :
    stages (List.replicate k e) = [] := by
  rw [stages, List.filterMap_replicate_of_none h]

theorem calls_acts (es : List Event) : calls (acts es) = calls es := by
  rw [calls, acts, List.filter_filter]
  congr 1
  funext e
  cases e <;> rfl

/-- What operations and calls alone contribute can be collected from them. -/
theorem flatMap_acts {f : Event → Bytes} (h : ∀ e, e.isAct = false → f e = []) (es : List Event) :
    (acts es).flatMap f = es.flatMap f := by
  induction es with
  | nil => rfl
  | cons e es ih =>
    cases he : e.isAct with
    | true => rw [acts, List.filter_cons_of_pos he, List.flatMap_cons, List.flatMap_cons, ← acts, ih]
    | false =>
      rw [acts, List.filter_cons_of_neg (by simp [he]), List.flatMap_cons, h e he, ← acts, ih]
      rfl

theorem sentOn_acts (id : Nat) (es : List Event) : sentOn id (acts es) = sentOn id es := by
  apply flatMap_acts
  intro e he
  cases e <;> first | rfl | simp [Event.isAct] at he

theorem sockets_append (es fs : List Event) : sockets (es ++ fs) = sockets es ++ sockets fs :=
  List.filterMap_append

theorem listenings_append (es fs : List Event) :
    listenings (es ++ fs) = listenings es ++ listenings fs :=
  List.filterMap_append

theorem waits_append (es fs : List Event) : waits (es ++ fs) = waits es + waits fs := by
  rw [waits, listenings_append, List.countP_append]
  rfl

theorem tally_cons (p : ListenerOp → Bool) (n k : Nat) (op : ListenerOp)
    (ops : List (Nat × ListenerOp)) :
    tally p n ((k, op) :: ops) = (if k = n ∧ p op = true then 1 else 0) + tally p n ops := by
  simp [tally, List.countP_cons, Nat.add_comm]

theorem tally_append (p : ListenerOp → Bool) (n : Nat) (ops more : List (Nat × ListenerOp)) :
    tally p n (ops ++ more) = tally p n ops + tally p n more :=
  List.countP_append

theorem creations_append (n : Nat) (es fs : List Event) :
    creations n (es ++ fs) = creations n es + creations n fs := by
  rw [creations, listenings_append, tally_append]
  rfl

theorem closings_append (n : Nat) (es fs : List Event) :
    closings n (es ++ fs) = closings n es + closings n fs := by
  rw [closings, listenings_append, tally_append]
  rfl

theorem tally_eq_zero {p q : ListenerOp → Bool} {ops : List (Nat × ListenerOp)}
    (h : ∀ x ∈ ops, q x.2 = true) (hq : ∀ op, q op = true → p op = false) (n : Nat) :
    tally p n ops = 0 := by
  rw [tally, List.countP_eq_zero]
  intro x hx
  simp [hq _ (h x hx)]

theorem opsOn_append (id : Nat) (es fs : List Event) :
    opsOn id (es ++ fs) = opsOn id es ++ opsOn id fs := by
  rw [opsOn, sockets_append, List.filterMap_append]
  rfl

theorem closesOn_append (id : Nat) (es fs : List Event) :
    closesOn id (es ++ fs) = closesOn id es + closesOn id fs := by
  rw [closesOn, opsOn_append, List.countP_append]
  rfl

theorem opsOn_congr {es fs : List Event} (h : sockets es = sockets fs) (id : Nat) :
    opsOn id es = opsOn id fs := by
  rw [opsOn, h, opsOn]

theorem opsOn_of_quiet {es : List Event} (h : sockets es = []) (id : Nat) : opsOn id es = [] := by
  rw [opsOn, h, List.filterMap_nil]

/-- Operations that are all on one socket. -/
theorem opsOn_of_sockets {es : List Event} {i : Nat} {ops : List SocketOp}
    (h : sockets es = ops.map (Prod.mk i)) (id : Nat) : opsOn id es = if i = id then ops else [] := by
  have hown : (fun x : Nat × SocketOp => if x.1 = id then some x.2 else none) ∘ Prod.mk i =
      fun op => if i = id then some op else none := rfl
  rw [opsOn, h, List.filterMap_map, hown]
  by_cases hid : i = id <;> simp [hid]

theorem sentOn_eq (id : Nat) (es : List Event) : sentOn id es = (opsOn id es).flatMap SocketOp.sent := by
  induction es with
  | nil => rfl
  | cons e es ih =>
    rw [← List.singleton_append, opsOn_append, List.flatMap_append, ← ih]
    suffices h : Event.sentOn id e = (opsOn id [e]).flatMap SocketOp.sent from
      congrArg (· ++ sentOn id es) h
    cases e with
    | socket i op =>
      have hsockets : sockets [.socket i op] = [op].map (Prod.mk i) := rfl
      rw [opsOn_of_sockets hsockets]
      by_cases hid : i = id <;> cases op <;> simp [Event.sentOn, SocketOp.sent, hid]
    | _ => rfl

end LineTagger
