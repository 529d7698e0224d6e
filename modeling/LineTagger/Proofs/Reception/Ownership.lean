import LineTagger.Proofs.Reception.Visits

/-!
Who closes a client that was accepted. Whoever takes a client over may close it; the loop itself closes
it once if handing it over fails with a fault of the system or of the running program, unless the fault
is a deadline that passed or the listener is to stop by then. It closes no other client.
-/

namespace LineTagger.Reception

variable {σ τ : Type} {h : Host σ τ} {r₀ r : Reception τ} {es : List Event}
  {vs : List (Reception τ × Visit σ)}

/-- Whether the loop closes client `i` when it is the one that is handed over. -/
def Call.closes (h : Host σ τ) (i : Nat) (c : Call σ τ) : Bool :=
  decide (c.socket.id = i) && c.abandons h

theorem closesOn_visit {r : Reception τ} {v : Visit σ} {c : Call σ τ} (hcall : call? (r, v) = some c)
    (i : Nat) : closesOn i (visit h r v).1 =
      closesOn i (foreign h (r, v)) + (c.closes h i).toNat := by
  rw [closesOn, opsOn_visit h hcall, List.countP_append, foreign_of_call h hcall, Call.closes, closesOn]
  by_cases hid : c.socket.id = i <;> cases c.abandons h <;> simp [hid, SocketOp.isClose]

/-- How often a client is closed: as often as others close it, and once for each time that it is
abandoned. -/
theorem History.closesOn_eq (past : History h r₀ es vs r) (i : Nat) :
    closesOn i es = closesOn i (vs.flatMap (foreign h)) +
      (vs.filterMap call?).countP (Call.closes h i) := by
  induction past with
  | start => rfl
  | @apart es fs _ _ _ hquiet _ ih =>
    have hnone : closesOn i fs = 0 := by rw [closesOn, opsOn_of_quiet hquiet, List.countP_nil]
    rw [closesOn_append, ih, hnone, Nat.add_zero]
  | @visit es vs r _ v ih =>
    rw [closesOn_append, ih, List.flatMap_append, closesOn_append, List.filterMap_append,
      List.countP_append, List.flatMap_singleton]
    cases hcall : call? (r, v) with
    | none =>
      rw [closesOn, closesOn, opsOn_visit_of_no_call h hcall, ← closesOn, ← closesOn]
      simp only [List.filterMap_cons, hcall, List.filterMap_nil, List.countP_nil]
      omega
    | some c =>
      rw [closesOn_visit hcall]
      simp only [List.filterMap_cons, hcall, List.filterMap_nil, List.countP_singleton]
      cases c.closes h i <;> simp <;> omega

/-- Of clients with numbers of their own, the loop closes each on its own account only. -/
theorem countP_closes {cs : List (Call σ τ)} (hids : (cs.map fun c => c.socket.id).Nodup)
    {c : Call σ τ} (hc : c ∈ cs) : cs.countP (Call.closes h c.socket.id) = (c.abandons h).toNat := by
  induction cs with
  | nil => cases hc
  | cons d cs ih =>
    rw [List.map_cons, List.nodup_cons] at hids
    rw [List.countP_cons]
    obtain rfl | hrest := List.mem_cons.1 hc
    · have hothers : cs.countP (Call.closes h c.socket.id) = 0 := by
        rw [List.countP_eq_zero]
        intro d hd hcloses
        have hid : d.socket.id = c.socket.id := by simp_all [Call.closes]
        exact hids.1 (List.mem_map.2 ⟨d, hd, hid⟩)
      rw [hothers, Call.closes]
      cases c.abandons h <;> simp
    · have hother : d.socket.id ≠ c.socket.id := fun hid =>
        hids.1 (List.mem_map.2 ⟨c, hrest, hid.symm⟩)
      rw [ih hids.2 hrest, Call.closes]
      simp [hother]

/-- How often a client is closed that a loop hands over: as often as those to whom clients are handed
over close it, and once more just when handing it over failed, with no deadline, while the listener was
to go on. -/
theorem closesOn_loop (h : Host σ τ) (r : Reception τ) (visits : List (Visit σ)) {c : Call σ τ}
    (hc : c ∈ calls h r visits) :
    closesOn c.socket.id (loop h r visits).events =
        closesOn c.socket.id ((taken h r visits).flatMap (foreign h)) + (c.abandons h).toNat ∧
      ((c.handover h).run.result = .ok () → c.abandons h = false) ∧
      ∀ f, (c.handover h).run.result = .error f → (f.isSystem = true ∨ f.isRuntime = true) →
        (c.abandons h = true ↔ f.isTimeout = false ∧ c.stopping h = false) := by
  have hstart : History h r [] [] r := .start
  have past := hstart.loop visits
  rw [List.nil_append, List.nil_append] at past
  have hids : ((calls h r visits).map fun c => c.socket.id).Nodup := by
    rw [calls, past.numbered.1]
    exact List.nodup_range'
  refine ⟨?_, Call.abandons_of_ok, fun f => Call.abandons_iff⟩
  rw [past.closesOn_eq, ← calls, countP_closes hids hc]

/-- A client for which no thread could be started is closed once, by the loop. -/
theorem closesOn_loop_refused :
    let h : Host Script Unit := ⟨fun _ _ _ => ⟨.fail (.runtime []), false, ()⟩, fun _ _ => ([], ())⟩
    let r : Reception Unit := ⟨.ofSettings { port := .int 0 } "", 0, ()⟩
    let client : Visit Script :=
      .arrival none false none (some (⟨0, {}, none, none, none, none⟩, default))
    closesOn 0 (loop h r [client]).events = 1 := by
  intro h r client
  let c : Call Script Unit := ⟨r.listener, (), ⟨0, {}, none, none, none, none⟩, default⟩
  have hc : c ∈ calls h r [client] := List.mem_singleton.2 rfl
  obtain ⟨hcount, -, hiff⟩ := closesOn_loop h r [client] hc
  have habandons : c.abandons h = true := (hiff (.runtime []) rfl (.inr rfl)).2 ⟨rfl, rfl⟩
  have hforeign : (taken h r [client]).flatMap (foreign h) = [] := rfl
  rw [habandons, hforeign] at hcount
  exact hcount

/-- A client whose handing over ran into a deadline is left open, and so is one whose handing over
failed once the listener was to stop. -/
theorem loop_leaves_open :
    let h : Host Script Nat :=
      ⟨fun n _ _ => ⟨.fail (if n = 0 then .system .timeout [] else .runtime []), n ≠ 0, n + 1⟩,
        fun n _ => ([], n)⟩
    let r : Reception Nat := ⟨.ofSettings { port := .int 0 } "", 0, 0⟩
    let client : Visit Script :=
      .arrival none false none (some (⟨0, {}, none, none, none, none⟩, default))
    let es := (loop h r [client, client]).events
    (calls h r [client, client]).map (fun c => ((c.handover h).run.result, closesOn c.socket.id es)) =
      [(.error (.system .timeout []), 0), (.error (.runtime []), 0)] := by
  intro h r client es
  rfl

end LineTagger.Reception
