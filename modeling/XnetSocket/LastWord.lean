import XnetSocket.Housekeeping

/-!
The order of the callbacks.

`on_close` is the last word a handler hears. Nothing in a connection keeps it from being told more,
since closing does not change its state: it has to leave the slab before anything else happens.
-/

namespace XnetSocket.LastWord

open Buffer Runs Connection Lifecycle Evolution Custody Upkeep Tidying Housekeeping

variable {F H : Type}

/-- A handler has not heard `on_close`, or heard it once and nothing since. -/
def Spoken (calls : List Callback) : Prop := closes calls = 0 ∨ ClosedLast calls

lemma ClosedLast.once {calls : List Callback} (h : ClosedLast calls) : closes calls = 1 := by
  obtain ⟨pre, code, reason, rfl, h0⟩ := h
  rw [closes_append, h0, closes_on_close]

/-- The handlers that were passed back heard `on_close` last, if at all. -/
def Parted (h : Watched F H) : Prop := ∀ x ∈ h.factory.lost, Spoken x.calls

/-- What a completed step leaves: no handler hears more than `on_close` once and last, and the
handlers that an event of a socket or the timer passes back have heard it. -/
structure Courteous (st : Io.Step) (h h' : Watched F H) : Prop where
  slots : ∀ t c, h'.connections.get t = some c → Spoken c.handler.calls
  lost : Parted h'
  closed : ∀ evt, st = .input (.event evt) → evt.token ≠ ALL → evt.token ≠ QUEUE →
    ∃ new, h'.factory.lost = h.factory.lost ++ new ∧ ∀ x ∈ new, closes x.calls = 1

section Steps

lemma Ordered.parted {h h' : Watched F H} {strict : Prop} (ho : Ordered strict h h')
    (hp : Parted h) : Parted h' := by
  obtain ⟨new, hparts, hcalls⟩ := ho.parts
  intro x hx
  rw [hparts.lost] at hx
  rcases List.mem_append.mp hx with hx | hx
  · exact hp x hx
  · rcases hcalls x hx with hlast | hnil
    · exact Or.inr hlast
    · rw [hnil]
      exact Or.inl rfl

variable [Factory F H] [Handler H] [Host]

/-- **A mild step minds the order of the callbacks.** -/
theorem step_courteous {h h' : Watched F H} {st : Io.Step} (hs : Sound h) (hw : Well False h)
    (hp : Parted h) (ha : Agreeing st) (hm : MildStep False h st) (hst : h.step st = .ok h') :
    Courteous st h h' := by
  have ho := step_ordered hs hw ha hm hst
  refine ⟨fun t c hc => Or.inl (ho.well.kept t c hc).live.faint.quiet, Ordered.parted ho hp,
    fun evt hevt hall hqueue => ?_⟩
  subst hevt
  have htidy := handle_event_tidied (supply_well hw ha) hall hqueue hst
  obtain ⟨new, hparts, hclosed⟩ := htidy.parts
  exact ⟨new, (supply_parts evt.token evt.answers hparts).lost, fun x hx =>
    ClosedLast.once (hclosed x hx)⟩

/-- **Every handler has its last word.** In a run in which the poll agrees to everything and no
command closes a connection it does not look at afterwards, no handler hears anything after
`on_close`. -/
theorem callbacks_in_order {inner : F} {settings : Settings} {addr : Option SocketAddr}
    {h : Watched F H} {steps : List Io.Step}
    (hh : Io.Handler.started (Ledger.blank inner) settings addr = .ok h)
    (ha : ∀ st ∈ steps, Agreeing st) (hm : Along Io.Handler.step (MildStep False) h steps) :
    Along Io.Handler.step (fun g st => Holds (g.step st) (Courteous st g)) h steps := by
  have hempty : Parted h := by
    unfold Parted
    rw [(Io.Handler.started_fresh hh).factory]
    exact List.forall_mem_nil _
  refine (along_ordered hh ha hm).mono_inv (I := Parted) (fun g st g' hp hg hst => ?_)
    (fun g st hp hg g' hst => ?_) hempty
  · exact Ordered.parted (mild_step hg.1 hg.2 hst).2 hp
  · exact step_courteous hg.1.1 hg.1.2 hp hg.2.1 hg.2.2 hst

end Steps

/-- A peer connects, and its handler asks for two timeouts. -/
def sets_timeouts : List Io.Step :=
  sets_timeout ++ [takes_command, .post (Sender.timeout ⟨0, 0⟩ 100 7)]

/-- The second timeout reaches a handler that was told of the end, and ends it again. -/
theorem called_after_close :
    calm.Quiet ∧ (∀ st ∈ sets_timeouts ++ [takes_command], Agreeing st) ∧
    ∃ h h', hasty = .ok h ∧ run hasty_step h (sets_timeouts ++ [takes_command]) = .ok h' ∧
      ¬ Along hasty_step (fun g st => Holds (hasty_step g st) (Courteous st g)) h
        (sets_timeouts ++ [takes_command]) := by
  refine ⟨by simp [Settings.Quiet, calm], by simp [sets_timeouts, sets_timeout, accepts_peer,
    takes_command, Io.Step.on, Io.Step.post, Agreeing], ?_⟩
  have hrun : Returns hasty fun h => Returns (run hasty_step h sets_timeouts) fun t =>
      Returns (hasty_step t takes_command) fun h' =>
        (h'.connections.get 0).map (closes ·.handler.calls) = some 2 := by decide +kernel
  obtain ⟨h, hh, t, ht, h', hst, hclosed⟩ := hrun
  obtain ⟨c, hc, htwo⟩ := Option.map_eq_some_iff.mp hclosed
  refine ⟨h, h', hh, run_snoc.mpr ⟨t, ht, hst⟩, fun hall => ?_⟩
  rcases (hall.last ht h' hst).slots 0 c hc with h0 | hlast
  · rw [htwo] at h0
    cases h0
  · rw [ClosedLast.once hlast] at htwo
    cases htwo

theorem callbacks_in_order_close :
    ∃ h, content = .ok h ∧
      Along serve_on (fun g st => Holds (serve_on g st) (Courteous st g)) h asks_close := by
  have hrun : content.isOk = true := by decide +kernel
  obtain ⟨h, hh⟩ := exists_of_isOk hrun
  exact ⟨h, hh, @callbacks_in_order _ _ _ _ plain _ _ _ h _ hh asks_close_agreeing
    (asks_close_mild hh)⟩

end XnetSocket.LastWord
