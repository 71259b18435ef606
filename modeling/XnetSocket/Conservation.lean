import XnetSocket.Deeds

/-!
No handler is lost.

The ledger numbers the handlers the factory makes. Without `tcp_nodelay` every number is found in
one slot of the slab or was passed back once; with it, a handler can be dropped on the way.
-/

namespace XnetSocket.Conservation

open Buffer Runs Connection Lifecycle Evolution Custody Joining Touches Deeds

variable {F H : Type}

/-- In how many slots the handler with a number is. -/
def held (h : Watched F H) (k : ℕ) : ℕ :=
  (h.connections.keys.filterMap fun t => (h.connections.get t).map (·.handler.birth)).count k

/-- How often the handler with a number was passed to `connection_lost`. -/
def passed (h : Watched F H) (k : ℕ) : ℕ := (h.factory.lost.map (·.birth)).count k

/-- Every handler that was made is somewhere. -/
def Complete (h : Watched F H) : Prop :=
  ∀ k < h.factory.made.length, (∃ t c, h.connections.get t = some c ∧ c.handler.birth = k) ∨
    ∃ x ∈ h.factory.lost, x.birth = k

/-- Nothing was asked of the factory, and no connection came or went. -/
structure Untouched (h h' : Watched F H) : Prop where
  factory : h'.factory = h.factory
  connections : h'.connections = h.connections
  next_connection_id : h'.next_connection_id = h.next_connection_id

/-! ### Counting -/

lemma held_eq_one {h : Watched F H} (ha : Accounted h.connections h.factory.made.length
    h.factory.lost) {t : Token} {c : Connection (Recorded H)}
    (hc : h.connections.get t = some c) : held h c.handler.birth = 1 := by
  refine List.count_eq_one_of_mem (h.connections.nodup_keys.filterMap ?_) ?_
  · intro i j b hi hj
    obtain ⟨d, hd, hdb⟩ := Option.map_eq_some_iff.mp hi
    obtain ⟨e, he, heb⟩ := Option.map_eq_some_iff.mp hj
    exact ha.distinct i j d e hd he (hdb.trans heb.symm)
  · exact List.mem_filterMap.mpr ⟨t, Slab.mem_keys.mpr (by simp [hc]), by simp [hc]⟩

lemma held_eq_zero {h : Watched F H} {k : ℕ}
    (hk : ∀ t c, h.connections.get t = some c → c.handler.birth ≠ k) : held h k = 0 := by
  refine List.count_eq_zero.mpr fun hm => ?_
  obtain ⟨t, -, ht⟩ := List.mem_filterMap.mp hm
  obtain ⟨c, hc, hb⟩ := Option.map_eq_some_iff.mp ht
  exact hk t c hc hb

lemma passed_eq_one {h : Watched F H} (ha : Accounted h.connections h.factory.made.length
    h.factory.lost) {x : Recorded H} (hx : x ∈ h.factory.lost) : passed h x.birth = 1 :=
  List.count_eq_one_of_mem ha.once (List.mem_map_of_mem hx)

lemma passed_eq_zero {h : Watched F H} {k : ℕ} (hk : ∀ x ∈ h.factory.lost, x.birth ≠ k) :
    passed h k = 0 := by
  refine List.count_eq_zero.mpr fun hm => ?_
  obtain ⟨x, hx, hb⟩ := List.mem_map.mp hm
  exact hk x hx hb

/-- A handler that is somewhere, when each is in one place. -/
lemma held_or_passed {h : Watched F H} (ha : Accounted h.connections h.factory.made.length
    h.factory.lost) (hall : Complete h) {k : ℕ} (hk : k < h.factory.made.length) :
    held h k = 1 ∧ passed h k = 0 ∨ held h k = 0 ∧ passed h k = 1 := by
  rcases hall k hk with ⟨t, c, hc, rfl⟩ | ⟨x, hx, rfl⟩
  · exact Or.inl ⟨held_eq_one ha hc, passed_eq_zero fun x hx => ha.apart t c hc x hx⟩
  · exact Or.inr ⟨held_eq_zero fun t c hc hb => ha.apart t c hc x hx hb.symm, passed_eq_one ha hx⟩

/-! ### Every handler is somewhere -/

lemma enter_made {l l' : Ledger F H} {sender : Sender} {made : F × H} {handler : Recorded H}
    (hm : l.enter sender made = (l', handler)) : l'.made.length = l.made.length + 1 := by
  cases hm
  exact List.length_append

/-- A new handler, and the rest as they were. -/
lemma Complete.more {h h' : Watched F H} (hall : Complete h)
    (hm : h'.factory.made.length = h.factory.made.length + 1)
    (hslots : ∀ t c, h.connections.get t = some c → h'.connections.get t = some c)
    (hlost : ∀ x ∈ h.factory.lost, x ∈ h'.factory.lost)
    (hnew : (∃ t c, h'.connections.get t = some c ∧ c.handler.birth = h.factory.made.length) ∨
      ∃ x ∈ h'.factory.lost, x.birth = h.factory.made.length) : Complete h' := by
  intro k hk
  rcases Nat.lt_succ_iff_lt_or_eq.mp (hm ▸ hk) with hlt | rfl
  · rcases hall k hlt with ⟨t, c, hc, hb⟩ | ⟨x, hx, hb⟩
    · exact Or.inl ⟨t, c, hslots t c hc, hb⟩
    · exact Or.inr ⟨x, hlost x hx, hb⟩
  · exact hnew

/-- A connection that joins brings its handler, and displaces none. -/
lemma Complete.joined {h h' : Watched F H} (hall : Complete h) {tok : Token}
    {c : Connection (Recorded H)} (hv : h.connections.vacant_entry = some tok)
    (hslots : h'.connections = h.connections.insert c)
    (hm : h'.factory.made.length = h.factory.made.length + 1)
    (hlost : h'.factory.lost = h.factory.lost) (hb : c.handler.birth = h.factory.made.length) :
    Complete h' := by
  have hget := fun t => (congrArg (Slab.get · t) hslots).trans (Slab.get_insert hv c t)
  refine hall.more hm (fun t d hd => ?_) (fun x hx => hlost ▸ hx) (Or.inl ⟨tok, c, ?_, hb⟩)
  · rw [hget, if_neg]
    · exact hd
    · rintro rfl
      rw [Slab.get_vacant hv] at hd
      cases hd
  · rw [hget, if_pos rfl]

section Steps

variable [Factory F H] [Handler H] [Host] {h h' : Watched F H}

lemma act_settings {d : Deed} (ha : Act d h h') : h'.settings = h.settings := by
  cases ha with
  | lose hl => exact (lose_keeps hl).settings
  | _ => rfl

/-- **No deed loses a handler**, except one that drops it, and that takes `tcp_nodelay`. -/
theorem act_complete {d : Deed} (ha : Act d h h') (hn : h.settings.tcp_nodelay = false)
    (hall : Complete h) : Complete h' := by
  cases ha with
  | wait queue timer => exact hall
  | ask hr => exact hall
  | touch hc ht =>
    rename_i t c c'
    intro k hk
    rcases hall k hk with ⟨j, d, hd, hb⟩ | hlost
    · refine Or.inl ?_
      by_cases hj : t = j
      · subst hj
        rw [hc, Option.some.injEq] at hd
        exact ⟨t, c', get_put hc c', by rw [ht.evolves.birth, hd, hb]⟩
      · refine ⟨j, d, ?_, hb⟩
        rw [Io.Handler.put, Slab.get_set_ne hj]
        exact hd
    · exact Or.inr hlost
  | join hv hm hb he hr =>
    obtain ⟨hlost, -, hbirth⟩ := enter_spec hm
    exact hall.joined hv rfl (enter_made hm) hlost (hb.birth.trans hbirth)
  | strand hv hm hb hr =>
    obtain ⟨hlost, -, hbirth⟩ := enter_spec hm
    exact hall.joined hv rfl (enter_made hm) hlost (hb.birth.trans hbirth)
  | turn_away hm hr =>
    obtain ⟨hlost, -, hbirth⟩ := enter_spec hm
    have hmade := enter_made hm
    rename_i handler os
    refine hall.more hmade (fun _ _ hc => hc) (fun x hx => ?_)
      (Or.inr ⟨handler, List.mem_append_right _ (List.mem_singleton_self _), hbirth⟩)
    exact List.mem_append_left _ (hlost ▸ hx)
  | drop hm hd hr =>
    rw [hn] at hd
    cases hd
  | lose hl =>
    obtain ⟨c, hc, hlost, hget, -⟩ := lose_spec hl
    rename_i t
    intro k hk
    have hmade : h'.factory.made = h.factory.made := by
      unfold Io.Handler.lose at hl
      split at hl <;> cases hl
      rfl
    rcases hall k (hmade ▸ hk) with ⟨j, d, hd, hb⟩ | ⟨x, hx, hb⟩
    · by_cases hj : t = j
      · subst hj
        rw [hc, Option.some.injEq] at hd
        exact Or.inr ⟨c.handler, hlost ▸ List.mem_append_right _ (List.mem_singleton_self _),
          hd ▸ hb⟩
      · exact Or.inl ⟨j, d, by rw [hget, if_neg hj]; exact hd, hb⟩
    · exact Or.inr ⟨x, hlost ▸ List.mem_append_left _ hx, hb⟩
  | announce => exact hall
  | stop => exact hall

/-! ### Refused for lack of room -/

omit [Handler H] [Host] in
/-- Connecting fails for lack of room only when nothing has happened. -/
lemma connect_capacity {url : String} {err : Error} (hc : h.connect url = .ok (h', .error err))
    (hk : err.kind = .Capacity) : Untouched h h' := by
  unfold Io.Handler.connect at hc
  split at hc
  · cases hc
    exact ⟨rfl, rfl, rfl⟩
  · exfalso
    rename_i tok _
    dsimp only at hc
    rcases hm : Factory.client_connected h.factory ⟨tok, h.next_connection_id⟩ with
      ⟨factory, handler⟩
    rw [hm] at hc
    obtain ⟨⟨os, addrs⟩, hurl, hc⟩ := bind_eq_ok.mp hc
    unfold Io.url_to_addrs at hurl
    split at hurl <;> cases hurl
    dsimp only at hc
    split at hc
    · cases hc; cases hk
    · cases hc; cases hk
    · rename_i os' sock rest _
      obtain ⟨made, hmade, hc⟩ := bind_eq_ok.mp hc
      obtain ⟨-, rfl⟩ := new_eq_ok hmade
      obtain ⟨c, hclient, -⟩ := client_spec tok sock handler h.settings h.next_connection_id url
        rest.reverse
      rw [hclient] at hc
      dsimp only at hc
      split at hc
      · cases hc
      · obtain ⟨g, -, hc⟩ := bind_eq_ok.mp hc
        cases hc; cases hk

/-- Nor does accepting. -/
lemma accept_capacity {sock : TcpStream} {err : Error}
    (ha : h.accept sock = .ok (h', .error err)) : Untouched h h' := by
  unfold Io.Handler.accept at ha
  split at ha
  · cases ha
    exact ⟨rfl, rfl, rfl⟩
  · dsimp only at ha
    split at ha
    · cases ha
      exact ⟨rfl, rfl, rfl⟩
    · obtain ⟨c, -, ha⟩ := bind_eq_ok.mp ha
      obtain ⟨r, -, ha⟩ := bind_eq_ok.mp ha
      obtain ⟨d, -, ha⟩ := bind_eq_ok.mp ha
      cases ha

/-- **Handlers are conserved.** Without `tcp_nodelay`, in every state a run reaches, each handler
the factory made is in one slot or was passed back once; and an attempt to connect or to accept
that is refused for lack of room leaves the factory and the slab alone. -/
theorem handlers_conserved {inner : F} {settings : Settings} {addr : Option SocketAddr}
    {steps : List Io.Step} (hn : settings.tcp_nodelay = false)
    (hr : Io.Handler.execute (Ledger.blank inner) settings addr steps = .ok h) :
    (∀ k < h.factory.made.length,
      held h k = 1 ∧ passed h k = 0 ∨ held h k = 0 ∧ passed h k = 1) ∧
    (∀ (g g' : Watched F H) url err, g.connect url = .ok (g', .error err) →
      err.kind = .Capacity → Untouched g g') ∧
    ∀ (g g' : Watched F H) sock err, g.accept sock = .ok (g', .error err) →
      err.kind = .Capacity → Untouched g g' := by
  refine ⟨fun k hk => ?_, fun g g' url err => connect_capacity,
    fun g g' sock err hg _ => accept_capacity hg⟩
  have hall := execute_inv (I := fun g => g.settings.tcp_nodelay = false ∧ Complete g)
    (fun g hf => ⟨by rw [hf.settings]; exact hn, fun k hk => by
      rw [hf.factory] at hk
      exact absurd hk (Nat.not_lt_zero k)⟩)
    (fun d g g' ha _ hg => ⟨by rw [act_settings ha]; exact hg.1, act_complete ha hg.1 hg.2⟩) hr
  exact held_or_passed (execute_sound hr).numbered.accounted hall.2.2 hk

end Steps

/-- Two peers connect, and the first leaves. -/
theorem handlers_conserved_peer_leaves :
    ∃ h, serve calm [accepts_peer, accepts_peer, peer_closes 0] = .ok h ∧
      h.factory.made.length = 2 ∧
      ∀ k < 2, held h k = 1 ∧ passed h k = 0 ∨ held h k = 0 ∧ passed h k = 1 := by
  have hrun : Returns (serve calm [accepts_peer, accepts_peer, peer_closes 0])
      fun h => h.factory.made.length = 2 := by decide +kernel
  obtain ⟨h, hh, hm⟩ := hrun
  exact ⟨h, hh, hm, fun k hk => (@handlers_conserved _ _ _ _ plain _ _ _ _ _ rfl hh).1 k
    (hm ▸ hk)⟩

end XnetSocket.Conservation
